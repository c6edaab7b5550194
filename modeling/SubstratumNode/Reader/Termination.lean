import SubstratumNode.Reader

/-!
# How a reader ends

The read loop ends at the first dead-stream error that is not timeout-like, with its
closing effects last.  `TimedOut` is both, and the timeout test comes first.
-/

namespace SubstratumNode

variable {σ : Type} (D : Discriminator σ)

/-- The read loop handles every read and closes nothing, or closes last at the first read that
ends it. -/
theorem run_closes (loop : ReadLoop σ) {first : σ} {others : List σ}
    (holds : loop.reader.discriminators = first :: others) (reads : List ReadResult) :
    ∃ effects final unread, loop.run D reads = .ok (effects, final, unread) ∧
      (((∀ result ∈ reads, result.endsLoop = false) ∧ unread = [] ∧
          ∀ effect ∈ effects, effect.closing = false) ∨
        ∃ before error middle, reads = before ++ .err error :: unread ∧
          (∀ result ∈ before, result.endsLoop = false) ∧ (ReadResult.err error).endsLoop = true ∧
          effects = middle ++ loop.reader.closingEffects ∧
          ∀ effect ∈ middle, effect.closing = false) := by
  induction reads generalizing loop first with
  | nil => exact ⟨[], loop, [], rfl, .inl ⟨by simp, rfl, by simp⟩⟩
  | cons result rest inductionHypothesis =>
      cases ends : result.endsLoop with
      | true =>
          cases result with
          | ok data fits => simp [ReadResult.endsLoop] at ends
          | err error =>
              exact ⟨_, loop, rest,
                ReadLoop.run_cons_of_stop D rest (ReadLoop.handleRead_of_endsLoop D ends),
                .inr ⟨[], error, [], rfl, by simp, ends, rfl, by simp⟩⟩
      | false =>
          obtain ⟨_, _, effects, next, -, step, nextReader, -, quiet⟩ :=
            ReadLoop.handleRead_of_not_endsLoop D holds ends
          obtain ⟨later, final, unread, rest_run, outcome⟩ :=
            inductionHypothesis next (by rw [nextReader])
          refine ⟨effects ++ later, final, unread, ?_, ?_⟩
          · rw [ReadLoop.run_cons_of_proceed D rest step, rest_run]; rfl
          rcases outcome with ⟨none_ends, no_unread, later_quiet⟩ |
              ⟨before, error, middle, rest_split, before_continue, error_ends, later_split,
                middle_quiet⟩
          · refine .inl ⟨?_, no_unread, ?_⟩
            · simpa [ends] using none_ends
            · simpa using fun effect member => (List.mem_append.mp member).elim
                (quiet effect) (later_quiet effect)
          · refine .inr ⟨result :: before, error, effects ++ middle, by rw [rest_split]; rfl,
              ?_, error_ends, ?_, ?_⟩
            · simpa [ends] using before_continue
            · rw [later_split, nextReader]; simp [StreamReaderReal.closingEffects]
            · simpa using fun effect member => (List.mem_append.mp member).elim
                (quiet effect) (middle_quiet effect)

/-- The closing effects of `handle_traffic` come once, last, exactly when a read error ends the
loop, and no read follows. -/
theorem handleTraffic_closes (stream : TcpStreamWrapper) (originPort : Option UInt16)
    (factory : DiscriminatorFactory σ) (factories : List (DiscriminatorFactory σ))
    (reads : List ReadResult) :
    ∃ effects final unread,
      ((StreamReaderReal.new stream (.ok ()) originPort (factory :: factories)).bind
          fun reader => reader.handleTraffic D (.ok ()) (.ok ()) reads) =
        .ok (effects, final, unread) ∧
      (((∀ result ∈ reads, result.endsLoop = false) ∧ unread = [] ∧
          ∀ effect ∈ effects, effect.closing = false) ∨
        ∃ before error middle, reads = before ++ .err error :: unread ∧
          (∀ result ∈ before, result.endsLoop = false) ∧ (ReadResult.err error).endsLoop = true ∧
          effects = middle ++ [.remove ⟨stream.peerAddress⟩ (.reader stream.connection),
            .shutdown stream.connection .Both,
            .dispatch ⟨stream.peerAddress, originPort, .ProxyServer, true, []⟩] ∧
          ∀ effect ∈ middle, effect.closing = false) :=
  run_closes D ⟨⟨stream, stream.peerAddress, originPort, [factory.make]⟩,
    stream.localAddress.port, ReadBuffer.zeroed⟩ rfl reads

/-- A `TimedOut` read, a dead-stream kind, neither ends the loop nor sends anything. -/
theorem handleTraffic_timedOut_keeps_reading (reader : StreamReaderReal σ) :
    indicatesDeadStream .TimedOut = true ∧
      reader.handleTraffic D (.ok ()) (.ok ()) [.err ⟨.TimedOut⟩] =
        .ok ([], ⟨reader, reader.stream.localAddress.port, ReadBuffer.zeroed⟩, []) :=
  ⟨rfl, rfl⟩

end SubstratumNode
