import SubstratumNode.Reader

/-!
# What a reader delivers

`Delivers` states, from the discriminator contract alone, what the dispatcher should
receive for a sequence of reads.
-/

namespace SubstratumNode

variable {σ : Type} (D : Discriminator σ)

/-- The data messages the contract promises for `reads` from `state`; `final` is the state after
the last. -/
inductive Delivers (streamKey : SocketAddr) (originPort : Option UInt16) :
    σ → List ReadResult → List InboundClientData → σ → Prop
  | nil {state} : Delivers streamKey originPort state [] [] state
  | cons {state result chunks next rest messages final} : result.Feeds D state chunks next →
      Delivers streamKey originPort next rest messages final →
      Delivers streamKey originPort state (result :: rest)
        (chunks.map (fun chunk => ⟨streamKey, originPort, chunk.component, false, chunk.chunk⟩) ++
          messages) final

namespace Delivers

variable {D} {streamKey : SocketAddr} {originPort : Option UInt16}

/-- The contract fixes the messages and the final state. -/
theorem unique {state final final' : σ} {reads : List ReadResult}
    {messages messages' : List InboundClientData}
    (delivers : Delivers D streamKey originPort state reads messages final)
    (delivers' : Delivers D streamKey originPort state reads messages' final') :
    messages = messages' ∧ final = final' := by
  induction delivers generalizing messages' with
  | nil => cases delivers'; exact ⟨rfl, rfl⟩
  | cons feeds _ inductionHypothesis =>
      cases delivers' with
      | cons feeds' rest' =>
          obtain ⟨rfl, rfl⟩ := feeds.unique feeds'
          obtain ⟨rfl, rfl⟩ := inductionHypothesis rest'
          exact ⟨rfl, rfl⟩

/-- One more read adds what the contract promises for it, from the state the others left. -/
theorem snoc {state middle next : σ} {reads : List ReadResult} {messages : List InboundClientData}
    (delivers : Delivers D streamKey originPort state reads messages middle) {result : ReadResult}
    {chunks : List UnmaskedChunk} (feeds : result.Feeds D middle chunks next) :
    Delivers D streamKey originPort state (reads ++ [result])
      (messages ++ chunks.map fun chunk => ⟨streamKey, originPort, chunk.component, false, chunk.chunk⟩)
      next := by
  induction delivers with
  | nil => simpa using Delivers.cons feeds .nil
  | cons first _ inductionHypothesis =>
      simpa only [List.cons_append, List.append_assoc] using
        Delivers.cons first (inductionHypothesis feeds)

end Delivers

/-- The read loop delivers what the contract promises for the reads before its exit. -/
theorem ReadLoop.run_delivers (loop : ReadLoop σ) {first : σ} {others : List σ}
    (holds : loop.reader.discriminators = first :: others) (reads : List ReadResult) :
    ∃ effects final fed,
      loop.run D reads = .ok (effects, final, (reads.dropWhile fun read => !read.endsLoop).tail) ∧
      Delivers D loop.reader.streamKey loop.reader.originPort first
        (reads.takeWhile fun read => !read.endsLoop) (effects.filterMap Effect.data?) fed ∧
      final.reader.discriminators = fed :: others := by
  induction reads generalizing loop first with
  | nil => exact ⟨[], loop, first, rfl, .nil, holds⟩
  | cons result rest inductionHypothesis =>
      cases ends : result.endsLoop with
      | true =>
          refine ⟨loop.reader.closingEffects, loop, first, ?_, ?_, holds⟩
          · rw [ReadLoop.run_cons_of_stop D rest (ReadLoop.handleRead_of_endsLoop D ends)]
            simp [ends]
          · simp only [List.takeWhile_cons, ends, Bool.not_true]
            exact .nil
      | false =>
          obtain ⟨chunks, fed, effects, next, feeds, step, nextReader, stepData, -⟩ :=
            ReadLoop.handleRead_of_not_endsLoop D holds ends
          obtain ⟨later, final, laterFed, restRun, restDelivers, finalHolds⟩ :=
            inductionHypothesis next (by rw [nextReader])
          rw [nextReader] at restDelivers
          refine ⟨effects ++ later, final, laterFed, ?_, ?_, finalHolds⟩
          · rw [ReadLoop.run_cons_of_proceed D rest step, restRun]
            simp [ends, Except.map]
          · simpa [ends, stepData] using Delivers.cons feeds restDelivers

/-- `handle_traffic` reads up to the first read that ends its loop and sends, for those reads,
exactly the data messages the contract promises on `discriminator_factories[0]`. -/
theorem handleTraffic_inboundData (stream : TcpStreamWrapper) (originPort : Option UInt16)
    (factory : DiscriminatorFactory σ) (factories : List (DiscriminatorFactory σ))
    (reads : List ReadResult) :
    ∃ effects final fed,
      ((StreamReaderReal.new stream (.ok ()) originPort (factory :: factories)).bind
          fun reader => reader.handleTraffic D (.ok ()) (.ok ()) reads) =
        .ok (effects, final, (reads.dropWhile fun read => !read.endsLoop).tail) ∧
      Delivers D stream.peerAddress originPort factory.make
        (reads.takeWhile fun read => !read.endsLoop) (effects.filterMap Effect.data?) fed ∧
      final.reader.discriminators = [fed] :=
  ReadLoop.run_delivers D ⟨⟨stream, stream.peerAddress, originPort, [factory.make]⟩,
    stream.localAddress.port, ReadBuffer.zeroed⟩ rfl reads

end SubstratumNode
