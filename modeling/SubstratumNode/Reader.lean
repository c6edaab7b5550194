import SubstratumNode.Discriminator

/-!
# The stream reader

`StreamReaderReal` and its read loop.  One pass is `ReadLoop.handleRead`, so that the system
model can interleave the passes of many readers; `handleTraffic` runs one reader to the end
of its answers, with every send accepted.
-/

namespace SubstratumNode

/-- `StreamReaderReal`, without its recipients and its logger. -/
structure StreamReaderReal (σ : Type) where
  stream : TcpStreamWrapper
  streamKey : SocketAddr
  originPort : Option UInt16
  discriminators : List σ

/-- Whether the read loop goes round again or `break`s. -/
inductive Flow where
  | proceed
  | stop
  deriving DecidableEq, Repr

/-- The locals of `handle_traffic` that live across reads. -/
structure ReadLoop (σ : Type) where
  reader : StreamReaderReal σ
  port : UInt16
  buf : ReadBuffer

namespace StreamReaderReal

variable {σ : Type}

/-- `StreamReaderReal::new`. -/
def new (stream : TcpStreamWrapper) (peerAddrOutcome : IoResult Unit)
    (originPort : Option UInt16) (discriminatorFactories : List (DiscriminatorFactory σ)) :
    Except String (StreamReaderReal σ) :=
  match (stream.peerAddr peerAddrOutcome).expect
      "Internal error: no peer address creating StreamReaderReal", discriminatorFactories with
  | .error message, _ => .error message
  | .ok _, [] => .error "Internal error: no Discriminator factories!"
  | .ok socketAddr, factory :: _ => .ok ⟨stream, socketAddr, originPort, [factory.make]⟩

/-- The message `wrangle_discriminators` sends for one framed chunk. -/
def inboundClientData (reader : StreamReaderReal σ) (chunk : UnmaskedChunk) :
    InboundClientData :=
  ⟨reader.streamKey, reader.originPort, chunk.component, false, chunk.chunk⟩

/-- `wrangle_discriminators`. -/
def wrangleDiscriminators (D : Discriminator σ) (reader : StreamReaderReal σ)
    (buf : ReadBuffer) (length : Nat) : Except String (List Effect × StreamReaderReal σ) :=
  match reader.discriminators with
  | [] => .error "Internal error: no Discriminator factories!"
  | discriminator :: others =>
      (buf.slice length).map fun bytes =>
        let drained := D.takeChunks (D.addData discriminator bytes)
        (drained.1.map (.dispatch ∘ reader.inboundClientData),
          { reader with discriminators := drained.2 :: others })

/-- The dead-stream branch of `handle_traffic`. -/
def closingEffects (reader : StreamReaderReal σ) : List Effect :=
  [.remove ⟨reader.streamKey⟩ (.reader reader.stream.connection),
    .shutdown reader.stream.connection .Both,
    .dispatch ⟨reader.streamKey, reader.originPort, .ProxyServer, true, []⟩]

/-- The start of `handle_traffic`, up to the loop: the local port, then no read timeout. -/
def enterLoop (reader : StreamReaderReal σ) (localAddrOutcome setReadTimeoutOutcome : IoResult Unit) :
    Except String (ReadLoop σ) :=
  match (reader.stream.localAddr localAddrOutcome).expect "Internal error: no local address",
      setReadTimeoutOutcome.expect "Internal error: can't set read timeout" with
  | .ok localAddr, .ok () => .ok ⟨reader, localAddr.port, ReadBuffer.zeroed⟩
  | .error message, _ => .error message
  | .ok _, .error message => .error message

end StreamReaderReal

namespace ReadLoop

variable {σ : Type} (D : Discriminator σ)

/-- One pass of the `loop` of `handle_traffic`, given what `read` returned. -/
def handleRead (loop : ReadLoop σ) : ReadResult → Except String (Flow × List Effect × ReadLoop σ)
  | .ok data _ =>
      let filled := { loop with buf := loop.buf.fill data }
      if data.length = 0 then .ok (.proceed, [], filled)
      else (loop.reader.wrangleDiscriminators D filled.buf data.length).map fun wrangled =>
        (.proceed, wrangled.1, { filled with reader := wrangled.2 })
  | .err error =>
      if indicatesTimeout error.kind then .ok (.proceed, [], loop)
      else if indicatesDeadStream error.kind then .ok (.stop, loop.reader.closingEffects, loop)
      else .ok (.proceed, [.log (.continuingAfterReadError loop.port error)], loop)

/-- The `loop` of `handle_traffic` over the answers to `read`; it also returns the answers it
never asked for. -/
def run (loop : ReadLoop σ) :
    List ReadResult → Except String (List Effect × ReadLoop σ × List ReadResult)
  | [] => .ok ([], loop, [])
  | result :: rest =>
      (loop.handleRead D result).bind fun (flow, effects, next) =>
        match flow with
        | .stop => .ok (effects, next, rest)
        | .proceed => (next.run rest).map fun (later, final, unread) =>
            (effects ++ later, final, unread)

end ReadLoop

/-- `StreamReader::handle_traffic` for `StreamReaderReal`. -/
def StreamReaderReal.handleTraffic {σ : Type} (D : Discriminator σ) (reader : StreamReaderReal σ)
    (localAddrOutcome setReadTimeoutOutcome : IoResult Unit) (reads : List ReadResult) :
    Except String (List Effect × ReadLoop σ × List ReadResult) :=
  (reader.enterLoop localAddrOutcome setReadTimeoutOutcome).bind (·.run D reads)

/-- Whether the read loop `break`s on this result. -/
def ReadResult.endsLoop : ReadResult → Bool
  | .ok _ _ => false
  | .err error => !indicatesTimeout error.kind && indicatesDeadStream error.kind

namespace ReadLoop

variable {σ : Type} (D : Discriminator σ)

theorem handleRead_of_endsLoop {loop : ReadLoop σ} {result : ReadResult}
    (ends : result.endsLoop = true) :
    loop.handleRead D result = .ok (.stop, loop.reader.closingEffects, loop) := by
  cases result with
  | ok data fits => simp [ReadResult.endsLoop] at ends
  | err error =>
      simp only [ReadResult.endsLoop, Bool.and_eq_true, Bool.not_eq_true'] at ends
      simp [handleRead, ends.1, ends.2]

/-- A pass that does not `break` sends the data messages the contract promises for its read. -/
theorem handleRead_of_not_endsLoop {loop : ReadLoop σ} {first : σ} {others : List σ}
    (holds : loop.reader.discriminators = first :: others) {result : ReadResult}
    (continues : result.endsLoop = false) :
    ∃ chunks fed effects next, result.Feeds D first chunks fed ∧
      loop.handleRead D result = .ok (.proceed, effects, next) ∧
      next.reader = { loop.reader with discriminators := fed :: others } ∧
      effects.filterMap Effect.data? = chunks.map loop.reader.inboundClientData ∧
      ∀ effect ∈ effects, effect.closing = false := by
  have unchanged : { loop.reader with discriminators := first :: others } = loop.reader := by
    rw [← holds]
  cases result with
  | ok data fits =>
      by_cases empty : data = []
      · subst empty
        exact ⟨[], first, [], _, .empty, rfl, by simp [unchanged], rfl, by simp⟩
      · have positive : data.length ≠ 0 := by simpa using empty
        let drained := D.takeChunks (D.addData first data)
        refine ⟨drained.1, drained.2, drained.1.map (.dispatch ∘ loop.reader.inboundClientData),
          ⟨{ loop.reader with discriminators := drained.2 :: others }, loop.port,
            loop.buf.fill data⟩, .data empty (D.drains_takeChunks _), ?_, rfl, ?_, ?_⟩
        · simp [handleRead, positive, StreamReaderReal.wrangleDiscriminators, holds,
            ReadBuffer.slice_fill _ _ fits, drained, Except.map]
        · have framedData : Effect.data? ∘ Effect.dispatch ∘ loop.reader.inboundClientData =
              some ∘ loop.reader.inboundClientData := rfl
          simp only [List.filterMap_map, framedData, List.filterMap_eq_map]
        · simp [Effect.closing, StreamReaderReal.inboundClientData]
  | err error =>
      simp only [ReadResult.endsLoop, Bool.and_eq_false_iff, Bool.not_eq_false'] at continues
      by_cases timeout : indicatesTimeout error.kind = true
      · exact ⟨[], first, [], loop, .error, by simp [handleRead, timeout], unchanged.symm, rfl,
          by simp⟩
      · have alive : indicatesDeadStream error.kind = false := by simpa [timeout] using continues
        exact ⟨[], first, [.log (.continuingAfterReadError loop.port error)], loop, .error,
          by simp [handleRead, timeout, alive], unchanged.symm, rfl, by simp [Effect.closing]⟩

theorem run_cons_of_stop {loop next : ReadLoop σ} {result : ReadResult} {effects : List Effect}
    (rest : List ReadResult) (stops : loop.handleRead D result = .ok (.stop, effects, next)) :
    loop.run D (result :: rest) = .ok (effects, next, rest) := by
  simp [run, stops, bind, Except.bind]

theorem run_cons_of_proceed {loop next : ReadLoop σ} {result : ReadResult} {effects : List Effect}
    (rest : List ReadResult) (proceeds : loop.handleRead D result = .ok (.proceed, effects, next)) :
    loop.run D (result :: rest) =
      (next.run D rest).map fun (later, final, unread) => (effects ++ later, final, unread) := by
  simp [run, proceeds, bind, Except.bind]

end ReadLoop

end SubstratumNode
