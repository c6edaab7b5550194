import SubstratumNode.Pool

/-!
# Adding a stream

What `Handler<AddStreamMsg>` and the reader thread it spawns do for every answer of the
operating system.
-/

namespace SubstratumNode

variable {σ : Type}

theorem Except.bind_eq_ok {ε α β : Type} {x : Except ε α} {f : α → Except ε β} {b : β} :
    x >>= f = .ok b ↔ ∃ a, x = .ok a ∧ f a = .ok b := by
  cases x <;> simp [bind, Except.bind]

/-- Both `try_clone` calls succeed. -/
def AddOutcomes.clonesSucceed (outcomes : AddOutcomes) : Bool :=
  outcomes.readClone.isOk && outcomes.writeClone.isOk

/-- The reader's three calls before its loop succeed. -/
def StartOutcomes.succeed (outcomes : StartOutcomes) : Bool :=
  outcomes.peerAddr.isOk && outcomes.localAddr.isOk && outcomes.setReadTimeout.isOk

theorem StartOutcomes.succeed_iff {outcomes : StartOutcomes} :
    outcomes.succeed = true ↔
      outcomes.peerAddr = .ok () ∧ outcomes.localAddr = .ok () ∧ outcomes.setReadTimeout = .ok () := by
  obtain ⟨_ | _, _ | _, _ | _⟩ := outcomes <;> simp [succeed, IoResult.isOk]

namespace StreamHandlerPool

theorem handleAdd_of_readClone_err (pool : StreamHandlerPool) (msg : AddStreamMsg σ)
    {outcomes : AddOutcomes} {error : IoError} (failed : outcomes.readClone = .err error) :
    pool.handleAdd msg outcomes = .ok (pool, [.log (.couldNotCloneReadStream error)], none) := by
  simp [handleAdd, TcpStreamWrapper.tryClone, failed]

theorem handleAdd_of_writeClone_err (pool : StreamHandlerPool) (msg : AddStreamMsg σ)
    {outcomes : AddOutcomes} {error : IoError} (cloned : outcomes.readClone = .ok ())
    (failed : outcomes.writeClone = .err error) :
    pool.handleAdd msg outcomes = .ok (pool, [.log (.couldNotCloneWriteStream error)], none) := by
  simp [handleAdd, TcpStreamWrapper.tryClone, cloned, failed]

theorem handleAdd_of_not_clonesSucceed (pool : StreamHandlerPool) (msg : AddStreamMsg σ)
    {outcomes : AddOutcomes} (failed : outcomes.clonesSucceed = false) :
    ∃ entry, pool.handleAdd msg outcomes = .ok (pool, [.log entry], none) := by
  obtain ⟨readClone, writeClone, _, _, _⟩ := outcomes
  cases readClone with
  | err error => exact ⟨_, pool.handleAdd_of_readClone_err msg rfl⟩
  | ok cloned =>
      cases writeClone with
      | err error => exact ⟨_, pool.handleAdd_of_writeClone_err msg rfl rfl⟩
      | ok cloned => cases failed

/-- With both clones made, the rest of the handler is the writer's and the reader's set-up. -/
theorem handleAdd_of_clones (pool : StreamHandlerPool) (msg : AddStreamMsg σ)
    {outcomes : AddOutcomes} (cloned : outcomes.clonesSucceed = true) :
    pool.handleAdd msg outcomes = (do
      let stored ← pool.setUpStreamWriter msg.stream outcomes.peerAddr outcomes.writerPeerAddr
      let spawned ← stored.setUpStreamReader msg.stream msg.originPort msg.discriminatorFactories
        outcomes.spawn
      pure (stored, [], some spawned)) := by
  obtain ⟨_ | _, _ | _, _, _, _⟩ := outcomes <;> first | rfl | cases cloned

theorem setUpStreamWriter_eq (pool : StreamHandlerPool) (writeStream : TcpStreamWrapper)
    (peerAddrOutcome writerPeerAddrOutcome : IoResult Unit) :
    pool.setUpStreamWriter writeStream peerAddrOutcome writerPeerAddrOutcome =
      match peerAddrOutcome, pool.selfSubs, writerPeerAddrOutcome with
      | .err _, _, _ => .error "Internal error: no peer address preparing StreamWriter"
      | .ok _, none, _ => .error "StreamHandlerPool is unbound"
      | .ok _, some _, .err _ => .error "Internal error: no peer address creating StreamWriterReal"
      | .ok _, some _, .ok _ => .ok (pool.register writeStream) := by
  obtain ⟨writers, dispatcherSubs, _ | subs⟩ := pool <;>
    cases peerAddrOutcome <;> cases writerPeerAddrOutcome <;> rfl

theorem setUpStreamReader_eq (pool : StreamHandlerPool) (readStream : TcpStreamWrapper)
    (originPort : Option UInt16) (factories : List (DiscriminatorFactory σ))
    (spawnOutcome : IoResult Unit) :
    pool.setUpStreamReader readStream originPort factories spawnOutcome =
      match pool.dispatcherSubs, pool.selfSubs, spawnOutcome with
      | some _, some _, .ok _ => .ok ⟨readStream, originPort, factories⟩
      | some _, some _, .err _ => .error "failed to spawn thread"
      | _, _, _ => .error "StreamHandlerPool is unbound" := by
  obtain ⟨writers, _ | dispatcherSubs, _ | subs⟩ := pool <;> cases spawnOutcome <;> rfl

/-- Whatever `set_up_stream_writer` returns is the pool with the new writer stored. -/
theorem setUpStreamWriter_eq_ok {pool after : StreamHandlerPool} {writeStream : TcpStreamWrapper}
    {peerAddrOutcome writerPeerAddrOutcome : IoResult Unit}
    (stored : pool.setUpStreamWriter writeStream peerAddrOutcome writerPeerAddrOutcome = .ok after) :
    after = pool.register writeStream := by
  rw [setUpStreamWriter_eq] at stored
  split at stored <;> cases stored
  rfl

/-- Whatever `set_up_stream_reader` returns is the thread over the read stream. -/
theorem setUpStreamReader_eq_ok {pool : StreamHandlerPool} {readStream : TcpStreamWrapper}
    {originPort : Option UInt16} {factories : List (DiscriminatorFactory σ)}
    {spawnOutcome : IoResult Unit} {spawned : SpawnedReader σ}
    (started : pool.setUpStreamReader readStream originPort factories spawnOutcome = .ok spawned) :
    spawned = ⟨readStream, originPort, factories⟩ := by
  rw [setUpStreamReader_eq] at started
  split at started <;> cases started
  rfl

/-- An Add that does not panic logs a failed clone, or stores the writer and spawns a reader. -/
theorem handleAdd_cases {pool after : StreamHandlerPool} {msg : AddStreamMsg σ}
    {outcomes : AddOutcomes} {effects : List Effect} {spawned : Option (SpawnedReader σ)}
    (handled : pool.handleAdd msg outcomes = .ok (after, effects, spawned)) :
    (outcomes.clonesSucceed = false ∧ after = pool ∧ (∃ entry, effects = [.log entry]) ∧
        spawned = none) ∨
      (outcomes.clonesSucceed = true ∧ after = pool.register msg.stream ∧ effects = [] ∧
        spawned = some ⟨msg.stream, msg.originPort, msg.discriminatorFactories⟩) := by
  cases cloned : outcomes.clonesSucceed
  · obtain ⟨entry, logged⟩ := pool.handleAdd_of_not_clonesSucceed msg cloned
    rw [logged] at handled
    cases handled
    exact .inl ⟨rfl, rfl, ⟨entry, rfl⟩, rfl⟩
  · rw [pool.handleAdd_of_clones msg cloned, Except.bind_eq_ok] at handled
    obtain ⟨stored, written, handled⟩ := handled
    rw [Except.bind_eq_ok] at handled
    obtain ⟨reader, started, handled⟩ := handled
    cases handled
    exact .inr ⟨rfl, setUpStreamWriter_eq_ok written, rfl, by rw [setUpStreamReader_eq_ok started]⟩

end StreamHandlerPool

namespace SpawnedReader

/-- The spawned thread's start for every answer to its three calls. -/
theorem start_eq (spawned : SpawnedReader σ) {first : DiscriminatorFactory σ}
    {rest : List (DiscriminatorFactory σ)} (factories : spawned.discriminatorFactories = first :: rest)
    (outcomes : StartOutcomes) :
    spawned.start outcomes =
      match outcomes.peerAddr, outcomes.localAddr, outcomes.setReadTimeout with
      | .err _, _, _ => .error "Internal error: no peer address creating StreamReaderReal"
      | .ok _, .err _, _ => .error "Internal error: no local address"
      | .ok _, .ok _, .err _ => .error "Internal error: can't set read timeout"
      | .ok _, .ok _, .ok _ => .ok ⟨⟨spawned.readStream, spawned.readStream.peerAddress,
          spawned.originPort, [first.make]⟩, spawned.readStream.localAddress.port, ReadBuffer.zeroed⟩ := by
  obtain ⟨readStream, originPort, _⟩ := spawned
  subst factories
  obtain ⟨_ | _, _ | _, _ | _⟩ := outcomes <;> rfl

/-- A thread enters its loop keyed by the peer address, on the first factory's discriminator. -/
theorem start_eq_ok {spawned : SpawnedReader σ} {outcomes : StartOutcomes} {loop : ReadLoop σ}
    (started : spawned.start outcomes = .ok loop) :
    ∃ first rest, spawned.discriminatorFactories = first :: rest ∧
      loop = ⟨⟨spawned.readStream, spawned.readStream.peerAddress, spawned.originPort,
        [first.make]⟩, spawned.readStream.localAddress.port, ReadBuffer.zeroed⟩ := by
  obtain ⟨readStream, originPort, _ | ⟨first, rest⟩⟩ := spawned
  · obtain ⟨_ | _, _ | _, _ | _⟩ := outcomes <;> cases started
  · rw [start_eq _ rfl] at started
    split at started <;> cases started
    exact ⟨first, rest, rfl, rfl⟩

theorem start_of_succeed (spawned : SpawnedReader σ) {first : DiscriminatorFactory σ}
    {rest : List (DiscriminatorFactory σ)} (factories : spawned.discriminatorFactories = first :: rest)
    {outcomes : StartOutcomes} (succeeds : outcomes.succeed = true) :
    spawned.start outcomes = .ok ⟨⟨spawned.readStream, spawned.readStream.peerAddress,
      spawned.originPort, [first.make]⟩, spawned.readStream.localAddress.port, ReadBuffer.zeroed⟩ := by
  obtain ⟨peerAddr, localAddr, setReadTimeout⟩ := StartOutcomes.succeed_iff.mp succeeds
  rw [spawned.start_eq factories, peerAddr, localAddr, setReadTimeout]

theorem start_of_not_succeed (spawned : SpawnedReader σ) {first : DiscriminatorFactory σ}
    {rest : List (DiscriminatorFactory σ)} (factories : spawned.discriminatorFactories = first :: rest)
    {outcomes : StartOutcomes} (fails : outcomes.succeed = false) :
    ∃ message, spawned.start outcomes = .error message := by
  rw [spawned.start_eq factories]
  obtain ⟨_ | _, _ | _, _ | _⟩ := outcomes <;> first | exact ⟨_, rfl⟩ | cases fails

end SpawnedReader

/-- Atomicity of an Add as one might expect it: the handler never panics, and either nothing
changes or the writer is stored and its reader runs. -/
def AddIsAtomic (σ : Type) : Prop :=
  ∀ (pool : StreamHandlerPool) (msg : AddStreamMsg σ) (outcomes : AddOutcomes)
    (start : StartOutcomes), pool.Bound → msg.discriminatorFactories ≠ [] →
      ∃ after effects spawned, pool.handleAdd msg outcomes = .ok (after, effects, spawned) ∧
        ((after.streamWriters = pool.streamWriters ∧
            ∀ reader ∈ spawned, ∃ message, reader.start start = .error message) ∨
          ∃ writer reader loop,
            after.streamWriters =
              Function.update pool.streamWriters msg.stream.peerAddress (some writer) ∧
            writer.streamKey = msg.stream.peerAddress ∧ spawned = some reader ∧
            reader.start start = .ok loop ∧ loop.reader.streamKey = msg.stream.peerAddress)

/-- A `peer_addr` that fails after both clones succeeded panics in the pool's own handler. -/
theorem handleAdd_panics_on_lost_peer : ¬ AddIsAtomic Unit := by
  intro atomic
  obtain ⟨after, effects, spawned, handled, -⟩ :=
    atomic (StreamHandlerPool.new.handleBind ⟨⟨⟩, ⟨⟩⟩)
      ⟨⟨0, .V4 ⟨0x01020304⟩ 5679, .V4 ⟨0x7F000001⟩ 8080⟩, none, [⟨()⟩]⟩
      ⟨.ok (), .ok (), .err ⟨.NotConnected⟩, .ok (), .ok ()⟩ ⟨.ok (), .ok (), .ok ()⟩ ⟨rfl, rfl⟩
      (by simp)
  cases handled

/-- An Add in a bound pool, and the start of the reader it spawns, for every answer. -/
theorem handleAdd_contained (pool : StreamHandlerPool) (bound : pool.Bound) (msg : AddStreamMsg σ)
    {first : DiscriminatorFactory σ} {rest : List (DiscriminatorFactory σ)}
    (factories : msg.discriminatorFactories = first :: rest) (outcomes : AddOutcomes)
    (start : StartOutcomes) :
    pool.handleAdd msg outcomes =
      (match outcomes.readClone, outcomes.writeClone, outcomes.peerAddr, outcomes.writerPeerAddr,
          outcomes.spawn with
        | .err error, _, _, _, _ => .ok (pool, [.log (.couldNotCloneReadStream error)], none)
        | .ok _, .err error, _, _, _ => .ok (pool, [.log (.couldNotCloneWriteStream error)], none)
        | .ok _, .ok _, .err _, _, _ => .error "Internal error: no peer address preparing StreamWriter"
        | .ok _, .ok _, .ok _, .err _, _ =>
            .error "Internal error: no peer address creating StreamWriterReal"
        | .ok _, .ok _, .ok _, .ok _, .err _ => .error "failed to spawn thread"
        | .ok _, .ok _, .ok _, .ok _, .ok _ => .ok (pool.register msg.stream, [],
            some ⟨msg.stream, msg.originPort, msg.discriminatorFactories⟩)) ∧
    (⟨msg.stream, msg.originPort, msg.discriminatorFactories⟩ : SpawnedReader σ).start start =
      match start.peerAddr, start.localAddr, start.setReadTimeout with
      | .err _, _, _ => .error "Internal error: no peer address creating StreamReaderReal"
      | .ok _, .err _, _ => .error "Internal error: no local address"
      | .ok _, .ok _, .err _ => .error "Internal error: can't set read timeout"
      | .ok _, .ok _, .ok _ => .ok ⟨⟨msg.stream, msg.stream.peerAddress, msg.originPort,
          [first.make]⟩, msg.stream.localAddress.port, ReadBuffer.zeroed⟩ := by
  refine ⟨?_, SpawnedReader.start_eq _ factories start⟩
  rcases pool with ⟨writers, _ | _, _ | _⟩ <;>
    simp only [StreamHandlerPool.Bound, Option.isSome_none, Bool.false_eq_true, false_and, and_false] at bound
  obtain ⟨_ | _, _ | _, _ | _, _ | _, _ | _⟩ := outcomes <;> rfl

theorem handleAdd_contained_bound_pool :
    (StreamHandlerPool.new.handleBind ⟨⟨⟩, ⟨⟩⟩).Bound ∧
      ([⟨()⟩] : List (DiscriminatorFactory Unit)) = ⟨()⟩ :: [] ∧
      (StreamHandlerPool.new.handleBind ⟨⟨⟩, ⟨⟩⟩).handleAdd
          ⟨⟨0, .V4 ⟨0x01020304⟩ 5679, .V4 ⟨0x7F000001⟩ 8080⟩, none, [⟨()⟩]⟩
          ⟨.ok (), .ok (), .ok (), .ok (), .ok ()⟩ =
        .ok ((StreamHandlerPool.new.handleBind ⟨⟨⟩, ⟨⟩⟩).register
          ⟨0, .V4 ⟨0x01020304⟩ 5679, .V4 ⟨0x7F000001⟩ 8080⟩, [],
          some ⟨⟨0, .V4 ⟨0x01020304⟩ 5679, .V4 ⟨0x7F000001⟩ 8080⟩, none, [⟨()⟩]⟩) ∧
      (⟨⟨0, .V4 ⟨0x01020304⟩ 5679, .V4 ⟨0x7F000001⟩ 8080⟩, none, [⟨()⟩]⟩ :
          SpawnedReader Unit).start ⟨.ok (), .err ⟨.NotConnected⟩, .ok ()⟩ =
        .error "Internal error: no local address" :=
  have contained := handleAdd_contained (StreamHandlerPool.new.handleBind ⟨⟨⟩, ⟨⟩⟩) ⟨rfl, rfl⟩
    ⟨⟨0, .V4 ⟨0x01020304⟩ 5679, .V4 ⟨0x7F000001⟩ 8080⟩, none, [⟨()⟩]⟩ rfl
    ⟨.ok (), .ok (), .ok (), .ok (), .ok ()⟩ ⟨.ok (), .err ⟨.NotConnected⟩, .ok ()⟩
  ⟨⟨rfl, rfl⟩, rfl, contained.1, contained.2⟩

end SubstratumNode
