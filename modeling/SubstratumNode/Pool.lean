import SubstratumNode.Reader
import SubstratumNode.Writer

/-!
# The stream handler pool

The pool's state and its four handlers.  A handler takes the answers to its fallible
calls; a panic is `Except.error` with the source's message.
-/

namespace SubstratumNode

/-- `DispatcherSubs`: the dispatcher's recipients. -/
structure DispatcherSubs where
  deriving DecidableEq, Repr

/-- `StreamHandlerPoolSubs`: the pool's own recipients. -/
structure StreamHandlerPoolSubs where
  deriving DecidableEq, Repr

structure PoolBindMessage where
  dispatcherSubs : DispatcherSubs
  streamHandlerPoolSubs : StreamHandlerPoolSubs
  deriving DecidableEq, Repr

structure AddStreamMsg (σ : Type) where
  stream : TcpStreamWrapper
  originPort : Option UInt16
  discriminatorFactories : List (DiscriminatorFactory σ)

/-- A message in the pool's mailbox. -/
inductive PoolMsg (σ : Type) where
  | add (msg : AddStreamMsg σ)
  | remove (msg : RemoveStreamMsg)
  | transmit (msg : TransmitDataMsg)
  | bind (msg : PoolBindMessage)

/-- `StreamHandlerPool` without its logger; the writer map is a function to `Option`. -/
structure StreamHandlerPool where
  streamWriters : SocketAddr → Option StreamWriterReal
  dispatcherSubs : Option DispatcherSubs
  selfSubs : Option StreamHandlerPoolSubs

/-- The closure `set_up_stream_reader` hands to `thread::spawn`. -/
structure SpawnedReader (σ : Type) where
  readStream : TcpStreamWrapper
  originPort : Option UInt16
  discriminatorFactories : List (DiscriminatorFactory σ)

/-- The answers to an Add's calls, in the order it makes them. -/
structure AddOutcomes where
  readClone : IoResult Unit
  writeClone : IoResult Unit
  peerAddr : IoResult Unit
  writerPeerAddr : IoResult Unit
  spawn : IoResult Unit
  deriving DecidableEq, Repr

/-- The answers to a handler's calls; `refusedSend` is the `try_send` actix refuses, if any. -/
structure PoolOutcomes where
  add : AddOutcomes
  written : IoResult Nat
  refusedSend : Option Nat
  deriving DecidableEq, Repr

/-- The answers to the reader thread's calls before its loop. -/
structure StartOutcomes where
  peerAddr : IoResult Unit
  localAddr : IoResult Unit
  setReadTimeout : IoResult Unit
  deriving DecidableEq, Repr

/-- `.as_ref ().expect ("StreamHandlerPool is unbound")` on a stored recipient set. -/
def expectBound {α : Type} : Option α → Except String α
  | some subs => .ok subs
  | none => .error "StreamHandlerPool is unbound"

namespace StreamHandlerPool

variable {σ : Type}

def new : StreamHandlerPool := ⟨fun _ => none, none, none⟩

/-- Both recipient sets are stored, as after a `PoolBindMessage`. -/
def Bound (pool : StreamHandlerPool) : Prop :=
  pool.dispatcherSubs.isSome ∧ pool.selfSubs.isSome

/-- The pool with a writer over `stream` stored under its peer address. -/
def register (pool : StreamHandlerPool) (stream : TcpStreamWrapper) : StreamHandlerPool :=
  { pool with
    streamWriters := Function.update pool.streamWriters stream.peerAddress
      (some ⟨stream, stream.peerAddress⟩) }

def setUpStreamWriter (pool : StreamHandlerPool) (writeStream : TcpStreamWrapper)
    (peerAddrOutcome writerPeerAddrOutcome : IoResult Unit) : Except String StreamHandlerPool := do
  let socketAddr ← (writeStream.peerAddr peerAddrOutcome).expect
    "Internal error: no peer address preparing StreamWriter"
  let _ ← expectBound pool.selfSubs
  let streamWriter ← StreamWriterReal.new writeStream writerPeerAddrOutcome
  pure { pool with streamWriters := Function.update pool.streamWriters socketAddr (some streamWriter) }

/-- `set_up_stream_reader`; `thread::spawn` panics when the thread cannot be made. -/
def setUpStreamReader (pool : StreamHandlerPool) (readStream : TcpStreamWrapper)
    (originPort : Option UInt16) (discriminatorFactories : List (DiscriminatorFactory σ))
    (spawnOutcome : IoResult Unit) : Except String (SpawnedReader σ) := do
  let _ ← expectBound pool.dispatcherSubs
  let _ ← expectBound pool.selfSubs
  let _ ← spawnOutcome.expect "failed to spawn thread"
  pure ⟨readStream, originPort, discriminatorFactories⟩

def handleAdd (pool : StreamHandlerPool) (msg : AddStreamMsg σ) (outcomes : AddOutcomes) :
    Except String (StreamHandlerPool × List Effect × Option (SpawnedReader σ)) :=
  match msg.stream.tryClone outcomes.readClone with
  | .err error => .ok (pool, [.log (.couldNotCloneReadStream error)], none)
  | .ok readStream =>
      match msg.stream.tryClone outcomes.writeClone with
      | .err error => .ok (pool, [.log (.couldNotCloneWriteStream error)], none)
      | .ok writeStream => do
          let pool ← pool.setUpStreamWriter writeStream outcomes.peerAddr outcomes.writerPeerAddr
          let spawned ← pool.setUpStreamReader readStream msg.originPort msg.discriminatorFactories
            outcomes.spawn
          pure (pool, [], some spawned)

def handleRemove (pool : StreamHandlerPool) (msg : RemoveStreamMsg) : StreamHandlerPool :=
  { pool with streamWriters := Function.update pool.streamWriters msg.socketAddr none }

/-- The start of `Handler<TransmitDataMsg>::handle`: a socket address through `NodeAddr`. -/
def resolveEndpoint : Endpoint → Except String SocketAddr
  | .Key _ => .error "not yet implemented"
  | .Ip _ => .error "not yet implemented"
  | .Socket socketAddr =>
      match (NodeAddr.fromSocketAddr socketAddr).intoSocketAddrs with
      | [] => .error "removal index (is 0) should be < len (is 0)"
      | first :: _ => .ok first

def handleTransmit (pool : StreamHandlerPool) (msg : TransmitDataMsg) (written : IoResult Nat) :
    Except String (List Effect) := do
  let socketAddr ← resolveEndpoint msg.endpoint
  match pool.streamWriters socketAddr with
  | some streamWriter =>
      pure ((streamWriter.transmit msg.data written).2 ++
        if msg.lastData then [streamWriter.shutdown .Both] else [])
  | none => pure [.log (.nonexistentStream msg.data.length socketAddr)]

/-- `Handler<PoolBindMessage>::handle`. -/
def handleBind (pool : StreamHandlerPool) (msg : PoolBindMessage) : StreamHandlerPool :=
  { pool with dispatcherSubs := some msg.dispatcherSubs, selfSubs := some msg.streamHandlerPoolSubs }

/-- The handler actix runs for a message. -/
def handle (pool : StreamHandlerPool) :
    PoolMsg σ → PoolOutcomes →
      Except String (StreamHandlerPool × List Effect × Option (SpawnedReader σ))
  | .add msg, outcomes => pool.handleAdd msg outcomes.add
  | .remove msg, _ => .ok (pool.handleRemove msg, [], none)
  | .transmit msg, outcomes => (pool.handleTransmit msg outcomes.written).map (pool, ·, none)
  | .bind msg, _ => .ok (pool.handleBind msg, [], none)

end StreamHandlerPool

/-- The spawned thread up to its read loop. -/
def SpawnedReader.start {σ : Type} (spawned : SpawnedReader σ) (outcomes : StartOutcomes) :
    Except String (ReadLoop σ) :=
  (StreamReaderReal.new spawned.readStream outcomes.peerAddr spawned.originPort
      spawned.discriminatorFactories).bind
    (·.enterLoop outcomes.localAddr outcomes.setReadTimeout)

end SubstratumNode
