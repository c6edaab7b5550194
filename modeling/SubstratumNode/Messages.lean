import SubstratumNode.Stream

/-!
# Wire messages and observable effects

The messages that cross the pool's boundary, and `Effect`: what a handler, a writer
or a reader does that someone else can observe.
-/

namespace SubstratumNode

/-- Modelled from the spec: `sub_lib::dispatcher::Component`; only `ProxyServer` is named. -/
inductive Component where
  | ProxyServer
  | other (target : Nat)
  deriving DecidableEq, Repr

/-- `sub_lib::dispatcher::InboundClientData`, as the spec lists its fields. -/
structure InboundClientData where
  socketAddr : SocketAddr
  originPort : Option UInt16
  component : Component
  lastData : Bool
  data : List UInt8
  deriving DecidableEq, Repr

/-- `RemoveStreamMsg`. -/
structure RemoveStreamMsg where
  socketAddr : SocketAddr
  deriving DecidableEq, Repr

/-- `sub_lib::stream_handler_pool::TransmitDataMsg`, as the spec lists its fields. -/
structure TransmitDataMsg where
  endpoint : Endpoint
  lastData : Bool
  data : List UInt8
  deriving DecidableEq, Repr

/-- Who put a message in the pool's mailbox; actix does not carry this. -/
inductive Sender where
  | supervisor
  | reader (connection : Nat)
  | writer (connection : Nat)
  deriving DecidableEq, Repr

/-- The WARN and ERROR lines of the pool, its writers and its readers. -/
inductive LogEntry where
  /-- WARN `Continuing after read error on port {}: {}`. -/
  | continuingAfterReadError (port : UInt16) (error : IoError)
  /-- ERROR `Cannot transmit {} bytes: {}`. -/
  | cannotTransmit (length : Nat) (error : IoError)
  /-- ERROR `Cannot transmit {} bytes to {:?}: nonexistent stream`. -/
  | nonexistentStream (length : Nat) (address : SocketAddr)
  /-- ERROR `Could not clone read stream; giving up: {:?}`. -/
  | couldNotCloneReadStream (error : IoError)
  /-- ERROR `Could not clone write stream: giving up: {:?}`. -/
  | couldNotCloneWriteStream (error : IoError)
  deriving DecidableEq, Repr

/-- One observable action, in the order it happens. -/
inductive Effect where
  /-- `ibcd_sub.try_send (msg)`. -/
  | dispatch (msg : InboundClientData)
  /-- `remove_sub.try_send (msg)`, by `sender`. -/
  | remove (msg : RemoveStreamMsg) (sender : Sender)
  /-- `stream.write (data)` on `connection`, answered `result`. -/
  | write (connection : Nat) (data : List UInt8) (result : IoResult Nat)
  /-- `stream.shutdown (how)` on `connection`; every caller ignores its result. -/
  | shutdown (connection : Nat) (how : Shutdown)
  | log (entry : LogEntry)
  deriving DecidableEq, Repr

namespace Effect

/-- The message this effect puts in the pool's mailbox. -/
def removal? : Effect → Option (RemoveStreamMsg × Sender)
  | remove msg sender => some (msg, sender)
  | _ => none

/-- The message this effect delivers to the dispatcher. -/
def dispatched? : Effect → Option InboundClientData
  | dispatch msg => some msg
  | _ => none

/-- The dispatch of a message whose `last_data` is false. -/
def data? : Effect → Option InboundClientData
  | dispatch msg => if msg.lastData then none else some msg
  | _ => none

/-- A removal request or a terminal message to the dispatcher. -/
def closing : Effect → Bool
  | remove _ _ => true
  | dispatch msg => msg.lastData
  | _ => false

/-- The first `n` bytes of a write to `connection` answered `Ok (n)`. -/
def accepted (connection : Nat) : Effect → List UInt8
  | write target data (.ok n) => if target = connection then data.take n else []
  | _ => []

end Effect

end SubstratumNode
