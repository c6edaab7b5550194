import Mathlib.Data.List.OfFn
import SubstratumNode.Net

/-!
# The stream capability

A `TcpStreamWrapper` names one TCP connection.  Whether a call on it succeeds is the
operating system's answer, an argument of the call, so quantifying over the answers ranges
over every behaviour of the environment.
-/

namespace SubstratumNode

/-- `Box<TcpStreamWrapper>`: a handle on the TCP connection `connection`. -/
structure TcpStreamWrapper where
  connection : Nat
  peerAddress : SocketAddr
  localAddress : SocketAddr
  deriving DecidableEq, Repr

/-- A call that returns `value` when the operating system answers `outcome = Ok`. -/
def IoResult.answer {α : Type} : IoResult Unit → α → IoResult α
  | .ok _, value => .ok value
  | .err error, _ => .err error

@[simp]
theorem IoResult.answer_ok {α : Type} (answered : Unit) (value : α) :
    (IoResult.ok answered).answer value = .ok value := rfl

@[simp]
theorem IoResult.answer_err {α : Type} (error : IoError) (value : α) :
    (IoResult.err error).answer value = .err error := rfl

namespace TcpStreamWrapper

/-- `try_clone`: another handle on the same connection. -/
def tryClone (stream : TcpStreamWrapper) (outcome : IoResult Unit) : IoResult TcpStreamWrapper :=
  outcome.answer stream

/-- `peer_addr`. -/
def peerAddr (stream : TcpStreamWrapper) (outcome : IoResult Unit) : IoResult SocketAddr :=
  outcome.answer stream.peerAddress

/-- `local_addr`. -/
def localAddr (stream : TcpStreamWrapper) (outcome : IoResult Unit) : IoResult SocketAddr :=
  outcome.answer stream.localAddress

end TcpStreamWrapper

/-- One `read` into the 64 KiB buffer: `Ok (data.length)` with its fresh bytes, or an error. -/
inductive ReadResult where
  | ok (data : List UInt8) (fits : data.length ≤ 0x10000)
  | err (error : IoError)
  deriving DecidableEq, Repr

/-- The reader's `[u8; 0x10000]` buffer. -/
abbrev ReadBuffer := Fin 0x10000 → UInt8

namespace ReadBuffer

/-- `[0; 0x10000]`. -/
def zeroed : ReadBuffer := fun _ => 0

/-- The buffer after a read of `data`: the fresh bytes at the front, the rest unchanged. -/
def fill (buf : ReadBuffer) (data : List UInt8) : ReadBuffer :=
  fun index => if inside : index.val < data.length then data.get ⟨index.val, inside⟩ else buf index

/-- `&buf[..length]`, which panics when `length` passes the end of the buffer. -/
def slice (buf : ReadBuffer) (length : Nat) : Except String (List UInt8) :=
  if fits : length ≤ 0x10000 then .ok (List.ofFn fun index : Fin length => buf ⟨index.val, by omega⟩)
  else .error s!"range end index {length} out of range for slice of length 65536"

/-- The slice a read's length selects holds exactly that read's fresh bytes. -/
theorem slice_fill (buf : ReadBuffer) (data : List UInt8) (fits : data.length ≤ 0x10000) :
    (buf.fill data).slice data.length = .ok data := by
  simp only [slice, fits, dite_true, fill, Fin.is_lt, Except.ok.injEq]
  exact List.ofFn_get data

end ReadBuffer

end SubstratumNode
