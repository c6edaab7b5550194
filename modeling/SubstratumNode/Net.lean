import Mathlib.Data.List.Basic

/-!
# Addresses, I/O errors and the error classification

The `std::net` and `std::io` values the pool reads, as the standard library defines
them.  The `sub_lib` helpers the pool calls are written from the specification.
-/

namespace SubstratumNode

/-- `std::net::Ipv4Addr`, its 32 bits. -/
structure Ipv4Addr where
  bits : UInt32
  deriving DecidableEq, Repr

/-- `std::net::Ipv6Addr`, its 128 bits. -/
structure Ipv6Addr where
  bits : BitVec 128
  deriving DecidableEq, Repr

/-- `std::net::IpAddr`. -/
inductive IpAddr where
  | V4 (ip : Ipv4Addr)
  | V6 (ip : Ipv6Addr)
  deriving DecidableEq, Repr

/-- `std::net::SocketAddr`; an IPv6 address's `flowinfo` and `scope_id` take part in equality. -/
inductive SocketAddr where
  | V4 (ip : Ipv4Addr) (port : UInt16)
  | V6 (ip : Ipv6Addr) (port : UInt16) (flowinfo : UInt32) (scopeId : UInt32)
  deriving DecidableEq, Repr

namespace SocketAddr

/-- `SocketAddr::ip`. -/
def ip : SocketAddr → IpAddr
  | V4 ip _ => .V4 ip
  | V6 ip _ _ _ => .V6 ip

/-- `SocketAddr::port`. -/
def port : SocketAddr → UInt16
  | V4 _ port => port
  | V6 _ port _ _ => port

/-- `SocketAddr::new`: an IPv6 address gets flow information and scope identifier 0. -/
def new : IpAddr → UInt16 → SocketAddr
  | .V4 ip, port => V4 ip port
  | .V6 ip, port => V6 ip port 0 0

/-- The addresses `SocketAddr::new` can build: nothing beyond IP and port. -/
def IpAndPortOnly : SocketAddr → Prop
  | V4 _ _ => True
  | V6 _ _ flowinfo scopeId => flowinfo = 0 ∧ scopeId = 0

instance : DecidablePred IpAndPortOnly := fun
  | V4 _ _ => inferInstanceAs (Decidable True)
  | V6 _ _ flowinfo scopeId => inferInstanceAs (Decidable (flowinfo = 0 ∧ scopeId = 0))

@[simp]
theorem new_ip_port_eq_iff (address : SocketAddr) :
    new address.ip address.port = address ↔ address.IpAndPortOnly := by
  cases address <;> simp [new, ip, port, IpAndPortOnly, eq_comm]

end SocketAddr

/-- `std::io::ErrorKind`, every kind the standard library of the source's time has. -/
inductive ErrorKind where
  | NotFound | PermissionDenied | ConnectionRefused | ConnectionReset
  | ConnectionAborted | NotConnected | AddrInUse | AddrNotAvailable | BrokenPipe
  | AlreadyExists | WouldBlock | InvalidInput | InvalidData | TimedOut | WriteZero
  | Interrupted | Other | UnexpectedEof
  deriving DecidableEq, Repr

/-- `std::io::Error`; the pool reads only its kind. -/
structure IoError where
  kind : ErrorKind
  deriving DecidableEq, Repr

/-- `std::io::Result`. -/
inductive IoResult (α : Type) where
  | ok (value : α)
  | err (error : IoError)
  deriving DecidableEq, Repr

/-- `Result::expect`: the value, or a panic with `message`. -/
def IoResult.expect {α : Type} : IoResult α → String → Except String α
  | ok value, _ => .ok value
  | err _, message => .error message

@[simp]
theorem IoResult.expect_ok {α : Type} (value : α) (message : String) :
    (IoResult.ok value).expect message = .ok value := rfl

@[simp]
theorem IoResult.expect_err {α : Type} (error : IoError) (message : String) :
    (IoResult.err error : IoResult α).expect message = .error message := rfl

/-- `Result::is_ok`. -/
def IoResult.isOk {α : Type} : IoResult α → Bool
  | ok _ => true
  | err _ => false

/-- `std::net::Shutdown`. -/
inductive Shutdown where
  | Read | Write | Both
  deriving DecidableEq, Repr

/-- Modelled from the spec: `sub_lib::utils::indicates_dead_stream`. -/
def indicatesDeadStream : ErrorKind → Bool
  | .BrokenPipe | .ConnectionRefused | .ConnectionReset | .ConnectionAborted
  | .TimedOut => true
  | _ => false

/-- Modelled from the spec: `sub_lib::utils::indicates_timeout`. -/
def indicatesTimeout : ErrorKind → Bool
  | .WouldBlock | .TimedOut => true
  | _ => false

theorem indicatesDeadStream_eq_true_iff (kind : ErrorKind) :
    indicatesDeadStream kind = true ↔
      kind ∈ [.BrokenPipe, .ConnectionRefused, .ConnectionReset, .ConnectionAborted,
        .TimedOut] := by
  cases kind <;> decide

/-- The two classifications share exactly `TimedOut`. -/
theorem indicatesTimeout_and_indicatesDeadStream_iff (kind : ErrorKind) :
    (indicatesTimeout kind && indicatesDeadStream kind) = true ↔ kind = .TimedOut := by
  cases kind <;> decide

/-- Modelled from the spec: `sub_lib::node_addr::NodeAddr`, one IP address and its ports. -/
structure NodeAddr where
  ipAddr : IpAddr
  ports : List UInt16
  deriving DecidableEq, Repr

namespace NodeAddr

/-- Modelled from the spec: `NodeAddr::from (&SocketAddr)`. -/
def fromSocketAddr (address : SocketAddr) : NodeAddr :=
  ⟨address.ip, [address.port]⟩

/-- Modelled from the spec: `Into<Vec<SocketAddr>> for NodeAddr`, by `SocketAddr::new`. -/
def intoSocketAddrs (node : NodeAddr) : List SocketAddr :=
  node.ports.map (SocketAddr.new node.ipAddr)

@[simp]
theorem intoSocketAddrs_fromSocketAddr (address : SocketAddr) :
    (fromSocketAddr address).intoSocketAddrs = [SocketAddr.new address.ip address.port] := rfl

end NodeAddr

/-- Modelled from the spec: `sub_lib::dispatcher::Endpoint`. -/
inductive Endpoint where
  | Key (key : List UInt8)
  | Ip (ip : IpAddr)
  | Socket (address : SocketAddr)
  deriving DecidableEq, Repr

end SubstratumNode
