import SubstratumNode.Messages

/-!
# The stream writer

`StreamWriterReal` makes one `write` per transmit; on a dead-stream error it asks the pool,
through its mailbox, to remove it.
-/

namespace SubstratumNode

/-- `StreamWriterReal`, without its recipient and its logger. -/
structure StreamWriterReal where
  stream : TcpStreamWrapper
  streamKey : SocketAddr
  deriving DecidableEq, Repr

namespace StreamWriterReal

/-- `StreamWriterReal::new`: the peer address becomes the stream key. -/
def new (stream : TcpStreamWrapper) (peerAddrOutcome : IoResult Unit) :
    Except String StreamWriterReal :=
  ((stream.peerAddr peerAddrOutcome).expect
    "Internal error: no peer address creating StreamWriterReal").map (⟨stream, ·⟩)

/-- `StreamWriter::transmit`, its `write` answered `written`. -/
def transmit (writer : StreamWriterReal) (data : List UInt8) (written : IoResult Nat) :
    IoResult Nat × List Effect :=
  let write := Effect.write writer.stream.connection data written
  match written with
  | .ok size => (.ok size, [write])
  | .err error =>
      (.err error, write ::
        (if indicatesDeadStream error.kind then
          [.shutdown writer.stream.connection .Both,
            .remove ⟨writer.streamKey⟩ (.writer writer.stream.connection)]
        else []) ++ [.log (.cannotTransmit data.length error)])

/-- `StreamWriter::shutdown`. -/
def shutdown (writer : StreamWriterReal) (how : Shutdown) : Effect :=
  .shutdown writer.stream.connection how

@[simp]
theorem new_ok (stream : TcpStreamWrapper) : new stream (.ok ()) = .ok ⟨stream, stream.peerAddress⟩ :=
  rfl

theorem transmit_ok (writer : StreamWriterReal) (data : List UInt8) (size : Nat) :
    writer.transmit data (.ok size) = (.ok size, [.write writer.stream.connection data (.ok size)]) :=
  rfl

end StreamWriterReal

end SubstratumNode
