import SubstratumNode.Pool

/-!
# Transmitting

`Handler<TransmitDataMsg>` looks the writer up under the address `NodeAddr` rebuilds, and
makes one `write` of the whole message.
-/

namespace SubstratumNode

namespace StreamHandlerPool

open StreamWriterReal

/-- `Endpoint::Socket (address)` resolves to `SocketAddr::new (address.ip (), address.port ())`. -/
theorem resolveEndpoint_socket (address : SocketAddr) :
    resolveEndpoint (.Socket address) = .ok (SocketAddr.new address.ip address.port) := rfl

/-- A transmit to a registered key goes to its writer, which a terminal packet shuts down. -/
theorem handleTransmit_of_registered (pool : StreamHandlerPool) {key : SocketAddr}
    {writer : StreamWriterReal} (registered : pool.streamWriters key = some writer)
    {msg : TransmitDataMsg} (addressed : resolveEndpoint msg.endpoint = .ok key)
    (written : IoResult Nat) :
    pool.handleTransmit msg written =
      .ok ((writer.transmit msg.data written).2 ++
        if msg.lastData then [writer.shutdown .Both] else []) := by
  simp [handleTransmit, addressed, registered, bind, Except.bind, pure, Except.pure]

/-- A transmit to an unregistered key only logs the nonexistent stream. -/
theorem handleTransmit_of_unregistered (pool : StreamHandlerPool) {key : SocketAddr}
    (unregistered : pool.streamWriters key = none) {msg : TransmitDataMsg}
    (addressed : resolveEndpoint msg.endpoint = .ok key) (written : IoResult Nat) :
    pool.handleTransmit msg written = .ok [.log (.nonexistentStream msg.data.length key)] := by
  simp [handleTransmit, addressed, unregistered, bind, Except.bind, pure, Except.pure]

/-- A writer stored under an IPv6 peer address with a flow label or scope identifier is not
found by a transmit to that address. -/
theorem handleTransmit_misses_scoped_writer (pool : StreamHandlerPool) (stream : TcpStreamWrapper)
    (flowOrScope : ¬ stream.peerAddress.IpAndPortOnly)
    (unregistered :
      pool.streamWriters (SocketAddr.new stream.peerAddress.ip stream.peerAddress.port) = none)
    {msg : TransmitDataMsg} (addressed : msg.endpoint = .Socket stream.peerAddress)
    (written : IoResult Nat) :
    (pool.register stream).handleTransmit msg written =
      .ok [.log (.nonexistentStream msg.data.length
        (SocketAddr.new stream.peerAddress.ip stream.peerAddress.port))] := by
  have rebuilt : SocketAddr.new stream.peerAddress.ip stream.peerAddress.port ≠ stream.peerAddress :=
    fun same => flowOrScope ((SocketAddr.new_ip_port_eq_iff _).mp same)
  refine handleTransmit_of_unregistered _ ?_ (by rw [addressed]; rfl) written
  simp only [register, Function.update_noteq rebuilt, unregistered]

theorem handleTransmit_misses_scoped_writer_link_local :
    ¬ (SocketAddr.V6 ⟨0xFE80 <<< 112⟩ 5679 0 2).IpAndPortOnly ∧
      new.streamWriters (.V6 ⟨0xFE80 <<< 112⟩ 5679 0 0) = none ∧
      (⟨.Socket (.V6 ⟨0xFE80 <<< 112⟩ 5679 0 2), false, [0x12]⟩ : TransmitDataMsg).endpoint =
        .Socket (.V6 ⟨0xFE80 <<< 112⟩ 5679 0 2) ∧
      (new.register ⟨0, .V6 ⟨0xFE80 <<< 112⟩ 5679 0 2, .V6 ⟨0xFE80 <<< 112⟩ 8080 0 2⟩).handleTransmit
          ⟨.Socket (.V6 ⟨0xFE80 <<< 112⟩ 5679 0 2), false, [0x12]⟩ (.ok 1) =
        .ok [.log (.nonexistentStream 1 (.V6 ⟨0xFE80 <<< 112⟩ 5679 0 0))] :=
  ⟨by decide, rfl, rfl, handleTransmit_misses_scoped_writer new
    ⟨0, .V6 ⟨0xFE80 <<< 112⟩ 5679 0 2, .V6 ⟨0xFE80 <<< 112⟩ 8080 0 2⟩ (by decide) rfl rfl (.ok 1)⟩

/-- A transmit that does not panic changes neither the pool nor its reader threads. -/
theorem handle_transmit_cases {σ : Type} {pool after : StreamHandlerPool} {msg : TransmitDataMsg}
    {outcomes : PoolOutcomes} {effects : List Effect} {spawned : Option (SpawnedReader σ)}
    (handled : pool.handle (.transmit msg) outcomes = .ok (after, effects, spawned)) :
    after = pool ∧ spawned = none ∧ ∃ key, resolveEndpoint msg.endpoint = .ok key ∧
      (pool.streamWriters key = none ∧ effects = [.log (.nonexistentStream msg.data.length key)] ∨
        ∃ writer, pool.streamWriters key = some writer ∧
          effects = (writer.transmit msg.data outcomes.written).2 ++
            if msg.lastData then [writer.shutdown .Both] else []) := by
  cases transmitting : pool.handleTransmit msg outcomes.written <;>
    simp only [handle, transmitting, Except.map, Except.ok.injEq, Prod.mk.injEq,
      reduceCtorEq] at handled
  obtain ⟨rfl, rfl, rfl⟩ := handled
  refine ⟨rfl, rfl, ?_⟩
  cases resolved : resolveEndpoint msg.endpoint with
  | error message => simp [handleTransmit, resolved, bind, Except.bind] at transmitting
  | ok key =>
      refine ⟨key, rfl, ?_⟩
      cases stored : pool.streamWriters key with
      | none =>
          rw [handleTransmit_of_unregistered pool stored resolved] at transmitting
          exact .inl ⟨rfl, (Except.ok.inj transmitting).symm⟩
      | some writer =>
          rw [handleTransmit_of_registered pool stored resolved] at transmitting
          exact .inr ⟨writer, rfl, (Except.ok.inj transmitting).symm⟩

/-- One transmit answered `Ok (n)` makes the stream accept the message's first `n` bytes. -/
theorem accepted_handleTransmit (pool : StreamHandlerPool) {key : SocketAddr}
    {writer : StreamWriterReal} (registered : pool.streamWriters key = some writer)
    {msg : TransmitDataMsg} (addressed : resolveEndpoint msg.endpoint = .ok key) (size : Nat) :
    ∃ effects, pool.handleTransmit msg (.ok size) = .ok effects ∧
      effects.flatMap (Effect.accepted writer.stream.connection) = msg.data.take size := by
  refine ⟨_, pool.handleTransmit_of_registered registered addressed _, ?_⟩
  cases msg.lastData <;> simp [transmit_ok, Effect.accepted, StreamWriterReal.shutdown]

/-- No outbound bytes lost, as one might expect it. -/
def NoOutboundBytesLost : Prop :=
  ∀ (pool : StreamHandlerPool) (key : SocketAddr) (writer : StreamWriterReal)
    (transmits : List (TransmitDataMsg × Nat)), pool.streamWriters key = some writer →
    (∀ transmit ∈ transmits, resolveEndpoint transmit.1.endpoint = .ok key) →
    ∃ effects, transmits.mapM (fun transmit => pool.handleTransmit transmit.1 (.ok transmit.2)) =
        .ok effects ∧
      effects.flatten.flatMap (Effect.accepted writer.stream.connection) =
        transmits.flatMap (·.1.data)

/-- A two-byte message whose write accepts one byte loses the second. -/
theorem short_write_loses_bytes : ¬ NoOutboundBytesLost := by
  intro noneLost
  let stream : TcpStreamWrapper := ⟨0, .V4 ⟨0x01020304⟩ 5673, .V4 ⟨0x7F000001⟩ 8080⟩
  obtain ⟨effects, handled, accepted⟩ := noneLost (new.register stream) stream.peerAddress
    ⟨stream, stream.peerAddress⟩ [(⟨.Socket stream.peerAddress, false, [0x12, 0x34]⟩, 1)]
    (by simp [register]) (by simp [resolveEndpoint_socket, SocketAddr.IpAndPortOnly])
  cases handled
  cases accepted

/-- Transmits to a registered key accept, in order, the first `n` bytes of each message. -/
theorem accepted_handleTransmits (pool : StreamHandlerPool) {key : SocketAddr}
    {writer : StreamWriterReal} (registered : pool.streamWriters key = some writer)
    (transmits : List (TransmitDataMsg × Nat))
    (addressed : ∀ transmit ∈ transmits, resolveEndpoint transmit.1.endpoint = .ok key) :
    ∃ effects, transmits.mapM (fun transmit => pool.handleTransmit transmit.1 (.ok transmit.2)) =
        .ok effects ∧
      effects.flatten.flatMap (Effect.accepted writer.stream.connection) =
        transmits.flatMap fun transmit => transmit.1.data.take transmit.2 := by
  induction transmits with
  | nil => exact ⟨[], rfl, rfl⟩
  | cons transmit rest inductionHypothesis =>
      obtain ⟨first, handled, accepted⟩ :=
        pool.accepted_handleTransmit registered (addressed transmit (by simp)) transmit.2
      obtain ⟨later, restHandled, restAccepted⟩ :=
        inductionHypothesis fun other member => addressed other (by simp [member])
      refine ⟨first :: later, ?_, ?_⟩
      · rw [List.mapM_cons, handled, restHandled]; rfl
      · simp only [List.flatten_cons, List.flatMap_append, accepted, restAccepted, List.flatMap_cons]

theorem accepted_handleTransmits_short_first_write :
    (new.register ⟨0, .V4 ⟨0x01020304⟩ 5673, .V4 ⟨0x7F000001⟩ 8080⟩).streamWriters
        (.V4 ⟨0x01020304⟩ 5673) =
      some ⟨⟨0, .V4 ⟨0x01020304⟩ 5673, .V4 ⟨0x7F000001⟩ 8080⟩, .V4 ⟨0x01020304⟩ 5673⟩ ∧
    (∀ transmit ∈ [((⟨.Socket (.V4 ⟨0x01020304⟩ 5673), false, [0x12, 0x34]⟩ : TransmitDataMsg), 1),
        (⟨.Socket (.V4 ⟨0x01020304⟩ 5673), true, [0x56]⟩, 1)],
      resolveEndpoint transmit.1.endpoint = .ok (.V4 ⟨0x01020304⟩ 5673)) ∧
    ∃ effects, [((⟨.Socket (.V4 ⟨0x01020304⟩ 5673), false, [0x12, 0x34]⟩ : TransmitDataMsg), 1),
        (⟨.Socket (.V4 ⟨0x01020304⟩ 5673), true, [0x56]⟩, 1)].mapM
          (fun transmit => (new.register ⟨0, .V4 ⟨0x01020304⟩ 5673, .V4 ⟨0x7F000001⟩ 8080⟩).handleTransmit
            transmit.1 (.ok transmit.2)) = .ok effects ∧
      effects.flatten.flatMap (Effect.accepted 0) = [0x12, 0x56] :=
  have registered : (new.register ⟨0, .V4 ⟨0x01020304⟩ 5673, .V4 ⟨0x7F000001⟩ 8080⟩).streamWriters
      (.V4 ⟨0x01020304⟩ 5673) =
        some ⟨⟨0, .V4 ⟨0x01020304⟩ 5673, .V4 ⟨0x7F000001⟩ 8080⟩, .V4 ⟨0x01020304⟩ 5673⟩ := by
    simp [register]
  have addressed : ∀ transmit ∈ [((⟨.Socket (.V4 ⟨0x01020304⟩ 5673), false, [0x12, 0x34]⟩ :
      TransmitDataMsg), 1), (⟨.Socket (.V4 ⟨0x01020304⟩ 5673), true, [0x56]⟩, 1)],
      resolveEndpoint transmit.1.endpoint = .ok (.V4 ⟨0x01020304⟩ 5673) := by
    simp [resolveEndpoint_socket, SocketAddr.IpAndPortOnly]
  ⟨registered, addressed, accepted_handleTransmits _ registered _ addressed⟩

end StreamHandlerPool

end SubstratumNode
