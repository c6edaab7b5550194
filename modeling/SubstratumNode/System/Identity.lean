import SubstratumNode.System.Writers

/-!
# Connections that share a peer address

A `RemoveStreamMsg` names only a socket address, so a removal raised for an old
connection can remove the writer of a new one from the same address.
-/

namespace SubstratumNode

open System

variable {σ : Type}

/-- Connection identity as one might expect it: a connection neither of whose halves asked for
its removal keeps its writer. -/
def ConnectionIdentity : Prop :=
  ∀ (σ : Type) (D : Discriminator σ) (s : System σ) (msg : AddStreamMsg σ) (sender : Sender)
    (outcomes : PoolOutcomes) (newer older : List (Handled σ)),
    s.Reachable D →
    s.journal = newer ++ ⟨⟨.add msg, sender⟩, outcomes⟩ :: older →
    outcomes.add.clonesSucceed = true →
    (∀ handled ∈ newer, ∀ later, handled.envelope.msg = .add later →
      later.stream.peerAddress ≠ msg.stream.peerAddress) →
    (∀ request, Effect.remove request (.reader msg.stream.connection) ∉ s.trace ∧
      Effect.remove request (.writer msg.stream.connection) ∉ s.trace) →
    (∀ handled ∈ newer,
      handled.envelope ≠ ⟨.remove ⟨msg.stream.peerAddress⟩, .supervisor⟩) →
    s.pool.streamWriters msg.stream.peerAddress = some ⟨msg.stream, msg.stream.peerAddress⟩

/-- Two connections from `1.2.3.4:5679`; the first's removal is queued behind the second's Add. -/
def keyReuse : List (Event Unit) :=
  [.send (.bind ⟨⟨⟩, ⟨⟩⟩), .handle .succeeding,
    .send (.add ⟨⟨0, .V4 ⟨0x01020304⟩ 5679, .V4 ⟨0x7F000001⟩ 8080⟩, none, [⟨()⟩]⟩),
    .handle .succeeding,
    .start 0 ⟨.ok (), .ok (), .ok ()⟩,
    .send (.add ⟨⟨1, .V4 ⟨0x01020304⟩ 5679, .V4 ⟨0x7F000001⟩ 8080⟩, none, [⟨()⟩]⟩),
    .read 0 (.err ⟨.BrokenPipe⟩) none,
    .handle .succeeding,
    .handle .succeeding]

/-- After `keyReuse` the second connection's writer is gone, removed by the first's reader. -/
theorem stale_removal_drops_new_writer : ¬ ConnectionIdentity := by
  intro identity
  have removed : ((initial.run silentDiscriminator keyReuse).getD initial).pool.streamWriters
      (.V4 ⟨0x01020304⟩ 5679) = none := by decide
  have trace : ((initial.run silentDiscriminator keyReuse).getD initial).trace =
      [.remove ⟨.V4 ⟨0x01020304⟩ 5679⟩ (.reader 0), .shutdown 0 .Both,
        .dispatch ⟨.V4 ⟨0x01020304⟩ 5679, none, .ProxyServer, true, []⟩] := by decide
  have kept := identity Unit silentDiscriminator
    ((initial.run silentDiscriminator keyReuse).getD initial)
    ⟨⟨1, .V4 ⟨0x01020304⟩ 5679, .V4 ⟨0x7F000001⟩ 8080⟩, none, [⟨()⟩]⟩ .supervisor
    .succeeding
    [⟨⟨.remove ⟨.V4 ⟨0x01020304⟩ 5679⟩, .reader 0⟩, .succeeding⟩]
    [⟨⟨.add ⟨⟨0, .V4 ⟨0x01020304⟩ 5679, .V4 ⟨0x7F000001⟩ 8080⟩, none, [⟨()⟩]⟩, .supervisor⟩,
        .succeeding⟩,
      ⟨⟨.bind ⟨⟨⟩, ⟨⟩⟩, .supervisor⟩, .succeeding⟩]
    ⟨keyReuse, rfl⟩ rfl rfl (by simp) (fun request => by simp [trace]) (by simp)
  rw [removed] at kept
  cases kept

/-- Until another Add for its address, a connection's writer stays exactly until a removal of
the address, from any sender, is handled. -/
theorem streamWriters_of_last_add (D : Discriminator σ) {s : System σ} (reachable : s.Reachable D)
    {msg : AddStreamMsg σ} {sender : Sender} {outcomes : PoolOutcomes}
    {newer older : List (Handled σ)}
    (journal : s.journal = newer ++ ⟨⟨.add msg, sender⟩, outcomes⟩ :: older)
    (cloned : outcomes.add.clonesSucceed = true)
    (noAdd : ∀ handled ∈ newer, ∀ later, handled.envelope.msg = .add later →
      later.stream.peerAddress ≠ msg.stream.peerAddress) :
    s.pool.streamWriters msg.stream.peerAddress = some ⟨msg.stream, msg.stream.peerAddress⟩ ↔
      ∀ handled ∈ newer, handled.envelope.msg ≠ .remove ⟨msg.stream.peerAddress⟩ := by
  rw [writersJournaled D reachable, journal]
  constructor
  · intro kept handled member removed
    rw [lastWriter_append_of_removed noAdd ⟨handled, member, removed⟩] at kept
    cases kept
  · intro noRemove
    rw [lastWriter_append_of_untouched fun handled member =>
      Handled.writerUpdate_eq_none (noAdd handled member) (noRemove handled member)]
    simp [lastWriter, Handled.writerUpdate, cloned]

theorem streamWriters_of_last_add_after_key_reuse :
    ((initial.run silentDiscriminator keyReuse).getD initial).pool.streamWriters
        (.V4 ⟨0x01020304⟩ 5679) =
      some ⟨⟨1, .V4 ⟨0x01020304⟩ 5679, .V4 ⟨0x7F000001⟩ 8080⟩, .V4 ⟨0x01020304⟩ 5679⟩ ↔
    ∀ handled ∈ [(⟨⟨.remove ⟨.V4 ⟨0x01020304⟩ 5679⟩, .reader 0⟩,
        .succeeding⟩ : Handled Unit)],
      handled.envelope.msg ≠ .remove ⟨.V4 ⟨0x01020304⟩ 5679⟩ :=
  @streamWriters_of_last_add Unit silentDiscriminator
    ((initial.run silentDiscriminator keyReuse).getD initial) ⟨keyReuse, rfl⟩
    ⟨⟨1, .V4 ⟨0x01020304⟩ 5679, .V4 ⟨0x7F000001⟩ 8080⟩, none, [⟨()⟩]⟩ .supervisor
    .succeeding
    [⟨⟨.remove ⟨.V4 ⟨0x01020304⟩ 5679⟩, .reader 0⟩, .succeeding⟩]
    [⟨⟨.add ⟨⟨0, .V4 ⟨0x01020304⟩ 5679, .V4 ⟨0x7F000001⟩ 8080⟩, none, [⟨()⟩]⟩, .supervisor⟩,
        .succeeding⟩,
      ⟨⟨.bind ⟨⟨⟩, ⟨⟩⟩, .supervisor⟩, .succeeding⟩]
    rfl rfl (by simp)

end SubstratumNode
