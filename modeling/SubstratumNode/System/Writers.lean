import SubstratumNode.Pool.Add
import SubstratumNode.System

/-!
# The writer map is what the journal says

`lastWriter key journal` reads the writer map off the handled messages: the newest
Add or Remove of `key` decides.
-/

namespace SubstratumNode

variable {σ : Type}

/-- What a handled message did to the writer stored under `key`. -/
def Handled.writerUpdate (key : SocketAddr) (handled : Handled σ) : Option (Option StreamWriterReal) :=
  match handled.envelope.msg with
  | .add msg =>
      if handled.outcomes.add.clonesSucceed = true ∧ msg.stream.peerAddress = key then
        some (some ⟨msg.stream, key⟩)
      else none
  | .remove msg => if msg.socketAddr = key then some none else none
  | .transmit _ | .bind _ => none

/-- The writer a journal, newest first, leaves under `key`. -/
def lastWriter (key : SocketAddr) : List (Handled σ) → Option StreamWriterReal
  | [] => none
  | handled :: older => (handled.writerUpdate key).getD (lastWriter key older)

theorem Handled.writerUpdate_eq_none {handled : Handled σ} {key : SocketAddr}
    (noAdd : ∀ msg, handled.envelope.msg = .add msg → msg.stream.peerAddress ≠ key)
    (noRemove : handled.envelope.msg ≠ .remove ⟨key⟩) : handled.writerUpdate key = none := by
  unfold writerUpdate
  split
  · next msg added => simp [noAdd msg added]
  · next msg removed =>
      have : msg.socketAddr ≠ key := fun same => noRemove (by rw [removed, ← same])
      simp [this]
  · rfl
  · rfl

theorem lastWriter_append_of_untouched {key : SocketAddr} {newer : List (Handled σ)}
    (untouched : ∀ handled ∈ newer, handled.writerUpdate key = none) (older : List (Handled σ)) :
    lastWriter key (newer ++ older) = lastWriter key older := by
  induction newer with
  | nil => rfl
  | cons handled rest inductionHypothesis =>
      rw [List.cons_append, lastWriter, untouched handled (by simp), Option.getD_none]
      exact inductionHypothesis fun other member => untouched other (by simp [member])

/-- After a removal of `key`, with no Add for it since, no writer is under `key`. -/
theorem lastWriter_append_of_removed {key : SocketAddr} {newer : List (Handled σ)}
    (noAdd : ∀ handled ∈ newer, ∀ added, handled.envelope.msg = .add added →
      added.stream.peerAddress ≠ key)
    (removed : ∃ handled ∈ newer, handled.envelope.msg = .remove ⟨key⟩)
    (older : List (Handled σ)) : lastWriter key (newer ++ older) = none := by
  induction newer with
  | nil => simp at removed
  | cons handled rest inductionHypothesis =>
      rw [List.cons_append, lastWriter]
      by_cases emptied : handled.envelope.msg = .remove ⟨key⟩
      · simp [Handled.writerUpdate, emptied]
      · rw [Handled.writerUpdate_eq_none (noAdd handled (by simp)) emptied, Option.getD_none]
        refine inductionHypothesis (fun other member => noAdd other (by simp [member])) ?_
        obtain ⟨other, member, otherRemoved⟩ := removed
        rcases List.mem_cons.mp member with same | inRest
        · exact absurd (same ▸ otherRemoved) emptied
        · exact ⟨other, inRest, otherRemoved⟩

/-- Every writer the journal leaves under a key has that key as its stream key. -/
theorem lastWriter_streamKey {key : SocketAddr} {journal : List (Handled σ)}
    {writer : StreamWriterReal} (stored : lastWriter key journal = some writer) :
    writer.streamKey = key := by
  induction journal with
  | nil => cases stored
  | cons handled older inductionHypothesis =>
      simp only [lastWriter] at stored
      cases update : handled.writerUpdate key with
      | none => exact inductionHypothesis (by simpa [update] using stored)
      | some written =>
          rw [update, Option.getD_some] at stored
          subst stored
          unfold Handled.writerUpdate at update
          split at update
          · split at update <;> cases update; rfl
          · split at update <;> cases update
          · cases update
          · cases update

namespace StreamHandlerPool

/-- A handler changes the writer under `key` exactly as the journal entry it makes says. -/
theorem handle_streamWriters {pool after : StreamHandlerPool} {msg : PoolMsg σ}
    {outcomes : PoolOutcomes} {effects : List Effect} {spawned : Option (SpawnedReader σ)}
    (handled : pool.handle msg outcomes = .ok (after, effects, spawned)) (sender : Sender)
    (key : SocketAddr) :
    after.streamWriters key =
      ((⟨⟨msg, sender⟩, outcomes⟩ : Handled σ).writerUpdate key).getD (pool.streamWriters key) := by
  cases msg with
  | add msg =>
      rcases handleAdd_cases handled with ⟨cloned, rfl, -⟩ | ⟨cloned, rfl, -⟩
      · simp [Handled.writerUpdate, cloned]
      · by_cases keyed : msg.stream.peerAddress = key <;>
          simp [register, Handled.writerUpdate, cloned, keyed, Function.update_apply, @eq_comm _ key]
  | remove msg =>
      simp only [handle, Except.ok.injEq, Prod.mk.injEq] at handled
      rw [← handled.1]
      by_cases keyed : msg.socketAddr = key <;>
        simp [handleRemove, Handled.writerUpdate, keyed, Function.update_apply, @eq_comm _ key]
  | transmit msg =>
      cases transmitted : pool.handleTransmit msg outcomes.written <;>
        simp only [handle, transmitted, Except.map, Except.ok.injEq, Prod.mk.injEq,
          reduceCtorEq] at handled
      simp [← handled.1, Handled.writerUpdate]
  | bind msg =>
      simp only [handle, Except.ok.injEq, Prod.mk.injEq] at handled
      simp [← handled.1, Handled.writerUpdate, handleBind]

end StreamHandlerPool

/-- Every call of a handler succeeds, a write takes no byte, and actix takes every send. -/
def PoolOutcomes.succeeding : PoolOutcomes := ⟨⟨.ok (), .ok (), .ok (), .ok (), .ok ()⟩, .ok 0, none⟩

namespace System

variable (D : Discriminator σ)

/-- Every key holds the writer the journal leaves under it. -/
def WritersJournaled (s : System σ) : Prop :=
  ∀ key, s.pool.streamWriters key = lastWriter key s.journal

theorem initial_writersJournaled : (initial : System σ).WritersJournaled := fun _ => rfl

theorem step_writersJournaled {s after : System σ} {event : Event σ}
    (stepped : s.step D event = some after) (journaled : s.WritersJournaled) :
    after.WritersJournaled := by
  intro key
  cases event with
  | handle outcomes =>
      obtain ⟨envelope, rest, -, -, ⟨_, -, rfl⟩ | ⟨_, _, _, _, _, -, -, rfl⟩ | ⟨_, _, _, handled, -, rfl⟩⟩ :=
        step_handle D stepped
      · exact journaled key
      · exact journaled key
      · rw [StreamHandlerPool.handle_streamWriters handled envelope.sender, journaled]
        rfl
  | _ =>
      obtain ⟨samePool, sameJournal⟩ := step_pool_of_not_handle D stepped (by simp)
      rw [samePool, sameJournal, journaled]

theorem writersJournaled {s : System σ} (reachable : s.Reachable D) : s.WritersJournaled :=
  reachable.invariant D initial_writersJournaled (step_writersJournaled D)

/-- Each key holds the writer the newest Add or Remove of it left, whoever sent the Remove. -/
theorem streamWriters_eq_lastWriter {s : System σ} (reachable : s.Reachable D) (key : SocketAddr) :
    s.pool.streamWriters key = lastWriter key s.journal :=
  writersJournaled D reachable key

/-- A discriminator that never frames anything; the pool does not look at framing. -/
def silentDiscriminator : Discriminator Unit :=
  ⟨fun state _ => state, fun _ => none, fun _ => 0, by simp⟩

/-- The pool is bound, then handles one Add whose clones and peer lookups succeed. -/
def singleAdd : List (Event Unit) :=
  [.send (.bind ⟨⟨⟩, ⟨⟩⟩), .handle .succeeding,
    .send (.add ⟨⟨0, .V4 ⟨0x01020304⟩ 5679, .V4 ⟨0x7F000001⟩ 8080⟩, none, [⟨()⟩]⟩),
    .handle .succeeding]

theorem streamWriters_eq_lastWriter_after_add :
    ((initial.run silentDiscriminator singleAdd).getD initial).pool.streamWriters
        (.V4 ⟨0x01020304⟩ 5679) =
      lastWriter (.V4 ⟨0x01020304⟩ 5679)
        ((initial.run silentDiscriminator singleAdd).getD initial).journal :=
  streamWriters_eq_lastWriter silentDiscriminator ⟨singleAdd, rfl⟩ _

/-- Each writer is stored under its own stream key. -/
theorem streamKey_of_stored {s : System σ} (reachable : s.Reachable D) {key : SocketAddr}
    {writer : StreamWriterReal} (stored : s.pool.streamWriters key = some writer) :
    writer.streamKey = key :=
  lastWriter_streamKey (by rw [← writersJournaled D reachable key, stored])

theorem streamKey_of_stored_after_add :
    (⟨⟨0, .V4 ⟨0x01020304⟩ 5679, .V4 ⟨0x7F000001⟩ 8080⟩, .V4 ⟨0x01020304⟩ 5679⟩ :
      StreamWriterReal).streamKey = .V4 ⟨0x01020304⟩ 5679 :=
  @streamKey_of_stored Unit silentDiscriminator
    ((initial.run silentDiscriminator singleAdd).getD initial) ⟨singleAdd, rfl⟩ _ _ (by decide)

end System

end SubstratumNode
