import SubstratumNode.System.Effects

/-!
# One connection's outbound bytes, across any interleaving

The bytes a connection accepts are the accepted prefixes of the transmits for its
key the pool handled, up to the first handled removal of the key.
-/

namespace SubstratumNode

variable {σ : Type}

/-- The bytes a stream accepts from one `write` of `data` answered `written`. -/
def writtenPrefix (data : List UInt8) : IoResult Nat → List UInt8
  | .ok size => data.take size
  | .err _ => []

namespace Handled

/-- Whether this handled message is a removal of `key`. -/
def removes (key : SocketAddr) (handled : Handled σ) : Bool :=
  match handled.envelope.msg with
  | .remove msg => msg.socketAddr = key
  | _ => false

/-- What this handled message writes to the stream stored under `key`. -/
def written (key : SocketAddr) (handled : Handled σ) : List UInt8 :=
  match handled.envelope.msg with
  | .transmit msg =>
      match StreamHandlerPool.resolveEndpoint msg.endpoint with
      | .ok target => if target = key then writtenPrefix msg.data handled.outcomes.written else []
      | .error _ => []
  | _ => []

theorem written_eq_nil_of_removes {key : SocketAddr} {handled : Handled σ}
    (removing : handled.removes key = true) : handled.written key = [] := by
  unfold removes at removing
  unfold written
  split at removing <;> simp_all

/-- With no Add for `key`, a handled message changes its writer only by removing it. -/
theorem writerUpdate_of_not_added {handled : Handled σ} {key : SocketAddr}
    (noAdd : ∀ added, handled.envelope.msg = .add added → added.stream.peerAddress ≠ key) :
    handled.writerUpdate key = if handled.removes key then some none else none := by
  obtain ⟨⟨msg, sender⟩, outcomes⟩ := handled
  cases msg with
  | add added => simp [writerUpdate, removes, noAdd added rfl]
  | remove removed => by_cases same : removed.socketAddr = key <;> simp [writerUpdate, removes, same]
  | _ => rfl

/-- A handled message stores a writer only over the stream of its Add. -/
theorem writerUpdate_eq_some {handled : Handled σ} {key : SocketAddr} {writer : StreamWriterReal}
    (update : handled.writerUpdate key = some (some writer)) :
    ∃ added, handled.envelope.msg = .add added ∧ writer.stream = added.stream := by
  obtain ⟨⟨msg, sender⟩, outcomes⟩ := handled
  cases msg with
  | add added =>
      simp only [writerUpdate] at update
      split at update <;> cases update
      exact ⟨added, rfl, rfl⟩
  | remove removed =>
      simp only [writerUpdate] at update
      split at update <;> cases update
  | _ => cases update

end Handled

/-- The bytes the stream under `key` accepts, oldest first, up to the first removal of `key`. -/
def acceptedUntilRemoved (key : SocketAddr) : List (Handled σ) → List UInt8
  | [] => []
  | handled :: later =>
      if handled.removes key then [] else handled.written key ++ acceptedUntilRemoved key later

theorem acceptedUntilRemoved_append_singleton (key : SocketAddr) (handled : List (Handled σ))
    (last : Handled σ) :
    acceptedUntilRemoved key (handled ++ [last]) =
      acceptedUntilRemoved key handled ++
        if handled.any (·.removes key) then [] else last.written key := by
  induction handled with
  | nil =>
      by_cases removing : last.removes key
      · simp [acceptedUntilRemoved, removing, Handled.written_eq_nil_of_removes removing]
      · simp [acceptedUntilRemoved, removing]
  | cons first rest inductionHypothesis =>
      by_cases removing : first.removes key <;>
        simp [acceptedUntilRemoved, removing, inductionHypothesis]

theorem StreamWriterReal.accepted_transmit (writer : StreamWriterReal) (data : List UInt8)
    (written : IoResult Nat) (connection : Nat) :
    (writer.transmit data written).2.flatMap (Effect.accepted connection) =
      if writer.stream.connection = connection then writtenPrefix data written else [] := by
  cases written with
  | ok size => simp [transmit, Effect.accepted, writtenPrefix]
  | err error =>
      simp only [transmit]
      split <;> simp [Effect.accepted, writtenPrefix]

namespace StreamHandlerPool

/-- The bytes the stream on `connection` accepts when the pool handles `msg`. -/
def acceptedBy (pool : StreamHandlerPool) (connection : Nat) : PoolMsg σ → IoResult Nat → List UInt8
  | .transmit msg, written =>
      match resolveEndpoint msg.endpoint with
      | .ok key =>
          match pool.streamWriters key with
          | some writer =>
              if writer.stream.connection = connection then writtenPrefix msg.data written else []
          | none => []
      | .error _ => []
  | _, _ => []

/-- What a handler writes is what `acceptedBy` says. -/
theorem accepted_handle {pool after : StreamHandlerPool} {msg : PoolMsg σ}
    {outcomes : PoolOutcomes} {effects : List Effect} {spawned : Option (SpawnedReader σ)}
    (handled : pool.handle msg outcomes = .ok (after, effects, spawned)) (connection : Nat) :
    effects.flatMap (Effect.accepted connection) = pool.acceptedBy connection msg outcomes.written := by
  cases msg with
  | add added => rcases handleAdd_cases handled with ⟨-, -, ⟨entry, rfl⟩, -⟩ | ⟨-, -, rfl, -⟩ <;> rfl
  | remove removed => cases handled; rfl
  | transmit transmitted =>
      obtain ⟨-, -, key, resolved, ⟨stored, rfl⟩ | ⟨writer, stored, rfl⟩⟩ :=
        handle_transmit_cases handled
      · simp [acceptedBy, resolved, stored, Effect.accepted]
      · have shut : (if transmitted.lastData then [writer.shutdown .Both] else []).flatMap
            (Effect.accepted connection) = [] := by
          split <;> rfl
        rw [List.flatMap_append, writer.accepted_transmit, shut, List.append_nil]
        simp [acceptedBy, resolved, stored]
  | bind bound => cases handled; rfl

/-- A handler whose write succeeded sends nothing through actix. -/
theorem sendPanic_handle_of_written {pool after : StreamHandlerPool} {msg : PoolMsg σ}
    {outcomes : PoolOutcomes} {effects : List Effect} {spawned : Option (SpawnedReader σ)}
    (handled : pool.handle msg outcomes = .ok (after, effects, spawned)) {size : Nat}
    (written : outcomes.written = .ok size) : ∀ effect ∈ effects, effect.sendPanic = none := by
  intro effect member
  cases msg with
  | add added =>
      rcases handleAdd_cases handled with ⟨-, -, ⟨entry, rfl⟩, -⟩ | ⟨-, -, rfl, -⟩
      · rw [List.mem_singleton.mp member]
        rfl
      · cases member
  | remove removed => cases handled; cases member
  | transmit transmitted =>
      obtain ⟨-, -, _, -, ⟨-, rfl⟩ | ⟨writer, -, rfl⟩⟩ := handle_transmit_cases handled
      · rw [List.mem_singleton.mp member]
        rfl
      · rw [written, StreamWriterReal.transmit_ok] at member
        split at member <;>
          simp only [List.mem_append, List.mem_singleton, List.not_mem_nil, or_false] at member <;>
          rcases member with rfl | rfl <;> rfl
  | bind bound => cases handled; cases member

/-- A handler that panics at a refused send has written nothing that a stream accepted. -/
theorem accepted_of_refused {pool after : StreamHandlerPool} {msg : PoolMsg σ}
    {outcomes : PoolOutcomes} {effects : List Effect} {spawned : Option (SpawnedReader σ)}
    (handled : pool.handle msg outcomes = .ok (after, effects, spawned)) {performed : List Effect}
    {message : String} (refused : perform false outcomes.refusedSend 0 effects = (performed, some message))
    (connection : Nat) : performed.flatMap (Effect.accepted connection) = [] := by
  have prefixed := perform_fst_isPrefix false outcomes.refusedSend 0 effects
  rw [refused] at prefixed
  cases written : outcomes.written with
  | ok size =>
      rw [perform_of_no_send false outcomes.refusedSend (sendPanic_handle_of_written handled written)]
        at refused
      cases refused
  | err error =>
      have none := accepted_handle handled connection
      have failed : pool.acceptedBy connection msg (.err error) = [] := by
        unfold acceptedBy
        repeat' split
        all_goals rfl
      rw [written, failed, List.flatMap_eq_nil_iff] at none
      exact List.flatMap_eq_nil_iff.mpr fun effect member => none effect (prefixed.subset member)

/-- No writer but the one under `key` writes to `connection`. -/
def OnlyWriter (pool : StreamHandlerPool) (key : SocketAddr) (connection : Nat) : Prop :=
  ∀ other writer, other ≠ key → pool.streamWriters other = some writer →
    writer.stream.connection ≠ connection

theorem acceptedBy_of_stored {pool : StreamHandlerPool} {key : SocketAddr}
    {writer : StreamWriterReal} (stored : pool.streamWriters key = some writer)
    (only : pool.OnlyWriter key writer.stream.connection) (handled : Handled σ) :
    pool.acceptedBy writer.stream.connection handled.envelope.msg handled.outcomes.written =
      handled.written key := by
  obtain ⟨⟨msg, sender⟩, outcomes⟩ := handled
  cases msg with
  | transmit transmitted =>
      cases resolved : resolveEndpoint transmitted.endpoint with
      | error message => simp [acceptedBy, Handled.written, resolved]
      | ok target =>
          by_cases same : target = key
          · subst same
            simp [acceptedBy, Handled.written, resolved, stored]
          · cases other : pool.streamWriters target with
            | none => simp [acceptedBy, Handled.written, resolved, other, same]
            | some otherWriter =>
                simp [acceptedBy, Handled.written, resolved, other, same,
                  only target otherWriter same other]
  | _ => rfl

theorem acceptedBy_of_removed {pool : StreamHandlerPool} {key : SocketAddr} {connection : Nat}
    (removed : pool.streamWriters key = none) (only : pool.OnlyWriter key connection)
    (msg : PoolMsg σ) (written : IoResult Nat) : pool.acceptedBy connection msg written = [] := by
  cases msg with
  | transmit transmitted =>
      cases resolved : resolveEndpoint transmitted.endpoint with
      | error message => simp [acceptedBy, resolved]
      | ok target =>
          by_cases same : target = key
          · subst same
            simp [acceptedBy, resolved, removed]
          · cases other : pool.streamWriters target with
            | none => simp [acceptedBy, resolved, other]
            | some otherWriter => simp [acceptedBy, resolved, other, only target otherWriter same other]
  | _ => rfl

end StreamHandlerPool

namespace System

open StreamHandlerPool

variable (D : Discriminator σ)

/-- No Add waiting in the mailbox is for `key` or for a stream on `connection`. -/
def NoAddFor (mailbox : List (Envelope σ)) (key : SocketAddr) (connection : Nat) : Prop :=
  ∀ envelope ∈ mailbox, ∀ added, envelope.msg = .add added →
    added.stream.peerAddress ≠ key ∧ added.stream.connection ≠ connection

theorem NoAddFor.append_removals {mailbox : List (Envelope σ)} {key : SocketAddr}
    {connection : Nat} (noAdd : NoAddFor mailbox key connection) (effects : List Effect) :
    NoAddFor (mailbox ++ removals effects) key connection := by
  intro envelope member added isAdd
  rcases List.mem_append.mp member with queued | raised
  · exact noAdd envelope queued added isAdd
  · obtain ⟨request, removing⟩ := msg_of_mem_removals raised
    rw [removing] at isAdd
    cases isAdd

/-- What a run from `start` keeps of the connection stored under `key` there. -/
structure Writing (start : System σ) (key : SocketAddr) (writer : StreamWriterReal)
    (s : System σ) : Prop where
  /-- Since `start`, the connection accepted what the transmits for `key` wrote. -/
  accepted : ∃ new newer, s.trace = start.trace ++ new ∧ s.journal = newer ++ start.journal ∧
    new.flatMap (Effect.accepted writer.stream.connection) = acceptedUntilRemoved key newer.reverse ∧
    s.pool.streamWriters key = if newer.any (·.removes key) then none else some writer
  /-- No other writer writes to the connection. -/
  onlyWriter : s.pool.OnlyWriter key writer.stream.connection
  /-- No Add for the key or for the connection waits in the mailbox. -/
  noAdd : NoAddFor s.mailbox key writer.stream.connection

section Writing

variable {start s after : System σ} {key : SocketAddr} {writer : StreamWriterReal}

/-- A move that changes neither pool nor journal and writes nothing keeps `Writing`. -/
theorem Writing.of_silent (writing : Writing start key writer s) (effects : List Effect)
    (silent : effects.flatMap (Effect.accepted writer.stream.connection) = [])
    (samePool : after.pool = s.pool) (sameJournal : after.journal = s.journal)
    (trace : after.trace = s.trace ++ effects)
    (noAdd : NoAddFor after.mailbox key writer.stream.connection) :
    Writing start key writer after := by
  obtain ⟨⟨new, newer, traced, journal, accepted, stored⟩, only, -⟩ := writing
  refine ⟨⟨new ++ effects, newer, by rw [trace, traced, List.append_assoc],
    by rw [sameJournal, journal], by rw [List.flatMap_append, accepted, silent, List.append_nil],
    by rw [samePool, stored]⟩, by rw [OnlyWriter, samePool]; exact only, noAdd⟩

/-- The pool's move writes what the handled message writes to the stored writer. -/
theorem Writing.step_handle (writing : Writing start key writer s) {outcomes : PoolOutcomes}
    (stepped : s.step D (.handle outcomes) = some after) :
    Writing start key writer after := by
  obtain ⟨envelope, rest, -, mailbox, outcome⟩ := System.step_handle D stepped
  have noRestAdd : NoAddFor rest key writer.stream.connection := fun queued member =>
    writing.noAdd queued (by rw [mailbox]; exact List.mem_cons_of_mem _ member)
  rcases outcome with ⟨message, -, rfl⟩ | ⟨_, effects, _, performed, _, handled, refused, rfl⟩ |
    ⟨_, effects, spawned, handled, -, rfl⟩
  · exact writing.of_silent [] rfl rfl rfl (List.append_nil _).symm noRestAdd
  · exact writing.of_silent performed (accepted_of_refused handled refused _) rfl rfl rfl
      (noRestAdd.append_removals performed)
  obtain ⟨⟨new, newer, traced, journaled, accepted, stored⟩, only, noAdd⟩ := writing
  have headNoAdd := noAdd envelope (by rw [mailbox]; exact List.mem_cons_self _ _)
  refine ⟨⟨new ++ effects, ⟨envelope, outcomes⟩ :: newer, by rw [traced, List.append_assoc],
    by rw [journaled, List.cons_append], ?_, ?_⟩, ?_, noRestAdd.append_removals effects⟩
  · rw [List.reverse_cons, acceptedUntilRemoved_append_singleton, List.flatMap_append, accepted,
      accepted_handle handled, List.any_reverse]
    congr 1
    split
    · next removed =>
        rw [if_pos removed] at stored
        exact acceptedBy_of_removed stored only _ _
    · next kept =>
        rw [if_neg kept] at stored
        exact acceptedBy_of_stored stored only ⟨envelope, outcomes⟩
  · rw [StreamHandlerPool.handle_streamWriters handled envelope.sender,
      Handled.writerUpdate_of_not_added fun added isAdd => (headNoAdd added isAdd).1, stored]
    by_cases removing : (⟨envelope, outcomes⟩ : Handled σ).removes key <;> simp [removing]
  · intro other otherWriter apart found
    rw [StreamHandlerPool.handle_streamWriters handled envelope.sender] at found
    cases update : (⟨⟨envelope.msg, envelope.sender⟩, outcomes⟩ : Handled σ).writerUpdate other with
    | none =>
        rw [update, Option.getD_none] at found
        exact only other otherWriter apart found
    | some written =>
        rw [update, Option.getD_some] at found
        subst found
        obtain ⟨added, isAdd, stream⟩ := Handled.writerUpdate_eq_some update
        rw [stream]
        exact (headNoAdd added isAdd).2

theorem step_writing {event : Event σ} (stepped : s.step D event = some after)
    (fresh : ∀ added, event = .send (.add added) →
      added.stream.peerAddress ≠ key ∧ added.stream.connection ≠ writer.stream.connection)
    (writing : Writing start key writer s) : Writing start key writer after := by
  cases event with
  | send msg =>
      rcases System.step_send D stepped with ⟨-, rfl⟩ | ⟨-, rfl⟩
      · refine writing.of_silent [] rfl rfl rfl (List.append_nil _).symm ?_
        intro envelope member added isAdd
        rcases List.mem_append.mp member with queued | sent
        · exact writing.noAdd envelope queued added isAdd
        · rw [List.mem_singleton.mp sent] at isAdd
          exact fresh added (congrArg Event.send isAdd)
      · exact writing.of_silent [] rfl rfl rfl (List.append_nil _).symm writing.noAdd
  | handle outcomes => exact writing.step_handle D stepped
  | start index outcomes =>
      obtain ⟨spawned, -, rfl⟩ := System.step_start D stepped
      exact writing.of_silent [] rfl rfl rfl (List.append_nil _).symm writing.noAdd
  | read index result refused =>
      obtain ⟨loop, -, outcome⟩ := System.step_read D stepped
      have unwritten : ∀ {flow : Flow} {effects performed : List Effect} {next : ReadLoop σ},
          loop.handleRead D result = .ok (flow, effects, next) → performed <+: effects →
          performed.flatMap (Effect.accepted writer.stream.connection) = [] :=
        fun handled prefixed => List.flatMap_eq_nil_iff.mpr fun effect member => by
          have read := byReader_handleRead D handled effect (prefixed.subset member)
          cases effect with
          | write connection data written => cases read
          | _ => rfl
      rcases outcome with ⟨message, -, rfl⟩ |
        ⟨flow, effects, next, performed, message, handled, performing, rfl⟩ |
        ⟨flow, effects, next, handled, -, rfl⟩
      · exact writing.of_silent [] rfl rfl rfl (List.append_nil _).symm writing.noAdd
      · have prefixed := perform_fst_isPrefix s.crashed.isSome refused 0 effects
        rw [performing] at prefixed
        exact writing.of_silent performed (unwritten handled prefixed) rfl rfl rfl
          (writing.noAdd.append_removals performed)
      · exact writing.of_silent effects (unwritten handled (List.prefix_refl _)) rfl rfl rfl
          (writing.noAdd.append_removals effects)

end Writing

/-- Per-connection outbound order across any interleaving: a connection accepts the accepted
prefixes of the transmits for its key, oldest first, up to the first handled removal. -/
theorem accepted_eq_acceptedUntilRemoved {start s : System σ} {key : SocketAddr}
    {writer : StreamWriterReal} (stored : start.pool.streamWriters key = some writer)
    (only : start.pool.OnlyWriter key writer.stream.connection)
    (noAdd : NoAddFor start.mailbox key writer.stream.connection) {events : List (Event σ)}
    (noSentAdd : ∀ added, .send (.add added) ∈ events →
      added.stream.peerAddress ≠ key ∧ added.stream.connection ≠ writer.stream.connection)
    (ran : start.run D events = some s) :
    ∃ new newer, s.trace = start.trace ++ new ∧ s.journal = newer ++ start.journal ∧
      new.flatMap (Effect.accepted writer.stream.connection) =
        acceptedUntilRemoved key newer.reverse ∧
      s.pool.streamWriters key = if newer.any (·.removes key) then none else some writer := by
  exact (@run_induction_of_all σ D (fun event => ∀ added : AddStreamMsg σ,
      event = .send (.add added) →
        added.stream.peerAddress ≠ key ∧ added.stream.connection ≠ writer.stream.connection)
    (fun _ s => Writing start key writer s) start ⟨⟨[], [], by simp, rfl, rfl, stored⟩, only, noAdd⟩
    (fun _ stepped fresh holds => step_writing D stepped fresh holds) events s ran
    fun _ member added isAdd => noSentAdd added (isAdd ▸ member)).accepted

/-- Two bytes, a removal and one more byte to the connection of `singleAdd`. -/
def transmitRemoveTransmit : List (Event Unit) :=
  [.send (.transmit ⟨.Socket (.V4 ⟨0x01020304⟩ 5679), false, [0x12, 0x34]⟩),
    .send (.remove ⟨.V4 ⟨0x01020304⟩ 5679⟩),
    .send (.transmit ⟨.Socket (.V4 ⟨0x01020304⟩ 5679), true, [0x56]⟩),
    .handle ⟨⟨.ok (), .ok (), .ok (), .ok (), .ok ()⟩, .ok 1, none⟩,
    .handle .succeeding,
    .handle ⟨⟨.ok (), .ok (), .ok (), .ok (), .ok ()⟩, .ok 1, none⟩]

theorem accepted_eq_acceptedUntilRemoved_after_removal :
    ∃ new newer,
      ((initial.run silentDiscriminator (singleAdd ++ transmitRemoveTransmit)).getD initial).trace =
        ((initial.run silentDiscriminator singleAdd).getD initial).trace ++ new ∧
      ((initial.run silentDiscriminator (singleAdd ++ transmitRemoveTransmit)).getD
          initial).journal =
        newer ++ ((initial.run silentDiscriminator singleAdd).getD initial).journal ∧
      new.flatMap (Effect.accepted 0) =
        acceptedUntilRemoved (.V4 ⟨0x01020304⟩ 5679) newer.reverse ∧
      ((initial.run silentDiscriminator (singleAdd ++ transmitRemoveTransmit)).getD
          initial).pool.streamWriters (.V4 ⟨0x01020304⟩ 5679) =
        if newer.any (·.removes (.V4 ⟨0x01020304⟩ 5679)) then none
        else some ⟨⟨0, .V4 ⟨0x01020304⟩ 5679, .V4 ⟨0x7F000001⟩ 8080⟩, .V4 ⟨0x01020304⟩ 5679⟩ :=
  @accepted_eq_acceptedUntilRemoved Unit silentDiscriminator
    ((initial.run silentDiscriminator singleAdd).getD initial)
    ((initial.run silentDiscriminator (singleAdd ++ transmitRemoveTransmit)).getD initial)
    (.V4 ⟨0x01020304⟩ 5679) ⟨⟨0, .V4 ⟨0x01020304⟩ 5679, .V4 ⟨0x7F000001⟩ 8080⟩, .V4 ⟨0x01020304⟩ 5679⟩
    rfl
    (fun other stored apart found => by
      have writers : ((initial.run silentDiscriminator singleAdd).getD initial).pool.streamWriters =
          Function.update (fun _ => none) (.V4 ⟨0x01020304⟩ 5679)
            (some ⟨⟨0, .V4 ⟨0x01020304⟩ 5679, .V4 ⟨0x7F000001⟩ 8080⟩, .V4 ⟨0x01020304⟩ 5679⟩) := rfl
      rw [writers, Function.update_noteq apart] at found
      cases found)
    (fun envelope member => absurd member (List.not_mem_nil envelope))
    transmitRemoveTransmit (fun added sent => by simp [transmitRemoveTransmit] at sent) rfl

end System

end SubstratumNode
