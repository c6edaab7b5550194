import SubstratumNode.System.Delivery

/-!
# Where reader threads and effects come from

Reader threads and stored writers are made only by Adds whose clones both succeed, so
every effect but a log line is about a stream the pool accepted.
-/

namespace SubstratumNode

variable {σ : Type}

/-- The Add this handled message was, if both its clones succeeded. -/
def Handled.spawning? (handled : Handled σ) : Option (AddStreamMsg σ) :=
  match handled.envelope.msg with
  | .add added => if handled.outcomes.add.clonesSucceed then some added else none
  | _ => none

/-- The Adds the pool handled with both clones succeeding, oldest first. -/
def spawningAdds (journal : List (Handled σ)) : List (AddStreamMsg σ) :=
  journal.reverse.filterMap Handled.spawning?

theorem spawningAdds_cons (handled : Handled σ) (journal : List (Handled σ)) :
    spawningAdds (handled :: journal) = spawningAdds journal ++ handled.spawning?.toList := by
  rw [spawningAdds, List.reverse_cons, List.filterMap_append_singleton]
  rfl

/-- The thread holds, or reads in its loop, the stream `added` handed over. -/
def ReaderThread.SpawnedFor (added : AddStreamMsg σ) : ReaderThread σ → Prop
  | .spawned waiting => waiting = ⟨added.stream, added.originPort, added.discriminatorFactories⟩
  | .running loop => loop.reader.stream = added.stream ∧
      loop.reader.streamKey = added.stream.peerAddress ∧ loop.reader.originPort = added.originPort
  | .finished | .panicked _ => True

/-- What an effect is about; a log line is about no stream. -/
def Effect.About (stream : TcpStreamWrapper) (key : SocketAddr) (originPort : Option UInt16) :
    Effect → Prop
  | .dispatch msg => msg.socketAddr = key ∧ msg.originPort = originPort
  | .remove request sender => request.socketAddr = key ∧
      (sender = .reader stream.connection ∨ sender = .writer stream.connection)
  | .write connection _ _ | .shutdown connection _ => connection = stream.connection
  | .log _ => False

/-- A writer's own effects are about its stream, under its key, with any origin port. -/
theorem StreamWriterReal.Makes.about {writer : StreamWriterReal} {effect : Effect}
    (makes : writer.Makes effect) (originPort : Option UInt16) :
    effect.About writer.stream writer.streamKey originPort := by
  cases effect with
  | remove request sender => rw [makes.1, makes.2]; exact ⟨rfl, .inr rfl⟩
  | write connection data written => exact makes
  | shutdown connection how => exact makes
  | dispatch msg => cases makes
  | log entry => cases makes

namespace StreamHandlerPool

/-- The pool spawns a reader exactly for an Add whose clones both succeed. -/
theorem spawned_handle {pool after : StreamHandlerPool} {envelope : Envelope σ}
    {outcomes : PoolOutcomes} {effects : List Effect} {spawned : Option (SpawnedReader σ)}
    (handled : pool.handle envelope.msg outcomes = .ok (after, effects, spawned)) :
    spawned = (⟨envelope, outcomes⟩ : Handled σ).spawning?.map fun added =>
      ⟨added.stream, added.originPort, added.discriminatorFactories⟩ := by
  obtain ⟨msg, sender⟩ := envelope
  cases msg with
  | add added =>
      rcases handleAdd_cases handled with ⟨cloned, -, -, rfl⟩ | ⟨cloned, -, -, rfl⟩ <;>
        simp [Handled.spawning?, cloned]
  | remove removed => cases handled; rfl
  | transmit transmitted =>
      obtain ⟨-, rfl, -⟩ := handle_transmit_cases handled
      rfl
  | bind bound => cases handled; rfl

end StreamHandlerPool

/-- A writer the journal leaves under a key was stored by an Add whose clones both succeeded. -/
theorem lastWriter_spawningAdds {key : SocketAddr} {journal : List (Handled σ)}
    {writer : StreamWriterReal} (stored : lastWriter key journal = some writer) :
    ∃ added ∈ spawningAdds journal, writer = ⟨added.stream, added.stream.peerAddress⟩ := by
  induction journal with
  | nil => cases stored
  | cons handled older inductionHypothesis =>
      rw [spawningAdds_cons]
      simp only [lastWriter] at stored
      cases update : handled.writerUpdate key with
      | none =>
          rw [update, Option.getD_none] at stored
          obtain ⟨added, member, rfl⟩ := inductionHypothesis stored
          exact ⟨added, List.mem_append_left _ member, rfl⟩
      | some written =>
          rw [update, Option.getD_some] at stored
          subst stored
          obtain ⟨⟨msg, sender⟩, outcomes⟩ := handled
          cases msg with
          | add added =>
              simp only [Handled.writerUpdate] at update
              split at update
              · next registered =>
                  cases update
                  refine ⟨added, List.mem_append_right _ ?_, by rw [registered.2]⟩
                  simp [Handled.spawning?, registered.1]
              · cases update
          | remove removed =>
              simp only [Handled.writerUpdate] at update
              split at update <;> cases update
          | _ => cases update

namespace System

variable (D : Discriminator σ)

/-- Thread `i` belongs to the `i`-th Add whose clones both succeeded. -/
structure ThreadsOfAdds (s : System σ) : Prop where
  length : s.readers.length = (spawningAdds s.journal).length
  spawnedFor : ∀ (index : Nat) (added : AddStreamMsg σ) (thread : ReaderThread σ),
    (spawningAdds s.journal)[index]? = some added →
    s.readers[index]? = some thread → thread.SpawnedFor added

theorem initial_threadsOfAdds : (initial : System σ).ThreadsOfAdds :=
  ⟨rfl, fun _ _ _ found => by simp [spawningAdds, initial] at found⟩

/-- Replacing a thread by one that belongs to the same Add keeps the correspondence. -/
theorem ThreadsOfAdds.replace {s after : System σ} (threads : s.ThreadsOfAdds) {index : Nat}
    {old new : ReaderThread σ} (found : s.readers[index]? = some old)
    (readers : after.readers = s.readers.set index new) (journal : after.journal = s.journal)
    (kept : ∀ added, old.SpawnedFor added → new.SpawnedFor added) : after.ThreadsOfAdds := by
  refine ⟨by rw [readers, journal, List.length_set, threads.length], ?_⟩
  intro position added thread adds placed
  rw [journal] at adds
  rw [readers] at placed
  by_cases same : index = position
  · subst same
    rw [List.getElem?_set_self (List.getElem?_eq_some_iff.mp found).1] at placed
    cases placed
    exact kept added (threads.spawnedFor index added old adds found)
  · rw [List.getElem?_set_ne same] at placed
    exact threads.spawnedFor position added thread adds placed

/-- The pool's move appends a spawning Add and its thread to both lists. -/
theorem ThreadsOfAdds.step_handle {s after : System σ} (threads : s.ThreadsOfAdds)
    {outcomes : PoolOutcomes} (stepped : s.step D (.handle outcomes) = some after) :
    after.ThreadsOfAdds := by
  obtain ⟨envelope, rest, -, -, outcome⟩ := System.step_handle D stepped
  rcases outcome with ⟨message, -, rfl⟩ | ⟨_, _, _, _, _, -, -, rfl⟩ |
    ⟨_, effects, spawned, handled, -, rfl⟩
  · exact ⟨threads.length, threads.spawnedFor⟩
  · exact ⟨threads.length, threads.spawnedFor⟩
  rw [StreamHandlerPool.spawned_handle handled]
  refine ⟨?_, ?_⟩
  · show (s.readers ++ _).length = (spawningAdds (_ :: s.journal)).length
    rw [spawningAdds_cons, List.length_append, List.length_append, threads.length]
    cases (⟨envelope, outcomes⟩ : Handled σ).spawning? <;> rfl
  · intro index added thread adds placed
    rw [spawningAdds_cons] at adds
    by_cases old : index < s.readers.length
    · rw [List.getElem?_append_left old] at placed
      rw [List.getElem?_append_left (threads.length ▸ old)] at adds
      exact threads.spawnedFor index added thread adds placed
    · rw [List.getElem?_append_right (Nat.le_of_not_lt old)] at placed
      rw [List.getElem?_append_right (threads.length ▸ Nat.le_of_not_lt old)] at adds
      cases spawning : (⟨envelope, outcomes⟩ : Handled σ).spawning? with
      | none => simp [spawning] at adds
      | some spawnedAdd =>
          simp only [spawning, Option.toList_some, Option.map_some', List.map_cons,
            List.map_nil] at adds placed
          obtain rfl := List.mem_singleton.mp (List.getElem?_mem adds)
          obtain rfl := List.mem_singleton.mp (List.getElem?_mem placed)
          rfl

theorem step_threadsOfAdds {s after : System σ} {event : Event σ} (reachable : s.Reachable D)
    (stepped : s.step D event = some after) (threads : s.ThreadsOfAdds) : after.ThreadsOfAdds := by
  cases event with
  | send msg =>
      rcases System.step_send D stepped with ⟨-, rfl⟩ | ⟨-, rfl⟩ <;>
        exact ⟨threads.length, threads.spawnedFor⟩
  | handle outcomes => exact threads.step_handle D stepped
  | start index outcomes =>
      obtain ⟨spawned, found, rfl⟩ := System.step_start D stepped
      refine threads.replace found rfl rfl fun added belongs => ?_
      split
      · obtain ⟨-, -, -, rfl⟩ := SpawnedReader.start_eq_ok ‹_›
        rw [show spawned = _ from belongs]
        exact ⟨rfl, rfl, rfl⟩
      · trivial
  | read index result refused =>
      obtain ⟨loop, found, outcome⟩ := System.step_read D stepped
      rcases outcome with ⟨message, -, rfl⟩ | ⟨_, _, _, _, _, -, -, rfl⟩ |
        ⟨flow, effects, next, handled, -, rfl⟩
      · exact threads.replace found rfl rfl fun _ _ => trivial
      · exact threads.replace found rfl rfl fun _ _ => trivial
      obtain ⟨_, single⟩ := System.oneDiscriminator D reachable loop (List.getElem?_mem found)
      refine threads.replace found rfl rfl fun added belongs => ?_
      obtain ⟨_, _, -, -, nextReader⟩ := ReadLoop.handleRead_dispatched D single handled
      cases flow
      · show next.reader.stream = _ ∧ _
        rw [nextReader rfl]
        exact belongs
      · trivial

theorem threadsOfAdds {s : System σ} (reachable : s.Reachable D) : s.ThreadsOfAdds :=
  Reachable.invariant_of_reachable D initial_threadsOfAdds (step_threadsOfAdds D) reachable

/-- Reader threads correspond one to one, in order, to the Adds the pool handled with both
clones succeeding. -/
theorem readers_spawned_for_adds {s : System σ} (reachable : s.Reachable D) :
    s.readers.length = (spawningAdds s.journal).length ∧
      ∀ (index : Nat) (added : AddStreamMsg σ) (thread : ReaderThread σ),
        (spawningAdds s.journal)[index]? = some added →
        s.readers[index]? = some thread → thread.SpawnedFor added :=
  ⟨(threadsOfAdds D reachable).length, (threadsOfAdds D reachable).spawnedFor⟩

theorem readers_spawned_for_adds_after_start :
    ((initial.run silentDiscriminator singleStart).getD initial).readers.length =
        (spawningAdds ((initial.run silentDiscriminator singleStart).getD initial).journal).length ∧
      ∀ (index : Nat) (added : AddStreamMsg Unit) (thread : ReaderThread Unit),
        (spawningAdds ((initial.run silentDiscriminator singleStart).getD initial).journal)[index]? =
          some added →
        ((initial.run silentDiscriminator singleStart).getD initial).readers[index]? = some thread →
        thread.SpawnedFor added :=
  readers_spawned_for_adds silentDiscriminator ⟨singleStart, rfl⟩

/-- A reader's pass makes log lines and effects about its own stream. -/
theorem about_handleRead {loop : ReadLoop σ} {result : ReadResult} {flow : Flow}
    {effects : List Effect} {next : ReadLoop σ}
    (handled : loop.handleRead D result = .ok (flow, effects, next)) {effect : Effect}
    (member : effect ∈ effects) :
    (∃ entry, effect = .log entry) ∨
      effect.About loop.reader.stream loop.reader.streamKey loop.reader.originPort := by
  rcases effects_handleRead D handled member with closing | ⟨chunk, rfl⟩ | logged
  · simp only [StreamReaderReal.closingEffects, List.mem_cons, List.mem_singleton,
      List.not_mem_nil, or_false] at closing
    rcases closing with rfl | rfl | rfl
    · exact .inr ⟨rfl, .inl rfl⟩
    · exact .inr rfl
    · exact .inr ⟨rfl, rfl⟩
  · exact .inr ⟨rfl, rfl⟩
  · exact .inl logged

/-- The effect is a log line, or is about the stream of a spawning Add of the journal. -/
def AccountedBy (journal : List (Handled σ)) (effect : Effect) : Prop :=
  (∃ entry, effect = .log entry) ∨
    ∃ added ∈ spawningAdds journal,
      effect.About added.stream added.stream.peerAddress added.originPort

theorem AccountedBy.cons {journal : List (Handled σ)} {effect : Effect}
    (accounted : AccountedBy journal effect) (handled : Handled σ) :
    AccountedBy (handled :: journal) effect :=
  accounted.imp_right fun ⟨added, member, concerns⟩ =>
    ⟨added, by rw [spawningAdds_cons]; exact List.mem_append_left _ member, concerns⟩

/-- Every effect in the trace is accounted for by the journal. -/
def EffectsAboutAdds (s : System σ) : Prop :=
  ∀ effect ∈ s.trace, AccountedBy s.journal effect

theorem initial_effectsAboutAdds : (initial : System σ).EffectsAboutAdds :=
  fun _ absent => by cases absent

/-- The pool's effects are its stored writers', and a stored writer belongs to an Add. -/
theorem about_handle {s : System σ} (reachable : s.Reachable D) {msg : PoolMsg σ}
    {outcomes : PoolOutcomes} {after : StreamHandlerPool} {effects : List Effect}
    {spawned : Option (SpawnedReader σ)}
    (handled : s.pool.handle msg outcomes = .ok (after, effects, spawned)) {effect : Effect}
    (member : effect ∈ effects) : AccountedBy s.journal effect := by
  rcases StreamHandlerPool.makes_handle handled member with logged | ⟨key, writer, stored, makes⟩
  · exact .inl logged
  · rw [writersJournaled D reachable] at stored
    obtain ⟨added, added_mem, rfl⟩ := lastWriter_spawningAdds stored
    exact .inr ⟨added, added_mem, makes.about added.originPort⟩

/-- A running reader's effects are its own, and a reader belongs to an Add. -/
theorem about_read {s : System σ} (reachable : s.Reachable D) {index : Nat} {loop : ReadLoop σ}
    (found : s.readers[index]? = some (.running loop)) {result : ReadResult} {flow : Flow}
    {effects : List Effect} {next : ReadLoop σ}
    (handled : loop.handleRead D result = .ok (flow, effects, next)) {effect : Effect}
    (member : effect ∈ effects) : AccountedBy s.journal effect := by
  have threads := threadsOfAdds D reachable
  obtain ⟨added, adds⟩ : ∃ added, (spawningAdds s.journal)[index]? = some added :=
    ⟨_, List.getElem?_eq_getElem (threads.length ▸ (List.getElem?_eq_some_iff.mp found).1)⟩
  obtain ⟨stream, key, port⟩ := threads.spawnedFor index added _ adds found
  rcases about_handleRead D handled member with logged | concerns
  · exact .inl logged
  · rw [stream, key, port] at concerns
    exact .inr ⟨added, List.getElem?_mem adds, concerns⟩

theorem EffectsAboutAdds.append {s : System σ} (about : s.EffectsAboutAdds) {new : List Effect}
    (accounted : ∀ effect ∈ new, AccountedBy s.journal effect) :
    ∀ effect ∈ s.trace ++ new, AccountedBy s.journal effect :=
  fun effect traced => (List.mem_append.mp traced).elim (about effect) (accounted effect)

theorem step_effectsAboutAdds {s after : System σ} {event : Event σ} (reachable : s.Reachable D)
    (stepped : s.step D event = some after) (about : s.EffectsAboutAdds) :
    after.EffectsAboutAdds := by
  cases event with
  | send msg => rcases System.step_send D stepped with ⟨-, rfl⟩ | ⟨-, rfl⟩ <;> exact about
  | handle outcomes =>
      obtain ⟨envelope, rest, -, -, outcome⟩ := System.step_handle D stepped
      rcases outcome with ⟨message, -, rfl⟩ | ⟨_, effects, _, performed, _, handled, refused, rfl⟩ |
        ⟨_, effects, spawned, handled, -, rfl⟩
      · exact about
      · have prefixed := perform_fst_isPrefix false outcomes.refusedSend 0 effects
        rw [refused] at prefixed
        exact about.append fun effect member =>
          about_handle D reachable handled (prefixed.subset member)
      · exact fun effect traced =>
          (about.append (fun _ member => about_handle D reachable handled member) effect traced).cons _
  | start index outcomes =>
      obtain ⟨spawned, -, rfl⟩ := System.step_start D stepped
      exact about
  | read index result refused =>
      obtain ⟨loop, found, outcome⟩ := System.step_read D stepped
      rcases outcome with ⟨message, -, rfl⟩ |
        ⟨flow, effects, next, performed, message, handled, performing, rfl⟩ |
        ⟨flow, effects, next, handled, -, rfl⟩
      · exact about
      · have prefixed := perform_fst_isPrefix s.crashed.isSome refused 0 effects
        rw [performing] at prefixed
        exact about.append fun effect member =>
          about_read D reachable found handled (prefixed.subset member)
      · exact about.append fun effect member => about_read D reachable found handled member

theorem effectsAboutAdds {s : System σ} (reachable : s.Reachable D) : s.EffectsAboutAdds :=
  Reachable.invariant_of_reachable D initial_effectsAboutAdds (step_effectsAboutAdds D) reachable

/-- Every effect the system has had is a log line, or is about a stream handed over by an Add
whose clones both succeeded. -/
theorem effects_about_added_streams {s : System σ} (reachable : s.Reachable D) {effect : Effect}
    (traced : effect ∈ s.trace) :
    (∃ entry, effect = .log entry) ∨
      ∃ added ∈ spawningAdds s.journal,
        effect.About added.stream added.stream.peerAddress added.originPort :=
  effectsAboutAdds D reachable effect traced

theorem effects_about_added_streams_after_close :
    (∃ entry, Effect.dispatch ⟨.V4 ⟨0x01020304⟩ 5679, none, .ProxyServer, true, []⟩ = .log entry) ∨
      ∃ added ∈ spawningAdds ((initial.run silentDiscriminator singleClose).getD initial).journal,
        (Effect.dispatch ⟨.V4 ⟨0x01020304⟩ 5679, none, .ProxyServer, true, []⟩).About added.stream
          added.stream.peerAddress added.originPort :=
  effects_about_added_streams silentDiscriminator ⟨singleClose, rfl⟩
    (List.mem_cons_of_mem _ (List.mem_cons_of_mem _ (List.mem_singleton_self _)))

/-- Every removal request a reader or a writer has raised names the peer address of the
accepted stream on its own connection. -/
theorem removal_requests_name_added_streams {s : System σ} (reachable : s.Reachable D)
    (request : RemoveStreamMsg) (connection : Nat)
    (raised : Effect.remove request (.reader connection) ∈ s.trace ∨
      Effect.remove request (.writer connection) ∈ s.trace) :
    ∃ added ∈ spawningAdds s.journal, added.stream.connection = connection ∧
      added.stream.peerAddress = request.socketAddr := by
  obtain ⟨sender, raised, named⟩ : ∃ sender, Effect.remove request sender ∈ s.trace ∧
      (sender = .reader connection ∨ sender = .writer connection) := by
    rcases raised with byReader | byWriter
    exacts [⟨_, byReader, .inl rfl⟩, ⟨_, byWriter, .inr rfl⟩]
  rcases effectsAboutAdds D reachable _ raised with ⟨entry, logged⟩ | ⟨added, member, key, byConnection⟩
  · cases logged
  · refine ⟨added, member, ?_, key.symm⟩
    rcases named with rfl | rfl <;> rcases byConnection with same | same <;> cases same <;> rfl

theorem removal_requests_name_added_streams_after_close :
    ∃ added ∈ spawningAdds ((initial.run silentDiscriminator singleClose).getD initial).journal,
      added.stream.connection = 0 ∧ added.stream.peerAddress = .V4 ⟨0x01020304⟩ 5679 :=
  removal_requests_name_added_streams silentDiscriminator ⟨singleClose, rfl⟩
    ⟨.V4 ⟨0x01020304⟩ 5679⟩ 0 (.inl (List.mem_cons_self _ _))

end System

end SubstratumNode
