import SubstratumNode.Reader.Delivery
import SubstratumNode.System.Effects

/-!
# One connection's stream, across any interleaving

While no other thread has a connection's key, the dispatcher receives under it what
`Delivers` promises for the connection's reads.
-/

namespace SubstratumNode

variable {σ : Type}

/-- The answer `read` gives reader thread `index` in this event, if the event is that. -/
def Event.readBy (index : Nat) : Event σ → Option ReadResult
  | .read other result _ => if other = index then some result else none
  | _ => none

/-- The stream key a thread's data messages carry, or will carry once it enters its loop. -/
def ReaderThread.streamKey? : ReaderThread σ → Option SocketAddr
  | .spawned waiting => some waiting.readStream.peerAddress
  | .running loop => some loop.reader.streamKey
  | .finished | .panicked _ => none

/-- The pool spawns a reader only for an Add, on the Add's stream. -/
theorem StreamHandlerPool.spawned_of_handle {pool after : StreamHandlerPool} {msg : PoolMsg σ}
    {outcomes : PoolOutcomes} {effects : List Effect} {spawned : SpawnedReader σ}
    (handled : pool.handle msg outcomes = .ok (after, effects, some spawned)) :
    ∃ added, msg = .add added ∧ spawned.readStream = added.stream := by
  cases msg with
  | add added =>
      rcases handleAdd_cases handled with ⟨-, -, -, unspawned⟩ | ⟨-, -, -, started⟩
      · cases unspawned
      · cases started
        exact ⟨added, rfl, rfl⟩
  | remove removed => cases handled
  | transmit transmitted =>
      obtain ⟨-, unspawned, -⟩ := handle_transmit_cases handled
      cases unspawned
  | bind bound => cases handled

theorem Effect.dispatched?_eq_data? {effect : Effect} (notClosing : effect.closing = false) :
    effect.dispatched? = effect.data? := by
  cases effect with
  | dispatch msg => simp [dispatched?, data?, show msg.lastData = false from notClosing]
  | _ => rfl

/-- The terminal `last_data` message of the dead-stream branch of `handle_traffic`. -/
def StreamReaderReal.terminal (reader : StreamReaderReal σ) : InboundClientData :=
  ⟨reader.streamKey, reader.originPort, .ProxyServer, true, []⟩

/-- What a pass that ends with `flow` sends the dispatcher after its data. -/
def Flow.closingMessages (reader : StreamReaderReal σ) : Flow → List InboundClientData
  | .stop => [reader.terminal]
  | .proceed => []

namespace ReadLoop

variable (D : Discriminator σ) {loop : ReadLoop σ} {discriminator : σ}
  (single : loop.reader.discriminators = [discriminator]) {result : ReadResult} {flow : Flow}
  {effects : List Effect} {next : ReadLoop σ}
  (handled : loop.handleRead D result = .ok (flow, effects, next))
include single handled

/-- A pass sends the messages the contract promises for its read, then any terminal message. -/
theorem handleRead_dispatched :
    ∃ chunks fed, result.Feeds D discriminator chunks fed ∧
      effects.filterMap Effect.dispatched? =
        chunks.map loop.reader.inboundClientData ++ flow.closingMessages loop.reader ∧
      (flow = .proceed → next.reader = { loop.reader with discriminators := [fed] }) := by
  rcases handleRead_of_single D single result with
    ⟨ends, stops⟩ | ⟨chunks, fed, _, _, feeds, proceeds, nextReader, data, notClosing⟩
  · rw [stops] at handled
    cases handled
    cases result with
    | ok data fits => cases ends
    | err error => exact ⟨[], discriminator, .error, rfl, fun proceeds => by cases proceeds⟩
  · rw [proceeds] at handled
    cases handled
    refine ⟨chunks, fed, feeds, ?_, fun _ => nextReader⟩
    rw [Flow.closingMessages, List.append_nil, ← data]
    exact List.filterMap_congr fun effect member =>
      Effect.dispatched?_eq_data? (notClosing effect member)

/-- Everything a pass sends the dispatcher is under the reader's key. -/
theorem dispatched_keyed :
    ∀ msg ∈ effects.filterMap Effect.dispatched?, msg.socketAddr = loop.reader.streamKey := by
  obtain ⟨chunks, -, -, sent, -⟩ := handleRead_dispatched D single handled
  intro msg member
  rw [sent] at member
  rcases List.mem_append.mp member with framed | closing
  · obtain ⟨chunk, -, rfl⟩ := List.mem_map.mp framed
    rfl
  · cases flow
    · cases closing
    · rw [List.mem_singleton.mp closing]
      rfl

end ReadLoop

namespace System

variable (D : Discriminator σ)

/-- No thread but `index` has, or will have, the stream key `key`. -/
def Alone (readers : List (ReaderThread σ)) (index : Nat) (key : SocketAddr) : Prop :=
  ∀ other thread, other ≠ index → readers[other]? = some thread → thread.streamKey? ≠ some key

/-- No Add for a stream whose peer address is `key` waits in the mailbox. -/
def NoQueuedAdd (mailbox : List (Envelope σ)) (key : SocketAddr) : Prop :=
  ∀ envelope ∈ mailbox, ∀ added, envelope.msg = .add added → added.stream.peerAddress ≠ key

section Alone

variable {readers : List (ReaderThread σ)} {index : Nat} {key : SocketAddr}

theorem Alone.set (alone : Alone readers index key) (other : Nat) {thread : ReaderThread σ}
    (keyed : thread.streamKey? ≠ some key) :
    Alone (readers.set other thread) index key := by
  intro position placed distinct found
  by_cases same : other = position
  · subst same
    simp only [List.getElem?_set, if_true, Option.ite_none_right_eq_some, Option.some.injEq] at found
    exact found.2 ▸ keyed
  · rw [List.getElem?_set_ne same] at found
    exact alone position placed distinct found

theorem Alone.set_self (alone : Alone readers index key) (thread : ReaderThread σ) :
    Alone (readers.set index thread) index key := fun other placed distinct found =>
  alone other placed distinct (by rwa [List.getElem?_set_ne (Ne.symm distinct)] at found)

theorem Alone.append (alone : Alone readers index key) {more : List (ReaderThread σ)}
    (keyed : ∀ thread ∈ more, thread.streamKey? ≠ some key) :
    Alone (readers ++ more) index key := by
  intro position thread distinct found
  by_cases old : position < readers.length
  · rw [List.getElem?_append_left old] at found
    exact alone position thread distinct found
  · rw [List.getElem?_append_right (Nat.le_of_not_lt old)] at found
    exact keyed thread (List.getElem?_mem found)

end Alone

theorem NoQueuedAdd.append_removals {mailbox : List (Envelope σ)} {key : SocketAddr}
    (noAdd : NoQueuedAdd mailbox key) (effects : List Effect) :
    NoQueuedAdd (mailbox ++ removals effects) key := by
  intro envelope member added isAdd
  rcases List.mem_append.mp member with queued | raised
  · exact noAdd envelope queued added isAdd
  · obtain ⟨request, removing⟩ := msg_of_mem_removals raised
    rw [removing] at isAdd
    cases isAdd

/-- What the dispatcher has received under a key from the effects `new`. -/
def received (key : SocketAddr) (new : List Effect) : List InboundClientData :=
  (new.filterMap Effect.dispatched?).filter (·.socketAddr = key)

theorem received_append (key : SocketAddr) (first second : List Effect) :
    received key (first ++ second) = received key first ++ received key second := by
  rw [received, List.filterMap_append, List.filter_append]
  rfl

theorem received_mono (key : SocketAddr) {performed effects : List Effect}
    (prefixed : performed <+: effects) : received key performed <+: received key effects :=
  (prefixed.filterMap _).filter _

theorem received_of_byPool (key : SocketAddr) {effects : List Effect}
    (pooled : ∀ effect ∈ effects, effect.byPool = true) : received key effects = [] := by
  rw [received, List.filterMap_eq_nil_iff.mpr fun effect member =>
    Effect.dispatched?_eq_none_of_byPool (pooled effect member)]
  rfl

/-- What thread `index` has sent under its key once `read` has given it `reads`. -/
def Fed (reader : StreamReaderReal σ) (discriminator : σ) (reads : List ReadResult)
    (received : List InboundClientData) : ReaderThread σ → Prop
  | .running loop => ∃ fed, Delivers D reader.streamKey reader.originPort discriminator reads
      received fed ∧ loop.reader = { reader with discriminators := [fed] }
  | .finished => ∃ messages fed,
      Delivers D reader.streamKey reader.originPort discriminator reads messages fed ∧
      received = messages ++ [reader.terminal]
  | .panicked _ => ∃ earlier messages fed fed',
      Delivers D reader.streamKey reader.originPort discriminator reads.dropLast earlier fed ∧
      Delivers D reader.streamKey reader.originPort discriminator reads messages fed' ∧
      earlier <+: received ∧ received <+: messages ++ [reader.terminal]
  | .spawned _ => False

/-- What a run from `start` keeps of reader thread `index`. -/
structure Delivering (start : System σ) (index : Nat) (reader : StreamReaderReal σ)
    (discriminator : σ) (reads : List ReadResult) (s : System σ) : Prop where
  delivered : ∃ new thread, s.trace = start.trace ++ new ∧ s.readers[index]? = some thread ∧
    Fed D reader discriminator reads (received reader.streamKey new) thread
  alone : Alone s.readers index reader.streamKey
  noQueuedAdd : NoQueuedAdd s.mailbox reader.streamKey

section Delivering

variable {start s after : System σ} {index : Nat} {reader : StreamReaderReal σ}
  {discriminator : σ} {reads : List ReadResult}

theorem Delivering.step_send (delivering : Delivering D start index reader discriminator reads s)
    {msg : PoolMsg σ} (stepped : s.step D (.send msg) = some after)
    (fresh : ∀ added, msg = .add added → added.stream.peerAddress ≠ reader.streamKey) :
    Delivering D start index reader discriminator reads after := by
  obtain ⟨delivered, alone, noQueuedAdd⟩ := delivering
  rcases System.step_send D stepped with ⟨-, rfl⟩ | ⟨-, rfl⟩
  · refine ⟨delivered, alone, fun envelope member added isAdd => ?_⟩
    rcases List.mem_append.mp member with queued | sent
    · exact noQueuedAdd envelope queued added isAdd
    · rw [List.mem_singleton.mp sent] at isAdd
      exact fresh added isAdd
  · exact ⟨delivered, alone, noQueuedAdd⟩

/-- The pool's moves send the dispatcher nothing and spawn no reader for the key. -/
theorem Delivering.step_handle (delivering : Delivering D start index reader discriminator reads s)
    {outcomes : PoolOutcomes} (stepped : s.step D (.handle outcomes) = some after) :
    Delivering D start index reader discriminator reads after := by
  obtain ⟨⟨new, thread, trace, current, fedThread⟩, alone, noQueuedAdd⟩ := delivering
  obtain ⟨envelope, rest, -, mailbox, outcome⟩ := System.step_handle D stepped
  have noRestAdd : NoQueuedAdd rest reader.streamKey := fun queued member =>
    noQueuedAdd queued (by rw [mailbox]; exact List.mem_cons_of_mem _ member)
  have silent : ∀ {effects : List Effect}, (∀ effect ∈ effects, effect.byPool = true) →
      Delivering D start index reader discriminator reads { s with
        mailbox := rest ++ removals effects, trace := s.trace ++ effects } := fun pooled =>
    ⟨⟨new ++ _, thread, by rw [trace, List.append_assoc], current,
      by rwa [received_append, received_of_byPool _ pooled, List.append_nil]⟩,
      alone, noRestAdd.append_removals _⟩
  rcases outcome with ⟨message, -, rfl⟩ | ⟨_, effects, _, performed, _, handled, performing, rfl⟩ |
    ⟨_, effects, spawned, handled, -, rfl⟩
  · exact ⟨⟨new, thread, trace, current, fedThread⟩, alone, noRestAdd⟩
  · have silenced := silent fun effect member => StreamHandlerPool.byPool_handle handled effect
      ((perform_fst_isPrefix false outcomes.refusedSend 0 effects).subset (by rw [performing]; exact member))
    exact ⟨silenced.1, silenced.2, silenced.3⟩
  · obtain ⟨⟨new', thread', trace', current', fedThread'⟩, alone', noQueuedAdd'⟩ :=
      silent (StreamHandlerPool.byPool_handle handled)
    refine ⟨⟨new', thread', trace',
      by rw [List.getElem?_append_left (List.getElem?_eq_some_iff.mp current').1]; exact current',
      fedThread'⟩, alone'.append fun added member => ?_, noQueuedAdd'⟩
    simp only [List.mem_map, Option.mem_toList, Option.mem_def] at member
    obtain ⟨spawnedReader, rfl, rfl⟩ := member
    obtain ⟨added, isAdd, stream⟩ := StreamHandlerPool.spawned_of_handle handled
    have apart := noQueuedAdd envelope (by rw [mailbox]; exact List.mem_cons_self _ _) added isAdd
    simpa [ReaderThread.streamKey?, stream] using apart

/-- Another thread entering its loop takes the key it was spawned for. -/
theorem Delivering.step_start (delivering : Delivering D start index reader discriminator reads s)
    {other : Nat} {outcomes : StartOutcomes} (stepped : s.step D (.start other outcomes) = some after) :
    Delivering D start index reader discriminator reads after := by
  obtain ⟨⟨new, thread, trace, current, fedThread⟩, alone, noQueuedAdd⟩ := delivering
  obtain ⟨spawned, found, rfl⟩ := System.step_start D stepped
  have apart : other ≠ index := by
    rintro rfl
    rw [found] at current
    cases current
    exact fedThread
  refine ⟨⟨new, thread, trace, by rw [List.getElem?_set_ne apart, current], fedThread⟩,
    alone.set other ?_, noQueuedAdd⟩
  have keyed := alone other (.spawned spawned) apart found
  split
  · obtain ⟨-, -, -, rfl⟩ := SpawnedReader.start_eq_ok ‹_›
    simpa [ReaderThread.streamKey?] using keyed
  · simp [ReaderThread.streamKey?]

/-- Another reader's pass sends the dispatcher messages only under its own key. -/
theorem Delivering.step_read_other (reachable : s.Reachable D)
    (delivering : Delivering D start index reader discriminator reads s) {other : Nat}
    (apart : other ≠ index) {result : ReadResult} {refused : Option Nat}
    (stepped : s.step D (.read other result refused) = some after) :
    Delivering D start index reader discriminator reads after := by
  obtain ⟨⟨new, thread, trace, current, fedThread⟩, alone, noQueuedAdd⟩ := delivering
  obtain ⟨loop, found, outcome⟩ := System.step_read D stepped
  have keyed : loop.reader.streamKey ≠ reader.streamKey := fun same =>
    alone other (.running loop) apart found (by rw [ReaderThread.streamKey?, same])
  have kept : ∀ replaced : ReaderThread σ, (s.readers.set other replaced)[index]? = some thread :=
    fun _ => by rw [List.getElem?_set_ne apart, current]
  obtain ⟨_, single⟩ := System.oneDiscriminator D reachable loop (List.getElem?_mem found)
  have silent : ∀ {effects performed : List Effect} {flow : Flow} {next : ReadLoop σ},
      loop.handleRead D result = .ok (flow, effects, next) → performed <+: effects →
      received reader.streamKey performed = [] := by
    intro effects performed flow next handled prefixed
    have none : received reader.streamKey effects = [] := List.filter_eq_nil_iff.mpr
      fun msg member => by simpa [ReadLoop.dispatched_keyed D single handled msg member] using keyed
    exact List.eq_nil_of_prefix_nil (none ▸ received_mono _ prefixed)
  rcases outcome with ⟨message, -, rfl⟩ | ⟨flow, effects, next, performed, message, handled,
      performing, rfl⟩ | ⟨flow, effects, next, handled, -, rfl⟩
  · exact ⟨⟨new, thread, trace, kept _, fedThread⟩,
      alone.set other (by simp [ReaderThread.streamKey?]), noQueuedAdd⟩
  · have prefixed := perform_fst_isPrefix s.crashed.isSome refused 0 effects
    rw [performing] at prefixed
    refine ⟨⟨new ++ performed, thread, by rw [trace, List.append_assoc], kept _,
      by rwa [received_append, silent handled prefixed, List.append_nil]⟩,
      alone.set other (by simp [ReaderThread.streamKey?]), noQueuedAdd.append_removals _⟩
  · refine ⟨⟨new ++ effects, thread, by rw [trace, List.append_assoc], kept _,
      by rwa [received_append, silent handled (List.prefix_refl _), List.append_nil]⟩,
      alone.set other ?_, noQueuedAdd.append_removals effects⟩
    obtain ⟨_, _, -, -, nextReader⟩ := ReadLoop.handleRead_dispatched D single handled
    cases flow
    · simpa [ReaderThread.streamKey?, nextReader rfl] using keyed
    · simp [ReaderThread.streamKey?]

/-- The connection's own pass sends what the contract promises for its read. -/
theorem Delivering.step_read_self (delivering : Delivering D start index reader discriminator reads s)
    {result : ReadResult} {refused : Option Nat}
    (stepped : s.step D (.read index result refused) = some after) :
    Delivering D start index reader discriminator (reads ++ [result]) after := by
  obtain ⟨⟨new, thread, trace, current, fedThread⟩, alone, noQueuedAdd⟩ := delivering
  obtain ⟨loop, found, outcome⟩ := System.step_read D stepped
  rw [found] at current
  cases current
  obtain ⟨fed, delivers, loopReader⟩ := fedThread
  have single : loop.reader.discriminators = [fed] := by rw [loopReader]
  have placed : ∀ thread : ReaderThread σ, (s.readers.set index thread)[index]? = some thread :=
    fun _ => List.getElem?_set_self (List.getElem?_eq_some_iff.mp found).1
  have ownKey : ∀ {effects : List Effect} {flow : Flow} {next : ReadLoop σ},
      loop.handleRead D result = .ok (flow, effects, next) →
      received reader.streamKey effects = effects.filterMap Effect.dispatched? :=
    fun handled => List.filter_eq_self.mpr fun msg member => by
      simp [ReadLoop.dispatched_keyed D single handled msg member, loopReader]
  rcases outcome with ⟨message, panicked, -⟩ | ⟨flow, effects, next, performed, message, handled,
      performing, rfl⟩ | ⟨flow, effects, next, handled, -, rfl⟩
  · rcases ReadLoop.handleRead_of_single D single result with ⟨-, ok⟩ | ⟨_, _, _, _, -, ok, -⟩ <;>
      rw [ok] at panicked <;> cases panicked
  · obtain ⟨chunks, fed', feeds, sent, -⟩ := ReadLoop.handleRead_dispatched D single handled
    have prefixed := perform_fst_isPrefix s.crashed.isSome refused 0 effects
    rw [performing] at prefixed
    have bounded : received reader.streamKey performed <+:
        chunks.map loop.reader.inboundClientData ++ [reader.terminal] := by
      refine (received_mono _ prefixed).trans ?_
      rw [ownKey handled, sent]
      cases flow
      · simp only [Flow.closingMessages, List.append_nil]
        exact List.prefix_append _ _
      · rw [loopReader]
        exact List.prefix_refl _
    refine ⟨⟨new ++ performed, _, by rw [trace, List.append_assoc], placed _,
      received reader.streamKey new, _, fed, fed', by rwa [List.dropLast_concat], delivers.snoc feeds,
      by rw [received_append]; exact List.prefix_append _ _, ?_⟩,
      alone.set_self _, noQueuedAdd.append_removals _⟩
    rw [received_append, List.append_assoc]
    exact (List.prefix_append_right_inj _).mpr (by rw [loopReader] at bounded; exact bounded)
  · obtain ⟨chunks, fed', feeds, sent, nextReader⟩ := ReadLoop.handleRead_dispatched D single handled
    have sentUnderKey := ownKey handled
    rw [sent, loopReader] at sentUnderKey
    refine ⟨⟨new ++ effects, _, by rw [trace, List.append_assoc], placed _, ?_⟩,
      alone.set_self _, noQueuedAdd.append_removals effects⟩
    rw [received_append, sentUnderKey]
    cases flow
    · exact ⟨fed', by simpa [Flow.closingMessages] using delivers.snoc feeds,
        by rw [nextReader rfl, loopReader]⟩
    · exact ⟨_, fed', delivers.snoc feeds, by rw [List.append_assoc]; rfl⟩

theorem step_delivering (reachable : s.Reachable D) {event : Event σ}
    (stepped : s.step D event = some after)
    (fresh : ∀ added, event = .send (.add added) → added.stream.peerAddress ≠ reader.streamKey)
    (delivering : Delivering D start index reader discriminator reads s) :
    Delivering D start index reader discriminator (reads ++ (event.readBy index).toList) after := by
  cases event with
  | send msg =>
      simpa [Event.readBy] using
        delivering.step_send D stepped fun added isAdd => fresh added (by rw [isAdd])
  | handle outcomes => simpa [Event.readBy] using delivering.step_handle D stepped
  | start other outcomes => simpa [Event.readBy] using delivering.step_start D stepped
  | read other result refused =>
      by_cases same : other = index
      · subst same
        simpa [Event.readBy] using delivering.step_read_self D stepped
      · simpa [Event.readBy, same] using delivering.step_read_other D reachable same stepped

end Delivering

/-- Per-connection delivery across any interleaving: the dispatcher receives under a thread's
key what the contract promises for its reads, then the terminal message, a refused send
cutting it short. -/
theorem dispatched_for_key_eq_inboundData {start s : System σ} (reachable : start.Reachable D)
    {index : Nat} {loop : ReadLoop σ} (found : start.readers[index]? = some (.running loop))
    (alone : Alone start.readers index loop.reader.streamKey)
    (noQueuedAdd : NoQueuedAdd start.mailbox loop.reader.streamKey) {events : List (Event σ)}
    (noSentAdd : ∀ added, .send (.add added) ∈ events →
      added.stream.peerAddress ≠ loop.reader.streamKey)
    (ran : start.run D events = some s) :
    ∃ discriminator new, loop.reader.discriminators = [discriminator] ∧
      s.trace = start.trace ++ new ∧
      ((∃ running fed, s.readers[index]? = some (.running running) ∧
          Delivers D loop.reader.streamKey loop.reader.originPort discriminator
            (events.filterMap (Event.readBy index)) (received loop.reader.streamKey new) fed) ∨
        (∃ messages fed, s.readers[index]? = some .finished ∧
          Delivers D loop.reader.streamKey loop.reader.originPort discriminator
            (events.filterMap (Event.readBy index)) messages fed ∧
          received loop.reader.streamKey new = messages ++ [loop.reader.terminal]) ∨
        ∃ message earlier messages fed fed', s.readers[index]? = some (.panicked message) ∧
          Delivers D loop.reader.streamKey loop.reader.originPort discriminator
            (events.filterMap (Event.readBy index)).dropLast earlier fed ∧
          Delivers D loop.reader.streamKey loop.reader.originPort discriminator
            (events.filterMap (Event.readBy index)) messages fed' ∧
          earlier <+: received loop.reader.streamKey new ∧
          received loop.reader.streamKey new <+: messages ++ [loop.reader.terminal]) := by
  obtain ⟨discriminator, single⟩ :=
    System.oneDiscriminator D reachable loop (List.getElem?_mem found)
  have delivering := @run_induction_of_all σ D
    (fun event => ∀ added, event = .send (.add added) →
      added.stream.peerAddress ≠ loop.reader.streamKey)
    (fun events s =>
      Delivering D start index loop.reader discriminator (events.filterMap (Event.readBy index)) s)
    start
    ⟨⟨[], _, by simp, found, discriminator, .nil, by rw [← single]⟩, alone, noQueuedAdd⟩
    (fun reached stepped fresh holds => by
      simpa only [List.filterMap_append_singleton] using
        step_delivering D (reachable.run D reached) stepped fresh holds)
    events s ran fun _ member added isAdd => noSentAdd added (isAdd ▸ member)
  obtain ⟨⟨new, thread, trace, current, fedThread⟩, -⟩ := delivering
  refine ⟨discriminator, new, single, trace, ?_⟩
  cases thread with
  | running running =>
      obtain ⟨fed, delivers, -⟩ := fedThread
      exact .inl ⟨running, fed, current, delivers⟩
  | finished =>
      obtain ⟨messages, fed, delivers, closed⟩ := fedThread
      exact .inr (.inl ⟨messages, fed, current, delivers, closed⟩)
  | panicked message =>
      obtain ⟨earlier, messages, fed, fed', before, delivers, lower, upper⟩ := fedThread
      exact .inr (.inr ⟨message, earlier, messages, fed, fed', current, before, delivers, lower, upper⟩)
  | spawned _ => exact fedThread.elim

/-- A timed-out read, a one-byte reply, then a broken stream. -/
def replyThenClose : List (Event Unit) :=
  [.read 0 (.err ⟨.TimedOut⟩) none,
    .send (.transmit ⟨.Socket (.V4 ⟨0x01020304⟩ 5679), false, [0x56]⟩),
    .handle ⟨⟨.ok (), .ok (), .ok (), .ok (), .ok ()⟩, .ok 1, none⟩,
    .read 0 (.err ⟨.BrokenPipe⟩) none]

theorem dispatched_for_key_eq_inboundData_reply :
    ∃ discriminator new,
      (⟨⟨0, .V4 ⟨0x01020304⟩ 5679, .V4 ⟨0x7F000001⟩ 8080⟩, .V4 ⟨0x01020304⟩ 5679, none, [()]⟩ :
        StreamReaderReal Unit).discriminators = [discriminator] ∧
      ((initial.run silentDiscriminator (singleStart ++ replyThenClose)).getD initial).trace =
        ((initial.run silentDiscriminator singleStart).getD initial).trace ++ new ∧
      ((∃ running fed, ((initial.run silentDiscriminator (singleStart ++ replyThenClose)).getD
            initial).readers[0]? = some (.running running) ∧
          Delivers silentDiscriminator (.V4 ⟨0x01020304⟩ 5679) none discriminator
            (replyThenClose.filterMap (Event.readBy 0)) (received (.V4 ⟨0x01020304⟩ 5679) new) fed) ∨
        (∃ messages fed, ((initial.run silentDiscriminator (singleStart ++ replyThenClose)).getD
            initial).readers[0]? = some .finished ∧
          Delivers silentDiscriminator (.V4 ⟨0x01020304⟩ 5679) none discriminator
            (replyThenClose.filterMap (Event.readBy 0)) messages fed ∧
          received (.V4 ⟨0x01020304⟩ 5679) new =
            messages ++ [⟨.V4 ⟨0x01020304⟩ 5679, none, .ProxyServer, true, []⟩]) ∨
        ∃ message earlier messages fed fed', ((initial.run silentDiscriminator
            (singleStart ++ replyThenClose)).getD initial).readers[0]? = some (.panicked message) ∧
          Delivers silentDiscriminator (.V4 ⟨0x01020304⟩ 5679) none discriminator
            (replyThenClose.filterMap (Event.readBy 0)).dropLast earlier fed ∧
          Delivers silentDiscriminator (.V4 ⟨0x01020304⟩ 5679) none discriminator
            (replyThenClose.filterMap (Event.readBy 0)) messages fed' ∧
          earlier <+: received (.V4 ⟨0x01020304⟩ 5679) new ∧
          received (.V4 ⟨0x01020304⟩ 5679) new <+:
            messages ++ [⟨.V4 ⟨0x01020304⟩ 5679, none, .ProxyServer, true, []⟩]) :=
  @dispatched_for_key_eq_inboundData Unit silentDiscriminator
    ((initial.run silentDiscriminator singleStart).getD initial)
    ((initial.run silentDiscriminator (singleStart ++ replyThenClose)).getD initial)
    ⟨singleStart, rfl⟩ 0
    ⟨⟨⟨0, .V4 ⟨0x01020304⟩ 5679, .V4 ⟨0x7F000001⟩ 8080⟩, .V4 ⟨0x01020304⟩ 5679, none, [()]⟩,
      8080, ReadBuffer.zeroed⟩ rfl
    (fun other thread apart found => by
      have readers : ((initial.run silentDiscriminator singleStart).getD initial).readers =
          [.running ⟨⟨⟨0, .V4 ⟨0x01020304⟩ 5679, .V4 ⟨0x7F000001⟩ 8080⟩, .V4 ⟨0x01020304⟩ 5679,
            none, [()]⟩, 8080, ReadBuffer.zeroed⟩] := rfl
      rw [readers] at found
      cases other with
      | zero => exact absurd rfl apart
      | succ position => simp at found)
    (fun envelope member => absurd member (List.not_mem_nil envelope))
    replyThenClose (fun added sent => by simp [replyThenClose] at sent) rfl

end System

end SubstratumNode
