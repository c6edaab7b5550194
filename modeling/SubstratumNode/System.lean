import SubstratumNode.Pool

/-!
# The pool among its readers

The pool with its mailbox, its reader threads and a supervisor that sends to it; an
interleaving is a list of `Event`s.  A `try_send` actix refuses panics its thread.
-/

namespace SubstratumNode

/-- A message in the pool's mailbox and who sent it. -/
structure Envelope (σ : Type) where
  msg : PoolMsg σ
  sender : Sender

/-- A message the pool handled, with the answers its handler's calls got. -/
structure Handled (σ : Type) where
  envelope : Envelope σ
  outcomes : PoolOutcomes

/-- A reader thread: spawned and not yet in its loop, running its loop, or ended. -/
inductive ReaderThread (σ : Type) where
  | spawned (spawned : SpawnedReader σ)
  | running (loop : ReadLoop σ)
  | finished
  | panicked (message : String)

/-- The pool, its mailbox and its reader threads; `journal` is ghost state. -/
structure System (σ : Type) where
  pool : StreamHandlerPool
  mailbox : List (Envelope σ)
  readers : List (ReaderThread σ)
  journal : List (Handled σ)
  trace : List Effect
  crashed : Option String

/-- Who moves next, and what the operating system and actix answer. -/
inductive Event (σ : Type) where
  | send (msg : PoolMsg σ)
  | handle (outcomes : PoolOutcomes)
  | start (index : Nat) (outcomes : StartOutcomes)
  /-- Reader thread `index`'s `read` returns `result`; its `refusedSend`-th send is refused. -/
  | read (index : Nat) (result : ReadResult) (refusedSend : Option Nat)

/-- The removal requests among `effects`, as they join the pool's mailbox. -/
def removals {σ : Type} (effects : List Effect) : List (Envelope σ) :=
  effects.filterMap fun effect => effect.removal?.map fun request => ⟨.remove request.1, request.2⟩

@[simp]
theorem removals_append {σ : Type} (first second : List Effect) :
    (removals (first ++ second) : List (Envelope σ)) = removals first ++ removals second :=
  List.filterMap_append _ _ _

/-- The `expect` message of an effect that is a `try_send`. -/
def Effect.sendPanic : Effect → Option String
  | .dispatch _ => some "Dispatcher is dead"
  | .remove _ (.writer _) => some "Internal error: StreamHandlerPool is dead"
  | .remove _ _ => some "StreamHandlerPool is dead"
  | _ => none

/-- A thread's effects up to the first send actix refuses, and that send's panic. -/
def perform (poolStopped : Bool) (refused : Option Nat) :
    Nat → List Effect → List Effect × Option String
  | _, [] => ([], none)
  | sent, effect :: rest =>
      match effect.sendPanic with
      | none =>
          let later := perform poolStopped refused sent rest
          (effect :: later.1, later.2)
      | some message =>
          if refused = some sent ∨ poolStopped = true ∧ effect.removal?.isSome = true then
            ([], some message)
          else
            let later := perform poolStopped refused (sent + 1) rest
            (effect :: later.1, later.2)

section Perform

variable (poolStopped : Bool) (refused : Option Nat)

theorem perform_fst_isPrefix : ∀ (sent : Nat) (effects : List Effect),
    (perform poolStopped refused sent effects).1 <+: effects
  | _, [] => List.prefix_refl _
  | sent, effect :: rest => by
      unfold perform
      split
      · exact (List.prefix_cons_inj _).mpr (perform_fst_isPrefix sent rest)
      · split
        · exact List.nil_prefix
        · exact (List.prefix_cons_inj _).mpr (perform_fst_isPrefix (sent + 1) rest)

theorem perform_of_completed : ∀ {sent : Nat} {effects : List Effect},
    (perform poolStopped refused sent effects).2 = none →
      (perform poolStopped refused sent effects).1 = effects
  | _, [], _ => rfl
  | sent, effect :: rest, completed => by
      unfold perform at completed ⊢
      split at completed
      · next => exact congrArg (effect :: ·) (perform_of_completed completed)
      · next message _ =>
          split at completed
          · cases completed
          · rw [if_neg ‹_›]
            exact congrArg (effect :: ·) (perform_of_completed completed)

theorem perform_of_no_send : ∀ {sent : Nat} {effects : List Effect},
    (∀ effect ∈ effects, effect.sendPanic = none) →
      perform poolStopped refused sent effects = (effects, none)
  | _, [], _ => rfl
  | sent, effect :: rest, silent => by
      have quiet : effect.sendPanic = none := silent effect (List.mem_cons_self _ _)
      simp only [perform, quiet,
        perform_of_no_send fun other member => silent other (List.mem_cons_of_mem _ member)]

end Perform

namespace System

variable {σ : Type} (D : Discriminator σ)

/-- A fresh pool, before its bind, with no reader. -/
def initial : System σ := ⟨StreamHandlerPool.new, [], [], [], [], none⟩

/-- One move of the system.  The supervisor's messages to the stopped pool are lost. -/
def step (s : System σ) : Event σ → Option (System σ)
  | .send msg =>
      match s.crashed with
      | none => some { s with mailbox := s.mailbox ++ [⟨msg, .supervisor⟩] }
      | some _ => some s
  | .handle outcomes =>
      match s.crashed, s.mailbox with
      | none, envelope :: rest =>
          match s.pool.handle envelope.msg outcomes with
          | .error message => some { s with mailbox := rest, crashed := some message }
          | .ok (pool, effects, spawned) =>
              match perform false outcomes.refusedSend 0 effects with
              | (performed, some message) =>
                  some { s with
                    mailbox := rest ++ removals performed, trace := s.trace ++ performed,
                    crashed := some message }
              | (_, none) =>
                  some { s with
                    pool := pool, mailbox := rest ++ removals effects,
                    readers := s.readers ++ spawned.toList.map .spawned,
                    journal := ⟨envelope, outcomes⟩ :: s.journal, trace := s.trace ++ effects }
      | _, _ => none
  | .start index outcomes =>
      match s.readers[index]? with
      | some (.spawned spawned) =>
          some { s with
            readers := s.readers.set index
              (match spawned.start outcomes with
                | .ok loop => .running loop
                | .error message => .panicked message) }
      | _ => none
  | .read index result refusedSend =>
      match s.readers[index]? with
      | some (.running loop) =>
          match loop.handleRead D result with
          | .error message => some { s with readers := s.readers.set index (.panicked message) }
          | .ok (flow, effects, next) =>
              match perform s.crashed.isSome refusedSend 0 effects with
              | (performed, some message) =>
                  some { s with
                    readers := s.readers.set index (.panicked message),
                    mailbox := s.mailbox ++ removals performed, trace := s.trace ++ performed }
              | (_, none) =>
                  some { s with
                    readers := s.readers.set index
                      (match flow with
                        | .proceed => .running next
                        | .stop => .finished),
                    mailbox := s.mailbox ++ removals effects, trace := s.trace ++ effects }
      | _ => none

/-- The system after `events`, when each of them can happen in turn. -/
def run (s : System σ) : List (Event σ) → Option (System σ)
  | [] => some s
  | event :: rest => (s.step D event).bind (·.run rest)

/-- A state some interleaving reaches from a fresh pool. -/
def Reachable (s : System σ) : Prop :=
  ∃ events, initial.run D events = some s

@[simp]
theorem run_nil (s : System σ) : s.run D [] = some s := rfl

theorem run_cons (s : System σ) (event : Event σ) (rest : List (Event σ)) :
    s.run D (event :: rest) = (s.step D event).bind (·.run D rest) := rfl

theorem run_append (s : System σ) (first second : List (Event σ)) :
    s.run D (first ++ second) = (s.run D first).bind (·.run D second) := by
  induction first generalizing s with
  | nil => rfl
  | cons event rest inductionHypothesis =>
      simp only [List.cons_append, run_cons, Option.bind_assoc, inductionHypothesis]

theorem Reachable.step {s after : System σ} (reachable : s.Reachable D) {event : Event σ}
    (stepped : s.step D event = some after) : after.Reachable D := by
  obtain ⟨events, ran⟩ := reachable
  exact ⟨events ++ [event], by rw [run_append, ran]; simp [run_cons, stepped]⟩

theorem Reachable.run {s after : System σ} (reachable : s.Reachable D) {events : List (Event σ)}
    (ran : s.run D events = some after) : after.Reachable D := by
  obtain ⟨before, reached⟩ := reachable
  exact ⟨before ++ events, by rw [run_append, reached]; exact ran⟩

/-- A property that every step keeps holds after every run. -/
theorem run_invariant {P : System σ → Prop}
    (preserved : ∀ {s after : System σ} {event : Event σ}, s.step D event = some after → P s → P after)
    {s after : System σ} {events : List (Event σ)} (ran : s.run D events = some after)
    (holds : P s) : P after := by
  induction events generalizing s with
  | nil => cases ran; exact holds
  | cons event rest inductionHypothesis =>
      rw [run_cons] at ran
      cases stepped : s.step D event with
      | none => rw [stepped] at ran; cases ran
      | some next =>
          rw [stepped] at ran
          exact inductionHypothesis ran (preserved stepped holds)

theorem Reachable.invariant {P : System σ → Prop} (initialHolds : P initial)
    (preserved : ∀ {s after : System σ} {event : Event σ}, s.step D event = some after → P s → P after)
    {s : System σ} (reachable : s.Reachable D) : P s := by
  obtain ⟨events, ran⟩ := reachable
  exact run_invariant D preserved ran initialHolds

/-- The same rule when the step may use that its state is reachable. -/
theorem Reachable.invariant_of_reachable {P : System σ → Prop} (initialHolds : P initial)
    (preserved : ∀ {s after : System σ} {event : Event σ}, s.Reachable D →
      s.step D event = some after → P s → P after)
    {s : System σ} (reachable : s.Reachable D) : P s :=
  (@Reachable.invariant σ D (fun state => state.Reachable D ∧ P state) ⟨⟨[], rfl⟩, initialHolds⟩
    (fun stepped held => ⟨held.1.step D stepped, preserved held.1 stepped held.2⟩) s reachable).2

theorem run_snoc (s : System σ) (events : List (Event σ)) (event : Event σ) :
    s.run D (events ++ [event]) = (s.run D events).bind (·.step D event) := by
  rw [run_append]
  congr 1
  funext reached
  rw [run_cons]
  exact Option.bind_some _

/-- A property of the events so far and of their state, kept by every step, holds after a run. -/
theorem run_induction {P : List (Event σ) → System σ → Prop} {start : System σ}
    (startHolds : P [] start)
    (preserved : ∀ {events : List (Event σ)} {s after : System σ} {event : Event σ},
      start.run D events = some s → s.step D event = some after → P events s →
        P (events ++ [event]) after)
    {events : List (Event σ)} {s : System σ} (ran : start.run D events = some s) : P events s := by
  induction events using List.reverseRecOn generalizing s with
  | nil =>
      cases ran
      exact startHolds
  | append_singleton events event inductionHypothesis =>
      rw [run_snoc] at ran
      cases reached : start.run D events with
      | none => rw [reached] at ran; cases ran
      | some before =>
          rw [reached, Option.some_bind] at ran
          exact preserved reached ran (inductionHypothesis reached)

/-- The same rule for a run whose every event meets a side condition `Q`. -/
theorem run_induction_of_all {Q : Event σ → Prop} {P : List (Event σ) → System σ → Prop}
    {start : System σ} (startHolds : P [] start)
    (preserved : ∀ {events : List (Event σ)} {s after : System σ} {event : Event σ},
      start.run D events = some s → s.step D event = some after → Q event → P events s →
        P (events ++ [event]) after)
    {events : List (Event σ)} {s : System σ} (ran : start.run D events = some s)
    (all : ∀ event ∈ events, Q event) : P events s :=
  @run_induction σ D (fun events s => (∀ event ∈ events, Q event) → P events s) start
    (fun _ => startHolds)
    (fun reached stepped holds all => preserved reached stepped
      (all _ (List.mem_append_right _ (List.mem_singleton_self _)))
      (holds fun event member => all event (List.mem_append_left _ member)))
    events s ran all

/-! ### What each move can do -/

theorem step_send {s after : System σ} {msg : PoolMsg σ}
    (stepped : s.step D (.send msg) = some after) :
    (s.crashed = none ∧ after = { s with mailbox := s.mailbox ++ [⟨msg, .supervisor⟩] }) ∨
      (s.crashed.isSome ∧ after = s) := by
  simp only [step] at stepped
  split at stepped <;> cases stepped
  · exact .inl ⟨‹_›, rfl⟩
  · exact .inr ⟨by simp [‹s.crashed = _›], rfl⟩

/-- The pool's handler panics, or is stopped by a refused send, or completes. -/
theorem step_handle {s after : System σ} {outcomes : PoolOutcomes}
    (stepped : s.step D (.handle outcomes) = some after) :
    ∃ envelope rest, s.crashed = none ∧ s.mailbox = envelope :: rest ∧
      ((∃ message, s.pool.handle envelope.msg outcomes = .error message ∧
          after = { s with mailbox := rest, crashed := some message }) ∨
        (∃ pool effects spawned performed message,
          s.pool.handle envelope.msg outcomes = .ok (pool, effects, spawned) ∧
          perform false outcomes.refusedSend 0 effects = (performed, some message) ∧
          after = { s with
            mailbox := rest ++ removals performed, trace := s.trace ++ performed,
            crashed := some message }) ∨
        ∃ pool effects spawned,
          s.pool.handle envelope.msg outcomes = .ok (pool, effects, spawned) ∧
          (perform false outcomes.refusedSend 0 effects).2 = none ∧
          after = { s with
            pool := pool, mailbox := rest ++ removals effects,
            readers := s.readers ++ spawned.toList.map .spawned,
            journal := ⟨envelope, outcomes⟩ :: s.journal, trace := s.trace ++ effects }) := by
  simp only [step] at stepped
  split at stepped
  · rename_i envelope rest crashed mailbox
    refine ⟨envelope, rest, crashed, mailbox, ?_⟩
    split at stepped
    · cases stepped
      exact .inl ⟨_, ‹_›, rfl⟩
    · split at stepped <;> cases stepped
      · exact .inr (.inl ⟨_, _, _, _, _, ‹_›, ‹_›, rfl⟩)
      · exact .inr (.inr ⟨_, _, _, ‹_›, by rw [‹perform _ _ _ _ = _›], rfl⟩)
  · cases stepped

theorem step_start {s after : System σ} {index : Nat} {outcomes : StartOutcomes}
    (stepped : s.step D (.start index outcomes) = some after) :
    ∃ spawned, s.readers[index]? = some (.spawned spawned) ∧
      after = { s with
        readers := s.readers.set index
          (match spawned.start outcomes with
            | .ok loop => .running loop
            | .error message => .panicked message) } := by
  simp only [step] at stepped
  split at stepped
  · cases stepped
    exact ⟨_, ‹_›, rfl⟩
  · cases stepped

/-- A reader's pass panics, or is stopped by a refused send, or completes. -/
theorem step_read {s after : System σ} {index : Nat} {result : ReadResult}
    {refused : Option Nat} (stepped : s.step D (.read index result refused) = some after) :
    ∃ loop, s.readers[index]? = some (.running loop) ∧
      ((∃ message, loop.handleRead D result = .error message ∧
          after = { s with readers := s.readers.set index (.panicked message) }) ∨
        (∃ flow effects next performed message, loop.handleRead D result = .ok (flow, effects, next) ∧
          perform s.crashed.isSome refused 0 effects = (performed, some message) ∧
          after = { s with
            readers := s.readers.set index (.panicked message),
            mailbox := s.mailbox ++ removals performed, trace := s.trace ++ performed }) ∨
        ∃ flow effects next, loop.handleRead D result = .ok (flow, effects, next) ∧
          (perform s.crashed.isSome refused 0 effects).2 = none ∧
          after = { s with
            readers := s.readers.set index
              (match flow with
                | .proceed => .running next
                | .stop => .finished),
            mailbox := s.mailbox ++ removals effects, trace := s.trace ++ effects }) := by
  simp only [step] at stepped
  split at stepped
  · refine ⟨_, ‹_›, ?_⟩
    split at stepped
    · cases stepped
      exact .inl ⟨_, ‹_›, rfl⟩
    · split at stepped <;> cases stepped
      · exact .inr (.inl ⟨_, _, _, _, _, ‹_›, ‹_›, rfl⟩)
      · exact .inr (.inr ⟨_, _, _, ‹_›, by rw [‹perform _ _ _ _ = _›], rfl⟩)
  · cases stepped

/-- Every move but the pool's leaves the pool and its journal as they were. -/
theorem step_pool_of_not_handle {s after : System σ} {event : Event σ}
    (stepped : s.step D event = some after) (other : ∀ outcomes, event ≠ .handle outcomes) :
    after.pool = s.pool ∧ after.journal = s.journal := by
  cases event with
  | send msg => rcases step_send D stepped with ⟨-, rfl⟩ | ⟨-, rfl⟩ <;> exact ⟨rfl, rfl⟩
  | handle outcomes => exact absurd rfl (other outcomes)
  | start index outcomes =>
      obtain ⟨spawned, -, rfl⟩ := step_start D stepped
      exact ⟨rfl, rfl⟩
  | read index result refused =>
      obtain ⟨loop, -, ⟨message, -, rfl⟩ | ⟨_, _, _, _, _, -, -, rfl⟩ | ⟨_, _, _, -, -, rfl⟩⟩ :=
        step_read D stepped <;> exact ⟨rfl, rfl⟩

end System

end SubstratumNode
