import SubstratumNode.Messages

/-!
# Discriminators

The discriminator contract of the specification, over an abstract state `σ`, and
what it promises for one read: `Drains` and `ReadResult.Feeds`.
-/

namespace SubstratumNode

/-- Modelled from the spec: `UnmaskedChunk`, the framed bytes and their target. -/
structure UnmaskedChunk where
  chunk : List UInt8
  component : Component
  deriving DecidableEq, Repr

/-- Modelled from the spec: the `Discriminator` trait. -/
structure Discriminator (σ : Type) where
  addData : σ → List UInt8 → σ
  takeChunk : σ → Option (UnmaskedChunk × σ)
  /-- A bound on the chunks still to be taken. -/
  framed : σ → Nat
  takeChunk_framed : ∀ {state chunk next}, takeChunk state = some (chunk, next) →
    framed next < framed state

/-- Modelled from the spec: `DiscriminatorFactory`, whose `make` starts a discriminator. -/
structure DiscriminatorFactory (σ : Type) where
  make : σ

namespace Discriminator

variable {σ : Type} (D : Discriminator σ)

/-- The loop of `wrangle_discriminators`: `take_chunk` until it returns `None`. -/
def takeChunks (state : σ) : List UnmaskedChunk × σ :=
  match taken : D.takeChunk state with
  | none => ([], state)
  | some (chunk, next) =>
      have := D.takeChunk_framed taken
      (chunk :: (takeChunks next).1, (takeChunks next).2)
termination_by D.framed state

theorem takeChunks_of_none {state : σ} (taken : D.takeChunk state = none) :
    D.takeChunks state = ([], state) := by
  rw [takeChunks]; split <;> simp_all

theorem takeChunks_of_some {state next : σ} {chunk : UnmaskedChunk}
    (taken : D.takeChunk state = some (chunk, next)) :
    D.takeChunks state = (chunk :: (D.takeChunks next).1, (D.takeChunks next).2) := by
  rw [takeChunks]; split <;> simp_all

/-- `take_chunk`, called until it returns `None`, yields `chunks` and stops in `final`. -/
inductive Drains : σ → List UnmaskedChunk → σ → Prop
  | done {state} : D.takeChunk state = none → Drains state [] state
  | chunk {state chunk next chunks final} : D.takeChunk state = some (chunk, next) →
      Drains next chunks final → Drains state (chunk :: chunks) final

theorem drains_takeChunks (state : σ) :
    D.Drains state (D.takeChunks state).1 (D.takeChunks state).2 := by
  induction state using (measure D.framed).wf.induction with
  | h state inductionHypothesis =>
      cases taken : D.takeChunk state with
      | none => rw [D.takeChunks_of_none taken]; exact .done taken
      | some result =>
          obtain ⟨chunk, next⟩ := result
          rw [D.takeChunks_of_some taken]
          exact .chunk taken (inductionHypothesis next (D.takeChunk_framed taken))

theorem takeChunks_eq_of_drains {state final : σ} {chunks : List UnmaskedChunk}
    (drains : D.Drains state chunks final) : D.takeChunks state = (chunks, final) := by
  induction drains with
  | done taken => exact D.takeChunks_of_none taken
  | chunk taken _ inductionHypothesis => rw [D.takeChunks_of_some taken, inductionHypothesis]

theorem Drains.unique {D : Discriminator σ} {state final final' : σ}
    {chunks chunks' : List UnmaskedChunk} (drains : D.Drains state chunks final)
    (drains' : D.Drains state chunks' final') : chunks = chunks' ∧ final = final' := by
  have same := D.takeChunks_eq_of_drains drains
  rw [D.takeChunks_eq_of_drains drains', Prod.mk.injEq] at same
  exact ⟨same.1.symm, same.2.symm⟩

end Discriminator

/-- The contract for one read: a nonempty read adds its bytes and is drained; anything else
frames nothing. -/
inductive ReadResult.Feeds {σ : Type} (D : Discriminator σ) :
    σ → ReadResult → List UnmaskedChunk → σ → Prop
  | empty {state fits} : Feeds D state (.ok [] fits) [] state
  | error {state error} : Feeds D state (.err error) [] state
  | data {state data fits chunks next} : data ≠ [] → D.Drains (D.addData state data) chunks next →
      Feeds D state (.ok data fits) chunks next

theorem ReadResult.Feeds.unique {σ : Type} {D : Discriminator σ} {state next next' : σ}
    {result : ReadResult} {chunks chunks' : List UnmaskedChunk} (feeds : result.Feeds D state chunks next)
    (feeds' : result.Feeds D state chunks' next') : chunks = chunks' ∧ next = next' := by
  cases feeds with
  | empty => cases feeds' with
    | empty => exact ⟨rfl, rfl⟩
    | data nonempty _ => exact absurd rfl nonempty
  | error => cases feeds'; exact ⟨rfl, rfl⟩
  | data nonempty drains => cases feeds' with
    | empty => exact absurd rfl nonempty
    | data _ drains' => exact drains.unique drains'

end SubstratumNode
