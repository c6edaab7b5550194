import SubstratumNode.Pool.Transmit
import SubstratumNode.System.Writers

/-!
# A running reader never panics in its loop

A running reader keeps the one discriminator `StreamReaderReal::new` made, so no pass of
its loop panics.
-/

namespace SubstratumNode

variable {σ : Type}

/-- A pass over a reader with one discriminator never panics. -/
theorem ReadLoop.handleRead_of_single (D : Discriminator σ) {loop : ReadLoop σ} {discriminator : σ}
    (single : loop.reader.discriminators = [discriminator]) (result : ReadResult) :
    (result.endsLoop = true ∧
        loop.handleRead D result = .ok (.stop, loop.reader.closingEffects, loop)) ∨
      ∃ chunks fed effects next, result.Feeds D discriminator chunks fed ∧
        loop.handleRead D result = .ok (.proceed, effects, next) ∧
        next.reader = { loop.reader with discriminators := [fed] } ∧
        effects.filterMap Effect.data? = chunks.map loop.reader.inboundClientData ∧
        ∀ effect ∈ effects, effect.closing = false := by
  cases ends : result.endsLoop
  · exact .inr (handleRead_of_not_endsLoop D single ends)
  · exact .inl ⟨rfl, handleRead_of_endsLoop D ends⟩

/-- Every running thread among `readers` keeps one discriminator. -/
def OneDiscriminator (readers : List (ReaderThread σ)) : Prop :=
  ∀ loop, .running loop ∈ readers → ∃ discriminator, loop.reader.discriminators = [discriminator]

namespace OneDiscriminator

variable {readers : List (ReaderThread σ)}

theorem set (single : OneDiscriminator readers) (index : Nat) {thread : ReaderThread σ}
    (keeps : ∀ loop, thread = .running loop → ∃ discriminator,
      loop.reader.discriminators = [discriminator]) :
    OneDiscriminator (readers.set index thread) := fun loop running =>
  (List.mem_or_eq_of_mem_set running).elim (single loop) fun replaced => keeps loop replaced.symm

theorem append_spawned (single : OneDiscriminator readers) (spawned : List (SpawnedReader σ)) :
    OneDiscriminator (readers ++ spawned.map .spawned) := fun loop running =>
  (List.mem_append.mp running).elim (single loop) fun added => by simp at added

end OneDiscriminator

namespace System

variable (D : Discriminator σ)

theorem step_oneDiscriminator {s after : System σ} {event : Event σ}
    (stepped : s.step D event = some after) (single : OneDiscriminator s.readers) :
    OneDiscriminator after.readers := by
  cases event with
  | send msg => rcases step_send D stepped with ⟨-, rfl⟩ | ⟨-, rfl⟩ <;> exact single
  | handle outcomes =>
      obtain ⟨_, _, -, -, ⟨_, -, rfl⟩ | ⟨_, _, _, _, _, -, -, rfl⟩ | ⟨_, _, spawned, -, -, rfl⟩⟩ :=
        step_handle D stepped
      · exact single
      · exact single
      · exact single.append_spawned spawned.toList
  | start index outcomes =>
      obtain ⟨spawned, -, rfl⟩ := step_start D stepped
      refine single.set index fun loop running => ?_
      split at running
      · cases running
        obtain ⟨first, -, -, rfl⟩ := SpawnedReader.start_eq_ok ‹_›
        exact ⟨_, rfl⟩
      · cases running
  | read index result refused =>
      obtain ⟨current, found, ⟨_, -, rfl⟩ | ⟨_, _, _, _, _, -, -, rfl⟩ |
        ⟨flow, effects, next, handled, -, rfl⟩⟩ := step_read D stepped
      · exact single.set index fun _ running => by cases running
      · exact single.set index fun _ running => by cases running
      · refine single.set index fun loop running => ?_
        obtain ⟨discriminator, currentSingle⟩ := single current (List.getElem?_mem found)
        cases flow
        · cases running
          rcases ReadLoop.handleRead_of_single D currentSingle result with
            ⟨-, stops⟩ | ⟨_, fed, _, _, -, proceeds, nextReader, -⟩
          · rw [handled] at stops
            cases stops
          · rw [handled] at proceeds
            cases proceeds
            exact ⟨fed, by rw [nextReader]⟩
        · cases running

theorem oneDiscriminator {s : System σ} (reachable : s.Reachable D) : OneDiscriminator s.readers :=
  reachable.invariant D (fun _ absent => by cases absent) (step_oneDiscriminator D)

/-- The Add of `singleAdd`, then its reader thread enters its loop. -/
def singleStart : List (Event Unit) :=
  singleAdd ++ [.start 0 ⟨.ok (), .ok (), .ok ()⟩]

/-- Then the reader's first read fails with `BrokenPipe`, and it leaves its loop. -/
def singleClose : List (Event Unit) :=
  singleStart ++ [.read 0 (.err ⟨.BrokenPipe⟩) none]

/-- In every reachable state, a running reader's pass does not panic, whatever `read` returns. -/
theorem handleRead_ok_of_running {s : System σ} (reachable : s.Reachable D) {loop : ReadLoop σ}
    (running : .running loop ∈ s.readers) (result : ReadResult) :
    ∃ flow effects next, loop.handleRead D result = .ok (flow, effects, next) := by
  obtain ⟨discriminator, single⟩ := oneDiscriminator D reachable loop running
  rcases ReadLoop.handleRead_of_single D single result with ⟨-, ok⟩ | ⟨_, _, _, _, -, ok, -⟩
  · exact ⟨_, _, _, ok⟩
  · exact ⟨_, _, _, ok⟩

theorem handleRead_ok_of_running_after_start :
    ∃ flow effects next,
      (⟨⟨⟨0, .V4 ⟨0x01020304⟩ 5679, .V4 ⟨0x7F000001⟩ 8080⟩, .V4 ⟨0x01020304⟩ 5679, none, [()]⟩,
          8080, ReadBuffer.zeroed⟩ : ReadLoop Unit).handleRead silentDiscriminator
        (.ok [0x12, 0x34] (by decide)) = .ok (flow, effects, next) :=
  @handleRead_ok_of_running Unit silentDiscriminator
    ((initial.run silentDiscriminator singleStart).getD initial) ⟨singleStart, rfl⟩ _
    (List.mem_singleton_self _) _

end System

end SubstratumNode
