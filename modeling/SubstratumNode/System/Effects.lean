import SubstratumNode.System.Readers

/-!
# Who makes which effect

The pool's handlers make log lines and the effects of a stored writer; a reader's pass
makes its closing effects, data messages under its key, and log lines.
-/

namespace SubstratumNode

variable {σ : Type}

theorem List.filterMap_append_singleton {α β : Type} (f : α → Option β) (l : List α) (a : α) :
    (l ++ [a]).filterMap f = l.filterMap f ++ (f a).toList := by
  rw [List.filterMap_append]
  cases mapped : f a <;> simp [mapped]

namespace Effect

/-- Whether the pool's handlers can make this effect. -/
def byPool : Effect → Bool
  | dispatch _ => false
  | remove _ (.writer _) => true
  | remove _ _ => false
  | _ => true

/-- Whether a reader's pass can make this effect; a reader never writes. -/
def byReader : Effect → Bool
  | dispatch _ | remove _ (.reader _) | shutdown _ _ | log _ => true
  | remove _ _ | write _ _ _ => false

theorem dispatched?_eq_none_of_byPool {effect : Effect} (pooled : effect.byPool = true) :
    effect.dispatched? = none := by
  cases effect with
  | dispatch msg => cases pooled
  | _ => rfl

end Effect

/-- Every message an effect puts in the mailbox is a removal request. -/
theorem msg_of_mem_removals {effects : List Effect} {envelope : Envelope σ}
    (member : envelope ∈ (removals effects : List (Envelope σ))) :
    ∃ request, envelope.msg = .remove request := by
  obtain ⟨effect, -, made⟩ := List.mem_filterMap.mp member
  cases effect with
  | remove request sender =>
      cases made
      exact ⟨request, rfl⟩
  | _ => cases made

namespace StreamWriterReal

/-- What a writer makes besides log lines, all on its own stream and key. -/
def Makes (writer : StreamWriterReal) : Effect → Prop
  | .write connection _ _ | .shutdown connection _ => connection = writer.stream.connection
  | .remove request sender =>
      request = ⟨writer.streamKey⟩ ∧ sender = .writer writer.stream.connection
  | .dispatch _ | .log _ => False

theorem byPool_of_makes {writer : StreamWriterReal} {effect : Effect} (makes : writer.Makes effect) :
    effect.byPool = true := by
  cases effect with
  | remove request sender => rw [makes.2]; rfl
  | dispatch msg => cases makes
  | _ => rfl

/-- A transmit makes log lines and its writer's own effects. -/
theorem makes_transmit (writer : StreamWriterReal) (data : List UInt8) (written : IoResult Nat)
    {effect : Effect} (member : effect ∈ (writer.transmit data written).2) :
    (∃ entry, effect = .log entry) ∨ writer.Makes effect := by
  cases written with
  | ok size =>
      simp only [transmit, List.mem_singleton] at member
      exact .inr (by rw [member]; rfl)
  | err error =>
      simp only [transmit, List.mem_cons, List.mem_append, List.mem_singleton, List.not_mem_nil,
        or_false] at member
      rcases member with (rfl | dead) | rfl
      · exact .inr rfl
      · split at dead
        · simp only [List.mem_cons, List.mem_singleton, List.not_mem_nil, or_false] at dead
          rcases dead with rfl | rfl
          · exact .inr rfl
          · exact .inr ⟨rfl, rfl⟩
        · cases dead
      · exact .inl ⟨_, rfl⟩

end StreamWriterReal

namespace StreamHandlerPool

/-- The pool's handlers make log lines and the effects of a stored writer. -/
theorem makes_handle {pool after : StreamHandlerPool} {msg : PoolMsg σ} {outcomes : PoolOutcomes}
    {effects : List Effect} {spawned : Option (SpawnedReader σ)}
    (handled : pool.handle msg outcomes = .ok (after, effects, spawned)) {effect : Effect}
    (member : effect ∈ effects) :
    (∃ entry, effect = .log entry) ∨
      ∃ key writer, pool.streamWriters key = some writer ∧ writer.Makes effect := by
  cases msg with
  | add added =>
      rcases handleAdd_cases handled with ⟨-, -, ⟨entry, rfl⟩, -⟩ | ⟨-, -, rfl, -⟩
      · exact .inl ⟨entry, List.mem_singleton.mp member⟩
      · cases member
  | remove removed => cases handled; cases member
  | transmit transmitted =>
      obtain ⟨-, -, key, -, ⟨-, rfl⟩ | ⟨writer, stored, rfl⟩⟩ := handle_transmit_cases handled
      · exact .inl ⟨_, List.mem_singleton.mp member⟩
      · rcases List.mem_append.mp member with sent | shut
        · exact (writer.makes_transmit _ _ sent).imp_right fun makes => ⟨key, writer, stored, makes⟩
        · split at shut
          · exact .inr ⟨key, writer, stored, by rw [List.mem_singleton.mp shut]; rfl⟩
          · cases shut
  | bind bound => cases handled; cases member

/-- The pool's handlers raise removal requests only in a writer's name. -/
theorem byPool_handle {pool after : StreamHandlerPool} {msg : PoolMsg σ}
    {outcomes : PoolOutcomes} {effects : List Effect} {spawned : Option (SpawnedReader σ)}
    (handled : pool.handle msg outcomes = .ok (after, effects, spawned)) :
    ∀ effect ∈ effects, effect.byPool = true := by
  intro effect member
  rcases makes_handle handled member with ⟨entry, rfl⟩ | ⟨-, writer, -, makes⟩
  · rfl
  · exact StreamWriterReal.byPool_of_makes makes

end StreamHandlerPool

namespace System

variable (D : Discriminator σ)

/-- A reader's pass makes closing effects, data messages under its key, and log lines. -/
theorem effects_handleRead {loop : ReadLoop σ} {result : ReadResult} {flow : Flow}
    {effects : List Effect} {next : ReadLoop σ}
    (handled : loop.handleRead D result = .ok (flow, effects, next)) {effect : Effect}
    (member : effect ∈ effects) :
    effect ∈ loop.reader.closingEffects ∨
      (∃ chunk, effect = .dispatch (loop.reader.inboundClientData chunk)) ∨
      ∃ entry, effect = .log entry := by
  cases result with
  | ok data fits =>
      simp only [ReadLoop.handleRead] at handled
      split at handled
      · cases handled
        cases member
      · simp only [StreamReaderReal.wrangleDiscriminators] at handled
        split at handled
        · cases handled
        · cases sliced : ReadBuffer.slice (loop.buf.fill data) data.length <;>
            simp only [sliced, Except.map, Except.ok.injEq, Prod.mk.injEq, reduceCtorEq] at handled
          obtain ⟨-, rfl, -⟩ := handled
          obtain ⟨chunk, -, rfl⟩ := List.mem_map.mp member
          exact .inr (.inl ⟨chunk, rfl⟩)
  | err error =>
      simp only [ReadLoop.handleRead] at handled
      split at handled
      · cases handled
        cases member
      · split at handled <;> cases handled
        · exact .inl member
        · exact .inr (.inr ⟨_, List.mem_singleton.mp member⟩)

/-- A reader's pass never writes, and raises removal requests only in the reader's name. -/
theorem byReader_handleRead {loop : ReadLoop σ} {result : ReadResult} {flow : Flow}
    {effects : List Effect} {next : ReadLoop σ}
    (handled : loop.handleRead D result = .ok (flow, effects, next)) :
    ∀ effect ∈ effects, effect.byReader = true := by
  intro effect member
  rcases effects_handleRead D handled member with closing | ⟨chunk, rfl⟩ | ⟨entry, rfl⟩
  · simp only [StreamReaderReal.closingEffects, List.mem_cons, List.mem_singleton,
      List.not_mem_nil, or_false] at closing
    rcases closing with rfl | rfl | rfl <;> rfl
  · rfl
  · rfl

end System

end SubstratumNode
