import Injector.Bean.Basic

/-!
# How the operations of a bean grow

Later on a bean has all the operations it had before, in their places, and each of them is what it
was but for slots that have been bound since.
-/

set_option autoImplicit false

namespace Injector

variable {P : Platform}

namespace Operation

structure Grows (op later : Operation P) : Prop where
  same : later = { op with slots := later.slots }
  params : later.params = op.params
  kept : ∀ index binding, op.binding? index = some binding → later.binding? index = some binding

namespace Grows

variable {op later : Operation P}

theorem refl (op : Operation P) : op.Grows op := ⟨rfl, rfl, fun _ _ h => h⟩

theorem trans {last : Operation P} (h : op.Grows later) (k : later.Grows last) :
    op.Grows last where
  same := by
    have hk := k.same
    rw [h.same] at hk
    exact hk
  params := k.params.trans h.params
  kept := fun index binding hb => k.kept index binding (h.kept index binding hb)

theorem id_eq (h : op.Grows later) : later.id = op.id := by rw [h.same]

theorem mode_eq (h : op.Grows later) : later.mode = op.mode := by rw [h.same]

theorem accessor_eq (h : op.Grows later) : later.accessor = op.accessor := by rw [h.same]

theorem contract_eq (h : op.Grows later) : later.contract = op.contract := by rw [h.same]

theorem receiver_eq (h : op.Grows later) : later.receiver = op.receiver := by rw [h.same]

theorem parent_eq (h : op.Grows later) : later.parent = op.parent := by rw [h.same]

theorem length_eq (h : op.Grows later) : later.slots.length = op.slots.length := by
  simpa [Operation.params] using congrArg List.length h.params

end Grows

theorem grows_bind {op bound : Operation P} {index : Nat} {binding : Binding P}
    (h : op.bind index binding = .ok bound) : op.Grows bound where
  same := by
    obtain ⟨slot, -, -, rfl⟩ := bind_eq_ok.mp h
    rfl
  params := params_bind h
  kept := by
    intro i b hb
    rw [binding?_bind h]
    by_cases hi : i = index
    · subst hi
      rw [binding?_of_bind h] at hb
      cases hb
    · rw [if_neg hi]
      exact hb

/-- An unbound slot can be bound. -/
theorem exists_bind {op : Operation P} {index : Nat} (hi : index < op.slots.length)
    (hu : op.binding? index = none) (binding : Binding P) :
    ∃ bound, op.bind index binding = .ok bound := by
  refine ⟨_, bind_eq_ok.mpr ⟨op.slots[index], List.getElem?_eq_getElem hi, ?_, rfl⟩⟩
  simpa [binding?, List.getElem?_eq_getElem hi] using hu

theorem lt_of_bind {op bound : Operation P} {index : Nat} {binding : Binding P}
    (h : op.bind index binding = .ok bound) : index < op.slots.length := by
  obtain ⟨slot, hs, -⟩ := bind_eq_ok.mp h
  exact (List.getElem?_eq_some_iff.mp hs).1

end Operation

namespace Bean

def put (b : Bean P) (id : OperationId) (op : Operation P) : Bean P :=
  { b with operations := b.operations.setIfInBounds id op }

theorem lt_of_operation? {b : Bean P} {id : Nat} {op : Operation P}
    (h : b.operation? id = some op) : id < b.operations.size :=
  (Array.getElem?_eq_some_iff.mp h).1

theorem exists_operation? {b : Bean P} {id : Nat} (h : id < b.operations.size) :
    ∃ op, b.operation? id = some op := ⟨_, Array.getElem?_eq_getElem h⟩

theorem size_append (b : Bean P) (op : Operation P) :
    (b.append op).operations.size = b.operations.size + 1 := by simp [append]

theorem size_put (b : Bean P) (id : OperationId) (op : Operation P) :
    (b.put id op).operations.size = b.operations.size := by simp [put]

theorem operation?_put {b : Bean P} {id : OperationId} (h : id < b.operations.size)
    (op : Operation P) (i : OperationId) :
    (b.put id op).operation? i = if i = id then some op else b.operation? i := by
  unfold operation? put
  rw [Array.getElem?_setIfInBounds]
  by_cases hi : i = id
  · subst hi
    simp [h]
  · rw [if_neg (fun h' => hi h'.symm), if_neg hi]

/-- An operation is the one that was replaced last, or it was there before. -/
theorem operation?_of_put {b : Bean P} {id i : Nat} {op op' old : Operation P}
    (ho : b.operation? id = some op) (h : (b.put id op').operation? i = some old) :
    i = id ∧ old = op' ∨ i ≠ id ∧ b.operation? i = some old := by
  rw [operation?_put (lt_of_operation? ho)] at h
  by_cases he : i = id
  · rw [if_pos he] at h
    exact Or.inl ⟨he, (Option.some.inj h).symm⟩
  · rw [if_neg he] at h
    exact Or.inr ⟨he, h⟩

theorem operation?_of_append {b : Bean P} {i : Nat} {op old : Operation P}
    (h : (b.append op).operation? i = some old) :
    i = b.operations.size ∧ old = op ∨ b.operation? i = some old := by
  rw [operation?_append] at h
  by_cases he : i = b.operations.size
  · rw [if_pos he] at h
    exact Or.inl ⟨he, (Option.some.inj h).symm⟩
  · rw [if_neg he] at h
    exact Or.inr h

/-- An operation that was there before another one came. -/
theorem operation?_append_of_some {b : Bean P} {id : OperationId} {op : Operation P}
    (h : b.operation? id = some op) (new : Operation P) :
    (b.append new).operation? id = some op := by
  rw [operation?_append, if_neg (Nat.ne_of_lt (lt_of_operation? h))]
  exact h

structure Extends (b later : Bean P) : Prop where
  descriptor : later.descriptor = b.descriptor
  source : later.source = b.source
  installer : later.installer = b.installer
  operations : ∀ id op, b.operation? id = some op →
    ∃ op', later.operation? id = some op' ∧ op.Grows op'

namespace Extends

variable {b later : Bean P}

theorem refl (b : Bean P) : b.Extends b :=
  ⟨rfl, rfl, rfl, fun _ op h => ⟨op, h, .refl op⟩⟩

theorem trans {last : Bean P} (h : b.Extends later) (k : later.Extends last) :
    b.Extends last where
  descriptor := k.descriptor.trans h.descriptor
  source := k.source.trans h.source
  installer := k.installer.trans h.installer
  operations := by
    intro id op ho
    obtain ⟨op', ho', hg⟩ := h.operations id op ho
    obtain ⟨op'', ho'', hg'⟩ := k.operations id op' ho'
    exact ⟨op'', ho'', hg.trans hg'⟩

theorem size_le (h : b.Extends later) : b.operations.size ≤ later.operations.size := by
  refine Nat.le_of_not_lt fun shrunk => ?_
  obtain ⟨op, found⟩ := exists_operation? shrunk
  obtain ⟨op', found', -⟩ := h.operations _ op found
  exact Nat.lt_irrefl _ (lt_of_operation? found')

theorem append (b : Bean P) (op : Operation P) : b.Extends (b.append op) where
  descriptor := rfl
  source := rfl
  installer := rfl
  operations := fun _ old h => ⟨old, operation?_append_of_some h op, .refl old⟩

theorem put {id : OperationId} {op op' : Operation P} (h : b.operation? id = some op)
    (hg : op.Grows op') : b.Extends (b.put id op') where
  descriptor := rfl
  source := rfl
  installer := rfl
  operations := by
    intro i old ho
    rw [operation?_put (lt_of_operation? h)]
    by_cases hi : i = id
    · subst hi
      obtain rfl : op = old := Option.some.inj (h.symm.trans ho)
      exact ⟨op', by simp, hg⟩
    · exact ⟨old, by simp [hi, ho], .refl old⟩

end Extends

end Bean

end Injector
