import Injector.Bean.Invocation
import Injector.Proofs.Bean.Growth

/-!
# The operations of a bean form a forest

An operation that makes a value for another one is younger than that one and held by exactly one of
its slots. What carries the proofs is that the children of an operation are what its slots hold, in
order.
-/

set_option autoImplicit false

namespace Injector

variable {P : Platform}

namespace Operation

def nested (op : Operation P) : List OperationId :=
  op.bindings.filterMap fun binding => binding.bind Bean.nestedOperation

theorem getElem?_bindings (op : Operation P) (index : Nat) :
    op.bindings[index]? = op.slots[index]?.map (·.binding) := by simp [bindings]

theorem binding?_eq_some {op : Operation P} {index : Nat} {binding : Binding P} :
    op.binding? index = some binding ↔ op.bindings[index]? = some (some binding) := by
  rw [getElem?_bindings, binding?]
  cases op.slots[index]? <;> simp

theorem nestedOperation_eq_some {binding : Binding P} {id : OperationId} :
    Bean.nestedOperation binding = some id ↔ binding = .operation id := by
  cases binding <;> simp [Bean.nestedOperation]

theorem mem_nested {op : Operation P} {id : OperationId} :
    id ∈ op.nested ↔ ∃ index, op.binding? index = some (.operation id) := by
  simp only [nested, List.mem_filterMap, Option.bind_eq_some_iff, nestedOperation_eq_some]
  constructor
  · rintro ⟨_, hm, binding, rfl, rfl⟩
    obtain ⟨index, hi⟩ := List.getElem?_of_mem hm
    exact ⟨index, binding?_eq_some.mpr hi⟩
  · rintro ⟨index, hi⟩
    exact ⟨_, List.mem_of_getElem? (binding?_eq_some.mp hi), _, rfl, rfl⟩

theorem nested_eq_nil {op : Operation P} (h : ∀ index, op.binding? index = none) :
    op.nested = [] := by
  rw [List.eq_nil_iff_forall_not_mem]
  intro id hid
  obtain ⟨index, hi⟩ := mem_nested.mp hid
  rw [h index] at hi
  cases hi

/-- Slots are bound in the order of the parameters, so the operation of a slot comes last. -/
theorem nested_bind {op bound : Operation P} {index : Nat} {binding : Binding P}
    (ready : ∀ j, index ≤ j → op.binding? j = none) (h : op.bind index binding = .ok bound) :
    bound.nested = op.nested ++ (Bean.nestedOperation binding).toList := by
  have hi : index < op.bindings.length := by simpa [bindings] using lt_of_bind h
  obtain ⟨slot, hs, hu, rfl⟩ := bind_eq_ok.mp h
  have hset : ({ op with slots := op.slots.set index { slot with binding := some binding } } :
      Operation P).bindings = op.bindings.set index (some binding) := by
    simp [bindings, List.map_set]
  have hnone : op.bindings[index] = none := by
    have := getElem?_bindings op index
    rw [hs, List.getElem?_eq_getElem hi] at this
    simpa [hu] using this
  have hold : op.bindings =
      op.bindings.take index ++ none :: op.bindings.drop (index + 1) := by
    rw [← hnone, List.getElem_cons_drop, List.take_append_drop]
  have hlater : (op.bindings.drop (index + 1)).filterMap
      (fun binding => binding.bind Bean.nestedOperation) = [] := by
    rw [List.filterMap_eq_nil_iff]
    intro later hm
    obtain ⟨j, hj⟩ := List.getElem?_of_mem hm
    rw [List.getElem?_drop] at hj
    cases later with
    | none => rfl
    | some b =>
      have := binding?_eq_some.mpr hj
      rw [ready _ (by omega)] at this
      cases this
  unfold nested
  rw [hset, List.set_eq_take_append_cons_drop, if_pos hi]
  conv => rhs; rw [hold]
  simp only [List.filterMap_append, List.filterMap_cons, hlater, Option.bind_none,
    Option.bind_some, List.append_nil]
  cases Bean.nestedOperation binding <;> rfl

/-- An operation that is held once is held by one slot. -/
theorem index_unique {op : Operation P} (h : op.nested.Nodup) {i j id : Nat}
    (hi : op.binding? i = some (.operation id)) (hj : op.binding? j = some (.operation id)) :
    i = j := by
  rw [nested, List.Nodup, List.pairwise_filterMap] at h
  have hi := binding?_eq_some.mp hi
  have hj := binding?_eq_some.mp hj
  obtain ⟨hil, hig⟩ := List.getElem?_eq_some_iff.mp hi
  obtain ⟨hjl, hjg⟩ := List.getElem?_eq_some_iff.mp hj
  rw [List.pairwise_iff_getElem] at h
  rcases Nat.lt_trichotomy i j with hlt | heq | hlt
  · exact absurd rfl (h i j hil hjl hlt id (by rw [hig]; rfl) id (by rw [hjg]; rfl))
  · exact heq
  · exact absurd rfl (h j i hjl hil hlt id (by rw [hjg]; rfl) id (by rw [hig]; rfl))

end Operation

namespace Bean

theorem mem_children {b : Bean P} {parent id : OperationId} :
    id ∈ b.children parent ↔ ∃ op ∈ b.operations, op.parent = some parent ∧ op.id = id := by
  simp [children, and_assoc]

/-- Whose child an operation is does not change with it. -/
theorem children_put {b : Bean P} {id : OperationId} {op op' : Operation P}
    (h : b.operation? id = some op) (hg : op.Grows op') (parent : OperationId) :
    (b.put id op').children parent = b.children parent := by
  have hl : id < b.operations.toList.length := by simpa using lt_of_operation? h
  have hop : b.operations.toList[id] = op := by
    have := h
    rw [operation?, Array.getElem?_eq_getElem (lt_of_operation? h)] at this
    simpa using this
  let relation := fun op : Operation P => (op.parent, op.id)
  have hmap : (b.put id op').operations.toList.map relation =
      b.operations.toList.map relation := by
    have hlt : id < (b.operations.toList.map relation).length := by simpa using hl
    have hr : relation op' = (b.operations.toList.map relation)[id] := by
      simp [relation, hop, hg.parent_eq, hg.id_eq]
    simp only [put, Array.toList_setIfInBounds, List.map_set]
    rw [hr, List.set_getElem_self]
  have hc : ∀ c : Bean P, c.children parent =
      ((c.operations.toList.map relation).filter (·.1 == some parent)).map (·.2) := by
    intro c
    simp [children, relation, List.filter_map, Function.comp_def]
  rw [hc, hc, hmap]

structure Numbered (b : Bean P) : Prop where
  id_eq : ∀ (id : Nat) op, b.operation? id = some op → op.id = id
  parent_lt : ∀ (id : Nat) op (parent : Nat), b.operation? id = some op →
    op.parent = some parent → parent < id

namespace Numbered

variable {b : Bean P}

theorem append (h : b.Numbered) {op : Operation P} (hid : op.id = b.operations.size)
    (hp : ∀ parent : Nat, op.parent = some parent → parent < b.operations.size) :
    (b.append op).Numbered where
  id_eq := by
    intro id old ho
    rcases operation?_of_append ho with ⟨hn, rfl⟩ | ho
    · rw [hid, hn]
    · exact h.id_eq id old ho
  parent_lt := by
    intro id old parent ho hparent
    rcases operation?_of_append ho with ⟨hn, rfl⟩ | ho
    · rw [hn]
      exact hp parent hparent
    · exact h.parent_lt id old parent ho hparent

theorem put (h : b.Numbered) {id : Nat} {op op' : Operation P} (ho : b.operation? id = some op)
    (hg : op.Grows op') : (b.put id op').Numbered where
  id_eq := by
    intro i old hi
    rcases operation?_of_put ho hi with ⟨he, rfl⟩ | ⟨-, hi⟩
    · rw [hg.id_eq, he]
      exact h.id_eq id op ho
    · exact h.id_eq i old hi
  parent_lt := by
    intro i old parent hi hp
    rcases operation?_of_put ho hi with ⟨he, rfl⟩ | ⟨-, hi⟩
    · rw [hg.parent_eq] at hp
      rw [he]
      exact h.parent_lt id op parent ho hp
    · exact h.parent_lt i old parent hi hp

end Numbered

structure Linked (b : Bean P) : Prop extends Numbered b where
  children_eq : ∀ (id : Nat) op, b.operation? id = some op → b.children id = op.nested

namespace Linked

variable {b : Bean P}

theorem of_empty (h : b.operations = #[]) : b.Linked where
  id_eq := fun id op ho => by simp [operation?, h] at ho
  parent_lt := fun id op parent ho => by simp [operation?, h] at ho
  children_eq := fun id op ho => by simp [operation?, h] at ho

theorem id_mem (h : b.Linked) {op : Operation P} (hm : op ∈ b.operations) :
    b.operation? op.id = some op := by
  obtain ⟨id, hid⟩ := Array.getElem?_of_mem hm
  rw [h.id_eq id op hid]
  exact hid

/-- No operation waits for one that is still to come. -/
theorem children_of_le (h : b.Linked) {id : Nat} (hid : b.operations.size ≤ id) :
    b.children id = [] := by
  rw [List.eq_nil_iff_forall_not_mem]
  intro child hc
  obtain ⟨op, hm, hp, rfl⟩ := mem_children.mp hc
  have ho := h.id_mem hm
  have hlt := h.parent_lt _ _ _ ho hp
  have hsize := lt_of_operation? ho
  omega

theorem ids (h : b.Linked) : b.operations.toList.map (·.id) = List.range b.operations.size := by
  apply List.ext_getElem
  · simp
  · intro i hi hj
    have hi : i < b.operations.size := by simpa using hi
    simpa using h.id_eq i _ (Array.getElem?_eq_getElem hi)

theorem nodup_children (h : b.Linked) (id : OperationId) : (b.children id).Nodup := by
  have hs : (b.children id).Sublist (b.operations.toList.map (·.id)) :=
    List.filter_sublist.map _
  rw [h.ids] at hs
  exact hs.nodup List.nodup_range

/-- An operation of its own comes at the end. -/
theorem append (h : b.Linked) {op : Operation P} (hid : op.id = b.operations.size)
    (hp : op.parent = none) (hu : ∀ index, op.binding? index = none) :
    (b.append op).Linked where
  toNumbered := by
    apply h.toNumbered.append hid
    intro parent hparent
    rw [hp] at hparent
    cases hparent
  children_eq := by
    intro id old ho
    rw [children_append, hp, if_neg (by simp), List.append_nil]
    rcases operation?_of_append ho with ⟨hn, rfl⟩ | ho
    · rw [Operation.nested_eq_nil hu]
      exact h.children_of_le (Nat.le_of_eq hn.symm)
    · exact h.children_eq id old ho

/-- A slot is bound to a value that no other operation makes. -/
theorem put (h : b.Linked) {id : Nat} {op bound : Operation P} {index : Nat}
    {binding : Binding P} (ho : b.operation? id = some op)
    (ready : ∀ j, index ≤ j → op.binding? j = none) (hb : op.bind index binding = .ok bound)
    (plain : nestedOperation binding = none) : (b.put id bound).Linked where
  toNumbered := h.toNumbered.put ho (Operation.grows_bind hb)
  children_eq := by
    intro i old hi
    rw [children_put ho (Operation.grows_bind hb)]
    rcases operation?_of_put ho hi with ⟨he, rfl⟩ | ⟨-, hi⟩
    · rw [Operation.nested_bind ready hb, plain, he]
      simpa using h.children_eq id op ho
    · exact h.children_eq i old hi

/-- A slot is bound to an operation that comes at the end with it. -/
theorem nest (h : b.Linked) {id : Nat} {op bound new : Operation P} {index : Nat}
    (ho : b.operation? id = some op) (ready : ∀ j, index ≤ j → op.binding? j = none)
    (hid : new.id = b.operations.size) (hp : new.parent = some id)
    (hu : ∀ j, new.binding? j = none) (hb : op.bind index (.operation new.id) = .ok bound) :
    ((b.append new).put id bound).Linked where
  toNumbered := by
    have appended : (b.append new).Numbered := by
      apply h.toNumbered.append hid
      intro parent hparent
      rw [hp] at hparent
      cases hparent
      exact lt_of_operation? ho
    exact appended.put (operation?_append_of_some ho new) (Operation.grows_bind hb)
  children_eq := by
    have ho' := operation?_append_of_some ho new
    intro i old hi
    rw [children_put ho' (Operation.grows_bind hb), children_append, hp]
    rcases operation?_of_put ho' hi with ⟨he, rfl⟩ | ⟨he, hi⟩
    · rw [Operation.nested_bind ready hb, he, if_pos rfl, h.children_eq id op ho]
      rfl
    · rw [if_neg (by simpa using fun h' => he h'.symm), List.append_nil]
      rcases operation?_of_append hi with ⟨hn, rfl⟩ | hi
      · rw [Operation.nested_eq_nil hu]
        exact h.children_of_le (Nat.le_of_eq hn.symm)
      · exact h.children_eq i old hi

end Linked

def Holds (b : Bean P) (id index child : Nat) : Prop :=
  ∃ op, b.operation? id = some op ∧ op.binding? index = some (.operation child)

/-- Operations with a parent are held by one slot, which is the parent's; the others are held by
none. -/
structure IsForest (b : Bean P) : Prop where
  id_eq : ∀ (id : Nat) op, b.operation? id = some op → op.id = id
  held : ∀ id index child, b.Holds id index child →
    id < child ∧ ∃ op, b.operation? child = some op ∧ op.parent = some id
  child : ∀ (id : Nat) op (parent : Nat), b.operation? id = some op → op.parent = some parent →
    ∃ index, b.Holds parent index id ∧
      ∀ other index', b.Holds other index' id → other = parent ∧ index' = index
  root : ∀ (id : Nat) op, b.operation? id = some op → op.parent = none →
    ∀ other index, ¬ b.Holds other index id
  children : ∀ id : Nat, b.children id = ((b.operation? id).map (·.nested)).getD []

namespace Linked

variable {b : Bean P}

theorem mem_children_of_holds (h : b.Linked) {id index child : Nat}
    (hh : b.Holds id index child) : child ∈ b.children id := by
  obtain ⟨op, ho, hb⟩ := hh
  rw [h.children_eq id op ho]
  exact Operation.mem_nested.mpr ⟨index, hb⟩

theorem parent_of_holds (h : b.Linked) {id index child : Nat} (hh : b.Holds id index child) :
    ∃ op, b.operation? child = some op ∧ op.parent = some id := by
  obtain ⟨op, hm, hp, rfl⟩ := mem_children.mp (h.mem_children_of_holds hh)
  exact ⟨op, h.id_mem hm, hp⟩

theorem isForest (h : b.Linked) : b.IsForest where
  id_eq := h.id_eq
  held := by
    intro id index child hh
    obtain ⟨op, ho, hp⟩ := h.parent_of_holds hh
    exact ⟨h.parent_lt child op id ho hp, op, ho, hp⟩
  child := by
    intro id op parent ho hp
    obtain ⟨op', ho'⟩ := exists_operation?
      (Nat.lt_trans (h.parent_lt id op parent ho hp) (lt_of_operation? ho))
    have hc : id ∈ b.children parent :=
      mem_children.mpr ⟨op, Array.mem_of_getElem? ho, hp, h.id_eq id op ho⟩
    have hn := h.children_eq parent op' ho'
    rw [hn] at hc
    obtain ⟨index, hi⟩ := Operation.mem_nested.mp hc
    refine ⟨index, ⟨op', ho', hi⟩, ?_⟩
    intro other index' hh
    obtain ⟨op'', ho'', hp''⟩ := h.parent_of_holds hh
    obtain rfl : op = op'' := Option.some.inj (ho.symm.trans ho'')
    obtain rfl : parent = other := Option.some.inj (hp.symm.trans hp'')
    obtain ⟨holder, hholder, hi'⟩ := hh
    obtain rfl : op' = holder := Option.some.inj (ho'.symm.trans hholder)
    exact ⟨rfl, Operation.index_unique (hn ▸ h.nodup_children parent) hi' hi⟩
  root := by
    intro id op ho hp other index hh
    obtain ⟨op', ho', hp'⟩ := h.parent_of_holds hh
    obtain rfl : op = op' := Option.some.inj (ho.symm.trans ho')
    rw [hp] at hp'
    cases hp'
  children := by
    intro id
    by_cases hid : id < b.operations.size
    · obtain ⟨op, ho⟩ := exists_operation? hid
      rw [ho]
      exact h.children_eq id op ho
    · have hn : b.operation? id = none := by
        rw [operation?, Array.getElem?_eq_none_iff]
        omega
      rw [hn]
      exact h.children_of_le (Nat.le_of_not_lt hid)

end Linked

end Bean

end Injector
