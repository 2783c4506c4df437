import Injector.Proofs.Bean.Dependencies

/-!
# The tree of operations under the constructor

A bean that has nothing but this tree, with every slot of it bound, keeps the tree as it is:
operations that are added later come to be under another one, if under any.
-/

set_option autoImplicit false

namespace Injector

variable {P : Platform}

namespace Operation

theorem isComplete_iff {op : Operation P} :
    op.isComplete = true ↔ ∀ index < op.slots.length, (op.binding? index).isSome = true := by
  rw [isComplete, List.all_eq_true, List.forall_mem_iff_getElem]
  constructor
  · intro bound index hi
    rw [binding?, List.getElem?_eq_getElem hi]
    exact bound index hi
  · intro bound index hi
    have some := bound index hi
    rw [binding?, List.getElem?_eq_getElem hi] at some
    exact some

/-- A bound slot stays as it is, and here all are. -/
theorem Grows.binding?_eq {op later : Operation P} (h : op.Grows later)
    (complete : op.isComplete = true) (index : Nat) : later.binding? index = op.binding? index := by
  by_cases hi : index < op.slots.length
  · obtain ⟨binding, bound⟩ := Option.isSome_iff_exists.mp (isComplete_iff.mp complete index hi)
    rw [bound]
    exact h.kept index binding bound
  · have hi' : later.slots.length ≤ index := by
      rw [h.length_eq]
      omega
    rw [binding?, binding?, List.getElem?_eq_none hi', List.getElem?_eq_none (by omega)]

theorem Grows.isComplete {op later : Operation P} (h : op.Grows later)
    (complete : op.isComplete = true) : later.isComplete = true := by
  rw [isComplete_iff, h.length_eq]
  intro index hi
  rw [h.binding?_eq complete]
  exact isComplete_iff.mp complete index hi

end Operation

namespace Bean

variable {b later : Bean P} {root id : Nat}

theorem Extends.holds (h : b.Extends later) {index child : Nat} (held : b.Holds id index child) :
    later.Holds id index child := by
  obtain ⟨op, ho, hb⟩ := held
  obtain ⟨op', ho', grown⟩ := h.operations id op ho
  exact ⟨op', ho', grown.kept index _ hb⟩

theorem Extends.under (h : b.Extends later) (under : b.Under root id) : later.Under root id := by
  induction under with
  | refl => exact .refl
  | tail _ held ih =>
    obtain ⟨index, held⟩ := held
    exact ih.tail ⟨index, h.holds held⟩

/-- The first operation makes the instance, and every other one makes a value for one before it. -/
def SingleTree (b : Bean P) : Prop :=
  (∃ op, b.operation? 0 = some op ∧ op.mode = .construct ∧ op.parent = none) ∧
    ∀ (id : Nat) op, b.operation? id = some op → id ≠ 0 → op.parent.isSome = true

namespace SingleTree

theorem of_empty (h : b.operations.size = 0) {op : Operation P} (mode : op.mode = .construct)
    (parent : op.parent = none) : (b.append op).SingleTree := by
  refine ⟨⟨op, ?_, mode, parent⟩, ?_⟩
  · rw [operation?_append, if_pos h.symm]
  · intro id old ho hid
    have hlt := lt_of_operation? ho
    rw [size_append, h] at hlt
    omega

theorem append (h : b.SingleTree) {op : Operation P} (nested : op.parent.isSome = true) :
    (b.append op).SingleTree := by
  obtain ⟨⟨top, ho, mode, parent⟩, others⟩ := h
  refine ⟨⟨top, operation?_append_of_some ho op, mode, parent⟩, ?_⟩
  intro id old hid hn
  rcases operation?_of_append hid with ⟨-, rfl⟩ | hid
  · exact nested
  · exact others id old hid hn

theorem put (h : b.SingleTree) {place : Nat} {op bound : Operation P}
    (found : b.operation? place = some op) (grown : op.Grows bound) :
    (b.put place bound).SingleTree := by
  obtain ⟨⟨top, ho, mode, parent⟩, others⟩ := h
  obtain ⟨top', ho', same⟩ := (Extends.put found grown).operations 0 top ho
  refine ⟨⟨top', ho', by rw [same.mode_eq, mode], by rw [same.parent_eq, parent]⟩, ?_⟩
  intro id old hid hn
  rcases operation?_of_put found hid with ⟨rfl, rfl⟩ | ⟨-, hid⟩
  · rw [grown.parent_eq]
    exact others id op found hn
  · exact others id old hid hn

/-- All operations are in the tree. -/
theorem under (h : b.SingleTree) (linked : b.Linked) (hid : id < b.operations.size) :
    b.Under 0 id := by
  induction id using Nat.strongRecOn with
  | ind id ih =>
    by_cases hn : id = 0
    · rw [hn]
      exact .refl
    · obtain ⟨op, ho⟩ := exists_operation? hid
      obtain ⟨parent, hp⟩ := Option.isSome_iff_exists.mp (h.2 id op ho hn)
      have before := linked.parent_lt id op parent ho hp
      obtain ⟨index, held, -⟩ := linked.isForest.child id op parent ho hp
      exact (ih parent before (Nat.lt_trans before hid)).tail ⟨index, held⟩

end SingleTree

def Founded (b : Bean P) : Prop :=
  ∀ (id : Nat) op, b.operation? id = some op → op.mode = .construct → op.parent = none → id = 0

theorem founded_of_empty (h : b.operations.size = 0) : b.Founded := by
  intro id op ho
  have hlt := lt_of_operation? ho
  omega

theorem SingleTree.founded (h : b.SingleTree) : b.Founded := by
  intro id op ho _ parent
  by_contra hn
  have nested := h.2 id op ho hn
  rw [parent] at nested
  cases nested

theorem Founded.id_eq (h : b.Founded) (linked : b.Linked) {top : Operation P}
    (made : b.constructor? = some top) : top.id = 0 := by
  obtain ⟨found, mode, parent⟩ := constructor?_eq_some linked made
  exact h top.id top found mode parent

/-- The constructor is the first operation, and all that runs when it does is bound. -/
def ConstructorBound (b : Bean P) : Prop :=
  ∃ top, b.constructor? = some top ∧ top.id = 0 ∧
    ∀ id, b.Under 0 id → ∃ op, b.operation? id = some op ∧ op.isComplete = true

theorem constructor?_of_first {top : Operation P} (ho : b.operation? 0 = some top)
    (mode : top.mode = .construct) (parent : top.parent = none) : b.constructor? = some top := by
  have head : b.operations.toList.head? = some top := by
    rw [List.head?_eq_getElem?, Array.getElem?_toList]
    exact ho
  obtain ⟨rest, operations⟩ := List.head?_eq_some_iff.mp head
  rw [constructor?, ← Array.find?_toList, operations, List.find?_cons, mode, parent]
  rfl

/-- Nothing comes to be under the constructor once all of its tree is bound. -/
theorem Extends.constructorBound (h : b.Extends later) (tree : b.SingleTree) (linked : b.Linked)
    (complete : ∀ (id : Nat) op, b.operation? id = some op → op.isComplete = true) :
    later.ConstructorBound := by
  obtain ⟨top, ho, mode, parent⟩ := tree.1
  obtain ⟨top', ho', grown⟩ := h.operations 0 top ho
  have first := constructor?_of_first ho' (grown.mode_eq.trans mode) (grown.parent_eq.trans parent)
  refine ⟨top', first, grown.id_eq.trans (linked.id_eq 0 top ho), fun id under => ?_⟩
  have old : ∃ op, b.operation? id = some op := by
    induction under with
    | refl => exact ⟨top, ho⟩
    | @tail holder child _ held ih =>
      obtain ⟨op, found⟩ := ih
      obtain ⟨index, op', found', bound⟩ := held
      obtain ⟨op'', found'', same⟩ := h.operations holder op found
      obtain rfl : op' = op'' := Option.some.inj (found'.symm.trans found'')
      rw [same.binding?_eq (complete holder op found)] at bound
      obtain ⟨-, nested, there, -⟩ := linked.isForest.held holder index child ⟨op, found, bound⟩
      exact ⟨nested, there⟩
  obtain ⟨op, found⟩ := old
  obtain ⟨op', found', same⟩ := h.operations id op found
  exact ⟨op', found', same.isComplete (complete id op found)⟩

end Bean

end Injector
