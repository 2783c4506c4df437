import Injector.Proofs.Bean.Naming
import Injector.Proofs.Scan.Attempt

/-!
# Names of the operations of a bean

They are kept as long as there are no more operations, and that is never too long: no operation
goes, and none changes what its name is made of.
-/

set_option autoImplicit false

namespace Injector

variable {P : Platform}

theorem Operation.Grows.baseName_eq {op later : Operation P} (h : op.Grows later) :
    later.baseName = op.baseName := by
  rw [h.same]
  rfl

namespace Bean

variable {b later : Bean P}

/-- The first operations keep their names. -/
theorem Extends.assignNames_eq (grown : b.Extends later) {k : Nat}
    (bound : k ≤ b.operations.size) :
    assignNames (later.operations.toList.take k) = assignNames (b.operations.toList.take k) := by
  apply assignNamesFrom_congr
  apply List.ext_getElem?
  intro i
  by_cases within : i < k
  · obtain ⟨op, found⟩ := b.exists_operation? (Nat.lt_of_lt_of_le within bound)
    obtain ⟨op', found', grows⟩ := grown.operations i op found
    rw [operation?] at found found'
    simp [within, found, found', grows.id_eq, grows.baseName_eq]
  · simp only [List.getElem?_map, List.getElem?_take, if_neg within]

def Recalls (b : Bean P) : Prop :=
  ∀ names, b.names = some names →
    ∃ k ≤ b.operations.size, names = assignNames (b.operations.toList.take k)

theorem Recalls.extends (h : b.Recalls) (grown : b.Extends later) (kept : later.names = b.names) :
    later.Recalls := by
  intro names cached
  obtain ⟨k, bound, rfl⟩ := h names (kept ▸ cached)
  exact ⟨k, Nat.le_trans bound grown.size_le, (grown.assignNames_eq bound).symm⟩

/-- The size tells whether the names are still those of all operations. -/
theorem Recalls.operationNames_eq (h : b.Recalls) :
    b.operationNames.1 = assignNames b.operations.toList := by
  unfold operationNames
  split
  next names cached =>
    split
    next current =>
      obtain ⟨k, bound, rfl⟩ := h names cached
      rw [assignNames, length_assignNamesFrom, List.length_take, Array.length_toList] at current
      have all : b.operations.toList.length ≤ k := by rw [Array.length_toList]; omega
      rw [List.take_of_length_le all]
    next => rfl
  next => rfl

theorem operations_operationNames (b : Bean P) :
    b.operationNames.2.operations = b.operations := by
  unfold operationNames
  split
  next => split <;> rfl
  next => rfl

theorem recalls_current (b : Bean P) :
    { b with names := some (assignNames b.operations.toList) }.Recalls := by
  rintro _ ⟨⟩
  exact ⟨b.operations.size, Nat.le_refl _, by rw [← Array.length_toList, List.take_length]⟩

theorem Recalls.operationNames (h : b.Recalls) : b.operationNames.2.Recalls := by
  unfold Bean.operationNames
  split
  next names cached =>
    split
    next => exact h
    next => exact b.recalls_current
  next => exact b.recalls_current

theorem Linked.operationNames (h : b.Linked) : b.operationNames.2.Linked := by
  have same := b.operations_operationNames
  refine ⟨⟨?_, ?_⟩, ?_⟩ <;> simp only [operation?, children, same]
  exacts [h.id_eq, h.parent_lt, h.children_eq]

end Bean

theorem Scan.Reaches.names_eq {f : ScanFrame P} {b later : Bean P} (h : Reaches f b later) :
    later.names = b.names := by
  have step : ∀ old new, Change f old new → old.names = b.names → new.names = b.names := by
    intro old new change same
    cases change <;> exact same
  exact h.keeps step rfl

inductive Use (P : Platform) where
  | scan (attempt : Attempt P)
  | names

namespace Use

/-- The bean before the first use, at each moment of a scan at which a handler could look at it,
and after each use. -/
noncomputable def observed : List (Use P) → Bean P → List (Bean P)
  | [], b => [b]
  | .scan a :: rest, b => b :: (a.run b).2.seen ++ observed rest (a.bean b)
  | .names :: rest, b => b :: observed rest b.operationNames.2

theorem recalls_observed (uses : List (Use P)) {b : Bean P} (linked : b.Linked)
    (recalls : b.Recalls) : ∀ later ∈ observed uses b, later.Recalls := by
  induction uses generalizing b with
  | nil => simpa [observed] using recalls
  | cons use rest ih =>
    cases use with
    | scan a =>
      obtain ⟨f, course⟩ := a.follows_run linked
      rw [List.cons_append, List.pairwise_cons] at course
      have reached : ∀ later, Scan.Reaches f b later → later.Linked ∧ later.Recalls :=
        fun later reach =>
          ⟨reach.linked linked, recalls.extends reach.grows reach.names_eq⟩
      obtain ⟨linked', recalls'⟩ := reached _ (course.1 (a.bean b) (by simp))
      intro later at_
      rw [observed, List.cons_append, List.mem_cons, List.mem_append] at at_
      obtain rfl | seen | after := at_
      · exact recalls
      · exact (reached later (course.1 later (List.mem_append_left _ seen))).2
      · exact ih linked' recalls' later after
    | names =>
      intro later at_
      obtain rfl | after := List.mem_cons.mp at_
      · exact recalls
      · exact ih linked.operationNames recalls.operationNames later after

/-- Operations with ids of their own get names of their own, and the names that a bean gives its
operations are those, however often it was scanned, with or without success, and however often
the names were asked for before. -/
theorem names_observed {ops : List (Operation P)} (distinct : (ops.map (·.id)).Nodup)
    (uses : List (Use P)) (c : ClassDescriptor P) (source : Source P) (installer : Party) :
    Naming ops (assignNames ops) ∧
      ∀ b ∈ observed uses (.fresh c source installer),
        b.operationNames.1 = assignNames b.operations.toList := by
  have recalls : (Bean.fresh c source installer).Recalls := fun _ cached => nomatch cached
  exact ⟨naming_assignNames distinct, fun b at_ =>
    (recalls_observed uses (.of_empty rfl) recalls b at_).operationNames_eq⟩

end Use

def Operation.plainCall (id : OperationId) (member : String) : Operation .bare where
  id := id
  declaring := ClassDescriptor.cart.type
  member := member
  mode := .invoke
  operator := .application
  accessor := ⟨fun _ => .done (.ok none), 0, member⟩
  contract := ⟨[], none⟩
  slots := []
  receiver := false

theorem Use.names_observed_cart :
    Naming [.plainCall 0 "run", .plainCall 1 "run#2", .plainCall 2 "run"]
        (assignNames [.plainCall 0 "run", .plainCall 1 "run#2", .plainCall 2 "run"]) ∧
      ∀ b ∈ observed [.names, .scan ⟨.empty, none⟩, .names]
          (.fresh .cart .construction .application),
        b.operationNames.1 = assignNames b.operations.toList :=
  names_observed (by decide) [.names, .scan ⟨.empty, none⟩, .names] .cart .construction .application

end Injector
