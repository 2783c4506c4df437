import Std.Data.String.ToNat
import Mathlib.Data.List.Nodup
import Mathlib.Data.List.Perm.Subperm
import Injector.Bean.Name

/-!
# Names of operations

A name that is taken is numbered until it is free. The forms of a name differ, so they cannot all be
taken, whatever names members have that look like numbered ones.
-/

set_option autoImplicit false

namespace Injector

variable {P : Platform}

theorem numberedName_injective (base : String) : Function.Injective (numberedName base) := by
  have longer : ∀ n, base.length < (numberedName base (n + 1)).length := by
    intro n
    have mark : "#".length = 1 := rfl
    simp only [numberedName, String.length_append, toString]
    omega
  intro m n same
  cases m with
  | zero =>
    cases n with
    | zero => rfl
    | succ n => exact absurd (congrArg String.length same) (Nat.ne_of_lt (longer n))
  | succ m =>
    cases n with
    | zero => exact absurd (congrArg String.length same) (Nat.ne_of_gt (longer m))
    | succ n => simpa [numberedName] using same

section Search

variable (used : Std.HashSet String) (base : String)

/-- The search ends at a free form, or where its tries are over. -/
theorem firstFreeName_eq (tries n : Nat) :
    ∃ m, firstFreeName used base tries n = numberedName base m ∧
      (∀ k, n ≤ k → k < m → numberedName base k ∈ used) ∧
      (numberedName base m ∉ used ∨ m = n + tries) := by
  induction tries generalizing n with
  | zero => exact ⟨n, rfl, fun k low high => by omega, .inr rfl⟩
  | succ tries ih =>
    rw [firstFreeName]
    by_cases taken : numberedName base n ∈ used
    · obtain ⟨m, found, before, free⟩ := ih (n + 1)
      rw [if_pos (Std.HashSet.contains_iff_mem.mpr taken)]
      refine ⟨m, found, fun k low high => ?_, free.imp_right fun last => by omega⟩
      obtain rfl | later := Nat.eq_or_lt_of_le low
      · exact taken
      · exact before k later high
    · rw [if_neg (mt Std.HashSet.contains_iff_mem.mp taken)]
      exact ⟨n, rfl, fun k low high => by omega, .inl taken⟩

/-- There are more forms up to the number of names than there are names. -/
theorem exists_free_form : ∃ n ≤ used.size, numberedName base n ∉ used := by
  by_contra none_free
  have taken : ∀ n ≤ used.size, numberedName base n ∈ used := fun n bound =>
    not_not.mp fun free => none_free ⟨n, bound, free⟩
  have forms : ((List.range (used.size + 1)).map (numberedName base)).Nodup :=
    List.nodup_range.map (numberedName_injective base)
  have sub : (List.range (used.size + 1)).map (numberedName base) ⊆ used.toList := by
    intro name at_
    obtain ⟨n, bound, rfl⟩ := List.mem_map.mp at_
    exact Std.HashSet.mem_toList.mpr (taken n (Nat.lt_succ_iff.mp (List.mem_range.mp bound)))
  have fewer := (List.subperm_of_subset forms sub).length_le
  rw [List.length_map, List.length_range, Std.HashSet.length_toList] at fewer
  omega

/-- The name is the first form that is not used. -/
theorem freshName_eq : ∃ n, freshName used base = numberedName base n ∧
    numberedName base n ∉ used ∧ ∀ k < n, numberedName base k ∈ used := by
  obtain ⟨n, found, before, free⟩ := firstFreeName_eq used base used.size 0
  refine ⟨n, found, ?_, fun k => before k (Nat.zero_le k)⟩
  obtain free | last := free
  · exact free
  · obtain ⟨m, bound, free⟩ := exists_free_form used base
    obtain rfl | earlier := Nat.eq_or_lt_of_le (show m ≤ n by omega)
    · exact free
    · exact absurd (before m (Nat.zero_le m) earlier) free

end Search

section Assignment

variable {used : Std.HashSet String} {ops : List (Operation P)}

theorem mem_usedAfter {name : String} :
    name ∈ usedAfter used ops ↔ name ∈ used ∨ name ∈ (assignNamesFrom used ops).map (·.2) := by
  induction ops generalizing used with
  | nil => simp [usedAfter, assignNamesFrom]
  | cons op rest ih =>
    simp only [usedAfter, assignNamesFrom, ih, Std.HashSet.mem_insert, beq_iff_eq, List.map_cons,
      List.mem_cons]
    grind

theorem ids_assignNamesFrom : (assignNamesFrom used ops).map (·.1) = ops.map (·.id) := by
  induction ops generalizing used with
  | nil => rfl
  | cons op rest ih => simp [assignNamesFrom, ih]

theorem nodup_assignNamesFrom (used : Std.HashSet String) (ops : List (Operation P)) :
    ((assignNamesFrom used ops).map (·.2)).Nodup ∧
      ∀ name ∈ (assignNamesFrom used ops).map (·.2), name ∉ used := by
  induction ops generalizing used with
  | nil => simp [assignNamesFrom]
  | cons op rest ih =>
    obtain ⟨n, found, free, -⟩ := freshName_eq used op.baseName
    obtain ⟨distinct, unused⟩ := ih (used.insert (freshName used op.baseName))
    rw [assignNamesFrom, List.map_cons, List.nodup_cons]
    refine ⟨⟨fun again => unused _ again Std.HashSet.mem_insert_self, distinct⟩, ?_⟩
    intro name at_
    obtain rfl | later := List.mem_cons.mp at_
    · exact found ▸ free
    · exact fun old => unused name later (Std.HashSet.mem_insert.mpr (.inr old))

theorem assignNames_append (ops rest : List (Operation P)) :
    assignNames (ops ++ rest) = assignNames ops ++ assignNamesFrom (usedAfter {} ops) rest :=
  assignNamesFrom_append {} ops rest

/-- Names depend on nothing of an operation but its id and the name it would have alone. -/
theorem assignNamesFrom_congr {ops' : List (Operation P)}
    (same : ops.map (fun op => (op.id, op.baseName)) =
      ops'.map fun op => (op.id, op.baseName)) :
    assignNamesFrom used ops = assignNamesFrom used ops' := by
  induction ops generalizing used ops' with
  | nil => rw [List.map_eq_nil_iff.mp same.symm]
  | cons op rest ih =>
    obtain ⟨op', rest', rfl, head, tail⟩ := List.map_eq_cons_iff.mp same.symm
    obtain ⟨sameId, sameBase⟩ := Prod.mk.inj head
    rw [assignNamesFrom, assignNamesFrom, sameId, sameBase, ih tail.symm]

end Assignment

theorem nameOf_eq_some_iff {names : List (OperationId × String)} {id : OperationId}
    {name : String} (distinct : (names.map (·.1)).Nodup) :
    nameOf names id = some name ↔ (id, name) ∈ names := by
  induction names with
  | nil => simp [nameOf]
  | cons entry rest ih =>
    obtain ⟨first, own⟩ := entry
    obtain ⟨new, distinct⟩ := List.nodup_cons.mp distinct
    by_cases same : first = id
    · subst same
      have later : (first, name) ∉ rest := fun h => new (List.mem_map.mpr ⟨_, h, rfl⟩)
      simp [nameOf, later, eq_comm]
    · have other : ¬id = first := fun h => same h.symm
      rw [List.mem_cons, ← ih distinct]
      simp [nameOf, same, other]

structure Naming (ops : List (Operation P)) (names : List (OperationId × String)) : Prop where
  /-- All operations are named, and nothing else is. -/
  named : ∀ id, (nameOf names id).isSome ↔ ∃ op ∈ ops, op.id = id
  distinct : ∀ id other name, nameOf names id = some name → nameOf names other = some name →
    id = other
  /-- The name that follows the member, or that name with 2, 3, … as far as all forms before are
  names of earlier operations. -/
  first : ∀ earlier op later, ops = earlier ++ op :: later →
    ∃ n, nameOf names op.id = some (numberedName op.baseName n) ∧
      ∀ m < n, ∃ e ∈ earlier, nameOf names e.id = some (numberedName op.baseName m)
  /-- Later operations do not matter. -/
  stable : ∀ earlier later, ops = earlier ++ later →
    ∀ op ∈ earlier, nameOf names op.id = nameOf (assignNames earlier) op.id

section Naming

variable {ops : List (Operation P)}

theorem nodup_ids (distinct : (ops.map (·.id)).Nodup) :
    ((assignNames ops).map (·.1)).Nodup := by
  rwa [assignNames, ids_assignNamesFrom]

theorem exists_mem_assignNames {id : OperationId} :
    (∃ name, (id, name) ∈ assignNames ops) ↔ ∃ op ∈ ops, op.id = id := by
  have keys : id ∈ (assignNames ops).map (·.1) ↔ id ∈ ops.map (·.id) := by
    rw [assignNames, ids_assignNamesFrom]
  simpa using keys

theorem mem_usedAfter_empty {name : String} :
    name ∈ usedAfter {} ops ↔ ∃ op ∈ ops, (op.id, name) ∈ assignNames ops := by
  rw [mem_usedAfter]
  constructor
  · rintro (old | own)
    · simp at old
    · obtain ⟨⟨id, name⟩, entry, rfl⟩ := List.mem_map.mp own
      obtain ⟨op, at_, rfl⟩ := exists_mem_assignNames.mp ⟨_, entry⟩
      exact ⟨op, at_, entry⟩
  · rintro ⟨op, -, entry⟩
    exact .inr (List.mem_map.mpr ⟨_, entry, rfl⟩)

theorem naming_assignNames (distinct : (ops.map (·.id)).Nodup) :
    Naming ops (assignNames ops) where
  named id := by
    simp only [Option.isSome_iff_exists, nameOf_eq_some_iff (nodup_ids distinct),
      exists_mem_assignNames]
  distinct id other name hid hother := by
    rw [nameOf_eq_some_iff (nodup_ids distinct)] at hid hother
    have apart := (nodup_assignNamesFrom {} ops).1
    exact congrArg Prod.fst (List.inj_on_of_nodup_map apart hid hother rfl)
  first earlier op later split := by
    obtain ⟨n, found, -, before⟩ := freshName_eq (usedAfter {} earlier) op.baseName
    simp only [nameOf_eq_some_iff (nodup_ids distinct)]
    rw [split, assignNames_append, assignNamesFrom, found]
    refine ⟨n, List.mem_append_right _ List.mem_cons_self, fun m lower => ?_⟩
    obtain ⟨e, at_, entry⟩ := mem_usedAfter_empty.mp (before m lower)
    exact ⟨e, at_, List.mem_append_left _ entry⟩
  stable earlier later split op at_ := by
    have distinct' : (earlier.map (·.id)).Nodup := by
      rw [split, List.map_append] at distinct
      exact distinct.of_append_left
    obtain ⟨name, entry⟩ := exists_mem_assignNames.mpr ⟨op, at_, rfl⟩
    rw [(nameOf_eq_some_iff (nodup_ids distinct')).mpr entry,
      nameOf_eq_some_iff (nodup_ids distinct), split, assignNames_append]
    exact List.mem_append_left _ entry

end Naming

end Injector
