import Mathlib.Data.List.Perm.Basic
import Injector.Proofs.Service.Cycle

/-!
# What the check of a graph says

Where every service that is needed is in the graph, it is accepted if and only if it has no cycle,
and refused with a cycle that it has. Services are visited by name, so where names tell them apart
the order of the graph makes no difference.
-/

set_option autoImplicit false

namespace Injector

namespace DependencyKey

variable {a b c : DependencyKey}

theorem nameBefore_trans (h : Graph.nameBefore a b = true) (k : Graph.nameBefore b c = true) :
    Graph.nameBefore a c = true := by
  unfold Graph.nameBefore at *
  generalize a.name = x, b.name = y, c.name = z at *
  cases x with
  | none => rfl
  | some x =>
    cases y with
    | none => cases h
    | some y =>
      cases z with
      | none => cases k
      | some z => exact decide_eq_true (String.le_trans (of_decide_eq_true h) (of_decide_eq_true k))

theorem nameBefore_total (a b : DependencyKey) :
    Graph.nameBefore a b = true ∨ Graph.nameBefore b a = true := by
  unfold Graph.nameBefore
  generalize a.name = x, b.name = y
  cases x with
  | none => exact .inl rfl
  | some x =>
    cases y with
    | none => exact .inr rfl
    | some y => exact (String.le_total x y).imp decide_eq_true decide_eq_true

theorem name_of_nameBefore (h : Graph.nameBefore a b = true) (k : Graph.nameBefore b a = true) :
    a.name = b.name := by
  unfold Graph.nameBefore at *
  generalize a.name = x, b.name = y at *
  cases x with
  | none =>
    cases y with
    | none => rfl
    | some y => cases k
  | some x =>
    cases y with
    | none => cases h
    | some y => rw [String.le_antisymm (of_decide_eq_true h) (of_decide_eq_true k)]

theorem before_iff : Graph.before a b = true ↔
    a.type.name = b.type.name ∧ Graph.nameBefore a b = true ∨
      a.type.name ≠ b.type.name ∧ a.type.name ≤ b.type.name := by
  unfold Graph.before
  split
  next same => simp [same]
  next other => simp [other]

theorem before_trans (h : Graph.before a b = true) (k : Graph.before b c = true) :
    Graph.before a c = true := by
  rw [before_iff] at *
  rcases h with ⟨same, h⟩ | ⟨other, h⟩ <;> rcases k with ⟨same', k⟩ | ⟨other', k⟩
  · exact .inl ⟨same.trans same', nameBefore_trans h k⟩
  · rw [same]
    exact .inr ⟨other', k⟩
  · rw [← same']
    exact .inr ⟨other, h⟩
  · refine .inr ⟨fun back => other ?_, String.le_trans h k⟩
    rw [← back] at k
    exact String.le_antisymm h k

theorem before_total (a b : DependencyKey) : (Graph.before a b || Graph.before b a) = true := by
  rw [Bool.or_eq_true, before_iff, before_iff]
  by_cases same : a.type.name = b.type.name
  · rcases nameBefore_total a b with h | h
    · exact .inl (.inl ⟨same, h⟩)
    · exact .inr (.inl ⟨same.symm, h⟩)
  · rcases String.le_total a.type.name b.type.name with h | h
    · exact .inl (.inr ⟨same, h⟩)
    · exact .inr (.inr ⟨Ne.symm same, h⟩)

theorem name_of_before (h : Graph.before a b = true) (k : Graph.before b a = true) :
    a.type.name = b.type.name ∧ a.name = b.name := by
  rw [before_iff] at *
  rcases h with ⟨same, h⟩ | ⟨other, h⟩ <;> rcases k with ⟨same', k⟩ | ⟨other', k⟩
  · exact ⟨same, name_of_nameBefore h k⟩
  · exact absurd same.symm other'
  · exact absurd same'.symm other
  · exact absurd (String.le_antisymm h k) other

/-- Where keys are printed differently, none is listed both before and after another. -/
theorem eq_of_before (printed : a.display = b.display → (a == b) = true)
    (h : Graph.before a b = true) (k : Graph.before b a = true) : a = b := by
  obtain ⟨type, name⟩ := name_of_before h k
  have same : a.display = b.display := by rw [display, display, type, name]
  have identity := TypeKey.beq_iff.mp (beq_iff.mp (printed same)).1
  obtain ⟨⟨i, n⟩, m⟩ := a
  obtain ⟨⟨i', n'⟩, m'⟩ := b
  cases identity
  cases type
  cases name
  rfl

end DependencyKey

namespace Graph

variable {g g' : Graph} {safe path : List DependencyKey} {key other : DependencyKey}

section Refused

theorem met_of_needs {needed : List DependencyKey} {last : DependencyKey}
    (needs : g.needs? last = some needed) (met : ∀ other ∈ needed, safe.contains other = true)
    (same : (key == last) = true) (h : g.Needs key other) : safe.contains other = true := by
  obtain ⟨needed', found, ho⟩ := h
  rw [needs?_congr same, needs] at found
  cases found
  obtain ⟨listed, hl, alike⟩ := List.contains_iff_exists_mem_beq.mp ho
  rw [DependencyKey.contains_congr alike]
  exact met listed hl

/-- What a service of an order needs is of the order. -/
theorem Ordered.needs (h : Ordered g safe) (hk : safe.contains key = true)
    (needs : g.Needs key other) : safe.contains other = true := by
  induction h with
  | nil => cases hk
  | snoc before new needs_eq met ih =>
    rw [contains_snoc] at hk ⊢
    rcases hk with hk | same
    · exact .inl (ih hk)
    · exact .inl (met_of_needs needs_eq met same needs)

/-- A way from a service leads to services before it. -/
theorem Ordered.acyclic (h : Ordered g safe) (hk : safe.contains key = true) :
    ¬ Relation.TransGen g.Needs key key := by
  induction h with
  | nil => cases hk
  | @snoc safe needed last before new needs_eq met ih =>
    rcases contains_snoc.mp hk with hk | same
    · exact ih hk
    · -- The last service needs only earlier ones, and from those no way leads to it.
      intro cycle
      obtain ⟨mid, first, back⟩ := Relation.TransGen.head'_iff.mp cycle
      have stays : ∀ other, Relation.ReflTransGen g.Needs mid other →
          safe.contains other = true := by
        intro other way
        induction way with
        | refl => exact met_of_needs needs_eq met same first
        | tail _ step ih => exact before.needs ih step
      have known := stays key back
      rw [DependencyKey.contains_congr same, new] at known
      cases known

/-- No service of a graph that passes its check needs itself. -/
theorem acyclic_of_check (h : g.check = .ok ⟨⟩) : ¬ g.Cyclic := by
  obtain ⟨safe, ordered, all⟩ := ordered_of_check h
  rintro ⟨key, cycle⟩
  obtain ⟨mid, ⟨needed, needs, -⟩, -⟩ := Relation.TransGen.head'_iff.mp cycle
  obtain ⟨entry, he, same, -⟩ := needs?_eq_some needs
  have known := all entry he
  rw [DependencyKey.contains_congr same] at known
  exact ordered.acyclic known cycle

structure Decided (g : Graph) : Prop where
  accepts : g.check = .ok ⟨⟩ ↔ ¬ g.Cyclic
  reports : g.Cyclic → ∃ chain, g.check = .error (.circularDependency chain) ∧ g.Cycle chain
  /-- The walk is over by itself: with more depth it ends in the same way. -/
  terminates : ∀ depth, g.length ≤ depth →
    ((g.keys.forM (g.visit depth [])).run.run []).1 = g.check

theorem decided_of_closed (closed : g.Closed) : g.Decided where
  accepts := by
    refine ⟨acyclic_of_check, fun acyclic => ?_⟩
    cases h : g.check with
    | ok u => rfl
    | error e =>
      obtain ⟨chain, -, cycle⟩ := cycle_of_check closed h
      exact absurd cycle.cyclic acyclic
  reports := by
    intro cyclic
    cases h : g.check with
    | ok u => exact absurd cyclic (acyclic_of_check h)
    | error e =>
      obtain ⟨chain, rfl, cycle⟩ := cycle_of_check closed h
      exact ⟨chain, rfl, cycle⟩
  terminates := by
    intro depth enough
    have visits : g.keys.forM (g.visit depth []) = g.keys.forM (g.visit g.length []) := by
      apply forM_congr_of_mem
      intro key hk
      have trail : g.Trail [] key := .start (known_of_mem_keys hk)
      exact visit_depth closed trail (by simpa using enough) (by simp)
    rw [visits]
    rfl

/-- A graph that has a cycle does not pass its check. -/
theorem check_of_cyclic (closed : g.Closed) (cyclic : g.Cyclic) :
    ∃ chain, g.check = .error (.circularDependency chain) := by
  obtain ⟨chain, unchecked, -⟩ := (decided_of_closed closed).reports cyclic
  exact ⟨chain, unchecked⟩

end Refused

section Order

theorem visit_congr (needs : ∀ key, g'.needs? key = g.needs? key) (closed : g.Closed)
    (depth : Nat) (known : (g.needs? key).isSome = true) :
    g'.visit depth path key = g.visit depth path key := by
  obtain ⟨needed, found⟩ := Option.isSome_iff_exists.mp known
  induction depth generalizing path key needed with
  | zero => rw [visit_eq, visit_eq, needs, found]
  | succ depth ih =>
    have later : needed.forM (g'.visit depth (path ++ [key])) =
        needed.forM (g.visit depth (path ++ [key])) := by
      apply forM_congr_of_mem
      intro other ho
      have known := closed key needed found other ho
      obtain ⟨needed', found'⟩ := Option.isSome_iff_exists.mp known
      exact ih known needed' found'
    rw [visit_eq, visit_eq, needs, found]
    dsimp only
    rw [later]

/-- Names that are different put the services in one order. -/
theorem keys_perm (perm : g.Perm g')
    (printed : ∀ e ∈ g, ∀ e' ∈ g, e.1.display = e'.1.display → (e.1 == e'.1) = true) :
    g'.keys = g.keys := by
  have trans : ∀ a b c, before a b = true → before b c = true → before a c = true :=
    fun _ _ _ => DependencyKey.before_trans
  have sorted : ∀ g : Graph, g.keys.Pairwise fun a b => before a b = true :=
    fun g => List.pairwise_mergeSort trans DependencyKey.before_total _
  have same : g'.keys.Perm g.keys :=
    ((List.mergeSort_perm _ _).trans (perm.symm.map _)).trans (List.mergeSort_perm _ _).symm
  refine same.eq_of_pairwise ?_ (sorted g') (sorted g)
  intro a b ha hb h k
  rw [same.mem_iff] at ha
  obtain ⟨e, he, rfl⟩ := List.mem_map.mp (List.mem_mergeSort.mp ha)
  obtain ⟨e', he', rfl⟩ := List.mem_map.mp (List.mem_mergeSort.mp hb)
  exact DependencyKey.eq_of_before (printed e he e' he') h k

theorem check_perm (perm : g.Perm g') (needs : ∀ key, g'.needs? key = g.needs? key)
    (closed : g.Closed)
    (printed : ∀ e ∈ g, ∀ e' ∈ g, e.1.display = e'.1.display → (e.1 == e'.1) = true) :
    g'.check = g.check := by
  have visits : g.keys.forM (g'.visit g.length []) = g.keys.forM (g.visit g.length []) :=
    forM_congr_of_mem fun key hk => visit_congr needs closed g.length (known_of_mem_keys hk)
  rw [check, check, keys_perm perm printed, ← perm.length_eq, visits]

end Order

end Graph

end Injector
