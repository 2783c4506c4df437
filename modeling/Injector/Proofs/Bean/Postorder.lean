import Injector.Proofs.Bean.Invocation

/-!
# The order of a call

The order in which a call goes through the operations under the one that is called: those that make
values for an operation come before it, in the order of its parameters. The operations form a
forest, so none of them is met twice.
-/

set_option autoImplicit false

namespace Injector

variable {P : Platform}

inductive Place where
  | service (id : OperationId) (index : Nat)
  | accessor (id : OperationId)

namespace Place

def owner : Place → OperationId
  | service id _ => id
  | accessor id => id

def accessor? : Place → Option OperationId
  | service .. => none
  | accessor id => some id

end Place

namespace Bean

def parameterPlan (nested : OperationId → List Place) (id : OperationId) :
    Option (Binding P) × Nat → List Place
  | (some (.operation child), _) => nested child
  | (some (.service ..), index) => [.service id index]
  | _ => []

def planWithin (b : Bean P) : Nat → OperationId → List Place
  | 0, _ => []
  | depth + 1, id =>
    match b.operation? id with
    | none => []
    | some op =>
      op.bindings.zipIdx.flatMap (parameterPlan (b.planWithin depth) id) ++ [.accessor id]

def plan (b : Bean P) (id : OperationId) : List Place :=
  b.planWithin (b.operations.size + 1) id

def postorder (b : Bean P) (id : OperationId) : List OperationId :=
  (b.plan id).filterMap Place.accessor?

section Order

variable {b : Bean P} {op : Operation P} {id : Nat} {depth : Nat} {place : Place}

theorem mem_zipIdx_bindings {entry : Option (Binding P) × Nat} (at_ : entry ∈ op.bindings.zipIdx)
    {binding : Binding P} (bound : entry.1 = some binding) :
    op.binding? entry.2 = some binding := by
  rw [List.mem_zipIdx_iff_getElem?, bound] at at_
  exact Operation.binding?_eq_some.mpr at_

theorem planWithin_of_absent (absent : b.operation? id = none) : b.planWithin depth id = [] := by
  cases depth with
  | zero => rfl
  | succ depth => rw [planWithin, absent]

/-- Any depth that is enough gives the same plan. -/
theorem planWithin_eq (linked : b.Linked) {depth' : Nat} (deep : b.operations.size < id + depth)
    (deep' : b.operations.size < id + depth') : b.planWithin depth id = b.planWithin depth' id := by
  induction depth generalizing id depth' with
  | zero =>
    have absent : b.operation? id = none := Array.getElem?_eq_none (by omega)
    rw [planWithin_of_absent absent, planWithin_of_absent absent]
  | succ depth ih =>
    cases found : b.operation? id with
    | none => rw [planWithin_of_absent found, planWithin_of_absent found]
    | some op =>
      have inBounds := lt_of_operation? found
      cases depth' with
      | zero => omega
      | succ depth' =>
        have same : ∀ entry ∈ op.bindings.zipIdx, parameterPlan (b.planWithin depth) id entry =
            parameterPlan (b.planWithin depth') id entry := by
          rintro ⟨binding, index⟩ at_
          match binding with
          | some (.operation child) =>
            have younger := lt_of_nested linked found
              (List.mem_of_getElem? (List.mem_zipIdx_iff_getElem?.mp at_))
            exact ih (by omega) (by omega)
          | none | some (.constant _) | some (.argument _) | some (.service ..) => rfl
        rw [planWithin, planWithin, found]
        dsimp only
        rw [List.flatMap_congr same]

theorem plan_eq (linked : b.Linked) (found : b.operation? id = some op) :
    b.plan id = op.bindings.zipIdx.flatMap (parameterPlan b.plan id) ++ [.accessor id] := by
  have same : ∀ entry ∈ op.bindings.zipIdx,
      parameterPlan (b.planWithin b.operations.size) id entry = parameterPlan b.plan id entry := by
    rintro ⟨binding, index⟩ at_
    match binding with
    | some (.operation child) =>
      have younger := lt_of_nested linked found
        (List.mem_of_getElem? (List.mem_zipIdx_iff_getElem?.mp at_))
      exact planWithin_eq linked (by omega) (by omega)
    | none | some (.constant _) | some (.argument _) | some (.service ..) => rfl
  conv_lhs => rw [plan, planWithin, found]
  dsimp only
  rw [List.flatMap_congr same]

theorem accessors_parameterPlan (entries : List (Option (Binding P) × Nat)) :
    (entries.flatMap (parameterPlan b.plan id)).filterMap Place.accessor? =
      (entries.filterMap fun entry => entry.1.bind nestedOperation).flatMap b.postorder := by
  induction entries with
  | nil => rfl
  | cons entry rest ih =>
    rw [List.flatMap_cons, List.filterMap_append, ih, List.filterMap_cons]
    obtain ⟨binding, index⟩ := entry
    match binding with
    | some (.operation child) => rfl
    | none | some (.constant _) | some (.argument _) | some (.service ..) => rfl

/-- The children of an operation come before it, in the order of its parameters, and each of them
brings its own along. -/
theorem postorder_eq (linked : b.Linked) (found : b.operation? id = some op) :
    b.postorder id = op.nested.flatMap b.postorder ++ [id] := by
  have nested : op.bindings.zipIdx.filterMap (fun entry => entry.1.bind nestedOperation) =
      op.nested := by
    rw [Operation.nested]
    conv_rhs => rw [← List.zipIdx_map_fst 0 op.bindings, List.filterMap_map]
    rfl
  rw [postorder, plan_eq linked found, List.filterMap_append, accessors_parameterPlan, nested]
  rfl

theorem le_of_under (linked : b.Linked) {other : Nat} (under : b.Under id other) : id ≤ other := by
  induction under with
  | refl => exact Nat.le_refl id
  | tail _ held ih =>
    obtain ⟨index, held⟩ := held
    have younger := (linked.isForest.held _ index _ held).1
    omega

/-- An operation is under at most one child of another one. -/
theorem Linked.index_eq_of_under (linked : b.Linked) {i j c d other : Nat} (hc : b.Holds id i c)
    (hd : b.Holds id j d) (uc : b.Under c other) (ud : b.Under d other) : i = j := by
  have forest := linked.isForest
  have held_once : ∀ {p q m n x}, b.Holds p m x → b.Holds q n x → p = q ∧ m = n := by
    intro p q m n x hp hq
    obtain ⟨-, op, found, parent⟩ := forest.held p m x hp
    obtain ⟨index, -, only⟩ := forest.child x op p found parent
    obtain ⟨-, rfl⟩ := only p m hp
    obtain ⟨rfl, rfl⟩ := only q n hq
    exact ⟨rfl, rfl⟩
  -- Of two that are above a third one is above the other, but `c` and `d` have the same parent.
  have below : ∀ {i j c d}, b.Holds id i c → b.Holds id j d → b.Under c d → i = j := by
    intro i j c d hc hd under
    rcases under.cases_tail with rfl | ⟨holder, above, index, held⟩
    · exact (held_once hc hd).2
    · obtain ⟨rfl, -⟩ := held_once held hd
      have older := le_of_under linked above
      have younger := (forest.held holder i c hc).1
      omega
  have unique : Relator.RightUnique (Function.swap fun p x => ∃ index, b.Holds p index x) :=
    fun x p q hp hq => (held_once hp.choose_spec hq.choose_spec).1
  rcases Relation.ReflTransGen.total_of_right_unique unique
    (Relation.reflTransGen_swap.mpr uc) (Relation.reflTransGen_swap.mpr ud) with above | above
  · exact (below hd hc (Relation.reflTransGen_swap.mp above)).symm
  · exact below hc hd (Relation.reflTransGen_swap.mp above)

theorem under_of_mem_planWithin (at_ : place ∈ b.planWithin depth id) : b.Under id place.owner := by
  induction depth generalizing id with
  | zero => cases at_
  | succ depth ih =>
    cases found : b.operation? id with
    | none =>
      rw [planWithin_of_absent found] at at_
      cases at_
    | some op =>
      rw [planWithin, found] at at_
      rcases List.mem_append.mp at_ with at_ | at_
      · obtain ⟨⟨binding, index⟩, entry, at_⟩ := List.mem_flatMap.mp at_
        match binding with
        | some (.operation child) =>
          have held : b.Holds id index child := ⟨op, found, mem_zipIdx_bindings entry rfl⟩
          exact (ih at_).head ⟨index, held⟩
        | some (.service ..) =>
          rw [List.mem_singleton.mp at_]
          exact .refl
        | none | some (.constant _) | some (.argument _) => cases at_
      · rw [List.mem_singleton.mp at_]
        exact .refl

/-- An operation is called if it is the one or makes a value for one that is called. -/
theorem mem_postorder (linked : b.Linked) (found : b.operation? id = some op) {other : Nat} :
    other ∈ b.postorder id ↔ b.Under id other := by
  constructor
  · intro at_
    obtain ⟨place, at_, accessor⟩ := List.mem_filterMap.mp at_
    have under := under_of_mem_planWithin at_
    cases place with
    | service => cases accessor
    | accessor => cases accessor; exact under
  · intro under
    induction under using Relation.ReflTransGen.head_induction_on generalizing op with
    | refl =>
      rw [postorder_eq linked found]
      exact List.mem_append_right _ (List.mem_singleton_self _)
    | head held _ ih =>
      obtain ⟨index, held⟩ := held
      obtain ⟨new, there, -⟩ := linked.parent_of_holds held
      obtain ⟨holder, at_, bound⟩ := held
      obtain rfl := Option.some.inj (at_.symm.trans found)
      rw [postorder_eq linked found]
      exact List.mem_append_left _
        (List.mem_flatMap.mpr ⟨_, Operation.mem_nested.mpr ⟨index, bound⟩, ih there⟩)

theorem nodup_planWithin (linked : b.Linked) (depth : Nat) (id : Nat) :
    (b.planWithin depth id).Nodup := by
  induction depth generalizing id with
  | zero => exact List.nodup_nil
  | succ depth ih =>
    cases found : b.operation? id with
    | none =>
      rw [planWithin_of_absent found]
      exact List.nodup_nil
    | some op =>
      -- What is done for a parameter tells which one it is.
      have holds : ∀ {entry : Option (Binding P) × Nat}, entry ∈ op.bindings.zipIdx →
          ∀ {place}, place ∈ parameterPlan (b.planWithin depth) id entry →
            place = .service id entry.2 ∨
              ∃ child, b.Holds id entry.2 child ∧ b.Under child place.owner := by
        rintro ⟨binding, index⟩ entry place at_
        match binding with
        | some (.operation child) =>
          exact .inr ⟨child, ⟨op, found, mem_zipIdx_bindings entry rfl⟩,
            under_of_mem_planWithin at_⟩
        | some (.service ..) => exact .inl (List.mem_singleton.mp at_)
        | none | some (.constant _) | some (.argument _) => cases at_
      have younger : ∀ {index child x}, b.Holds id index child → b.Under child x → id < x := by
        intro index child x held under
        have above := (linked.isForest.held id index child held).1
        exact Nat.lt_of_lt_of_le above (le_of_under linked under)
      rw [planWithin, found]
      dsimp only
      rw [List.nodup_append', List.nodup_flatMap]
      refine ⟨⟨?_, ?_⟩, List.nodup_singleton _, ?_⟩
      · rintro ⟨binding, index⟩ -
        match binding with
        | some (.operation child) => exact ih child
        | some (.service ..) => exact List.nodup_singleton _
        | none | some (.constant _) | some (.argument _) => exact List.nodup_nil
      · have apart : op.bindings.zipIdx.Pairwise fun x y => x.2 ≠ y.2 := by
          rw [← List.pairwise_map, List.zipIdx_map_snd]
          exact List.nodup_range'
        refine apart.imp_of_mem fun {x y} hx hy apart place inX inY => apart ?_
        rcases holds hx inX with rfl | ⟨c, hc, uc⟩
        · rcases holds hy inY with same | ⟨d, hd, ud⟩
          · exact (Place.service.inj same).2
          · exact absurd (younger hd ud) (Nat.lt_irrefl id)
        · rcases holds hy inY with rfl | ⟨d, hd, ud⟩
          · exact absurd (younger hc uc) (Nat.lt_irrefl id)
          · exact linked.index_eq_of_under hc hd uc ud
      · intro place inside last
        obtain rfl := List.mem_singleton.mp last
        obtain ⟨entry, at_, inside⟩ := List.mem_flatMap.mp inside
        rcases holds at_ inside with same | ⟨c, hc, uc⟩
        · cases same
        · exact absurd (younger hc uc) (Nat.lt_irrefl id)

theorem nodup_plan (linked : b.Linked) (id : OperationId) : (b.plan id).Nodup :=
  nodup_planWithin linked _ id

theorem nodup_postorder (linked : b.Linked) (id : OperationId) : (b.postorder id).Nodup := by
  apply (nodup_plan linked id).filterMap
  intro place other id at_ at_'
  cases place <;> cases other <;> simp_all [Place.accessor?]

end Order

end Bean

end Injector
