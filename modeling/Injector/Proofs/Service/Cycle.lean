import Mathlib.Data.List.Chain
import Mathlib.Logic.Relation
import Injector.Proofs.Service.Graph

/-!
# What stops the walk over a graph

Every service that is needed can be found here. The services of the path the walk came by are
distinct and each needs the next, so a service that is met again closes a cycle; and as there are no
more of them than the graph has, the walk is over before its depth is used up.
-/

set_option autoImplicit false

namespace Injector

namespace Graph

variable {g : Graph} {safe path chain needed : List DependencyKey} {key other third : DependencyKey}

def Needs (g : Graph) (key other : DependencyKey) : Prop :=
  ∃ needed, g.needs? key = some needed ∧ needed.contains other = true

def Cyclic (g : Graph) : Prop := ∃ key, Relation.TransGen g.Needs key key

def Closed (g : Graph) : Prop :=
  ∀ key needed, g.needs? key = some needed → ∀ other ∈ needed, (g.needs? other).isSome = true

/-- A way from a service back to itself, on which no other service comes twice. -/
structure Cycle (g : Graph) (chain : List DependencyKey) : Prop where
  long : 2 ≤ chain.length
  closes : ∃ first last, chain.head? = some first ∧ chain.getLast? = some last ∧
    (first == last) = true
  once : chain.dropLast.Pairwise fun a b => (a == b) = false
  needs : chain.IsChain g.Needs

theorem isSome_needs? {entry : DependencyKey × List DependencyKey} (h : entry ∈ g) :
    (g.needs? entry.1).isSome = true := by
  rw [needs?, Option.isSome_map, List.find?_isSome]
  exact ⟨entry, h, BEq.refl entry.1⟩

theorem known_of_mem_keys (h : key ∈ g.keys) : (g.needs? key).isSome = true := by
  rw [keys, List.mem_mergeSort] at h
  obtain ⟨entry, he, rfl⟩ := List.mem_map.mp h
  exact isSome_needs? he

theorem needs_of_mem (needs : g.needs? key = some needed) (h : other ∈ needed) :
    g.Needs key other :=
  ⟨needed, needs, List.contains_iff_exists_mem_beq.mpr ⟨other, h, BEq.refl other⟩⟩

theorem Needs.congr (h : g.Needs key other) (same : (other == third) = true) :
    g.Needs key third := by
  obtain ⟨needed, needs, listed⟩ := h
  exact ⟨needed, needs, (DependencyKey.contains_congr same).symm.trans listed⟩

/-- Along its chain the first service of a cycle needs itself. -/
theorem Cycle.cyclic (h : g.Cycle chain) : g.Cyclic := by
  obtain ⟨long, ⟨first, last, head, final, same⟩, -, needs⟩ := h
  match chain with
  | [] | [_] => simp at long
  | a :: b :: rest =>
    obtain rfl : a = first := Option.some.inj head
    have way : Relation.ReflTransGen g.Needs b last := by
      have ends : (b :: rest).getLast (List.cons_ne_nil b rest) = last := by
        rw [List.getLast?_cons_cons,
          List.getLast?_eq_some_getLast (List.cons_ne_nil b rest)] at final
        exact Option.some.inj final
      rw [← ends]
      exact List.relationReflTransGen_of_exists_isChain_cons rest needs.tail rfl
    obtain ⟨mid, there, back⟩ :=
      Relation.TransGen.tail'_iff.mp (Relation.TransGen.head' needs.rel way)
    exact ⟨a, Relation.TransGen.tail' there (back.congr (BEq.symm same))⟩

/-- The chain that is reported begins where the path came by the service before. -/
theorem cycle_eq (met : path.contains key = true) : ∃ before first later,
    path = before ++ first :: later ∧ (first == key) = true ∧
      cycle path key = first :: later ++ [key] := by
  unfold cycle
  induction path with
  | nil => cases met
  | cons service rest ih =>
    by_cases same : (service == key) = true
    · refine ⟨[], service, rest, rfl, same, ?_⟩
      rw [List.dropWhile_cons_of_neg (by simp [bne, same])]
    · rw [List.contains_cons, Bool.or_eq_true, BEq.comm, or_iff_right same] at met
      obtain ⟨before, first, later, rfl, closes, reported⟩ := ih met
      refine ⟨service :: before, first, later, rfl, closes, ?_⟩
      rw [List.dropWhile_cons_of_pos (by simp [bne, same]), reported]

structure Trail (g : Graph) (path : List DependencyKey) (key : DependencyKey) : Prop where
  needs : (path ++ [key]).IsChain g.Needs
  once : path.Pairwise fun a b => (a == b) = false
  known : ∀ service ∈ path ++ [key], (g.needs? service).isSome = true

namespace Trail

theorem start (known : (g.needs? key).isSome = true) : g.Trail [] key :=
  ⟨.singleton key, .nil, List.forall_mem_singleton.mpr known⟩

/-- The walk goes on to a service that is needed. -/
theorem step (h : g.Trail path key) (closed : g.Closed) (new : path.contains key = false)
    (needs : g.needs? key = some needed) (ho : other ∈ needed) :
    g.Trail (path ++ [key]) other where
  needs := by
    refine h.needs.append (.singleton other) ?_
    rintro a ha b hb
    rw [List.getLast?_concat] at ha
    cases ha
    cases hb
    exact needs_of_mem needs ho
  once := by
    rw [List.pairwise_append]
    refine ⟨h.once, List.pairwise_singleton _ _, fun a ha b hb => ?_⟩
    rw [List.mem_singleton.mp hb, Bool.eq_false_iff]
    intro same
    rw [List.contains_eq_any_beq, List.any_eq_false] at new
    exact new a ha (BEq.symm same)
  known := by
    rw [List.forall_mem_append, List.forall_mem_singleton]
    exact ⟨h.known, closed key needed needs other ho⟩

/-- As long as no service is met again, there are some that were not visited. -/
theorem length_lt (h : g.Trail path key) (new : path.contains key = false) :
    path.length < g.length := by
  have distinct : ((path ++ [key]).map (·.code)).Nodup := by
    rw [List.Nodup, List.pairwise_map, List.pairwise_append]
    refine ⟨h.once.imp fun apart same => ?_, List.pairwise_singleton _ _, ?_⟩
    · rw [DependencyKey.code_eq_iff, apart] at same
      cases same
    · intro a ha b hb same
      rw [List.mem_singleton.mp hb, DependencyKey.code_eq_iff] at same
      rw [List.contains_eq_any_beq, List.any_eq_false] at new
      exact new a ha (BEq.symm same)
  have short := length_le_of_distinct distinct h.known
  rwa [List.length_append] at short

/-- A service that is met again closes a cycle. -/
theorem cycle (h : g.Trail path key) (met : path.contains key = true) :
    g.Cycle (cycle path key) := by
  obtain ⟨before, first, later, rfl, same, reported⟩ := cycle_eq met
  rw [reported]
  have once := (List.pairwise_append.mp h.once).2.1
  have needs := h.needs
  rw [List.append_assoc] at needs
  exact
    { long := by simp
      closes := ⟨first, key, rfl, List.getLast?_concat, same⟩
      once := by rwa [List.dropLast_concat]
      needs := needs.right_of_append }

end Trail

theorem forM_congr_of_mem {xs : List DependencyKey} {f f' : DependencyKey → Check Unit}
    (h : ∀ x ∈ xs, f x = f' x) : xs.forM f = xs.forM f' := by
  induction xs with
  | nil => rfl
  | cons x xs ih =>
    show (f x >>= fun _ => xs.forM f) = f' x >>= fun _ => xs.forM f'
    rw [h x List.mem_cons_self, ih fun y hy => h y (List.mem_cons_of_mem x hy)]

/-- Depth that is left for all services of the graph is as good as any. -/
theorem visit_depth (closed : g.Closed) {depth depth' : Nat} (trail : g.Trail path key)
    (enough : g.length ≤ path.length + depth) (enough' : g.length ≤ path.length + depth') :
    g.visit depth path key = g.visit depth' path key := by
  induction depth generalizing path key depth' with
  | zero =>
    by_cases met : path.contains key = true
    · simp only [visit_eq, met, if_true]
    · have room := trail.length_lt (Bool.eq_false_iff.mpr met)
      omega
  | succ depth ih =>
    by_cases met : path.contains key = true
    · simp only [visit_eq, met, if_true]
    · have new := Bool.eq_false_iff.mpr met
      have room := trail.length_lt new
      obtain ⟨depth', rfl⟩ : ∃ n, depth' = n + 1 := Nat.exists_eq_add_one.mpr (by omega)
      obtain ⟨needed, needs⟩ := Option.isSome_iff_exists.mp (trail.known key (by simp))
      have later : needed.forM (g.visit depth (path ++ [key])) =
          needed.forM (g.visit depth' (path ++ [key])) := by
        apply forM_congr_of_mem
        intro other ho
        apply ih (trail.step closed new needs ho)
        · rw [List.length_append, List.length_singleton]
          omega
        · rw [List.length_append, List.length_singleton]
          omega
      rw [visit_eq, visit_eq, needs]
      dsimp only
      rw [later]

/-- Only a cycle stops the walk. -/
theorem ends_visit_cycle (closed : g.Closed) {depth : Nat} (trail : g.Trail path key)
    (enough : g.length ≤ path.length + depth) :
    Ends (g.visit depth path key) safe (fun _ _ => True)
      fun e _ => ∃ chain, e = .circularDependency chain ∧ g.Cycle chain := by
  induction depth generalizing path key safe with
  | zero =>
    rw [visit_eq, ends_bind, ends_get]
    by_cases met : path.contains key = true
    · rw [if_pos met]
      split
      · trivial
      · exact ⟨_, rfl, trail.cycle met⟩
    · have room := trail.length_lt (Bool.eq_false_iff.mpr met)
      omega
  | succ depth ih =>
    rw [visit_eq, ends_bind, ends_get]
    obtain ⟨needed, needs⟩ := Option.isSome_iff_exists.mp (trail.known key (by simp))
    rw [needs]
    split
    · trivial
    · split
      next met => exact ⟨_, rfl, trail.cycle met⟩
      next met =>
        have later : Ends (needed.forM (g.visit depth (path ++ [key]))) safe (fun _ _ => True)
            fun e _ => ∃ chain, e = .circularDependency chain ∧ g.Cycle chain := by
          apply ends_forM trivial
          intro other ho _ _
          apply ih (trail.step closed (Bool.eq_false_iff.mpr met) needs ho)
          rw [List.length_append, List.length_singleton]
          omega
        exact later.bind fun _ _ _ => trivial

theorem cycle_of_check (closed : g.Closed) {e : Error} (h : g.check = .error e) :
    ∃ chain, e = .circularDependency chain ∧ g.Cycle chain := by
  have ends : Ends (g.keys.forM (g.visit g.length [])) [] (fun _ _ => True)
      fun e _ => ∃ chain, e = .circularDependency chain ∧ g.Cycle chain :=
    ends_forM trivial fun key hk safe _ =>
      ends_visit_cycle closed (.start (known_of_mem_keys hk)) (Nat.le_add_left _ _)
  exact ends.of_error (Prod.ext h rfl)

end Graph

end Injector
