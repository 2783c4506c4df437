import Mathlib.Data.List.Nodup
import Mathlib.Data.List.Perm.Subperm
import Injector.Proofs.Ends
import Injector.Service.Graph

/-!
# Graphs in order

A graph that passes its check can be put in order: the services that were found to be safe are a
list in which each needs only services before it. The walk never adds a service of the path it
came by, and so it adds none twice.
-/

set_option autoImplicit false

namespace Injector

namespace DependencyKey

def code (key : DependencyKey) : Identity × Option String := (key.type.identity, key.name)

theorem code_eq_iff {a b : DependencyKey} : a.code = b.code ↔ (a == b) = true := by
  rw [beq_iff, TypeKey.beq_iff, code, code, Prod.mk.injEq]

theorem contains_iff_mem_code {keys : List DependencyKey} {key : DependencyKey} :
    keys.contains key = true ↔ key.code ∈ keys.map code := by
  rw [List.contains_iff_exists_mem_beq, List.mem_map]
  constructor
  · rintro ⟨other, ho, hk⟩
    exact ⟨other, ho, (code_eq_iff.mpr hk).symm⟩
  · rintro ⟨other, ho, hk⟩
    exact ⟨other, ho, code_eq_iff.mp hk.symm⟩

theorem contains_congr {a b : DependencyKey} {keys : List DependencyKey} (h : (a == b) = true) :
    keys.contains a = keys.contains b := by
  rw [Bool.eq_iff_iff, contains_iff_mem_code, contains_iff_mem_code, code_eq_iff.mpr h]

end DependencyKey

namespace Graph

variable {g : Graph} {safe safe' path : List DependencyKey} {key : DependencyKey}

inductive Ordered (g : Graph) : List DependencyKey → Prop
  | nil : Ordered g []
  | snoc {safe needed : List DependencyKey} {key : DependencyKey} (before : Ordered g safe)
      (new : safe.contains key = false) (needs : g.needs? key = some needed)
      (met : ∀ other ∈ needed, safe.contains other = true) : Ordered g (safe ++ [key])

theorem Ordered.nodup (h : Ordered g safe) : (safe.map (·.code)).Nodup := by
  induction h with
  | nil => exact List.nodup_nil
  | @snoc safe needed key before new needs met ih =>
    have fresh : key.code ∉ safe.map (·.code) := by
      rw [← DependencyKey.contains_iff_mem_code, new]
      exact Bool.false_ne_true
    rw [List.map_append, List.map_singleton, List.nodup_append']
    exact ⟨ih, List.nodup_singleton _, fun c hc hk => fresh (List.mem_singleton.mp hk ▸ hc)⟩

theorem needs?_eq_some {needed : List DependencyKey} (h : g.needs? key = some needed) :
    ∃ entry ∈ g, (entry.1 == key) = true ∧ entry.2 = needed := by
  rw [needs?, Option.map_eq_some_iff] at h
  obtain ⟨entry, hf, rfl⟩ := h
  exact ⟨entry, List.mem_of_find?_eq_some hf, by simpa using List.find?_some hf, rfl⟩

theorem needs?_congr {other : DependencyKey} (h : (key == other) = true) :
    g.needs? key = g.needs? other := by
  have same : (fun entry : DependencyKey × List DependencyKey => entry.1 == key) =
      fun entry => entry.1 == other := by
    funext entry
    rw [Bool.eq_iff_iff]
    exact ⟨fun he => BEq.trans he h, fun he => BEq.trans he (BEq.symm h)⟩
  rw [needs?, needs?, same]

/-- Distinct services of the graph are no more than it has. -/
theorem length_le_of_distinct {keys : List DependencyKey} (distinct : (keys.map (·.code)).Nodup)
    (known : ∀ key ∈ keys, (g.needs? key).isSome = true) : keys.length ≤ g.length := by
  have subset : keys.map (·.code) ⊆ g.map (·.1.code) := by
    intro c hc
    obtain ⟨key, hk, rfl⟩ := List.mem_map.mp hc
    obtain ⟨needed, needs⟩ := Option.isSome_iff_exists.mp (known key hk)
    obtain ⟨entry, he, same, -⟩ := needs?_eq_some needs
    rw [← DependencyKey.code_eq_iff.mpr same]
    exact List.mem_map_of_mem he
  have hle := (distinct.subperm subset).length_le
  rwa [List.length_map, List.length_map] at hle

theorem Ordered.known (h : Ordered g safe) : ∀ key ∈ safe, (g.needs? key).isSome = true := by
  induction h with
  | nil => exact List.forall_mem_nil _
  | snoc before new needs met ih =>
    rw [List.forall_mem_append, List.forall_mem_singleton, needs]
    exact ⟨ih, rfl⟩

theorem Ordered.length_le (h : Ordered g safe) : safe.length ≤ g.length :=
  length_le_of_distinct h.nodup h.known

structure Advances (g : Graph) (path safe safe' : List DependencyKey) : Prop where
  ordered : Ordered g safe'
  kept : ∀ key, safe.contains key = true → safe'.contains key = true
  off_path : ∀ key ∈ path, safe'.contains key = true → safe.contains key = true

theorem Advances.refl (h : Ordered g safe) : Advances g path safe safe :=
  ⟨h, fun _ hk => hk, fun _ _ hk => hk⟩

theorem Advances.trans {last : List DependencyKey} (h : Advances g path safe safe')
    (k : Advances g path safe' last) : Advances g path safe last :=
  ⟨k.ordered, fun key hk => k.kept key (h.kept key hk),
    fun key hp hk => h.off_path key hp (k.off_path key hp hk)⟩

theorem ends_visits {depth : Nat} (needed : List DependencyKey) (hs : Ordered g safe)
    (visit_one : ∀ key safe, Ordered g safe → Ends (g.visit depth path key) safe
      (fun _ safe' => Advances g path safe safe' ∧ safe'.contains key = true)
      fun _ _ => True) :
    Ends (needed.forM (g.visit depth path)) safe
      (fun _ safe' => Advances g path safe safe' ∧ ∀ key ∈ needed, safe'.contains key = true)
      fun _ _ => True := by
  induction needed generalizing safe with
  | nil => exact ⟨.refl hs, fun _ h => by cases h⟩
  | cons key rest ih =>
    show Ends (g.visit depth path key >>= fun _ => rest.forM (g.visit depth path)) safe _ _
    apply (visit_one key safe hs).bind
    rintro _ s₁ ⟨first, met⟩
    apply (ih first.ordered).mono
    · rintro _ s₂ ⟨others, all⟩
      refine ⟨first.trans others, ?_⟩
      intro other ho
      rcases List.mem_cons.mp ho with rfl | ho
      · exact others.kept other met
      · exact all other ho
    · exact fun _ _ _ => trivial

theorem visit_eq (g : Graph) (depth : Nat) (path : List DependencyKey) (key : DependencyKey) :
    g.visit depth path key = get >>= fun safe =>
      if safe.contains key then pure ()
      else if path.contains key then throw (.circularDependency (cycle path key))
      else match g.needs? key with
        | none => throw (unregistered g path key)
        | some needed => match depth with
          | 0 => throw (.circularDependency [key])
          | depth + 1 => needed.forM (g.visit depth (path ++ [key])) >>= fun _ =>
              modify fun safe => safe ++ [key] := by
  -- the step on `depth` is under the binder of `safe`, where no equation of `visit` reaches it
  delta visit
  cases depth with
  | zero => rfl
  | succ depth => rfl

theorem contains_snoc {other : DependencyKey} :
    (safe ++ [key]).contains other = true ↔
      safe.contains other = true ∨ (other == key) = true := by
  simp [List.contains_eq_any_beq, List.any_append]

/-- What a service needs cannot be safe only because of the service itself. -/
theorem Advances.snoc {needed : List DependencyKey}
    (h : Advances g (path ++ [key]) safe safe') (unknown : ¬ safe.contains key = true)
    (acyclic : ¬ path.contains key = true) (needs : g.needs? key = some needed)
    (met : ∀ other ∈ needed, safe'.contains other = true) :
    Advances g path safe (safe' ++ [key]) where
  ordered := by
    have new : ¬ safe'.contains key = true := fun hk => unknown (h.off_path key (by simp) hk)
    exact h.ordered.snoc (Bool.eq_false_iff.mpr new) needs met
  kept := fun other hk => contains_snoc.mpr (Or.inl (h.kept other hk))
  off_path := by
    intro other hp hk
    rcases contains_snoc.mp hk with hk | hk
    · exact h.off_path other (List.mem_append_left _ hp) hk
    · refine absurd ?_ acyclic
      exact List.contains_iff_exists_mem_beq.mpr ⟨other, hp, BEq.symm hk⟩

theorem ends_visit (depth : Nat) (path : List DependencyKey) (key : DependencyKey)
    (hs : Ordered g safe) :
    Ends (g.visit depth path key) safe
      (fun _ safe' => Advances g path safe safe' ∧ safe'.contains key = true)
      fun _ _ => True := by
  induction depth using Nat.strongRecOn generalizing path key safe with
  | ind depth ih =>
    rw [visit_eq, ends_bind, ends_get]
    by_cases known : safe.contains key = true
    · rw [if_pos known]
      exact ⟨.refl hs, known⟩
    · rw [if_neg known]
      by_cases cyclic : path.contains key = true
      · rw [if_pos cyclic]
        trivial
      · rw [if_neg cyclic]
        cases needs : g.needs? key with
        | none => trivial
        | some needed =>
          cases depth with
          | zero => trivial
          | succ depth =>
            dsimp only
            have below : ∀ other safe, Ordered g safe →
                Ends (g.visit depth (path ++ [key]) other) safe
                  (fun _ safe' => Advances g (path ++ [key]) safe safe' ∧
                    safe'.contains other = true) fun _ _ => True :=
              fun other _ h => ih depth (Nat.lt_succ_self depth) (path ++ [key]) other h
            apply (ends_visits needed hs below).bind
            rintro _ safe' ⟨advances, met⟩
            exact ⟨advances.snoc known cyclic needs met,
              contains_snoc.mpr (Or.inr (BEq.refl key))⟩

/-- A graph that passes its check has an order in which all its services come. -/
theorem ordered_of_check (h : g.check = .ok ⟨⟩) :
    ∃ safe, Ordered g safe ∧ ∀ entry ∈ g, safe.contains entry.1 = true := by
  have start : Ordered g [] := .nil
  have ends := ends_visits g.keys start fun key _ hs => ends_visit g.length [] key hs
  have hr : (g.keys.forM (g.visit g.length []) []) =
      (.ok ⟨⟩, (g.keys.forM (g.visit g.length []) []).2) := Prod.ext h rfl
  obtain ⟨advances, all⟩ := ends.of_ok hr
  refine ⟨_, advances.ordered, fun entry he => all entry.1 ?_⟩
  rw [keys, List.mem_mergeSort]
  exact List.mem_map_of_mem he

end Graph

end Injector
