import Injector.Proofs.Hook.Vocabulary

/-!
# Drafting a model

A model is drafted declaration by declaration. It takes in the markers that declare nothing for
themselves, each once, at the first class from the root that declares it.
-/

set_option autoImplicit false

namespace Injector

variable {P : Platform}

theorem ModelLevel.find?_append (type : TypeKey) (serial : Nat)
    (entries : List (Shared HookDescriptor)) (found : Shared HookDescriptor) (key : MarkerKey) :
    find? ⟨type, serial, entries ++ [found]⟩ key = (find? ⟨type, serial, entries⟩ key).or
      (if (found.value.marker == key) = true then some found else none) := by
  rw [find?, find?, List.find?_append, List.find?_singleton]

namespace HookModel

theorem find?_cons (level : ModelLevel) (above : HookModel) (key : MarkerKey) :
    find? (level :: above) key = (level.find? key).or (find? above key) := by
  rw [find?, List.findSome?_cons]
  cases level.find? key <;> rfl

/-- Keys that are equal find the same. -/
theorem find?_congr (model : HookModel) {key key' : MarkerKey} (h : (key == key') = true) :
    model.find? key = model.find? key' := by
  have same : ∀ other : MarkerKey, (other == key) = (other == key') := fun other =>
    BEq.congr_right h
  simp only [find?, ModelLevel.find?, same]

end HookModel

namespace Vocabulary

variable {V : Vocabulary P} {ds : List (Declaration P)} {above : HookModel}
  {entries : List (Shared HookDescriptor)} {d : Declaration P}

/-- What is known once the declarations `ds`, some of them inherited, have been gone through. -/
structure Drafted (V : Vocabulary P) (ds : List (Declaration P)) (above : HookModel)
    (entries : List (Shared HookDescriptor)) : Prop where
  consistent : V.Consistent ds
  covers : ∀ type serial, V.Covers ds (⟨type, serial, entries⟩ :: above)
  unshadowed : ∀ key, (above.find? key).isSome = true →
    entries.find? (·.value.marker == key) = none

theorem Consistent.cons (h : V.Consistent ds) (valid : d.2.Valid d.1.key)
    (same : ∀ d' ∈ ds, (d'.1.key == d.1.key) = true → d'.2.Same d.2)
    (own : ∀ spec, V.hook d.1.key = some spec → spec.Valid d.1.key ∧ spec.Same d.2) :
    V.Consistent (d :: ds) where
  valid := by
    intro a ha
    rcases List.mem_cons.mp ha with rfl | ha
    · exact valid
    · exact h.valid a ha
  same := by
    intro a ha b hb hk
    rcases List.mem_cons.mp ha with rfl | ha' <;> rcases List.mem_cons.mp hb with rfl | hb'
    · exact .refl _
    · exact (same b hb' (BEq.symm hk)).symm
    · exact same a ha' hk
    · exact h.same a ha' b hb' hk
  own_valid := by
    intro a ha
    rcases List.mem_cons.mp ha with rfl | ha
    · exact fun spec hs => (own spec hs).1
    · exact h.own_valid a ha
  own_same := by
    intro a ha
    rcases List.mem_cons.mp ha with rfl | ha
    · exact fun spec hs => (own spec hs).2
    · exact h.own_same a ha

/-- A declaration that says nothing new leaves the draft as it is. -/
theorem Drafted.repeat (h : V.Drafted ds above entries) (consistent : V.Consistent (d :: ds))
    (known : V.hook d.1.key = none →
      ∃ d' ∈ ds, (d'.1.key == d.1.key) = true ∧ V.hook d'.1.key = none) :
    V.Drafted (d :: ds) above entries where
  consistent := consistent
  covers := by
    intro type serial
    have covers := h.covers type serial
    refine ⟨?_, ?_⟩
    · intro key found hf
      obtain ⟨d', hd', hrest⟩ := covers.sound key found hf
      exact ⟨d', List.mem_cons_of_mem d hd', hrest⟩
    · intro a ha hn
      rcases List.mem_cons.mp ha with rfl | ha
      · obtain ⟨d', hd', hk, hn'⟩ := known hn
        rw [← HookModel.find?_congr _ hk]
        exact covers.complete d' hd' hn'
      · exact covers.complete a ha hn
  unshadowed := h.unshadowed

/-- An entry for a marker that was not found is found from then on. -/
theorem Covers.snoc {type : TypeKey} {serial : Nat}
    (h : V.Covers ds (⟨type, serial, entries⟩ :: above)) (hook : V.hook d.1.key = none)
    {found : Shared HookDescriptor} (value : found.value = d.2.describe d.1.key) :
    V.Covers (d :: ds) (⟨type, serial, entries ++ [found]⟩ :: above) where
  sound := by
    intro key shared hf
    rw [HookModel.find?_cons, ModelLevel.find?_append] at hf
    have old := HookModel.find?_cons ⟨type, serial, entries⟩ above key
    cases hold : ModelLevel.find? ⟨type, serial, entries⟩ key with
    | some first =>
      rw [hold] at hf old
      obtain ⟨d', hd', hrest⟩ := h.sound key shared (old.trans hf)
      exact ⟨d', List.mem_cons_of_mem d hd', hrest⟩
    | none =>
      rw [hold, Option.none_or] at hf old
      by_cases hk : (found.value.marker == key) = true
      · rw [if_pos hk] at hf
        cases hf
        rw [value] at hk
        exact ⟨d, List.mem_cons_self, hk, hook, value⟩
      · rw [if_neg hk] at hf
        obtain ⟨d', hd', hrest⟩ := h.sound key shared (old.trans hf)
        exact ⟨d', List.mem_cons_of_mem d hd', hrest⟩
  complete := by
    intro a ha hn
    rw [HookModel.find?_cons, ModelLevel.find?_append]
    rcases List.mem_cons.mp ha with rfl | ha
    · have same : (found.value.marker == a.1.key) = true := by
        rw [value]
        exact BEq.refl _
      rw [if_pos same]
      simp
    · have known := h.complete a ha hn
      rw [HookModel.find?_cons, Option.isSome_or, Bool.or_eq_true] at known
      rcases known with known | known <;> simp [known]

/-- A declaration of a marker that nothing was known of comes last. -/
theorem Drafted.append (h : V.Drafted ds above entries) (consistent : V.Consistent (d :: ds))
    (hook : V.hook d.1.key = none) {found : Shared HookDescriptor}
    (value : found.value = d.2.describe d.1.key)
    (new : above.find? d.1.key = none) :
    V.Drafted (d :: ds) above (entries ++ [found]) where
  consistent := consistent
  covers := fun type serial => (h.covers type serial).snoc hook value
  unshadowed := by
    intro key hsome
    rw [List.find?_append, h.unshadowed key hsome, Option.none_or, List.find?_singleton, value]
    apply if_neg
    intro hk
    have hk : (d.1.key == key) = true := hk
    rw [← HookModel.find?_congr above hk, new] at hsome
    cases hsome

/-- A declaration may say what an earlier one said of a marker that has no hook of its own. -/
theorem Drafted.repeat_earlier (h : V.Drafted ds above entries) (valid : d.2.Valid d.1.key)
    {earlier : Declaration P} (he : earlier ∈ ds) (key : earlier.1.key = d.1.key)
    (hook : V.hook earlier.1.key = none) (same : earlier.2.Same d.2) :
    V.Drafted (d :: ds) above entries := by
  have consistent : V.Consistent (d :: ds) := by
    apply h.consistent.cons valid
    · intro a ha hk
      rw [← key] at hk
      exact (h.consistent.same a ha earlier he hk).trans same
    · intro spec hs
      rw [← key, hook] at hs
      cases hs
  have again : (earlier.1.key == d.1.key) = true := by
    rw [key]
    exact BEq.refl _
  exact h.repeat consistent fun _ => ⟨earlier, he, again, hook⟩

section Named

variable (named : ∀ a ∈ ds, V.markers a.1) (hd : V.markers d.1)
include named hd

/-- A declaration may say what its marker says. -/
theorem Drafted.repeat_own (h : V.Drafted ds above entries) (valid : d.2.Valid d.1.key)
    {spec : HookSpec} (hook : V.hook d.1.key = some spec) (spec_valid : spec.Valid d.1.key)
    (same : spec.Same d.2) : V.Drafted (d :: ds) above entries := by
  have consistent : V.Consistent (d :: ds) := by
    apply h.consistent.cons valid
    · intro a ha hk
      have key : a.1.key = d.1.key := V.key_eq a.1 d.1 (named a ha) hd hk
      exact (h.consistent.own_same a ha spec (key ▸ hook)).symm.trans same
    · intro other hs
      obtain rfl : spec = other := Option.some.inj (hook.symm.trans hs)
      exact ⟨spec_valid, same⟩
  apply h.repeat consistent
  intro absent
  rw [hook] at absent
  cases absent

/-- The first declaration of a marker that has no hook of its own may say anything. -/
theorem Drafted.declare (h : V.Drafted ds above entries) (valid : d.2.Valid d.1.key)
    (hook : V.hook d.1.key = none) {type : TypeKey} {serial : Nat}
    (new : HookModel.find? (⟨type, serial, entries⟩ :: above) d.1.key = none)
    {found : Shared HookDescriptor} (value : found.value = d.2.describe d.1.key) :
    V.Drafted (d :: ds) above (entries ++ [found]) := by
  have consistent : V.Consistent (d :: ds) := by
    apply h.consistent.cons valid
    · intro a ha hk
      have key : a.1.key = d.1.key := V.key_eq a.1 d.1 (named a ha) hd hk
      have known := (h.covers type serial).complete a ha (key ▸ hook)
      rw [key, new] at known
      cases known
    · intro spec hs
      rw [hook] at hs
      cases hs
  rw [HookModel.find?_cons, Option.or_eq_none_iff] at new
  exact h.append consistent hook value new.2

end Named

end Vocabulary

end Injector
