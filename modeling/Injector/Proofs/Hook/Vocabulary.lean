import Injector.Class.Hierarchy
import Injector.Hook.Catalog

/-!
# What hooks come to, said without a catalog

The declarations of a class and its superclasses are one list; they are consistent if each is valid
and those of one marker, its own included, say the same.
-/

set_option autoImplicit false

namespace Injector

variable {P : Platform}

namespace HookSpec

variable {a b c : HookSpec} {marker : MarkerKey}

structure Valid (s : HookSpec) (marker : MarkerKey) : Prop where
  unambiguous : ¬ (s.capabilities.isMemberHook = true ∧ s.capabilities.binding = true)
  module_eq : marker.module = s.extension.module

theorem validate_of_valid (h : a.Valid marker) : a.validate marker = .ok (a.describe marker) := by
  have hu : a.isAmbiguous = false := by
    rw [isAmbiguous, Bool.and_eq_false_iff]
    by_cases hm : a.capabilities.isMemberHook = true
    · exact Or.inr (Bool.eq_false_iff.mpr fun hb => h.unambiguous ⟨hm, hb⟩)
    · exact Or.inl (Bool.eq_false_iff.mpr hm)
  exact validate_eq_ok.mpr ⟨hu, h.module_eq, rfl⟩

theorem valid_of_validate {descriptor : HookDescriptor} (h : a.validate marker = .ok descriptor) :
    a.Valid marker ∧ descriptor = a.describe marker := by
  obtain ⟨hu, hm, hd⟩ := validate_eq_ok.mp h
  rw [isAmbiguous, Bool.and_eq_false_iff] at hu
  refine ⟨⟨?_, hm⟩, hd⟩
  rintro ⟨member, binding⟩
  rcases hu with hu | hu
  · rw [member] at hu
    cases hu
  · rw [binding] at hu
    cases hu

structure Same (a b : HookSpec) : Prop where
  extension : (a.extension == b.extension) = true
  capabilities : a.capabilities = b.capabilities

namespace Same

theorem refl (a : HookSpec) : a.Same a := ⟨BEq.refl a.extension, rfl⟩

theorem symm (h : a.Same b) : b.Same a := ⟨BEq.symm h.extension, h.capabilities.symm⟩

theorem trans (h : a.Same b) (k : b.Same c) : a.Same c :=
  ⟨BEq.trans h.extension k.extension, h.capabilities.trans k.capabilities⟩

end Same

theorem agrees_describe {marker' : MarkerKey} (h : (marker == marker') = true) :
    (a.describe marker).agrees (b.describe marker') = true ↔ a.Same b := by
  show ((marker == marker') && (a.extension == b.extension) &&
    (a.capabilities == b.capabilities)) = true ↔ _
  have capabilities : (a.capabilities == b.capabilities) = true ↔
    a.capabilities = b.capabilities := beq_iff_eq
  rw [h, Bool.true_and, Bool.and_eq_true, capabilities]
  exact ⟨fun h => ⟨h.1, h.2⟩, fun h => ⟨h.extension, h.capabilities⟩⟩

end HookSpec

abbrev Declaration (P : Platform) := MarkerType P × HookSpec

namespace ClassDescriptor

def declaredAbove (c : ClassDescriptor P) : List (Declaration P) :=
  (levelsAbove c.superclass).flatMap (·.declarations)

def allDeclared (c : ClassDescriptor P) : List (Declaration P) :=
  c.levels.flatMap (·.declarations)

theorem allDeclared_eq (c : ClassDescriptor P) :
    c.allDeclared = c.declarations ++ c.declaredAbove := by
  rw [allDeclared, levels_eq, List.flatMap_cons, declaredAbove]

theorem declaredAbove_of_none {c : ClassDescriptor P} (h : c.superclass = none) :
    c.declaredAbove = [] := by
  rw [declaredAbove, h, levelsAbove]
  rfl

theorem declaredAbove_of_some {c s : ClassDescriptor P} (h : c.superclass = some s) :
    c.declaredAbove = s.allDeclared := by
  rw [declaredAbove, h, levelsAbove, allDeclared]

/-- What a class inherits from its superclass, every class has. -/
theorem superclass_induction {motive : ClassDescriptor P → Prop}
    (step : ∀ c, (∀ s, c.superclass = some s → motive s) → motive c) : ∀ c, motive c
  | ⟨_, none, _⟩ => step _ fun _ h => by cases h
  | ⟨_, some s, _⟩ => step _ fun _ h => by
    cases h
    exact superclass_induction step s

end ClassDescriptor

/-- The classes and markers that are in use. Their keys tell them apart, and a marker declares
the same hook for itself whenever it is asked. -/
structure Vocabulary (P : Platform) where
  classes : ClassDescriptor P → Prop
  markers : MarkerType P → Prop
  hook : MarkerKey → Option HookSpec
  superclass : ∀ c s, classes c → c.superclass = some s → classes s
  declared : ∀ c, classes c → ∀ d ∈ c.declarations, markers d.1
  class_eq : ∀ c c', classes c → classes c' → (c.type == c'.type) = true → c = c'
  key_eq : ∀ m m', markers m → markers m' → (m.key == m'.key) = true → m.key = m'.key
  hook_eq : ∀ m, markers m → ∀ w, m.declaredHook w = hook m.key

namespace Vocabulary

variable {V : Vocabulary P} {ds : List (Declaration P)} {model : HookModel}

theorem markers_of_allDeclared {c : ClassDescriptor P} (hc : V.classes c) {d : Declaration P}
    (hd : d ∈ c.allDeclared) : V.markers d.1 := by
  revert hc hd
  refine ClassDescriptor.superclass_induction (motive := fun c => V.classes c →
    d ∈ c.allDeclared → V.markers d.1) ?_ c
  intro c ih hc hd
  rw [ClassDescriptor.allDeclared_eq, List.mem_append] at hd
  rcases hd with hd | hd
  · exact V.declared c hc d hd
  · cases hs : c.superclass with
    | none =>
      rw [ClassDescriptor.declaredAbove_of_none hs] at hd
      cases hd
    | some s =>
      rw [ClassDescriptor.declaredAbove_of_some hs] at hd
      exact ih s hs (V.superclass c s hc hs) hd

def own (V : Vocabulary P) (key : MarkerKey) : Except Error (Option HookDescriptor) :=
  match V.hook key with
  | none => .ok none
  | some spec => (spec.validate key).map some

theorem own_of_none {key : MarkerKey} (h : V.hook key = none) : V.own key = .ok none := by
  rw [own, h]

theorem own_of_valid {key : MarkerKey} {spec : HookSpec} (h : V.hook key = some spec)
    (valid : spec.Valid key) : V.own key = .ok (some (spec.describe key)) := by
  rw [own, h]
  show (spec.validate key).map some = _
  rw [HookSpec.validate_of_valid valid]
  rfl

/-- There are two ways for a marker to be in order. -/
theorem own_eq_ok {key : MarkerKey} {found : Option HookDescriptor} (h : V.own key = .ok found) :
    V.hook key = none ∧ found = none ∨
      ∃ spec, V.hook key = some spec ∧ spec.Valid key ∧ found = some (spec.describe key) := by
  unfold own at h
  split at h
  next hook =>
    cases h
    exact Or.inl ⟨hook, rfl⟩
  next spec hook =>
    cases hv : spec.validate key with
    | error e =>
      rw [hv] at h
      cases h
    | ok descriptor =>
      rw [hv] at h
      cases h
      obtain ⟨valid, rfl⟩ := HookSpec.valid_of_validate hv
      exact Or.inr ⟨spec, hook, valid, rfl⟩

theorem hook_of_own {key : MarkerKey} {descriptor : HookDescriptor}
    (h : V.own key = .ok (some descriptor)) :
    ∃ spec, V.hook key = some spec ∧ spec.Valid key ∧ descriptor = spec.describe key := by
  rcases own_eq_ok h with ⟨-, hn⟩ | ⟨spec, hook, valid, hd⟩
  · cases hn
  · exact ⟨spec, hook, valid, Option.some.inj hd⟩

theorem hook_of_own_none {key : MarkerKey} (h : V.own key = .ok none) : V.hook key = none := by
  rcases own_eq_ok h with ⟨hook, -⟩ | ⟨_, -, -, hd⟩
  · exact hook
  · cases hd

structure Consistent (V : Vocabulary P) (ds : List (Declaration P)) : Prop where
  valid : ∀ d ∈ ds, d.2.Valid d.1.key
  same : ∀ d ∈ ds, ∀ d' ∈ ds, (d.1.key == d'.1.key) = true → d.2.Same d'.2
  own_valid : ∀ d ∈ ds, ∀ spec, V.hook d.1.key = some spec → spec.Valid d.1.key
  own_same : ∀ d ∈ ds, ∀ spec, V.hook d.1.key = some spec → spec.Same d.2

theorem Consistent.exists_own (h : V.Consistent ds) {d : Declaration P} (hd : d ∈ ds) :
    ∃ found, V.own d.1.key = .ok found := by
  cases hook : V.hook d.1.key with
  | none => exact ⟨none, own_of_none hook⟩
  | some spec => exact ⟨_, own_of_valid hook (h.own_valid d hd spec hook)⟩

theorem Consistent.of_subset {ds' : List (Declaration P)} (h : V.Consistent ds) (hs : ds' ⊆ ds) :
    V.Consistent ds' where
  valid := fun d hd => h.valid d (hs hd)
  same := fun d hd d' hd' => h.same d (hs hd) d' (hs hd')
  own_valid := fun d hd => h.own_valid d (hs hd)
  own_same := fun d hd => h.own_same d (hs hd)

theorem consistent_nil : V.Consistent [] where
  valid := fun d hd => by cases hd
  same := fun d hd => by cases hd
  own_valid := fun d hd => by cases hd
  own_same := fun d hd => by cases hd

/-- The model holds the declared markers that declare nothing for themselves. -/
structure Covers (V : Vocabulary P) (ds : List (Declaration P)) (model : HookModel) : Prop where
  sound : ∀ key found, model.find? key = some found → ∃ d ∈ ds,
    (d.1.key == key) = true ∧ V.hook d.1.key = none ∧ found.value = d.2.describe d.1.key
  complete : ∀ d ∈ ds, V.hook d.1.key = none → (model.find? d.1.key).isSome = true

theorem covers_nil : V.Covers [] [] where
  sound := fun key found hf => by cases hf
  complete := fun d hd => by cases hd

theorem Covers.of_mem_iff {ds' : List (Declaration P)} (h : V.Covers ds model)
    (hm : ∀ d, d ∈ ds' ↔ d ∈ ds) : V.Covers ds' model where
  sound := by
    intro key found hf
    obtain ⟨d, hd, hrest⟩ := h.sound key found hf
    exact ⟨d, (hm d).mpr hd, hrest⟩
  complete := fun d hd => h.complete d ((hm d).mp hd)

end Vocabulary

end Injector
