import Injector.Proofs.Class.Overriding

/-!
# Default methods

An interface overrides the default methods of those it extends, but the walk goes by the order in
which the interfaces are met: what an interface overrides is matched all the same where the walk
comes to it some other way first.
-/

set_option autoImplicit false

namespace Injector

variable {P : Platform}

namespace ClassDescriptor

theorem owner_mem_levels {c : ClassDescriptor P} {m : DeclaredMethod P}
    (h : m ∈ c.eligibleMethods) : m.owner ∈ c.levels := by
  rw [← classMethods_eq_eligibleMethods, classMethods, inheritedMethods, List.mem_append] at h
  rw [levels_eq]
  obtain own | inherited := h
  · obtain ⟨method, -, rfl⟩ := List.mem_map.mp own
    exact .head _
  · obtain ⟨level, above, at_⟩ := List.mem_flatMap.mp inherited
    obtain ⟨method, -, rfl⟩ := List.mem_map.mp (List.mem_filter.mp at_).1
    exact .tail _ above

/-- What is matched and not a method of the class is a default method of an interface. -/
theorem mem_defaultWalk_of_matched {c : ClassDescriptor P} {m : DeclaredMethod P}
    (matched : m ∈ c.methodWalk) (other : m.owner ∉ c.levels) : m ∈ c.defaultWalk := by
  rw [methodWalk, publicMethods_eq_publicWalk, offeredMethods_eq_defaultWalk,
    reservedMethods_eq_reservedWalk, List.mem_append, List.mem_append] at matched
  obtain (shown | offered) | reserved := matched
  · exact absurd (owner_mem_levels (mem_of_mem_standing shown)) other
  · exact offered
  · exact absurd (owner_mem_levels (mem_of_mem_standing reserved)) other

theorem declaredMethods_split {interfaces : List (ClassDescriptor P)} {m : DeclaredMethod P}
    {before after : List (DeclaredMethod P)}
    (h : interfaces.flatMap declaredMethods = before ++ m :: after) :
    ∃ met unmet, interfaces = met ++ m.owner :: unmet ∧ met.flatMap declaredMethods ⊆ before := by
  induction interfaces generalizing before with
  | nil => simp at h
  | cons i rest ih =>
    rw [List.flatMap_cons] at h
    obtain ⟨after, hfirst, -⟩ | ⟨before, rfl, hrest⟩ := append_eq_append_cons h
    · have own : m ∈ i.declaredMethods := by simp [hfirst]
      obtain ⟨method, -, rfl⟩ := List.mem_map.mp own
      exact ⟨[], rest, rfl, List.nil_subset _⟩
    · obtain ⟨met, unmet, rfl, sub⟩ := ih hrest
      refine ⟨i :: met, unmet, rfl, ?_⟩
      rw [List.flatMap_cons]
      exact List.append_subset.mpr
        ⟨List.subset_append_left .., List.Subset.trans sub (List.subset_append_right ..)⟩

/-- A default method that is matched is the first of its signature in the order in which the
interfaces are met. -/
theorem met_first_of_mem_defaultWalk {c : ClassDescriptor P} {m : DeclaredMethod P}
    (h : m ∈ c.defaultWalk) :
    ∃ before after, c.allInterfaces = before ++ m.owner :: after ∧
      ∀ i ∈ before, ∀ method ∈ i.methods, (DeclaredMethod.mk i method).isOffered = true →
        method.signature ≠ m.signature := by
  obtain ⟨kept, lost, split⟩ := List.append_of_mem h
  obtain ⟨earlier, later, place, ⟨-, -, leads⟩, -⟩ := standing_eq_append_cons split
  obtain ⟨before, after, interfaces, sub⟩ := declaredMethods_split place
  refine ⟨before, after, interfaces, fun i at_ method declared offered => ?_⟩
  exact leads ⟨i, method⟩
    (sub (List.mem_flatMap.mpr ⟨i, at_, List.mem_map.mpr ⟨method, declared, rfl⟩⟩)) offered

theorem ne_of_extends {i j : ClassDescriptor P} (h : Relation.TransGen Implements i j) :
    i ≠ j := by
  rintro rfl
  obtain ⟨k, edge, path⟩ := Relation.TransGen.head'_iff.mp h
  exact not_mem_ascents_interfaces i (mem_ascents.mpr ⟨k, edge, mem_ascent_iff.mpr path⟩)

/-- Where the interfaces listed before `j` do not have `i`, the walk meets `j` before `i`, and on
a way that leads around `i`. -/
theorem met_first_of_listed_first {c i j : ClassDescriptor P} (coherent : Coherent c.interfaceWalk)
    (has : c.HasInterface i) (other : i ≠ j) {before after : List (ClassDescriptor P)}
    (listed : c.allInterfaces = before ++ j :: after) (unlisted : i ∉ before) :
    ∃ met unmet, c.interfaceWalk = met ++ j :: unmet ∧ i ∉ met ∧ i ∈ unmet ∧
      ∃ level ∈ c.levels, ∃ k ∈ level.interfaces,
        Relation.ReflTransGen (fun a b => a ≠ i ∧ Implements a b) k j := by
  rw [allInterfaces_eq_firstMet coherent] at listed
  obtain ⟨met, unmet, walk, -, kept⟩ := standing_eq_append_cons listed
  have at_ := mem_interfaceWalk_iff.mpr has
  -- Had the walk met `i` by then, `i` would be listed before `j`.
  have unmet_i : i ∉ met := by
    intro old
    have coherent_met : Coherent met := coherent.subset (walk ▸ List.subset_append_left ..)
    exact unlisted (kept ▸ (mem_firstMet_iff coherent_met).mpr old)
  obtain ⟨k, top, path⟩ := route_of_ascents walk
  obtain ⟨level, ofClass, edge⟩ := List.mem_flatMap.mp top
  refine ⟨met, unmet, walk, unmet_i, ?_, level, ofClass, k, edge, ?_⟩
  · rw [walk, List.mem_append, List.mem_cons] at at_
    exact (at_.resolve_left unmet_i).resolve_left other
  · exact Relation.ReflTransGen.mono (fun a _ h => ⟨fun e => unmet_i (e ▸ h.1), h.2⟩) _ _ path

/-- A default method that an interface overrides is matched only where the interface that
declares it is listed first. If no two interfaces stand for one type, it is then met first, on a
way that leads around the one that overrides it. -/
theorem overridden_default_met_first {c i j : ClassDescriptor P} {mi mj : Method P}
    (has : c.HasInterface i) (extended : Relation.TransGen Implements i j)
    (declared : mi ∈ i.methods) (offered : (DeclaredMethod.mk i mi).isOffered = true)
    (same : mi.signature = mj.signature) (other : j ∉ c.levels)
    (matched : ⟨j, mj⟩ ∈ c.methodWalk) :
    (∃ before after, c.allInterfaces = before ++ j :: after ∧ i ∉ before) ∧
      (Coherent c.interfaceWalk →
        ∃ met unmet, c.interfaceWalk = met ++ j :: unmet ∧ i ∉ met ∧ i ∈ unmet ∧
          ∃ level ∈ c.levels, ∃ k ∈ level.interfaces,
            Relation.ReflTransGen (fun a b => a ≠ i ∧ Implements a b) k j) := by
  obtain ⟨before, after, listed, free⟩ :=
    met_first_of_mem_defaultWalk (mem_defaultWalk_of_matched matched other)
  have unlisted : i ∉ before := fun at_ => free i at_ mi declared offered same
  exact ⟨⟨before, after, listed, unlisted⟩,
    fun coherent => met_first_of_listed_first coherent has (ne_of_extends extended) listed unlisted⟩

def roll : Method .bare where
  name := "roll"
  visibility := .anyone
  isStatic := false
  isDefault := true
  params := []
  returns := none
  markers := []
  accessor := some fun _ => .done (.ok none)

def wheeled : ClassDescriptor .bare where
  type := .ofName "app::Wheeled"
  isInterface := true
  methods := [roll]

def motorized : ClassDescriptor .bare where
  type := .ofName "app::Motorized"
  isInterface := true
  methods := [roll]
  interfaces := [wheeled]

/-- A class that names an interface before the one that extends it. -/
def trike : ClassDescriptor .bare where
  type := .ofName "app::Trike"
  interfaces := [wheeled, motorized]

theorem trike_has_motorized : trike.HasInterface motorized :=
  ⟨trike, self_mem_levels trike, .single (by simp [Implements, trike])⟩

theorem motorized_extends_wheeled : Relation.TransGen Implements motorized wheeled :=
  .single (by simp [Implements, motorized])

theorem trike_matches_wheeled : ⟨wheeled, roll⟩ ∈ trike.methodWalk := by
  have walk : trike.methodWalk = [⟨wheeled, roll⟩] := rfl
  simp [walk]

theorem wheeled_not_mem_levels : wheeled ∉ trike.levels := by
  have levels : trike.levels = [trike] := rfl
  rw [levels, List.mem_singleton]
  exact fun h => absurd (congrArg (·.type.name) h) (by decide)

theorem coherent_trike : Coherent trike.interfaceWalk := by
  have walk : trike.interfaceWalk = [wheeled, motorized, wheeled] := rfl
  have distinct : (wheeled.type == motorized.type) = false := by decide
  have distinct' : (motorized.type == wheeled.type) = false := by decide
  simp [Coherent, walk, distinct, distinct']

/-- The walk meets `Wheeled` before `Motorized`, which overrides its method. -/
theorem overridden_default_met_first_trike :
    ∃ met unmet, trike.interfaceWalk = met ++ wheeled :: unmet ∧ motorized ∉ met ∧
      motorized ∈ unmet ∧ ∃ level ∈ trike.levels, ∃ k ∈ level.interfaces,
        Relation.ReflTransGen (fun a b => a ≠ motorized ∧ Implements a b) k wheeled :=
  have declared : roll ∈ motorized.methods := List.mem_singleton.mpr rfl
  (overridden_default_met_first trike_has_motorized motorized_extends_wheeled declared
    (by decide) rfl wheeled_not_mem_levels trike_matches_wheeled).2 coherent_trike

/-- It is not always the most specific default method that is matched. -/
theorem overridden_default_matched_trike :
    ¬ ∀ (c i j : ClassDescriptor .bare) (mi mj : Method .bare),
      c.HasInterface i → c.HasInterface j → Relation.TransGen Implements i j →
      mi ∈ i.methods → mj ∈ j.methods →
      (DeclaredMethod.mk i mi).isOffered = true → (DeclaredMethod.mk j mj).isOffered = true →
      mi.signature = mj.signature → ⟨j, mj⟩ ∉ c.methodWalk := by
  intro never
  have has : trike.HasInterface wheeled :=
    ⟨trike, self_mem_levels trike, .single (by simp [Implements, trike])⟩
  exact never trike motorized wheeled roll roll trike_has_motorized has motorized_extends_wheeled
    (List.mem_singleton.mpr rfl) (List.mem_singleton.mpr rfl) (by decide) (by decide) rfl
    trike_matches_wheeled

end ClassDescriptor

end Injector
