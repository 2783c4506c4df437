import Mathlib.Data.List.Induction
import Mathlib.Logic.Relation
import Injector.Class.Hierarchy
import Injector.Proofs.Lists

/-!
# The interfaces of a class

A walk of all implements edges, depth first, meets an interface as often as there are ways to it; a
class lists each one where it is first met.
-/

set_option autoImplicit false

namespace Injector

variable {P : Platform}

namespace ClassDescriptor

def Implements (a b : ClassDescriptor P) : Prop := b ∈ a.interfaces

def HasInterface (c i : ClassDescriptor P) : Prop :=
  ∃ level ∈ c.levels, Relation.TransGen Implements level i

mutual

/-- An interface and all that it extends, once for each way to it. -/
def ascent : ClassDescriptor P → List (ClassDescriptor P)
  | ⟨body, superclass, interfaces⟩ => ⟨body, superclass, interfaces⟩ :: ascents interfaces

def ascents : List (ClassDescriptor P) → List (ClassDescriptor P)
  | [] => []
  | i :: rest => ascent i ++ ascents rest

end

theorem ascent_eq (i : ClassDescriptor P) : i.ascent = i :: ascents i.interfaces := by
  cases i with | mk body superclass interfaces => rw [ascent]

theorem self_mem_ascent (i : ClassDescriptor P) : i ∈ i.ascent := by simp [ascent_eq]

theorem mem_ascents {is : List (ClassDescriptor P)} {j : ClassDescriptor P} :
    j ∈ ascents is ↔ ∃ i ∈ is, j ∈ i.ascent := by
  induction is with
  | nil => simp [ascents]
  | cons i rest ih => simp [ascents, ih]

def interfaceWalk (c : ClassDescriptor P) : List (ClassDescriptor P) :=
  ascents (c.levels.flatMap (·.interfaces))

mutual

theorem ascent_sublist {i j : ClassDescriptor P} (h : j ∈ i.ascent) : j.ascent.Sublist i.ascent :=
  match i with
  | ⟨body, superclass, interfaces⟩ => by
    rw [ascent, List.mem_cons] at h
    obtain rfl | above := h
    · exact .refl _
    · rw [ascent]
      exact (ascent_sublist_ascents above).cons _

theorem ascent_sublist_ascents {is : List (ClassDescriptor P)} {j : ClassDescriptor P}
    (h : j ∈ ascents is) : j.ascent.Sublist (ascents is) :=
  match is with
  | [] => by simp [ascents] at h
  | i :: rest => by
    rw [ascents, List.mem_append] at h
    rw [ascents]
    obtain first | later := h
    · exact (ascent_sublist first).trans (List.sublist_append_left ..)
    · exact (ascent_sublist_ascents later).trans (List.sublist_append_right ..)

end

/-- No interface extends itself. -/
theorem not_mem_ascents_interfaces (i : ClassDescriptor P) : i ∉ ascents i.interfaces := by
  intro h
  have shorter := (ascent_sublist_ascents h).length_le
  rw [ascent_eq, List.length_cons] at shorter
  omega

mutual

/-- The way to an interface is walked before the interface is met. -/
theorem route_of_ascent {i j : ClassDescriptor P} {met unmet : List (ClassDescriptor P)}
    (h : i.ascent = met ++ j :: unmet) :
    Relation.ReflTransGen (fun a b => a ∈ met ∧ Implements a b) i j :=
  match i with
  | ⟨body, superclass, interfaces⟩ => by
    rw [ascent] at h
    obtain ⟨rfl, hrest⟩ | ⟨met, rfl, hrest⟩ := List.cons_eq_append_iff.mp h
    · obtain ⟨rfl, -⟩ := List.cons.inj hrest
      exact .refl
    · obtain ⟨k, edge, path⟩ := route_of_ascents hrest
      exact .head ⟨List.mem_cons_self, edge⟩
        (Relation.ReflTransGen.mono (fun _ _ h => ⟨.tail _ h.1, h.2⟩) _ _ path)

theorem route_of_ascents {is : List (ClassDescriptor P)} {j : ClassDescriptor P}
    {met unmet : List (ClassDescriptor P)} (h : ascents is = met ++ j :: unmet) :
    ∃ i ∈ is, Relation.ReflTransGen (fun a b => a ∈ met ∧ Implements a b) i j :=
  match is with
  | [] => by simp [ascents] at h
  | i :: rest => by
    rw [ascents] at h
    obtain ⟨unmet, hfirst, -⟩ | ⟨met, rfl, hrest⟩ := append_eq_append_cons h
    · exact ⟨i, .head _, route_of_ascent hfirst⟩
    · obtain ⟨k, at_, path⟩ := route_of_ascents hrest
      exact ⟨k, .tail _ at_,
        Relation.ReflTransGen.mono (fun _ _ h => ⟨List.mem_append_right _ h.1, h.2⟩) _ _ path⟩

end

theorem mem_ascent_iff {i j : ClassDescriptor P} :
    j ∈ i.ascent ↔ Relation.ReflTransGen Implements i j := by
  constructor
  · intro h
    obtain ⟨met, unmet, split⟩ := List.append_of_mem h
    exact Relation.ReflTransGen.mono (fun _ _ h => h.2) _ _ (route_of_ascent split)
  · intro h
    induction h with
    | refl => exact self_mem_ascent i
    | tail _ edge ih =>
      have step := mem_ascents.mpr ⟨_, edge, self_mem_ascent _⟩
      exact (ascent_sublist ih).subset (by rw [ascent_eq]; exact .tail _ step)

theorem mem_interfaceWalk_iff {c i : ClassDescriptor P} :
    i ∈ c.interfaceWalk ↔ c.HasInterface i := by
  simp only [interfaceWalk, mem_ascents, List.mem_flatMap, mem_ascent_iff, HasInterface,
    Relation.TransGen.head'_iff]
  constructor
  · rintro ⟨j, ⟨level, at_, edge⟩, path⟩
    exact ⟨level, at_, j, edge, path⟩
  · rintro ⟨level, at_, j, edge, path⟩
    exact ⟨j, ⟨level, at_, edge⟩, path⟩

def Coherent (list : List (ClassDescriptor P)) : Prop :=
  ∀ a ∈ list, ∀ b ∈ list, (a.type == b.type) = true → a = b

theorem Coherent.subset {list list' : List (ClassDescriptor P)} (h : Coherent list')
    (sub : list ⊆ list') : Coherent list := fun a ha b hb => h a (sub ha) b (sub hb)

def firstMet (walk : List (ClassDescriptor P)) : List (ClassDescriptor P) :=
  standing (fun earlier i => earlier.any (·.type == i.type) = false) [] walk

theorem firstMet_append_singleton (walk : List (ClassDescriptor P)) (i : ClassDescriptor P) :
    firstMet (walk ++ [i]) =
      if walk.any (·.type == i.type) then firstMet walk else firstMet walk ++ [i] := by
  rw [firstMet, standing_append]
  simp only [standing, List.nil_append]
  grind [firstMet]

theorem any_firstMet (walk : List (ClassDescriptor P)) (type : TypeKey) :
    (firstMet walk).any (·.type == type) = walk.any (·.type == type) := by
  induction walk using List.reverseRecOn with
  | nil => rfl
  | append_singleton walk i ih =>
    rw [firstMet_append_singleton]
    by_cases old : walk.any (·.type == i.type)
    · have again : (i.type == type) = true → walk.any (·.type == type) = true := by
        intro same
        obtain ⟨e, at_, sameE⟩ := List.any_eq_true.mp old
        exact List.any_eq_true.mpr ⟨e, at_, PartialEquivBEq.trans sameE same⟩
      rw [if_pos old, ih]
      grind
    · rw [if_neg old]
      simp [ih]

theorem firstMet_append_of_subset {walk list : List (ClassDescriptor P)} (known : list ⊆ walk) :
    firstMet (walk ++ list) = firstMet walk := by
  induction list using List.reverseRecOn with
  | nil => simp
  | append_singleton list i ih =>
    obtain ⟨before, at_⟩ := List.append_subset.mp known
    have old : (walk ++ list).any (·.type == i.type) = true :=
      List.any_eq_true.mpr ⟨i, List.mem_append_left _ (at_ List.mem_cons_self), BEq.refl i.type⟩
    rw [← List.append_assoc, firstMet_append_singleton, if_pos old, ih before]

theorem mem_firstMet_iff {walk : List (ClassDescriptor P)} {i : ClassDescriptor P}
    (coherent : Coherent walk) : i ∈ firstMet walk ↔ i ∈ walk := by
  refine ⟨mem_of_mem_standing, fun at_ => ?_⟩
  have again : (firstMet walk).any (·.type == i.type) = true := by
    rw [any_firstMet]
    exact List.any_eq_true.mpr ⟨i, at_, BEq.refl i.type⟩
  obtain ⟨e, first, same⟩ := List.any_eq_true.mp again
  obtain rfl := coherent e (mem_of_mem_standing first) i at_ same
  exact first

theorem pairwise_firstMet (walk : List (ClassDescriptor P)) :
    (firstMet walk).Pairwise fun a b => (a.type == b.type) = false := by
  induction walk using List.reverseRecOn with
  | nil => exact .nil
  | append_singleton walk i ih =>
    rw [firstMet_append_singleton]
    split
    next => exact ih
    next new =>
      rw [← any_firstMet] at new
      refine List.pairwise_append.mpr ⟨ih, List.pairwise_singleton .., fun a at_ b self => ?_⟩
      obtain rfl := List.mem_singleton.mp self
      exact Bool.eq_false_iff.mpr fun same => new (List.any_eq_true.mpr ⟨a, at_, same⟩)

/-- Whatever of a walk was met before was met with all that it extends. -/
def Settles (earlier walk : List (ClassDescriptor P)) : Prop :=
  ∀ i ∈ walk, i ∈ earlier → i.ascent ⊆ earlier

theorem addInterface_eq (i : ClassDescriptor P) (found : List (ClassDescriptor P)) :
    addInterface i found = if found.any (·.type == i.type) then found
      else addInterfaces i.interfaces (found ++ [i]) := by
  cases i with | mk body superclass interfaces => rw [addInterface]

/-- An interface already found is not visited again, and its own ascent would add nothing: it
cannot be one that is still being visited, since no interface extends itself. -/
theorem addInterface_of_addInterfaces {earlier : List (ClassDescriptor P)} {i : ClassDescriptor P}
    (coherent : Coherent (earlier ++ i.ascent)) (settled : Settles earlier i.ascent)
    (above : ∀ earlier, Coherent (earlier ++ ascents i.interfaces) →
      Settles earlier (ascents i.interfaces) →
      addInterfaces i.interfaces (firstMet earlier) =
        firstMet (earlier ++ ascents i.interfaces)) :
    addInterface i (firstMet earlier) = firstMet (earlier ++ i.ascent) := by
  rw [addInterface_eq, any_firstMet]
  by_cases old : earlier.any (·.type == i.type)
  · obtain ⟨e, at_, same⟩ := List.any_eq_true.mp old
    obtain rfl : e = i := coherent e (List.mem_append_left _ at_) i
      (List.mem_append_right _ (self_mem_ascent i)) same
    rw [if_pos old, firstMet_append_of_subset (settled e (self_mem_ascent e) at_)]
  · have own : firstMet earlier ++ [i] = firstMet (earlier ++ [i]) := by
      rw [firstMet_append_singleton, if_neg old]
    have split : earlier ++ i.ascent = earlier ++ [i] ++ ascents i.interfaces := by
      rw [ascent_eq, List.append_assoc, List.singleton_append]
    have settled' : Settles (earlier ++ [i]) (ascents i.interfaces) := by
      intro j at_ met
      obtain before | self := List.mem_append.mp met
      · have at_i : j ∈ i.ascent := by rw [ascent_eq]; exact .tail _ at_
        exact List.Subset.trans (settled j at_i before) (List.subset_append_left ..)
      · obtain rfl := List.mem_singleton.mp self
        exact absurd at_ (not_mem_ascents_interfaces j)
    rw [if_neg old, own, above _ (split ▸ coherent) settled', split]

mutual

theorem addInterface_firstMet {earlier : List (ClassDescriptor P)} {i : ClassDescriptor P}
    (coherent : Coherent (earlier ++ i.ascent)) (settled : Settles earlier i.ascent) :
    addInterface i (firstMet earlier) = firstMet (earlier ++ i.ascent) :=
  match i with
  | ⟨_, _, _⟩ => addInterface_of_addInterfaces coherent settled fun _ coherent settled =>
    addInterfaces_firstMet coherent settled

theorem addInterfaces_firstMet {earlier is : List (ClassDescriptor P)}
    (coherent : Coherent (earlier ++ ascents is)) (settled : Settles earlier (ascents is)) :
    addInterfaces is (firstMet earlier) = firstMet (earlier ++ ascents is) :=
  match is with
  | [] => by simp [addInterfaces, ascents]
  | i :: rest => by
    rw [ascents] at coherent settled ⊢
    have coherent' : Coherent (earlier ++ i.ascent) := coherent.subset (by simp)
    have settled' : Settles earlier i.ascent := fun j at_ => settled j (List.mem_append_left _ at_)
    have after : Settles (earlier ++ i.ascent) (ascents rest) := by
      intro j at_ met
      obtain before | first := List.mem_append.mp met
      · exact List.Subset.trans (settled j (List.mem_append_right _ at_) before)
          (List.subset_append_left ..)
      · exact List.Subset.trans (ascent_sublist first).subset (List.subset_append_right ..)
    rw [addInterfaces, addInterface_firstMet coherent' settled',
      addInterfaces_firstMet (by rwa [List.append_assoc]) after, List.append_assoc]

end

theorem addInterfaces_append (is js found : List (ClassDescriptor P)) :
    addInterfaces (is ++ js) found = addInterfaces js (addInterfaces is found) := by
  induction is generalizing found with
  | nil => simp [addInterfaces]
  | cons i rest ih => simp [addInterfaces, ih]

theorem allInterfaces_eq_addInterfaces (c : ClassDescriptor P) :
    c.allInterfaces = addInterfaces (c.levels.flatMap (·.interfaces)) [] := by
  have levelwise : ∀ (levels found : List (ClassDescriptor P)),
      levels.foldl (fun found level => addInterfaces level.interfaces found) found =
        addInterfaces (levels.flatMap (·.interfaces)) found := by
    intro levels
    induction levels with
    | nil => intro found; simp [addInterfaces]
    | cons level rest ih => intro found; simp [addInterfaces_append, ih]
  exact levelwise c.levels []

/-- The interfaces of a class are listed where the walk over them first meets each. -/
theorem allInterfaces_eq_firstMet {c : ClassDescriptor P} (coherent : Coherent c.interfaceWalk) :
    c.allInterfaces = firstMet c.interfaceWalk := by
  have none_met : Settles [] c.interfaceWalk := fun _ _ met => absurd met List.not_mem_nil
  rw [allInterfaces_eq_addInterfaces]
  exact addInterfaces_firstMet coherent none_met

/-- A list of the interfaces of a class: each that some level of the class has through one or more
edges and no other, no type twice, each where the walk over them first meets it. -/
structure ListsInterfaces (c : ClassDescriptor P) (list : List (ClassDescriptor P)) : Prop where
  exact : ∀ i, i ∈ list ↔ c.HasInterface i
  once : list.Pairwise fun a b => (a.type == b.type) = false
  order : ∀ before i after, list = before ++ i :: after →
    ∃ met unmet, c.interfaceWalk = met ++ i :: unmet ∧ i ∉ met ∧ ∀ j, j ∈ before ↔ j ∈ met

/-- A class lists its interfaces, provided that no two of them stand for one type. That a visit
ends at what was seen before loses nothing that is reached only from there. -/
theorem listsInterfaces_allInterfaces {c : ClassDescriptor P}
    (coherent : ∀ i j, c.HasInterface i → c.HasInterface j → (i.type == j.type) = true → i = j) :
    c.ListsInterfaces c.allInterfaces := by
  have coherent : Coherent c.interfaceWalk := fun i hi j hj =>
    coherent i j (mem_interfaceWalk_iff.mp hi) (mem_interfaceWalk_iff.mp hj)
  rw [allInterfaces_eq_firstMet coherent]
  refine ⟨fun i => (mem_firstMet_iff coherent).trans mem_interfaceWalk_iff,
    pairwise_firstMet _, fun before i after listed => ?_⟩
  obtain ⟨met, unmet, walk, new, rfl⟩ := standing_eq_append_cons listed
  have coherent_met : Coherent met := coherent.subset (walk ▸ List.subset_append_left ..)
  refine ⟨met, unmet, walk, fun old => ?_, fun j => mem_firstMet_iff coherent_met⟩
  rw [List.nil_append, List.any_eq_false] at new
  exact new i old (BEq.refl i.type)

def driven : ClassDescriptor .bare where
  type := .ofName "app::Driven"
  isInterface := true

def geared : ClassDescriptor .bare where
  type := .ofName "app::Geared"
  isInterface := true
  interfaces := [driven]

def steered : ClassDescriptor .bare where
  type := .ofName "app::Steered"
  isInterface := true
  interfaces := [driven]

def bicycle : ClassDescriptor .bare where
  type := .ofName "app::Bicycle"
  interfaces := [steered, driven]

/-- A class that has one interface through two others and through its superclass. -/
def moped : ClassDescriptor .bare where
  type := .ofName "app::Moped"
  superclass := some bicycle
  interfaces := [geared, steered]

theorem listsInterfaces_moped : moped.ListsInterfaces [geared, driven, steered] := by
  have walk : moped.interfaceWalk =
      [geared, driven, steered, driven, steered, driven, driven] := rfl
  have one_of : ∀ i, moped.HasInterface i → i = geared ∨ i = driven ∨ i = steered := by
    intro i has
    have met := mem_interfaceWalk_iff.mpr has
    simp only [walk, List.mem_cons, List.not_mem_nil, or_false] at met
    grind
  have coherent : ∀ i j, moped.HasInterface i → moped.HasInterface j →
      (i.type == j.type) = true → i = j := by
    intro i j hi hj same
    obtain rfl | rfl | rfl := one_of i hi <;> obtain rfl | rfl | rfl := one_of j hj <;>
      first | rfl | exact absurd same (by decide)
  exact listsInterfaces_allInterfaces coherent

end ClassDescriptor

end Injector
