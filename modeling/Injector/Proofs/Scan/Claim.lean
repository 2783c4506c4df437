import Injector.Proofs.Hook.Mapping
import Injector.Scan.Match

/-!
# What the markers on a member come to

Each extension that they lead to gets one group, which allows no more than the markers in it do; a
field is injected only if one binding hook is all there is.
-/

set_option autoImplicit false

namespace Injector

variable {P : Platform}

def FieldCaps.allows (caps : FieldCaps) : FieldCall → Bool
  | .newGetter => caps.gettable
  | .newSetter => caps.settable

theorem FieldMatch.allows_eq (m : FieldMatch P) (call : FieldCall) :
    m.allows call = m.caps.allows call := by cases call <;> rfl

theorem FieldCaps.allows_union (a b : FieldCaps) (call : FieldCall) :
    (a.union b).allows call = (a.allows call || b.allows call) := by cases call <;> rfl

namespace HookGroup

variable {hits : List (Hit P)}

theorem forall_insert {p : HookGroup P → Prop} {hit : Hit P} (one : p (ofHit hit))
    (add : ∀ g, p g → (g.extension == hit.hook.extension) = true → p (g.add hit))
    {groups : List (HookGroup P)} (hg : ∀ g ∈ groups, p g) : ∀ g ∈ insert hit groups, p g := by
  induction groups with
  | nil => exact List.forall_mem_singleton.mpr one
  | cons g rest ih =>
    rw [List.forall_mem_cons] at hg
    unfold insert
    split
    next same => exact List.forall_mem_cons.mpr ⟨add g hg.1 same, hg.2⟩
    next => exact List.forall_mem_cons.mpr ⟨hg.1, ih hg.2⟩

/-- What holds of the group of a single hit, and still does with one more of the same extension. -/
theorem ofHits_induction {p : HookGroup P → Prop} (one : ∀ hit ∈ hits, p (ofHit hit))
    (add : ∀ hit ∈ hits, ∀ g, p g → (g.extension == hit.hook.extension) = true → p (g.add hit)) :
    ∀ g ∈ ofHits hits, p g := by
  have grown : ∀ rest ⊆ hits, ∀ groups : List (HookGroup P), (∀ g ∈ groups, p g) →
      ∀ g ∈ rest.foldl (fun groups h => insert h groups) groups, p g := by
    intro rest
    induction rest with
    | nil => exact fun _ groups hg => hg
    | cons hit rest ih =>
      intro among groups hg
      rw [List.cons_subset] at among
      exact ih among.2 _ (forall_insert (one hit among.1) (add hit among.1) hg)
  exact grown hits (List.Subset.refl _) [] (List.forall_mem_nil _)

/-- Groups are those of the extensions that markers lead to. -/
theorem forall_ofHits {p : ExtensionKey → Prop} (h : ∀ hit ∈ hits, p hit.hook.extension) :
    ∀ g ∈ ofHits hits, p g.extension :=
  ofHits_induction h fun _ _ _ hg _ => hg

theorem exists_hit {g : HookGroup P} (hg : g ∈ ofHits hits) :
    ∃ hit ∈ hits, (hit.hook.extension == g.extension) = true :=
  ofHits_induction (p := fun g => ∃ hit ∈ hits, (hit.hook.extension == g.extension) = true)
    (fun hit hh => ⟨hit, hh, BEq.rfl⟩) (fun _ _ _ found _ => found) g hg

/-- What a group allows is allowed by one of its markers. -/
theorem exists_allowing {g : HookGroup P} (hg : g ∈ ofHits hits) {call : FieldCall}
    (allowed : g.caps.allows call = true) :
    ∃ hit ∈ hits, (hit.hook.extension == g.extension) = true ∧
      hit.hook.capabilities.fieldCaps.allows call = true := by
  revert g
  apply ofHits_induction
  · exact fun hit hh allowed => ⟨hit, hh, BEq.rfl, allowed⟩
  · intro hit hh g ih same allowed
    rw [add, FieldCaps.allows_union, Bool.or_eq_true] at allowed
    rcases allowed with allowed | allowed
    · exact ih allowed
    · exact ⟨hit, hh, BEq.symm same, allowed⟩

end HookGroup

namespace FieldClaim

variable {hits : List (Hit P)}

/-- Field hooks of whatever extensions are grouped, if there is no binding hook. -/
theorem matched_eq {groups : List (HookGroup P)} (h : ofHits hits = .matched groups) :
    groups = HookGroup.ofHits (hits.filter (·.hook.capabilities.isFieldHook)) := by
  unfold ofHits at h
  dsimp only at h
  split at h
  next => cases h
  next => cases h
  next => cases h
  next => cases h
  next member alone _ =>
    cases h
    exact (congrArg HookGroup.ofHits alone).symm
  next =>
    cases h
    rfl

/-- Without a binding hook, field hooks are grouped; also where there is but one. -/
theorem ofHits_of_unbound (unbound : hits.filter (·.hook.capabilities.binding) = []) :
    ofHits hits = .unclaimed ∧ hits.filter (·.hook.capabilities.isFieldHook) = [] ∨
      ofHits hits =
        .matched (HookGroup.ofHits (hits.filter (·.hook.capabilities.isFieldHook))) := by
  cases members : hits.filter (·.hook.capabilities.isFieldHook) with
  | nil =>
    refine .inl ⟨?_, rfl⟩
    unfold ofHits Capabilities.isFieldHook at *
    dsimp only
    rw [members, unbound]
  | cons member rest =>
    refine .inr ?_
    unfold ofHits Capabilities.isFieldHook at *
    dsimp only
    rw [members, unbound]
    cases rest <;> rfl

theorem injected_eq {binding : Hit P} (h : ofHits hits = .injected binding) :
    hits.filter (·.hook.capabilities.isFieldHook) = [] ∧
      hits.filter (·.hook.capabilities.binding) = [binding] := by
  unfold ofHits at h
  dsimp only at h
  split at h
  next => cases h
  next members bindings =>
    cases h
    exact ⟨members, bindings⟩
  next => cases h
  next => cases h
  next => cases h
  next => cases h

end FieldClaim

namespace Scan

variable {c c' : Catalog} {model : HookModel} {markers : List (Marker P)} {hits : List (Hit P)}

inductive Found (c : Catalog) (model : HookModel) : List (Marker P) → List (Hit P) → Prop
  | nil : Found c model [] []
  | skip {marker : Marker P} {markers : List (Marker P)} {hits : List (Hit P)}
      (unmapped : c.Maps model marker.toMarkerType none) (rest : Found c model markers hits) :
      Found c model (marker :: markers) hits
  | hit {marker : Marker P} {markers : List (Marker P)} {hits : List (Hit P)}
      {hook : Shared HookDescriptor} (mapped : c.Maps model marker.toMarkerType (some hook))
      (rest : Found c model markers hits) :
      Found c model (marker :: markers) (⟨marker, hook.value⟩ :: hits)

def Marked (c : Catalog) (model : HookModel) (markers : List (Marker P))
    (extension : ExtensionKey) (able : Capabilities → Bool) : Prop :=
  ∃ marker ∈ markers, c.MapsTo model marker.toMarkerType fun hook =>
    (hook.extension == extension) = true ∧ able hook.capabilities = true

/-- One marker is mapped to a binding hook, and that hook names the extension; no other marker is
mapped to a binding hook, and none to a field hook. -/
structure SoleBinding (c : Catalog) (model : HookModel) (markers : List (Marker P))
    (extension : ExtensionKey) : Prop where
  only : ∃ before marker after, markers = before ++ marker :: after ∧
    (c.MapsTo model marker.toMarkerType fun hook =>
      (hook.extension == extension) = true ∧ hook.capabilities.binding = true) ∧
    ∀ other ∈ before ++ after,
      c.MapsOnlyTo model other.toMarkerType (·.capabilities.binding = false)
  unmatched : ∀ marker ∈ markers,
    c.MapsOnlyTo model marker.toMarkerType (·.capabilities.isFieldHook = false)

theorem Marked.mono {extension : ExtensionKey} {able : Capabilities → Bool}
    (h : Marked c model markers extension able) (grows : c.Grows c') :
    Marked c' model markers extension able := by
  obtain ⟨marker, hm, maps⟩ := h
  exact ⟨marker, hm, maps.mono grows fun _ h => h⟩

theorem SoleBinding.mono {extension : ExtensionKey}
    (h : SoleBinding c model markers extension) (grows : c.Grows c') :
    SoleBinding c' model markers extension where
  only := by
    obtain ⟨before, marker, after, split, maps, others⟩ := h.only
    exact ⟨before, marker, after, split, maps.mono grows fun _ h => h,
      fun other ho => (others other ho).mono grows⟩
  unmatched := fun marker hm => (h.unmatched marker hm).mono grows

namespace Found

theorem mono (h : Found c model markers hits) (grows : c.Grows c') :
    Found c' model markers hits := by
  induction h with
  | nil => exact .nil
  | skip unmapped _ ih => exact .skip (unmapped.mono grows) ih
  | hit mapped _ ih => exact .hit (mapped.mono grows) ih

theorem marked (h : Found c model markers hits) {hit : Hit P} (hh : hit ∈ hits)
    {extension : ExtensionKey} {able : Capabilities → Bool}
    (same : (hit.hook.extension == extension) = true)
    (enough : able hit.hook.capabilities = true) : Marked c model markers extension able := by
  induction h with
  | nil => cases hh
  | skip _ _ ih =>
    obtain ⟨marker, hm, maps⟩ := ih hh
    exact ⟨marker, List.mem_cons_of_mem _ hm, maps⟩
  | hit mapped _ ih =>
    rcases List.mem_cons.mp hh with rfl | hh
    · exact ⟨_, List.mem_cons_self, _, mapped, same, enough⟩
    · obtain ⟨marker, hm, maps⟩ := ih hh
      exact ⟨marker, List.mem_cons_of_mem _ hm, maps⟩

end Found

namespace Found

variable (kind : Capabilities → Bool)

theorem none_of_filter_nil (h : Found c model markers hits)
    (none : hits.filter (fun hit => kind hit.hook.capabilities) = []) :
    ∀ marker ∈ markers, c.MapsOnlyTo model marker.toMarkerType (kind ·.capabilities = false) := by
  induction h with
  | nil => exact List.forall_mem_nil _
  | skip unmapped _ ih => exact List.forall_mem_cons.mpr ⟨⟨_, unmapped, by simp⟩, ih none⟩
  | @hit marker markers hits hook mapped _ ih =>
    rw [List.filter_cons] at none
    split at none
    next => cases none
    next other => exact List.forall_mem_cons.mpr ⟨⟨_, mapped, by simpa using other⟩, ih none⟩

/-- The one hit of a kind comes from the one marker of that kind. -/
theorem split_of_filter_singleton (h : Found c model markers hits) {hit : Hit P}
    (only : hits.filter (fun hit => kind hit.hook.capabilities) = [hit]) :
    ∃ before marker after, markers = before ++ marker :: after ∧
      (c.MapsTo model marker.toMarkerType fun hook =>
        hook = hit.hook ∧ kind hook.capabilities = true) ∧
      ∀ other ∈ before ++ after,
        c.MapsOnlyTo model other.toMarkerType (kind ·.capabilities = false) := by
  induction h with
  | nil => cases only
  | @skip marker _ _ unmapped _ ih =>
    obtain ⟨before, sole, after, rfl, maps, others⟩ := ih only
    exact ⟨marker :: before, sole, after, rfl, maps,
      List.forall_mem_cons.mpr ⟨⟨_, unmapped, by simp⟩, others⟩⟩
  | @hit marker markers hits hook mapped rest ih =>
    rw [List.filter_cons] at only
    split at only
    next here =>
      obtain ⟨rfl, none⟩ := List.cons_eq_cons.mp only
      exact ⟨[], marker, markers, rfl, ⟨hook, mapped, rfl, here⟩,
        rest.none_of_filter_nil kind none⟩
    next other =>
      obtain ⟨before, sole, after, rfl, maps, others⟩ := ih only
      exact ⟨marker :: before, sole, after, rfl, maps,
        List.forall_mem_cons.mpr ⟨⟨_, mapped, by simpa using other⟩, others⟩⟩

theorem soleBinding (h : Found c model markers hits) {binding : Hit P}
    (injected : FieldClaim.ofHits hits = .injected binding) :
    SoleBinding c model markers binding.hook.extension := by
  obtain ⟨members, bindings⟩ := FieldClaim.injected_eq injected
  obtain ⟨before, marker, after, split, maps, others⟩ :=
    h.split_of_filter_singleton (·.binding) bindings
  refine ⟨⟨before, marker, after, split, maps.mono (.refl c) ?_, others⟩,
    h.none_of_filter_nil (·.isFieldHook) members⟩
  rintro _ ⟨rfl, binds⟩
  exact ⟨BEq.rfl, binds⟩

end Found

end Scan

end Injector
