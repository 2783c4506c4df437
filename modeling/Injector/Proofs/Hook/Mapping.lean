import Injector.Proofs.Hook.Lookup
import Injector.Extension

/-!
# Which hook a model maps a marker to

Once a marker was looked up with success the catalog has the answer, and every later catalog has the
same; so one can speak of what the markers on a member are mapped to without saying when.
-/

set_option autoImplicit false

namespace Injector

variable {P : Platform}

namespace Capabilities

def isFieldHook (c : Capabilities) : Bool := !c.binding && c.field

def isMethodHook (c : Capabilities) : Bool := !c.binding && c.invokable

def permits (c : Capabilities) : FieldCall → Bool
  | .newGetter => c.isFieldHook && c.readable
  | .newSetter => c.isFieldHook && c.writable

end Capabilities

namespace Catalog

variable {c c' : Catalog} {model : HookModel} {m : MarkerType P}
  {found : Option (Shared HookDescriptor)}

/-- Whoever looks the marker up gets this answer, and the catalog learns nothing from it. -/
def Maps (c : Catalog) (model : HookModel) (m : MarkerType P)
    (found : Option (Shared HookDescriptor)) : Prop :=
  ∀ w, lookup w model m c = (.ok found, c)

def MapsTo (c : Catalog) (model : HookModel) (m : MarkerType P) (good : HookDescriptor → Prop) :
    Prop :=
  ∃ found, c.Maps model m (some found) ∧ good found.value

/-- It is known what the marker is mapped to, and if that is a hook then `good` holds of it. -/
def MapsOnlyTo (c : Catalog) (model : HookModel) (m : MarkerType P)
    (good : HookDescriptor → Prop) : Prop :=
  ∃ found, c.Maps model m found ∧ ∀ hook ∈ found, good hook.value

theorem maps_of_model {known : Shared HookDescriptor} (h : model.find? m.key = some known) :
    c.Maps model m (some known) := fun w => lookup_of_some h w

theorem declared_of_own {entry : MarkerKey × Option (Shared HookDescriptor)}
    (h : c.own.find? (·.1 == m.key) = some entry) (w : P.World) :
    declared w m c = (.ok entry.2, c) := by
  unfold declared
  rw [get_bind_apply, h]
  rfl

theorem maps_of_own {entry : MarkerKey × Option (Shared HookDescriptor)}
    (undeclared : model.find? m.key = none) (h : c.own.find? (·.1 == m.key) = some entry) :
    c.Maps model m entry.2 := by
  intro w
  rw [lookup_of_none undeclared]
  exact declared_of_own h w

/-- An answer that comes without learning was known. -/
theorem own_of_declared {w : P.World} (h : declared w m c = (.ok found, c)) :
    ∃ entry, c.own.find? (·.1 == m.key) = some entry ∧ entry.2 = found := by
  unfold declared at h
  rw [get_bind_apply] at h
  cases known : c.own.find? (·.1 == m.key) with
  | some entry =>
    rw [known] at h
    cases h
    exact ⟨entry, rfl, rfl⟩
  | none =>
    rw [known] at h
    dsimp only at h
    -- a marker that was not known would have been added
    have learned : ∀ entry, c.own ≠ c.own ++ [entry] := by
      intro entry same
      have := congrArg List.length same
      simp at this
    cases declares : m.declaredHook w with
    | none =>
      rw [declares] at h
      exact absurd (congrArg (·.2.own) h).symm (learned _)
    | some spec =>
      rw [declares] at h
      dsimp only at h
      rw [bind_apply] at h
      cases valid : spec.validate m.key with
      | error e =>
        rw [valid] at h
        cases h
      | ok descriptor =>
        rw [valid] at h
        exact absurd (congrArg (·.2.own) h).symm (learned _)

theorem Maps.mono (h : c.Maps model m found) (grows : c.Grows c') : c'.Maps model m found := by
  intro w
  have here := h w
  cases inherited : model.find? m.key with
  | some known =>
    rw [lookup_of_some inherited] at here ⊢
    cases here
    rfl
  | none =>
    rw [lookup_of_none inherited] at here
    obtain ⟨entry, known, rfl⟩ := own_of_declared here
    exact maps_of_own inherited (grows.own.find?_eq_some known) w

theorem MapsTo.mono {good good' : HookDescriptor → Prop} (h : c.MapsTo model m good)
    (grows : c.Grows c') (weaker : ∀ hook, good hook → good' hook) : c'.MapsTo model m good' := by
  obtain ⟨found, maps, hg⟩ := h
  exact ⟨found, maps.mono grows, weaker _ hg⟩

theorem MapsOnlyTo.mono {good : HookDescriptor → Prop} (h : c.MapsOnlyTo model m good)
    (grows : c.Grows c') : c'.MapsOnlyTo model m good := by
  obtain ⟨found, maps, only⟩ := h
  exact ⟨found, maps.mono grows, only⟩

/-- What was looked up is known from then on. -/
theorem ends_lookup_maps (w : P.World) (model : HookModel) (m : MarkerType P) (c : Catalog) :
    Ends (lookup w model m) c (fun found c' => c'.Maps model m found) fun _ _ => True := by
  cases inherited : model.find? m.key with
  | some known =>
    rw [ends_of_ok (lookup_of_some inherited w)]
    exact maps_of_model inherited
  | none =>
    rw [lookup_of_none inherited]
    cases known : c.own.find? (·.1 == m.key) with
    | some entry =>
      rw [ends_of_ok (declared_of_own known w)]
      exact maps_of_own inherited known
    | none =>
      have learned : ∀ (found : Option (Shared HookDescriptor)) (c' : Catalog),
          c'.own = c.own ++ [(m.key, found)] → c'.Maps model m found := by
        intro found c' own
        have entry : c'.own.find? (·.1 == m.key) = some (m.key, found) := by
          rw [own, List.find?_append, known, Option.none_or, List.find?_singleton, BEq.rfl]
          rfl
        exact maps_of_own inherited entry
      unfold declared
      rw [ends_bind, ends_get, known]
      dsimp only
      split
      next => exact learned none _ rfl
      next spec _ =>
        rw [ends_bind, ends_except]
        exact ⟨fun descriptor _ => learned (some ⟨c.minted, descriptor⟩) _ rfl,
          fun _ _ => trivial⟩

theorem ends_keepModel_known (type : TypeKey) (model : HookModel) (c : Catalog) :
    Ends (keepModel type model) c (fun kept c' => c'.model? type = some kept)
      fun _ _ => True := by
  unfold keepModel
  rw [ends_bind, ends_get]
  split
  next kept found => exact found
  next missing =>
    show model? _ _ = _
    rw [model?] at missing ⊢
    rw [List.find?_append, Option.map_eq_none_iff.mp missing, Option.none_or, List.find?_singleton,
      BEq.rfl]
    rfl

/-- The model of a class is the same whenever it is asked for again. -/
theorem ends_modelFor_known (w : P.World) (cls : ClassDescriptor P) (c : Catalog) :
    Ends (modelFor w cls) c (fun model c' => c'.model? cls.type = some model) fun _ _ => True := by
  rw [modelFor_eq, ends_bind, ends_get]
  cases known : c.model? cls.type with
  | some model => exact known
  | none =>
    apply (Ends.any _ _).bind
    intro above c' _
    unfold addLevel
    apply (Ends.any _ _).bind
    intro entries c'' _
    rw [ends_bind, ends_mint]
    exact ends_keepModel_known _ _ _

end Catalog

end Injector
