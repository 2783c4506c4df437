import Mathlib.Logic.Relation
import Injector.Proofs.Ends
import Injector.Proofs.Hook.Draft

/-!
# What a catalog knows

The catalog gives what hooks come to, whatever was asked before. Its tables hold nothing but what
the vocabulary says; a model answers for the declared markers that declare nothing for themselves,
and any other marker answers for itself.
-/

set_option autoImplicit false

namespace Injector

variable {P : Platform}

def Error.isLimit : Error → Bool
  | resolutionLimitExceeded .. => true
  | _ => false

namespace Catalog

variable {V : Vocabulary P} {c c' : Catalog}

structure Modeled (V : Vocabulary P) (c : Catalog) (cls : ClassDescriptor P) (model : HookModel) :
    Prop where
  consistent : V.Consistent cls.allDeclared
  covers : V.Covers cls.allDeclared model
  above : ∃ (level : ModelLevel) (above : HookModel), model = level :: above ∧
    (∀ s, cls.superclass = some s → c.model? s.type = some above) ∧
      ∀ key, (above.find? key).isSome = true → level.find? key = none

structure Faithful (V : Vocabulary P) (c : Catalog) : Prop where
  own : ∀ entry ∈ c.own, V.own entry.1 = .ok (entry.2.map (·.value)) ∧
    ∃ m, V.markers m ∧ m.key = entry.1
  models : ∀ cls, V.classes cls → ∀ model, c.model? cls.type = some model →
    Modeled V c cls model

def Keeps (c c' : Catalog) : Prop :=
  ∀ type model, c.model? type = some model → c'.model? type = some model

theorem Keeps.refl (c : Catalog) : Keeps c c := fun _ _ h => h

theorem Keeps.trans {c'' : Catalog} (h : Keeps c c') (k : Keeps c' c'') : Keeps c c'' :=
  fun type model hm => k type model (h type model hm)

theorem model?_eq (h : c'.models = c.models) (type : TypeKey) : c'.model? type = c.model? type := by
  rw [model?, model?, h]

theorem keeps_of_eq (h : c'.models = c.models) : Keeps c c' := fun type model hm => by
  rw [model?_eq h, hm]

theorem keeps_append {type : TypeKey} {model : HookModel}
    (h : c'.models = c.models ++ [(type, model)]) : Keeps c c' := by
  intro other known hk
  rw [model?, Option.map_eq_some_iff] at hk
  obtain ⟨entry, found, rfl⟩ := hk
  rw [model?, h, List.find?_append, found]
  rfl

theorem Modeled.mono {cls : ClassDescriptor P} {model : HookModel} (h : Modeled V c cls model)
    (k : Keeps c c') : Modeled V c' cls model where
  consistent := h.consistent
  covers := h.covers
  above := by
    obtain ⟨level, above, hm, hs, hu⟩ := h.above
    exact ⟨level, above, hm, fun s hsuper => k s.type above (hs s hsuper), hu⟩

theorem faithful_empty (typeHooks : List (TypeKey × ExtensionKey)) :
    Faithful V { typeHooks } where
  own := fun entry he => by cases he
  models := fun cls _ model hm => by cases hm

theorem Faithful.models_of_eq (h : Faithful V c) (hmodels : c'.models = c.models) :
    ∀ cls, V.classes cls → ∀ model, c'.model? cls.type = some model → Modeled V c' cls model := by
  intro cls hcls model hm
  rw [model?_eq hmodels] at hm
  exact (h.models cls hcls model hm).mono (keeps_of_eq hmodels)

/-- The tables of own declarations and of models are all that matters. -/
theorem Faithful.of_eq (h : Faithful V c) (hown : c'.own = c.own) (hmodels : c'.models = c.models) :
    Faithful V c' where
  own := hown ▸ h.own
  models := h.models_of_eq hmodels

theorem Faithful.learn (h : Faithful V c) {m : MarkerType P} (hm : V.markers m)
    (found : Option (Shared HookDescriptor)) (own : V.own m.key = .ok (found.map (·.value)))
    (hown : c'.own = c.own ++ [(m.key, found)]) (hmodels : c'.models = c.models) :
    Faithful V c' where
  own := by
    intro entry he
    rw [hown, List.mem_append, List.mem_singleton] at he
    rcases he with he | rfl
    · exact h.own entry he
    · exact ⟨own, m, hm, rfl⟩
  models := h.models_of_eq hmodels

theorem ends_mint {ok : Nat → Catalog → Prop} {failed : Error → Catalog → Prop} :
    Ends mint c ok failed ↔ ok c.minted { c with minted := c.minted + 1 } := Iff.rfl

theorem ends_declared (hc : Faithful V c) {m : MarkerType P} (hm : V.markers m) (w : P.World) :
    Ends (declared w m) c
      (fun found c' => Faithful V c' ∧ c'.models = c.models ∧
        V.own m.key = .ok (found.map (·.value)))
      fun e c' => c' = c ∧ V.own m.key = .error e := by
  unfold declared
  rw [ends_bind, ends_get]
  cases hf : c.own.find? (·.1 == m.key) with
  | some known =>
    obtain ⟨own, m', hm', hkey⟩ := hc.own known (List.mem_of_find?_eq_some hf)
    have hequal : (known.1 == m.key) = true := by simpa using List.find?_some hf
    have hsame : m'.key = m.key := V.key_eq m' m hm' hm (hkey ▸ hequal)
    rw [← hkey, hsame] at own
    exact ⟨hc, rfl, own⟩
  | none =>
    rw [V.hook_eq m hm w]
    cases hh : V.hook m.key with
    | none =>
      have own := V.own_of_none hh
      exact ⟨hc.learn hm none own rfl rfl, rfl, own⟩
    | some spec =>
      show Ends (liftM (spec.validate m.key) >>= fun _ => _) c _ _
      rw [ends_bind, ends_except]
      refine ⟨?_, ?_⟩
      · intro descriptor hv
        obtain ⟨valid, rfl⟩ := HookSpec.valid_of_validate hv
        have own := V.own_of_valid hh valid
        exact ⟨hc.learn hm (some ⟨c.minted, spec.describe m.key⟩) own rfl rfl, rfl, own⟩
      · intro e hv
        refine ⟨rfl, ?_⟩
        rw [Vocabulary.own, hh]
        show (spec.validate m.key).map some = _
        rw [hv]
        rfl

/-- The model answers if it can, else the marker does. -/
theorem ends_lookup (hc : Faithful V c) {m : MarkerType P} (hm : V.markers m) (model : HookModel)
    (w : P.World) :
    Ends (lookup w model m) c
      (fun found c' => Faithful V c' ∧ c'.models = c.models ∧
        (found.isSome = true ∧ model.find? m.key = found ∨
          model.find? m.key = none ∧ V.own m.key = .ok (found.map (·.value))))
      fun e c' => c' = c ∧ model.find? m.key = none ∧ V.own m.key = .error e := by
  unfold lookup
  cases hf : model.find? m.key with
  | some found => exact ⟨hc, rfl, .inl ⟨rfl, rfl⟩⟩
  | none =>
    apply (ends_declared hc hm w).mono
    · intro found c' h
      exact ⟨h.1, h.2.1, .inr ⟨rfl, h.2.2⟩⟩
    · intro e c' h
      exact ⟨h.1, rfl, h.2⟩

theorem visible_eq (w : P.World) (above : HookModel) (entries : List (Shared HookDescriptor))
    (m : MarkerType P) (type : TypeKey) (serial : Nat) :
    visible w above entries m = lookup w (⟨type, serial, entries⟩ :: above) m := by
  unfold visible lookup
  rw [HookModel.find?_cons, ModelLevel.find?]
  cases entries.find? (·.value.marker == m.key) with
  | some found => rfl
  | none =>
    cases above.find? m.key with
    | some found => rfl
    | none => rfl

section Levels

variable {ds : List (Declaration P)} {above : HookModel} {entries : List (Shared HookDescriptor)}
  {d : Declaration P}

/-- A declaration is taken in exactly if it is consistent with those before it. -/
theorem ends_addDeclaration (hc : Faithful V c) (named : ∀ d ∈ ds, V.markers d.1)
    (hd : V.markers d.1) (draft : V.Drafted ds above entries) (w : P.World) (type : TypeKey) :
    Ends (addDeclaration w type above entries d) c
      (fun entries' c' => Faithful V c' ∧ c'.models = c.models ∧
        V.Drafted (d :: ds) above entries')
      fun _ c' => Faithful V c' ∧ c'.models = c.models ∧ ¬ V.Consistent (d :: ds) := by
  unfold addDeclaration
  dsimp only
  rw [ends_bind, ends_except]
  constructor
  · intro descriptor hv
    obtain ⟨valid, rfl⟩ := HookSpec.valid_of_validate hv
    rw [visible_eq w above entries d.1 type c.minted, ends_bind]
    apply (ends_lookup hc hd _ w).mono
    · rintro found c' ⟨hc', hmodels, ⟨hsome, hf⟩ | ⟨hf, own⟩⟩
      · obtain ⟨existing, rfl⟩ := Option.isSome_iff_exists.mp hsome
        obtain ⟨d', hd', hk, hook, value⟩ := (draft.covers type c.minted).sound d.1.key existing hf
        have key : d'.1.key = d.1.key := V.key_eq d'.1 d.1 (named d' hd') hd hk
        have agreement := HookSpec.agrees_describe (a := d'.2) (b := d.2) hk
        rw [← value] at agreement
        show Ends (if existing.value.agrees _ then _ else _) c' _ _
        split
        next agrees =>
          exact ⟨hc', hmodels, draft.repeat_earlier valid hd' key hook (agreement.mp agrees)⟩
        next differs =>
          refine ⟨hc', hmodels, fun consistent => differs (agreement.mpr ?_)⟩
          exact consistent.same d' (List.mem_cons_of_mem d hd') d List.mem_cons_self hk
      · cases found with
        | some existing =>
          obtain ⟨spec, hook, spec_valid, value⟩ := V.hook_of_own own
          have value : existing.value = spec.describe d.1.key := value
          have agreement := HookSpec.agrees_describe (a := spec) (b := d.2) (BEq.refl d.1.key)
          rw [← value] at agreement
          show Ends (if existing.value.agrees _ then _ else _) c' _ _
          split
          next agrees =>
            exact ⟨hc', hmodels, draft.repeat_own named hd valid hook spec_valid
              (agreement.mp agrees)⟩
          next differs =>
            refine ⟨hc', hmodels, fun consistent => differs (agreement.mpr ?_)⟩
            exact consistent.own_same d List.mem_cons_self spec hook
        | none =>
          have hook := V.hook_of_own_none own
          exact ⟨hc'.of_eq rfl rfl, hmodels, draft.declare named hd valid hook hf rfl⟩
    · rintro e c' ⟨rfl, -, own⟩
      refine ⟨hc, rfl, fun consistent => ?_⟩
      obtain ⟨found, hfound⟩ := consistent.exists_own (List.mem_cons_self (a := d) (l := ds))
      rw [own] at hfound
      cases hfound
  · intro e hv
    refine ⟨hc, rfl, fun consistent => ?_⟩
    have valid := HookSpec.validate_of_valid (consistent.valid d List.mem_cons_self)
    rw [valid] at hv
    cases hv

theorem ends_addDeclarations (declarations : List (Declaration P)) (hc : Faithful V c)
    (named : ∀ d ∈ declarations ++ ds, V.markers d.1) (draft : V.Drafted ds above entries)
    (w : P.World) (type : TypeKey) :
    Ends (declarations.foldlM (addDeclaration w type above) entries) c
      (fun entries' c' => Faithful V c' ∧ c'.models = c.models ∧
        V.Drafted (declarations ++ ds) above entries')
      fun _ c' => Faithful V c' ∧ c'.models = c.models ∧
        ¬ V.Consistent (declarations ++ ds) := by
  induction declarations generalizing c ds entries with
  | nil => exact ⟨hc, rfl, draft⟩
  | cons d rest ih =>
    have hmem : ∀ a, a ∈ d :: rest ++ ds ↔ a ∈ rest ++ d :: ds := by
      intro a
      simp only [List.cons_append, List.mem_cons, List.mem_append]
      constructor <;> rintro (h | h | h) <;> simp [h]
    rw [List.foldlM_cons, ends_bind]
    have named_ds : ∀ a ∈ ds, V.markers a.1 := fun a ha => named a (by simp [ha])
    apply (ends_addDeclaration hc named_ds (named d (by simp)) draft w type).mono
    · rintro entries' c' ⟨hc', hmodels, draft'⟩
      apply (ih hc' (fun a ha => named a ((hmem a).mpr ha)) draft').mono
      · rintro last c'' ⟨hc'', hmodels', draft''⟩
        refine ⟨hc'', hmodels'.trans hmodels, ?_, ?_, draft''.unshadowed⟩
        · exact draft''.consistent.of_subset fun a ha => (hmem a).mp ha
        · exact fun type serial => (draft''.covers type serial).of_mem_iff hmem
      · rintro e c'' ⟨hc'', hmodels', inconsistent⟩
        refine ⟨hc'', hmodels'.trans hmodels, fun consistent => inconsistent ?_⟩
        exact consistent.of_subset fun a ha => (hmem a).mpr ha
    · rintro e c' ⟨hc', hmodels, inconsistent⟩
      refine ⟨hc', hmodels, fun consistent => inconsistent ?_⟩
      exact consistent.of_subset fun a ha => (hmem a).mpr (List.mem_append_right rest ha)

structure Inherited (V : Vocabulary P) (c : Catalog) (cls : ClassDescriptor P)
    (above : HookModel) : Prop where
  consistent : V.Consistent cls.declaredAbove
  covers : V.Covers cls.declaredAbove above
  model : ∀ s, cls.superclass = some s → c.model? s.type = some above

theorem Inherited.drafted {cls : ClassDescriptor P} (h : Inherited V c cls above) :
    V.Drafted cls.declaredAbove above [] where
  consistent := h.consistent
  covers := by
    intro type serial
    have same : ∀ key, HookModel.find? (⟨type, serial, []⟩ :: above) key = above.find? key := by
      intro key
      rw [HookModel.find?_cons]
      rfl
    exact ⟨fun key => by rw [same]; exact h.covers.sound key,
      fun d hd hn => by rw [same]; exact h.covers.complete d hd hn⟩
  unshadowed := fun _ _ => rfl

/-- A model is kept for its own type, where there is none yet. -/
theorem Faithful.keepModel (hc : Faithful V c) {cls : ClassDescriptor P} (hcls : V.classes cls)
    {model : HookModel} (new : c.model? cls.type = none) (hm : Modeled V c cls model)
    (hown : c'.own = c.own) (hmodels : c'.models = c.models ++ [(cls.type, model)]) :
    Faithful V c' ∧ Keeps c c' ∧ c'.model? cls.type = some model := by
  have find : ∀ type, c'.model? type =
      (c.model? type).or (if (cls.type == type) = true then some model else none) := by
    intro type
    rw [model?, model?, hmodels, List.find?_append, List.find?_singleton]
    cases c.models.find? (·.1 == type) with
    | some entry => rfl
    | none =>
      by_cases ht : (cls.type == type) = true
      · simp [ht]
      · simp [ht]
  have keeps : Keeps c c' := keeps_append hmodels
  refine ⟨⟨hown ▸ hc.own, ?_⟩, keeps, ?_⟩
  · intro other hother found hf
    rw [find] at hf
    cases hk : c.model? other.type with
    | some known =>
      rw [hk] at hf
      obtain rfl : known = found := Option.some.inj hf
      exact (hc.models other hother known hk).mono keeps
    | none =>
      rw [hk, Option.none_or] at hf
      split at hf
      next ht =>
        cases hf
        obtain rfl := V.class_eq cls other hcls hother ht
        exact hm.mono keeps
      next => cases hf
  · rw [find, new, Option.none_or, if_pos (BEq.refl _)]

theorem ends_keepModel (hc : Faithful V c) {cls : ClassDescriptor P} (hcls : V.classes cls)
    {model : HookModel} (hm : Modeled V c cls model) {failed : Error → Catalog → Prop} :
    Ends (keepModel cls.type model) c
      (fun kept c' => Faithful V c' ∧ Keeps c c' ∧ c'.model? cls.type = some kept) failed := by
  unfold Catalog.keepModel
  rw [ends_bind, ends_get]
  cases hk : c.model? cls.type with
  | some known => exact ⟨hc, .refl c, hk⟩
  | none => exact hc.keepModel hcls hk hm rfl rfl

theorem ends_addLevel (hc : Faithful V c) {cls : ClassDescriptor P} (hcls : V.classes cls)
    (inherited : Inherited V c cls above) (w : P.World) :
    Ends (addLevel w cls.toClassBody above) c
      (fun model c' => Faithful V c' ∧ Keeps c c' ∧ c'.model? cls.type = some model)
      fun _ c' => Faithful V c' ∧ Keeps c c' ∧ ¬ V.Consistent cls.allDeclared := by
  have named : ∀ d ∈ cls.declarations ++ cls.declaredAbove, V.markers d.1 := by
    intro d hd
    rw [← ClassDescriptor.allDeclared_eq] at hd
    exact V.markers_of_allDeclared hcls hd
  unfold addLevel
  rw [ends_bind]
  apply (ends_addDeclarations cls.declarations hc named inherited.drafted w cls.type).mono
  · rintro entries c' ⟨hc', hmodels, draft⟩
    rw [← ClassDescriptor.allDeclared_eq] at draft
    have keeps : Keeps c c' := keeps_of_eq hmodels
    rw [ends_bind, ends_mint]
    have hc'' : Faithful V { c' with minted := c'.minted + 1 } := hc'.of_eq rfl rfl
    have modeled : Modeled V { c' with minted := c'.minted + 1 } cls
        (⟨cls.type, c'.minted, entries⟩ :: above) :=
      ⟨draft.consistent, draft.covers cls.type c'.minted, _, above, rfl,
        fun s hs => keeps s.type above (inherited.model s hs), draft.unshadowed⟩
    apply (ends_keepModel hc'' hcls modeled).imp
    rintro model c₂ ⟨hc₂, keeps₂, hmodel⟩
    exact ⟨hc₂, keeps.trans keeps₂, hmodel⟩
  · rintro e c' ⟨hc', hmodels, inconsistent⟩
    rw [← ClassDescriptor.allDeclared_eq] at inconsistent
    exact ⟨hc', keeps_of_eq hmodels, inconsistent⟩

end Levels

theorem modelFor_eq (w : P.World) (cls : ClassDescriptor P) :
    modelFor w cls = get >>= fun c => match c.model? cls.type with
      | some known => pure known
      | none => modelAbove w cls.superclass >>= addLevel w cls.toClassBody := by
  obtain ⟨body, superclass, interfaces⟩ := cls
  unfold modelFor
  rfl

theorem ends_modelAbove {cls : ClassDescriptor P} (hcls : V.classes cls) (hc : Faithful V c)
    (w : P.World)
    (superclass : ∀ s, cls.superclass = some s → Ends (modelFor w s) c
      (fun model c' => Faithful V c' ∧ Keeps c c' ∧ c'.model? s.type = some model)
      fun _ c' => Faithful V c' ∧ Keeps c c' ∧ ¬ V.Consistent s.allDeclared) :
    Ends (modelAbove w cls.superclass) c
      (fun above c' => Faithful V c' ∧ Keeps c c' ∧ Inherited V c' cls above)
      fun _ c' => Faithful V c' ∧ Keeps c c' ∧ ¬ V.Consistent cls.allDeclared := by
  cases hs : cls.superclass with
  | none =>
    rw [modelAbove]
    have empty := ClassDescriptor.declaredAbove_of_none hs
    refine ⟨hc, .refl c, empty ▸ V.consistent_nil, empty ▸ V.covers_nil, ?_⟩
    intro s hs'
    rw [hs] at hs'
    cases hs'
  | some s =>
    rw [modelAbove]
    have same := ClassDescriptor.declaredAbove_of_some hs
    apply (superclass s hs).mono
    · rintro above c' ⟨hc', keeps, hmodel⟩
      have modeled := hc'.models s (V.superclass cls s hcls hs) above hmodel
      refine ⟨hc', keeps, same ▸ modeled.consistent, same ▸ modeled.covers, ?_⟩
      intro s' hs'
      rw [hs] at hs'
      cases hs'
      exact hmodel
    · rintro e c' ⟨hc', keeps, inconsistent⟩
      refine ⟨hc', keeps, fun consistent => inconsistent ?_⟩
      apply consistent.of_subset
      rw [ClassDescriptor.allDeclared_eq cls, same]
      exact List.subset_append_right _ _

/-- By induction along the superclasses. -/
theorem ends_modelFor (cls : ClassDescriptor P) (hcls : V.classes cls) (hc : Faithful V c)
    (w : P.World) :
    Ends (modelFor w cls) c
      (fun model c' => Faithful V c' ∧ Keeps c c' ∧ c'.model? cls.type = some model)
      fun _ c' => Faithful V c' ∧ Keeps c c' ∧ ¬ V.Consistent cls.allDeclared := by
  induction cls using ClassDescriptor.superclass_induction generalizing c with
  | step cls ih =>
    rw [modelFor_eq, ends_bind, ends_get]
    cases hk : c.model? cls.type with
    | some known => exact ⟨hc, .refl c, hk⟩
    | none =>
      have inherited := ends_modelAbove hcls hc w fun s hs =>
        ih s hs (V.superclass cls s hcls hs) hc
      apply inherited.bind
      rintro above c' ⟨hc', keeps, hinherited⟩
      apply (ends_addLevel hc' hcls hinherited w).mono
      · rintro model c₂ ⟨hc₂, keeps₂, hmodel⟩
        exact ⟨hc₂, keeps.trans keeps₂, hmodel⟩
      · rintro e c₂ ⟨hc₂, keeps₂, inconsistent⟩
        exact ⟨hc₂, keeps.trans keeps₂, inconsistent⟩

inductive Call (V : Vocabulary P) (c : Catalog) : Catalog → Prop
  | declared {m : MarkerType P} (w : P.World) (hm : V.markers m) : Call V c (declared w m c).2
  | modelFor {cls : ClassDescriptor P} (w : P.World) (hcls : V.classes cls) :
      Call V c (modelFor w cls c).2
  | lookup {m : MarkerType P} (w : P.World) (model : HookModel) (hm : V.markers m) :
      Call V c (lookup w model m c).2

abbrev Calls (V : Vocabulary P) : Catalog → Catalog → Prop := Relation.ReflTransGen (Call V)

theorem Call.faithful (h : Call V c c') (hc : Faithful V c) : Faithful V c' ∧ Keeps c c' := by
  cases h with
  | declared w hm =>
    apply Ends.state fun c' => Faithful V c' ∧ Keeps c c'
    apply (ends_declared hc hm w).mono
    · exact fun _ _ h => ⟨h.1, keeps_of_eq h.2.1⟩
    · rintro e _ ⟨rfl, -⟩
      exact ⟨hc, .refl _⟩
  | @modelFor cls w hcls =>
    apply Ends.state fun c' => Faithful V c' ∧ Keeps c c'
    apply (ends_modelFor cls hcls hc w).mono
    · exact fun _ _ h => ⟨h.1, h.2.1⟩
    · exact fun _ _ h => ⟨h.1, h.2.1⟩
  | lookup w model hm =>
    apply Ends.state fun c' => Faithful V c' ∧ Keeps c c'
    apply (ends_lookup hc hm model w).mono
    · exact fun _ _ h => ⟨h.1, keeps_of_eq h.2.1⟩
    · rintro e _ ⟨rfl, -⟩
      exact ⟨hc, .refl _⟩

theorem Calls.faithful (h : Calls V c c') (hc : Faithful V c) : Faithful V c' ∧ Keeps c c' := by
  induction h with
  | refl => exact ⟨hc, .refl c⟩
  | tail _ call ih =>
    have next := call.faithful ih.1
    exact ⟨next.1, ih.2.trans next.2⟩

structure Grows (c c' : Catalog) : Prop where
  own : c.own <+: c'.own
  models : Keeps c c'
  typeHooks : c'.typeHooks = c.typeHooks

theorem Grows.refl (c : Catalog) : Grows c c := ⟨List.prefix_refl _, .refl c, rfl⟩

theorem Grows.trans {c'' : Catalog} (h : Grows c c') (k : Grows c' c'') : Grows c c'' :=
  ⟨h.own.trans k.own, h.models.trans k.models, k.typeHooks.trans h.typeHooks⟩

theorem grows_learn (h : c.own <+: c'.own) (models : c'.models = c.models)
    (typeHooks : c'.typeHooks = c.typeHooks) : Grows c c' := ⟨h, keeps_of_eq models, typeHooks⟩

/-- The step only adds to what is known, and it has no part in the limit on operations. -/
def Confined {α : Type} (step : CatalogM α) : Prop :=
  ∀ c, Ends step c (fun _ c' => Grows c c') fun e c' => Grows c c' ∧ e.isLimit = false

theorem Confined.bind {α β : Type} {step : CatalogM α} {next : α → CatalogM β}
    (h : Confined step) (hn : ∀ a, Confined (next a)) : Confined (step >>= next) := by
  intro c
  apply (h c).bind
  intro a c' grows
  exact (hn a c').mono (fun _ _ later => grows.trans later)
    fun _ _ later => ⟨grows.trans later.1, later.2⟩

theorem confined_pure {α : Type} (a : α) : Confined (pure a) := fun c => .refl c

theorem confined_mint : Confined mint := fun _ => grows_learn (List.prefix_refl _) rfl rfl

theorem confined_validate (spec : HookSpec) (marker : MarkerKey) :
    Confined (liftM (spec.validate marker) : CatalogM HookDescriptor) := by
  intro c
  rw [ends_except]
  refine ⟨fun _ _ => .refl c, ?_⟩
  intro e he
  refine ⟨.refl c, ?_⟩
  unfold HookSpec.validate at he
  split at he
  · cases he
    rfl
  · split at he
    · cases he
      rfl
    · cases he

theorem confined_keepOwn (marker : MarkerKey) (found : Option (Shared HookDescriptor)) :
    Confined (keepOwn marker found) := fun _ => grows_learn (List.prefix_append _ _) rfl rfl

theorem confined_declared (w : P.World) (marker : MarkerType P) :
    Confined (declared w marker) := by
  intro c
  unfold declared
  rw [ends_bind, ends_get]
  split
  · exact .refl c
  · split
    · exact (confined_keepOwn _ _).bind (fun _ => confined_pure _) c
    · refine Confined.bind (confined_validate _ _) (fun descriptor => ?_) c
      apply confined_mint.bind
      intro serial
      exact (confined_keepOwn _ _).bind fun _ => confined_pure _

theorem confined_lookup (w : P.World) (model : HookModel) (marker : MarkerType P) :
    Confined (lookup w model marker) := by
  unfold lookup
  split
  · exact confined_pure _
  · exact confined_declared w marker

theorem confined_addDeclaration (w : P.World) (type : TypeKey) (above : HookModel)
    (entries : List (Shared HookDescriptor)) (d : Declaration P) :
    Confined (addDeclaration w type above entries d) := by
  unfold addDeclaration
  apply (confined_validate _ _).bind
  intro descriptor
  rw [visible_eq w above entries d.1 type 0]
  apply (confined_lookup w _ _).bind
  intro found
  cases found with
  | none => exact confined_mint.bind fun _ => confined_pure _
  | some existing =>
    dsimp only
    split
    · exact confined_pure _
    · exact fun c => ⟨.refl c, rfl⟩

theorem confined_keepModel (type : TypeKey) (model : HookModel) :
    Confined (keepModel type model) := by
  intro c
  unfold Catalog.keepModel
  rw [ends_bind, ends_get]
  split
  · exact .refl c
  · exact ⟨List.prefix_refl _, keeps_append rfl, rfl⟩

theorem confined_addLevel (w : P.World) (body : ClassBody P) (above : HookModel) :
    Confined (addLevel w body above) := by
  have folded : ∀ entries, Confined
      (body.declarations.foldlM (addDeclaration w body.type above) entries) := by
    generalize body.declarations = declarations
    intro entries
    induction declarations generalizing entries with
    | nil => exact confined_pure _
    | cons d rest ih =>
      rw [List.foldlM_cons]
      exact (confined_addDeclaration w _ above entries d).bind ih
  unfold addLevel
  apply (folded []).bind
  intro entries
  exact confined_mint.bind fun serial => confined_keepModel _ _

theorem confined_modelFor (w : P.World) (cls : ClassDescriptor P) :
    Confined (modelFor w cls) := by
  induction cls using ClassDescriptor.superclass_induction with
  | step cls ih =>
    intro c
    rw [modelFor_eq, ends_bind, ends_get]
    split
    · exact .refl c
    · have above : Confined (modelAbove w cls.superclass) := by
        cases hs : cls.superclass with
        | none => exact confined_pure _
        | some s => exact ih s hs
      exact above.bind (fun model => confined_addLevel w _ model) c

end Catalog

end Injector
