import Injector.Proofs.Hook.Catalog

/-!
# Models against what hooks come to

A class has a model exactly if its declarations are consistent, and the model answers what was
declared, or else what the marker says of itself, no matter which calls came before or come in
between.
-/

set_option autoImplicit false

namespace Injector

variable {P : Platform}

namespace Catalog

variable {V : Vocabulary P} {c : Catalog} {cls : ClassDescriptor P} {model : HookModel}
  {m : MarkerType P}

theorem consistent_iff (hc : Faithful V c) (hcls : V.classes cls) (w : P.World) :
    (∃ model, (modelFor w cls c).1 = .ok model) ↔ V.Consistent cls.allDeclared := by
  rcases (ends_modelFor cls hcls hc w).cases with
    ⟨model, c', hr, hc', -, hm⟩ | ⟨e, c', hr, -, -, hn⟩
  · rw [hr]
    exact ⟨fun _ => (hc'.models cls hcls model hm).consistent, fun _ => ⟨model, rfl⟩⟩
  · rw [hr]
    refine ⟨?_, fun consistent => absurd consistent hn⟩
    rintro ⟨model, hmodel⟩
    cases hmodel

theorem modelFor_of_known (h : c.model? cls.type = some model) (w : P.World) :
    modelFor w cls c = (.ok model, c) := by
  rw [modelFor_eq, get_bind_apply, h]
  rfl

theorem lookup_of_some {found : Shared HookDescriptor} (h : model.find? m.key = some found)
    (w : P.World) : lookup w model m c = (.ok (some found), c) := by
  unfold lookup
  rw [h]
  rfl

theorem lookup_of_none (h : model.find? m.key = none) (w : P.World) :
    lookup w model m = declared w m := by
  unfold lookup
  rw [h]

theorem declared_eq_own (hc : Faithful V c) (hm : V.markers m) (w : P.World) :
    (declared w m c).1.map (Option.map (·.value)) = V.own m.key := by
  rcases (ends_declared hc hm w).cases with ⟨found, c', hr, -, -, own⟩ | ⟨e, c', hr, -, own⟩
  · rw [hr, own]
    rfl
  · rw [hr, own]
    rfl

theorem declared_of_none (hc : Faithful V c) (hm : V.markers m) (own : V.own m.key = .ok none)
    (w : P.World) : (declared w m c).1 = .ok none := by
  have answer := declared_eq_own hc hm w
  rw [own] at answer
  cases hr : (declared w m c).1 with
  | error e =>
    rw [hr] at answer
    cases answer
  | ok found =>
    rw [hr] at answer
    cases found with
    | none => rfl
    | some found => cases answer

theorem declared_of_some (hc : Faithful V c) (hm : V.markers m) {descriptor : HookDescriptor}
    (own : V.own m.key = .ok (some descriptor)) (w : P.World) :
    ∃ found, (declared w m c).1 = .ok (some found) ∧ found.value = descriptor := by
  have answer := declared_eq_own hc hm w
  rw [own] at answer
  cases hr : (declared w m c).1 with
  | error e =>
    rw [hr] at answer
    cases answer
  | ok found =>
    rw [hr] at answer
    cases found with
    | none => cases answer
    | some found => exact ⟨found, rfl, Option.some.inj (Except.ok.inj answer)⟩

theorem lookup_declared (hc : Faithful V c) (modeled : Modeled V c cls model)
    (hcls : V.classes cls) (hm : V.markers m) {d : Declaration P} (hd : d ∈ cls.allDeclared)
    (hk : (d.1.key == m.key) = true) (w : P.World) :
    ∃ found, (lookup w model m c).1 = .ok (some found) ∧
      found.value.agrees (d.2.describe d.1.key) = true := by
  have key : d.1.key = m.key := V.key_eq d.1 m (V.markers_of_allDeclared hcls hd) hm hk
  cases hf : model.find? m.key with
  | some found =>
    refine ⟨found, by rw [lookup_of_some hf], ?_⟩
    obtain ⟨d', hd', hk', -, value⟩ := modeled.covers.sound m.key found hf
    have hkeys : (d'.1.key == d.1.key) = true := by rw [key]; exact hk'
    rw [value, HookSpec.agrees_describe hkeys]
    exact modeled.consistent.same d' hd' d hd hkeys
  | none =>
    -- the marker declares the hook for itself, else the model would have it
    cases hook : V.hook d.1.key with
    | none =>
      have hsome := modeled.covers.complete d hd hook
      rw [key, hf] at hsome
      cases hsome
    | some spec =>
      have own := V.own_of_valid hook (modeled.consistent.own_valid d hd spec hook)
      rw [key] at own
      obtain ⟨found, answer, value⟩ := declared_of_some hc hm own w
      rw [lookup_of_none hf]
      refine ⟨found, answer, ?_⟩
      rw [value, ← key, HookSpec.agrees_describe (BEq.refl _)]
      exact modeled.consistent.own_same d hd spec hook

theorem lookup_undeclared (modeled : Modeled V c cls model)
    (undeclared : ∀ d ∈ cls.allDeclared, ¬ (d.1.key == m.key) = true) (w : P.World) :
    lookup w model m = declared w m := by
  apply lookup_of_none
  rw [Option.eq_none_iff_forall_ne_some]
  intro found hf
  obtain ⟨d, hd, hk, -⟩ := modeled.covers.sound m.key found hf
  exact undeclared d hd hk

theorem lookup_inherited (hc : Faithful V c) (modeled : Modeled V c cls model)
    (hcls : V.classes cls) (hm : V.markers m) {s : ClassDescriptor P}
    (hs : cls.superclass = some s) {above : HookModel} (w : P.World)
    (habove : (modelFor w s c).1 = .ok above) (w' : P.World)
    (answered : (lookup w' above m c).1 ≠ .ok none) :
    lookup w' model m c = lookup w' above m c := by
  obtain ⟨level, above', rfl, known, unshadowed⟩ := modeled.above
  rw [modelFor_of_known (known s hs)] at habove
  obtain rfl : above' = above := Except.ok.inj habove
  have find := HookModel.find?_cons level above' m.key
  cases hf : HookModel.find? above' m.key with
  | some found =>
    rw [unshadowed m.key (by rw [hf]; rfl), hf, Option.none_or] at find
    rw [lookup_of_some find, lookup_of_some hf]
  | none =>
    rw [lookup_of_none hf] at answered ⊢
    suffices none : HookModel.find? (level :: above') m.key = none by rw [lookup_of_none none]
    rw [Option.eq_none_iff_forall_ne_some]
    intro found hfound
    obtain ⟨d, hd, hk, hook, -⟩ := modeled.covers.sound m.key found hfound
    have key : d.1.key = m.key := V.key_eq d.1 m (V.markers_of_allDeclared hcls hd) hm hk
    have own := V.own_of_none hook
    rw [key] at own
    exact answered (declared_of_none hc hm own w')

/-- What a model answers in a catalog: the common declaration of a marker that is declared, what
the marker declares for itself if it is not, and whatever the superclass answers. -/
structure Answers (V : Vocabulary P) (cls : ClassDescriptor P) (model : HookModel)
    (c : Catalog) : Prop where
  common : ∀ m, V.markers m → ∀ d ∈ cls.allDeclared, (d.1.key == m.key) = true →
    ∀ w, ∃ found, (lookup w model m c).1 = .ok (some found) ∧
      found.value.agrees (d.2.describe d.1.key) = true
  otherwise : ∀ m, V.markers m → (∀ d ∈ cls.allDeclared, ¬ (d.1.key == m.key) = true) →
    ∀ w, lookup w model m c = declared w m c ∧
      (declared w m c).1.map (Option.map (·.value)) = V.own m.key
  inherited : ∀ m, V.markers m → ∀ s, cls.superclass = some s → ∀ w above,
    (modelFor w s c).1 = .ok above → ∀ w', (lookup w' above m c).1 ≠ .ok none →
      lookup w' model m c = lookup w' above m c

/-- Whatever calls came before, a class has a model exactly if its declarations are consistent;
and whatever calls come after, the model answers with them. -/
theorem model_answers (V : Vocabulary P) (typeHooks : List (TypeKey × ExtensionKey))
    {c : Catalog} (hc : Calls V { typeHooks } c) {cls : ClassDescriptor P} (hcls : V.classes cls)
    (w : P.World) :
    ((∃ model, (modelFor w cls c).1 = .ok model) ↔ V.Consistent cls.allDeclared) ∧
      ∀ model, (modelFor w cls c).1 = .ok model → ∀ later, Calls V (modelFor w cls c).2 later →
        Answers V cls model later := by
  have faithful := (hc.faithful (faithful_empty typeHooks)).1
  refine ⟨consistent_iff faithful hcls w, ?_⟩
  intro model hmodel later hlater
  rcases (ends_modelFor cls hcls faithful w).cases with
    ⟨found, c', hr, hc', -, hm⟩ | ⟨e, c', hr, -⟩
  · rw [hr] at hmodel hlater
    obtain rfl : found = model := Except.ok.inj hmodel
    obtain ⟨hfaithful, keeps⟩ := hlater.faithful hc'
    have modeled := hfaithful.models cls hcls found (keeps _ _ hm)
    refine ⟨?_, ?_, ?_⟩
    · exact fun m hmark d hd hk w => lookup_declared hfaithful modeled hcls hmark hd hk w
    · exact fun m hmark undeclared w =>
        ⟨congrFun (lookup_undeclared modeled undeclared w) later, declared_eq_own hfaithful hmark w⟩
    · exact fun m hmark s hs w above habove w' answered =>
        lookup_inherited hfaithful modeled hcls hmark hs w habove w' answered
  · rw [hr] at hmodel
    cases hmodel

def plain : MarkerType .bare := ⟨⟨⟨.numbered 0, "app::Plain"⟩⟩, fun _ => none⟩

def base : ClassDescriptor .bare where
  type := ⟨.numbered 1, "app::Base"⟩
  declarations := [(plain, { extension := ⟨⟨.numbered 2, "app::Naming"⟩, true⟩, method := true })]

def widget : ClassDescriptor .bare where
  type := ⟨.numbered 3, "app::Widget"⟩
  superclass := some base

def widgets : Vocabulary .bare where
  classes := fun c => c = base ∨ c = widget
  markers := fun m => m = plain
  hook := fun _ => none
  superclass := by
    rintro c s (rfl | rfl) hs
    · cases hs
    · cases hs
      exact Or.inl rfl
  declared := by
    rintro c (rfl | rfl) d hd
    · simp only [base, List.mem_singleton] at hd
      rw [hd]
    · cases hd
  class_eq := by
    rintro c c' (rfl | rfl) (rfl | rfl) ht
    · rfl
    · cases ht
    · cases ht
    · rfl
  key_eq := by
    rintro m m' rfl rfl -
    rfl
  hook_eq := by
    rintro m rfl w
    rfl

theorem model_answers_widget :
    Calls widgets {} (declared () plain {}).2 ∧ widgets.classes widget ∧
      ∃ model, (modelFor () widget (declared () plain {}).2).1 = .ok model ∧
        ∀ later, Calls widgets (modelFor () widget (declared () plain {}).2).2 later →
          Answers widgets widget model later := by
  have called : Calls widgets {} (declared () plain {}).2 := .single (.declared () rfl)
  have used : widgets.classes widget := Or.inr rfl
  have only : ∀ d ∈ widget.allDeclared, d ∈ base.declarations := fun d hd => hd
  have consistent : widgets.Consistent widget.allDeclared := by
    constructor
    case valid =>
      intro d hd
      rw [List.mem_singleton.mp (only d hd)]
      exact ⟨by decide, by decide⟩
    case same =>
      intro d hd d' hd' _
      rw [List.mem_singleton.mp (only d hd), List.mem_singleton.mp (only d' hd')]
      exact .refl _
    case own_valid => exact fun _ _ _ hook => by cases hook
    case own_same => exact fun _ _ _ hook => by cases hook
  obtain ⟨succeeds, answers⟩ := model_answers widgets [] called used ()
  obtain ⟨model, hmodel⟩ := succeeds.mpr consistent
  exact ⟨called, used, model, hmodel, answers model hmodel⟩

end Catalog

end Injector
