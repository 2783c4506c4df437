import Injector.Proofs.Hook.Catalog
import Injector.Proofs.Together

/-!
# What a catalog has learned cannot be told from outside

Where equal extension keys are one key, hooks that say the same are the same, so two catalogs give
the same models and the same answers, and refuse a class for the same reason, whatever each was
asked before.
-/

set_option autoImplicit false

namespace Injector

variable {P : Platform}

namespace ClassDescriptor

def placed (c : ClassDescriptor P) : List (Marker P) :=
  c.markers ++ c.fieldWalk.flatMap (·.field.markers) ++
    c.methodWalk.flatMap (fun m => m.method.markers ++ m.method.params.flatMap (·.markers)) ++
      c.constructors.flatMap (·.params.flatMap (·.markers))

end ClassDescriptor

/-- A vocabulary with the extensions that hooks lead to. Their keys tell them apart as well. -/
structure Usage (P : Platform) extends Vocabulary P where
  extensions : ExtensionKey → Prop
  extension_eq : ∀ k k', extensions k → extensions k' → (k == k') = true → k = k'
  hooks : ∀ m, markers m → ∀ spec, hook m.key = some spec → extensions spec.extension
  declares : ∀ c, classes c → ∀ d ∈ c.declarations, extensions d.2.extension
  placed : ∀ c, classes c → ∀ marker ∈ c.placed, markers marker.toMarkerType

namespace Usage

variable {V : Usage P} {cls : ClassDescriptor P} {ds : List (Declaration P)}
  {model model' : HookModel}

structure Uses (V : Usage P) (ds : List (Declaration P)) : Prop where
  markers : ∀ d ∈ ds, V.markers d.1
  extensions : ∀ d ∈ ds, V.extensions d.2.extension

theorem uses_allDeclared (V : Usage P) (hcls : V.classes cls) : V.Uses cls.allDeclared := by
  refine ⟨fun d hd => V.markers_of_allDeclared hcls hd, ?_⟩
  revert hcls
  refine ClassDescriptor.superclass_induction (motive := fun c => V.classes c →
    ∀ d ∈ c.allDeclared, V.extensions d.2.extension) ?_ cls
  intro c ih hc d hd
  rw [ClassDescriptor.allDeclared_eq, List.mem_append] at hd
  rcases hd with hd | hd
  · exact V.declares c hc d hd
  · cases hs : c.superclass with
    | none =>
      rw [ClassDescriptor.declaredAbove_of_none hs] at hd
      cases hd
    | some s =>
      rw [ClassDescriptor.declaredAbove_of_some hs] at hd
      exact ih s hs (V.superclass c s hc hs) d hd

theorem Uses.of_subset {ds' : List (Declaration P)} (h : V.Uses ds) (hs : ds' ⊆ ds) :
    V.Uses ds' :=
  ⟨fun d hd => h.markers d (hs hd), fun d hd => h.extensions d (hs hd)⟩

/-- Hooks that say the same are the same. -/
theorem describe_eq {a b : Declaration P} (ha : V.markers a.1) (hb : V.markers b.1)
    (ea : V.extensions a.2.extension) (eb : V.extensions b.2.extension)
    (key : (a.1.key == b.1.key) = true) (same : a.2.Same b.2) :
    a.2.describe a.1.key = b.2.describe b.1.key := by
  rw [HookSpec.describe, HookSpec.describe, V.key_eq a.1 b.1 ha hb key,
    V.extension_eq _ _ ea eb same.extension, same.capabilities]

/-- The models answer alike, though what they share was made at different times. -/
def Agree (V : Usage P) (model model' : HookModel) : Prop :=
  ∀ m, V.markers m → (model.find? m.key).map (·.value) = (model'.find? m.key).map (·.value)

/-- What one model finds, another of the same declarations finds too. -/
theorem found_of_covers (uses : V.Uses ds) (consistent : V.Consistent ds)
    (covers : V.Covers ds model) (covers' : V.Covers ds model') {m : MarkerType P}
    (hm : V.markers m) {found : Shared HookDescriptor} (hf : model.find? m.key = some found) :
    ∃ found', model'.find? m.key = some found' ∧ found'.value = found.value := by
  obtain ⟨d, hd, hk, hook, value⟩ := covers.sound m.key found hf
  have key : d.1.key = m.key := V.key_eq d.1 m (uses.markers d hd) hm hk
  have complete := covers'.complete d hd hook
  rw [key] at complete
  obtain ⟨found', hf'⟩ := Option.isSome_iff_exists.mp complete
  obtain ⟨d', hd', hk', -, value'⟩ := covers'.sound m.key found' hf'
  have keys : (d'.1.key == d.1.key) = true := by rw [key]; exact hk'
  refine ⟨found', hf', ?_⟩
  rw [value', value]
  exact describe_eq (uses.markers d' hd') (uses.markers d hd) (uses.extensions d' hd')
    (uses.extensions d hd) keys (consistent.same d' hd' d hd keys)

theorem agree_of_covers (uses : V.Uses ds) (consistent : V.Consistent ds)
    (covers : V.Covers ds model) (covers' : V.Covers ds model') : V.Agree model model' := by
  intro m hm
  cases hf : model.find? m.key with
  | some found =>
    obtain ⟨found', hf', value⟩ := found_of_covers uses consistent covers covers' hm hf
    rw [hf', Option.map_some, Option.map_some, value]
  | none =>
    cases hf' : model'.find? m.key with
    | none => rfl
    | some found' =>
      obtain ⟨found, hf'', -⟩ := found_of_covers uses consistent covers' covers hm hf'
      rw [hf] at hf''
      cases hf''

def Leads (V : Usage P) (model : HookModel) : Prop :=
  ∀ m, V.markers m → ∀ found, model.find? m.key = some found → V.extensions found.value.extension

theorem leads_of_covers (uses : V.Uses ds) (covers : V.Covers ds model) : V.Leads model := by
  intro m hm found hf
  obtain ⟨d, hd, -, -, value⟩ := covers.sound m.key found hf
  rw [value]
  exact uses.extensions d hd

theorem extension_of_own {m : MarkerType P} (hm : V.markers m) {hook : HookDescriptor}
    (h : V.own m.key = .ok (some hook)) : V.extensions hook.extension := by
  obtain ⟨spec, declared, -, rfl⟩ := V.hook_of_own h
  exact V.hooks m hm spec declared

end Usage

namespace Catalog

variable {V : Usage P} {c c' : Catalog} {cls : ClassDescriptor P} {w w' : P.World}
  {model model' : HookModel} {m : MarkerType P}

structure Both (V : Usage P) (c c' : Catalog) : Prop where
  left : Faithful V.toVocabulary c
  right : Faithful V.toVocabulary c'

theorem together_declared (h : Both V c c') (hm : V.markers m) :
    Together Eq (declared w m) (declared w' m) c c'
      (fun found found' t t' => found.map (·.value) = found'.map (·.value) ∧ Both V t t')
      fun t t' => Both V t t' := by
  rcases (ends_declared h.left hm w).cases with
      ⟨found, t, hs, ht, -, own⟩ | ⟨e, t, hs, rfl, own⟩ <;>
    rcases (ends_declared h.right hm w').cases with
      ⟨found', t', hs', ht', -, own'⟩ | ⟨e', t', hs', rfl, own'⟩
  · exact .of_ok hs hs' ⟨Except.ok.inj (own.symm.trans own'), ht, ht'⟩
  · cases own.symm.trans own'
  · cases own.symm.trans own'
  · obtain rfl := Except.error.inj (own.symm.trans own')
    exact .of_error hs hs' rfl h

theorem together_lookup (h : Both V c c') (hm : V.markers m) (agree : V.Agree model model') :
    Together Eq (lookup w model m) (lookup w' model' m) c c'
      (fun found found' t t' => found.map (·.value) = found'.map (·.value) ∧ Both V t t')
      fun t t' => Both V t t' := by
  have same := agree m hm
  unfold lookup
  cases hf : model.find? m.key with
  | some found =>
    rw [hf] at same
    cases hf' : model'.find? m.key with
    | some found' =>
      rw [hf'] at same
      exact ⟨same, h⟩
    | none =>
      rw [hf'] at same
      cases same
  | none =>
    rw [hf] at same
    cases hf' : model'.find? m.key with
    | some found' =>
      rw [hf'] at same
      cases same
    | none => exact together_declared h hm

/-- Whatever a marker leads to is in use. -/
theorem ends_lookup_extension (h : Faithful V.toVocabulary c) (hm : V.markers m)
    (leads : V.Leads model) :
    Ends (lookup w model m) c
      (fun found _ => ∀ hook, found.map (·.value) = some hook → V.extensions hook.extension)
      fun _ _ => True := by
  apply (ends_lookup h hm model w).mono
  · rintro found t ⟨-, -, ⟨hsome, hf⟩ | ⟨-, own⟩⟩ hook hhook
    · obtain ⟨shared, rfl⟩ := Option.isSome_iff_exists.mp hsome
      obtain rfl : shared.value = hook := Option.some.inj hhook
      exact leads m hm shared hf
    · rw [hhook] at own
      exact Usage.extension_of_own hm own
  · exact fun _ _ _ => trivial

def SameValues (entries entries' : List (Shared HookDescriptor)) : Prop :=
  entries.map (·.value) = entries'.map (·.value)

theorem SameValues.snoc {entries entries' : List (Shared HookDescriptor)}
    (h : SameValues entries entries') (serial serial' : Nat) (descriptor : HookDescriptor) :
    SameValues (entries ++ [⟨serial, descriptor⟩]) (entries' ++ [⟨serial', descriptor⟩]) := by
  rw [SameValues, List.map_append, List.map_append, h]
  rfl

section Levels

variable {above above' : HookModel} {entries entries' : List (Shared HookDescriptor)}
  {type : TypeKey}

theorem agree_cons (agree : V.Agree above above') (values : SameValues entries entries')
    (serial serial' : Nat) :
    V.Agree (⟨type, serial, entries⟩ :: above) (⟨type, serial', entries'⟩ :: above') := by
  intro m hm
  have first : ∀ (serial : Nat) (entries : List (Shared HookDescriptor)),
      (ModelLevel.find? ⟨type, serial, entries⟩ m.key).map (·.value) =
        (entries.map (·.value)).find? (·.marker == m.key) := by
    intro serial entries
    rw [List.find?_map]
    rfl
  rw [HookModel.find?_cons, HookModel.find?_cons, Option.map_or, Option.map_or, first, first,
    values, agree m hm]

/-- A declaration is taken in by both, or refused by both for the same reason. -/
theorem together_addDeclaration (h : Both V c c') {d : Declaration P} (hd : V.markers d.1)
    (agree : V.Agree above above') (values : SameValues entries entries') :
    Together Eq (addDeclaration w type above entries d) (addDeclaration w' type above' entries' d)
      c c' (fun entries entries' t t' => SameValues entries entries' ∧ Both V t t')
      fun t t' => Both V t t' := by
  unfold addDeclaration
  dsimp only
  apply together_except_bind (likewise_refl (fun _ => rfl) _)
  · intro descriptor _
    rw [visible_eq w above entries d.1 type 0, visible_eq w' above' entries' d.1 type 0]
    apply (together_lookup h hd (agree_cons agree values 0 0)).bind
    rintro found found' t t' ⟨same, ht⟩
    cases found with
    | none =>
      cases found' with
      | some existing' => cases same
      | none =>
        exact ⟨values.snoc t.minted t'.minted descriptor, ht.left.of_eq rfl rfl,
          ht.right.of_eq rfl rfl⟩
    | some existing =>
      cases found' with
      | none => cases same
      | some existing' =>
        have value : existing.value = existing'.value := Option.some.inj same
        dsimp only
        rw [value]
        split
        · exact ⟨values, ht⟩
        · exact together_throw rfl ht
  · exact fun _ _ => h

theorem together_addDeclarations (declarations : List (Declaration P)) (h : Both V c c')
    (named : ∀ d ∈ declarations, V.markers d.1) (agree : V.Agree above above')
    (values : SameValues entries entries') :
    Together Eq (declarations.foldlM (addDeclaration w type above) entries)
      (declarations.foldlM (addDeclaration w' type above') entries') c c'
      (fun entries entries' t t' => SameValues entries entries' ∧ Both V t t')
      fun t t' => Both V t t' := by
  induction declarations generalizing c c' entries entries' with
  | nil => exact ⟨values, h⟩
  | cons d rest ih =>
    rw [List.foldlM_cons, List.foldlM_cons]
    apply (together_addDeclaration h (named d (by simp)) agree values).bind
    rintro entries entries' t t' ⟨values, h⟩
    exact ih h (fun d hd => named d (by simp [hd])) values

theorem together_keepModel (type : TypeKey) (model model' : HookModel) (c c' : Catalog) :
    Together Eq (keepModel type model) (keepModel type model') c c' (fun _ _ _ _ => True)
      fun _ _ => True := by
  unfold keepModel
  rw [together_get]
  cases c.model? type <;> cases c'.model? type <;> trivial

/-- Once its declarations are taken in, a class has a model. -/
theorem together_addLevel (h : Both V c c') (hcls : V.classes cls) (agree : V.Agree above above') :
    Together Eq (addLevel w cls.toClassBody above) (addLevel w' cls.toClassBody above') c c'
      (fun _ _ _ _ => True) fun _ _ => True := by
  have named : ∀ d ∈ cls.declarations, V.markers d.1 := fun d hd => V.declared cls hcls d hd
  unfold addLevel
  apply ((together_addDeclarations cls.declarations h named agree rfl).imp_failed
    fun _ _ _ => trivial).bind
  intro entries entries' t t' _
  exact together_keepModel cls.type _ _ _ _

end Levels

/-- A class whose declarations are consistent has a model in both. -/
theorem together_modelFor_of_consistent (h : Both V c c') (hcls : V.classes cls)
    (consistent : V.Consistent cls.allDeclared) :
    Together Eq (modelFor w cls) (modelFor w' cls) c c' (fun _ _ _ _ => True) fun _ _ => True := by
  rcases (ends_modelFor cls hcls h.left w).cases with ⟨_, _, hs, -⟩ | ⟨_, _, -, -, -, inconsistent⟩
  · rcases (ends_modelFor cls hcls h.right w').cases with
      ⟨_, _, hs', -⟩ | ⟨_, _, -, -, -, inconsistent⟩
    · exact .of_ok hs hs' trivial
    · exact absurd consistent inconsistent
  · exact absurd consistent inconsistent

theorem Faithful.unknown_of_inconsistent (h : Faithful V.toVocabulary c) (hcls : V.classes cls)
    (inconsistent : ¬ V.Consistent cls.allDeclared) : c.model? cls.type = none := by
  cases known : c.model? cls.type with
  | none => rfl
  | some model => exact absurd (h.models cls hcls model known).consistent inconsistent

/-- What both inherit answers alike. -/
theorem together_modelAbove (h : Both V c c') (hcls : V.classes cls)
    (superclass : ∀ s, cls.superclass = some s → Together Eq (modelFor w s) (modelFor w' s) c c'
      (fun _ _ _ _ => True) fun _ _ => True) :
    Together Eq (modelAbove w cls.superclass) (modelAbove w' cls.superclass) c c'
      (fun above above' t t' => Both V t t' ∧ V.Agree above above') fun _ _ => True := by
  have ran : Together Eq (modelAbove w cls.superclass) (modelAbove w' cls.superclass) c c'
      (fun _ _ _ _ => True) fun _ _ => True := by
    cases hs : cls.superclass with
    | none => trivial
    | some s => exact superclass s hs
  have ends := ends_modelAbove hcls h.left w fun s hs =>
    ends_modelFor s (V.superclass cls s hcls hs) h.left w
  have ends' := ends_modelAbove hcls h.right w' fun s hs =>
    ends_modelFor s (V.superclass cls s hcls hs) h.right w'
  apply (ran.and_ends ends ends').mono
  · rintro above above' t t' ⟨-, ⟨ht, -, inherited⟩, ht', -, inherited'⟩
    have uses : V.Uses cls.declaredAbove := (V.uses_allDeclared hcls).of_subset (by
      rw [ClassDescriptor.allDeclared_eq]
      exact List.subset_append_right _ _)
    exact ⟨⟨ht, ht'⟩, Usage.agree_of_covers uses inherited.consistent inherited.covers
      inherited'.covers⟩
  · exact fun _ _ _ => trivial

/-- A class has a model in both or in neither, and what is wrong with it is the same: the first
level that is, from the root down, is unknown to either. -/
theorem together_modelFor (h : Both V c c') (hcls : V.classes cls) :
    Together Eq (modelFor w cls) (modelFor w' cls) c c' (fun _ _ _ _ => True) fun _ _ => True := by
  induction cls using ClassDescriptor.superclass_induction generalizing c c' with
  | step cls ih =>
    by_cases consistent : V.Consistent cls.allDeclared
    · exact together_modelFor_of_consistent h hcls consistent
    · rw [modelFor_eq, modelFor_eq, together_get, h.left.unknown_of_inconsistent hcls consistent,
        h.right.unknown_of_inconsistent hcls consistent]
      apply (together_modelAbove h hcls fun s hs =>
        ih s hs h (V.superclass cls s hcls hs)).bind
      rintro above above' t t' ⟨ht, agree⟩
      exact together_addLevel ht hcls agree

/-- The models that both come to answer alike from then on. -/
theorem together_models (h : Both V c c') (hcls : V.classes cls) :
    Together Eq (modelFor w cls) (modelFor w' cls) c c'
      (fun model model' t t' => V.Agree model model' ∧ V.Leads model ∧ Both V t t')
      fun t t' => Both V t t' := by
  have ends := ends_modelFor cls hcls h.left w
  have ends' := ends_modelFor cls hcls h.right w'
  apply ((together_modelFor h hcls).and_ends ends ends').mono
  · rintro model model' t t' ⟨-, ⟨ht, -, known⟩, ht', -, known'⟩
    have modeled := ht.models cls hcls model known
    have modeled' := ht'.models cls hcls model' known'
    have uses := V.uses_allDeclared hcls
    exact ⟨Usage.agree_of_covers uses modeled.consistent modeled.covers modeled'.covers,
      Usage.leads_of_covers uses modeled.covers, ht, ht'⟩
  · rintro t t' ⟨-, ⟨e, ht, -⟩, e', ht', -⟩
    exact ⟨ht, ht'⟩

end Catalog

end Injector
