import Injector.Container.Builder
import Injector.Proofs.Bean.Marked
import Injector.Proofs.Hook.Catalog

/-!
# Handlers that cannot be told apart by what they do

Each has a memory of its own; while the memories are alike, callbacks that are shown the same do the
same and leave memories that are alike, whatever the worlds are. So it does not matter when an
extension was made, and a container that learned hooks and installed extensions is as good as one
that did not.
-/

set_option autoImplicit false

namespace Injector

variable {P : Platform} {V : Usage P}

/-- The callbacks ended the same way, with memories that are alike. What they made of the world is
not seen. -/
structure Outcome.Alike (sees : P.Memory → P.Memory → Prop) (o o' : Outcome P) : Prop where
  result : o.1 = o'.1
  memory : sees o.2.1 o'.2.1

/-- From memories that are alike, callbacks that are shown the same ask for the same and end
alike. They ask for members whose markers are in use. -/
structure Handler.Matches (V : Usage P) (sees : P.Memory → P.Memory → Prop) (h h' : Handler P) :
    Prop where
  onStart : ∀ context m m', sees m m' → ∀ w w',
    Outcome.Alike sees (h.onStart context m w) (h'.onStart context m' w')
  onEnd : ∀ context m m', sees m m' → ∀ w w',
    Outcome.Alike sees (h.onEnd context m w) (h'.onEnd context m' w')
  onField : ∀ shown m m', sees m m' → ∀ w w', Dialog.Mirrors (fun _ => True)
    (fun _ => Eq) (Outcome.Alike sees) (h.onField shown m w) (h'.onField shown m' w')
  onMethod : ∀ shown m m', sees m m' → ∀ w w', Dialog.Mirrors (fun _ => True)
    (fun _ => Eq) (Outcome.Alike sees) (h.onMethod shown m w) (h'.onMethod shown m' w')
  onBinding : ∀ request m m', sees m m' → ∀ w w', Dialog.Mirrors
    (SlotCall.MarkedWithin V.markers) (fun _ => Eq) (Outcome.Alike sees)
    (h.onBinding request m w) (h'.onBinding request m' w')

/-- What a handler knows at the moment does not decide whether it matches another. -/
theorem Handler.Matches.remember {sees : P.Memory → P.Memory → Prop} {h h' : Handler P}
    (same : h.Matches V sees h') (memory memory' : P.Memory) :
    Handler.Matches V sees { h with memory } { h' with memory := memory' } :=
  ⟨same.onStart, same.onEnd, same.onField, same.onMethod, same.onBinding⟩

def Handler.Alike (V : Usage P) (h h' : Handler P) : Prop :=
  ∃ sees, h.Matches V sees h' ∧ sees h.memory h'.memory

def Extension.Alike (V : Usage P) (e e' : Extension P) : Prop :=
  ∀ w w', (e.newHandler w).1.Alike V (e'.newHandler w').1

/-- What is given to the builder is in use, and its extensions do not depend on when they are made
or asked for a handler. -/
structure Builder.Regular (b : Builder P) (V : Usage P) : Prop where
  beans : ∀ c ∈ b.beans, V.classes c
  typeHooks : ∀ entry ∈ b.catalog.typeHooks, V.extensions entry.2
  installed : ∀ key e, b.extensions.find? key = some e → e.Alike V e
  made : ∀ key, V.extensions key → ∀ w w', (b.make key w).1.Alike V (b.make key w').1

theorem Builder.Regular.typeHook {b : Builder P} (regular : b.Regular V) {type : TypeKey}
    {extension : ExtensionKey} (h : b.catalog.typeHook? type = some extension) :
    V.extensions extension := by
  obtain ⟨entry, found, rfl⟩ := Option.map_eq_some_iff.mp h
  exact regular.typeHooks entry (List.mem_of_find?_eq_some found)

structure Usage.Kept (V : Usage P) (b : Builder P) (c : Catalog) (es : Extensions P) : Prop where
  faithful : Catalog.Faithful V.toVocabulary c
  typeHooks : c.typeHooks = b.catalog.typeHooks
  installed : ∀ key e, b.extensions.find? key = some e → es.find? key = some e
  made : ∀ key, V.extensions key → b.extensions.find? key = none → ∀ e,
    es.find? key = some e → key.constructible = true ∧ ∃ w, e = (b.make key w).1

namespace Extensions

variable {es : Extensions P} {key : ExtensionKey}

theorem find?_install_of_new (new : es.find? key = none) (e : Extension P) (k : ExtensionKey) :
    (es.install key e).find? k = if key == k then some e else es.find? k := by
  rw [install, new]
  show find? (es ++ [(key, e)]) k = _
  unfold find?
  rw [List.find?_append, List.find?_singleton]
  by_cases here : (key == k) = true
  · have missing : List.find? (·.1 == k) es = none := by
      rw [List.find?_eq_none]
      intro entry he found
      have unknown := List.find?_eq_none.mp (Option.map_eq_none_iff.mp new) entry he
      exact unknown (BEq.trans found (BEq.symm here))
    rw [missing, if_pos here, if_pos here]
    rfl
  · rw [if_neg here, if_neg here, Option.or_none]

end Extensions

namespace Usage.Kept

variable {b : Builder P} {c c' : Catalog} {es es' : Extensions P} {key : ExtensionKey}

theorem learn (h : V.Kept b c es) (faithful : Catalog.Faithful V.toVocabulary c')
    (typeHooks : c'.typeHooks = c.typeHooks) : V.Kept b c' es :=
  ⟨faithful, typeHooks.trans h.typeHooks, h.installed, h.made⟩

theorem typeHook? (h : V.Kept b c es) (type : TypeKey) :
    c.typeHook? type = b.catalog.typeHook? type := by
  rw [Catalog.typeHook?, Catalog.typeHook?, h.typeHooks]

theorem install (h : V.Kept b c es) (hk : V.extensions key) (constructible : key.constructible)
    (new : es.find? key = none) (w : P.World) :
    V.Kept b c (es.install key (b.make key w).1) where
  faithful := h.faithful
  typeHooks := h.typeHooks
  installed := by
    intro k e given
    have found := h.installed k e given
    rw [Extensions.find?_install_of_new new]
    split
    next here =>
      have same : es.find? key = es.find? k := by
        unfold Extensions.find?
        simp only [BEq.congr_right here]
      rw [← same, new] at found
      cases found
    next => exact found
  made := by
    intro k hk' given e found
    rw [Extensions.find?_install_of_new new] at found
    split at found
    next here =>
      obtain rfl := V.extension_eq key k hk hk' here
      cases found
      exact ⟨constructible, w, rfl⟩
    next => exact h.made k hk' given e found

/-- An extension that the builder does not bring along is there, or it is made now. -/
theorem obtain_made (h : V.Kept b c es) (hk : V.extensions key) (constructible : key.constructible)
    (given : b.extensions.find? key = none) (w : P.World) :
    ∃ made later u, b.make.obtain key es w = .ok ((b.make key made).1, later, u) ∧
      V.Kept b c later := by
  unfold ExtensionMaker.obtain
  cases found : es.find? key with
  | some e =>
    obtain ⟨-, made, rfl⟩ := h.made key hk given e found
    exact ⟨made, es, w, rfl, h⟩
  | none =>
    dsimp only
    rw [if_pos constructible]
    exact ⟨w, _, _, rfl, h.install hk constructible found w⟩

theorem obtain_missing (h : V.Kept b c es) (hk : V.extensions key)
    (constructible : key.constructible = false) (given : b.extensions.find? key = none)
    (w : P.World) : b.make.obtain key es w = .error (.missingConstructor key) := by
  unfold ExtensionMaker.obtain
  cases found : es.find? key with
  | some e =>
    have made := (h.made key hk given e found).1
    rw [constructible] at made
    cases made
  | none =>
    dsimp only
    rw [constructible]
    rfl

theorem obtain_installed (h : V.Kept b c es) {e : Extension P}
    (given : b.extensions.find? key = some e) (w : P.World) :
    b.make.obtain key es w = .ok (e, es, w) := by
  unfold ExtensionMaker.obtain
  rw [h.installed key e given]

/-- Wherever an extension is obtained, it is alike, or there is none. -/
theorem obtain_alike (regular : b.Regular V) (h : V.Kept b c es) (h' : V.Kept b c' es')
    (hk : V.extensions key) (w w' : P.World) :
    (∃ e e' later later' u u', b.make.obtain key es w = .ok (e, later, u) ∧
      b.make.obtain key es' w' = .ok (e', later', u') ∧
        e.Alike V e' ∧ V.Kept b c later ∧ V.Kept b c' later') ∨
      b.make.obtain key es w = .error (.missingConstructor key) ∧
        b.make.obtain key es' w' = .error (.missingConstructor key) := by
  cases given : b.extensions.find? key with
  | some e =>
    exact .inl ⟨e, e, es, es', w, w', h.obtain_installed given w, h'.obtain_installed given w',
      regular.installed key e given, h, h'⟩
  | none =>
    cases constructible : key.constructible with
    | true =>
      obtain ⟨made, later, u, run, kept⟩ := h.obtain_made hk constructible given w
      obtain ⟨made', later', u', run', kept'⟩ := h'.obtain_made hk constructible given w'
      exact .inl ⟨_, _, later, later', u, u', run, run', regular.made key hk made made', kept,
        kept'⟩
    | false =>
      exact .inr ⟨h.obtain_missing hk constructible given w,
        h'.obtain_missing hk constructible given w'⟩

end Usage.Kept

end Injector
