import Injector.Extension
import Injector.Proofs.Together
import Injector.Text.Suggestion

/-!
# Errors that count as one

A service that is missing is told of with suggestions, and in which order these are looked for is
not for the library to say. What treats such errors alike goes the same way whichever it gets; so
do handlers that do not look into them.
-/

set_option autoImplicit false

namespace Injector

variable {P : Platform}

structure Tolerance where
  like : Error → Error → Prop
  refl : ∀ e, like e e
  requiredBy : ∀ e e' target, like e e' → like (e.requiredBy target) (e'.requiredBy target)
  absorbed : ∀ e e', like e e' →
    (e'.isNotRegistered || e'.isCircular) = (e.isNotRegistered || e.isCircular)

/-- The same error, or of a service that is missing, with suggestions from the same names. -/
inductive Error.Alike : Error → Error → Prop
  | refl (e : Error) : Alike e e
  | suggested (key : DependencyKey) (requiredBy : Option String) {names names' : List String}
      (perm : names.Perm names') :
      Alike (.notRegistered key requiredBy (Suggestion.suggest key.type.name names 3))
        (.notRegistered key requiredBy (Suggestion.suggest key.type.name names' 3))

namespace Tolerance

def suggestions : Tolerance where
  like := Error.Alike
  refl := .refl
  requiredBy := by
    rintro _ _ target (e | ⟨key, requiredBy, perm⟩)
    · exact .refl _
    · cases requiredBy with
      | none => exact .suggested key (some target) perm
      | some parent => exact .suggested key (some parent) perm
  absorbed := by
    rintro _ _ (e | ⟨key, requiredBy, perm⟩)
    · rfl
    · rfl

end Tolerance

section Handlers

variable {like : Error → Error → Prop}

/-- Where replies to a handler may differ: in what is told of a service that is missing. -/
def SlotCall.Replies (like : Error → Error → Prop) :
    (call : SlotCall P) → call.Reply → call.Reply → Prop
  | .bindService _ => Likewise like
  | .bindValue _ => Eq
  | .bindNull => Eq
  | .bindArgument _ => Eq
  | .bindFactory _ _ => Eq
  | .bindConstructor _ => Eq
  | .isBound => Eq

theorem SlotCall.replies_refl (refl : ∀ e, like e e) (call : SlotCall P) (reply : call.Reply) :
    call.Replies like reply reply := by
  cases call with
  | bindService key => exact likewise_refl refl reply
  | _ => exact rfl

structure Outcome.Likewise (like : Error → Error → Prop) (o o' : Outcome P) : Prop where
  result : Injector.Likewise like o.1 o'.1
  left : o'.2 = o.2

theorem Outcome.likewise_refl (refl : ∀ e, like e e) (o : Outcome P) : o.Likewise like o :=
  ⟨Injector.likewise_refl refl o.1, rfl⟩

/-- Whichever of such errors the handler is told, it does the same, and ends alike. -/
def Handler.Heedless (like : Error → Error → Prop) (h : Handler P) : Prop :=
  ∀ request memory world, Dialog.Mirrors (fun _ => True) (SlotCall.Replies like)
    (Outcome.Likewise like) (h.onBinding request memory world) (h.onBinding request memory world)

theorem Handler.Heedless.remember {h : Handler P} (heedless : h.Heedless like)
    (memory : P.Memory) : Handler.Heedless like { h with memory } := heedless

def Extension.Heedless (like : Error → Error → Prop) (e : Extension P) : Prop :=
  ∀ world, (e.newHandler world).1.Heedless like

def Extensions.Heedless (like : Error → Error → Prop) (es : Extensions P) : Prop :=
  ∀ entry ∈ es, entry.2.Heedless like

def ExtensionMaker.Heedless (like : Error → Error → Prop) (make : ExtensionMaker P) : Prop :=
  ∀ key world, (make key world).1.Heedless like

theorem Extensions.Heedless.install {es : Extensions P} (h : es.Heedless like) {e : Extension P}
    (he : e.Heedless like) (key : ExtensionKey) : (es.install key e).Heedless like := by
  unfold Extensions.install
  split
  · intro entry listed
    obtain ⟨old, ho, rfl⟩ := List.mem_map.mp listed
    split
    · exact he
    · exact h old ho
  · intro entry listed
    rcases List.mem_append.mp listed with listed | listed
    · exact h entry listed
    · rw [List.mem_singleton] at listed
      rw [listed]
      exact he

/-- What is obtained was installed, or is made now. -/
theorem ExtensionMaker.Heedless.obtain {make : ExtensionMaker P} (hm : make.Heedless like)
    {key : ExtensionKey} {es later : Extensions P} {w w' : P.World} {e : Extension P}
    (h : es.Heedless like) (obtained : make.obtain key es w = .ok (e, later, w')) :
    e.Heedless like ∧ later.Heedless like := by
  unfold ExtensionMaker.obtain at obtained
  split at obtained
  next found =>
    cases obtained
    obtain ⟨entry, listed, rfl⟩ := Option.map_eq_some_iff.mp found
    exact ⟨h entry (List.mem_of_find?_eq_some listed), h⟩
  next =>
    split at obtained
    next =>
      cases obtained
      exact ⟨hm key w, h.install (hm key w) key⟩
    next => cases obtained

end Handlers

end Injector
