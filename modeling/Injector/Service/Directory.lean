import Injector.Operation.Basic
import Injector.Text.Suggestion

/-!
# The directory of services

Which services there are, without how they are made. Beans that wait to be registered count as
services of the application. When a service is missing, the others of its namespace are listed for
suggestions; the order in which they come is not for the library to say.
-/

set_option autoImplicit false

namespace Injector

variable {P : Platform}

/-- How services come that are listed. No two containers need list them in the same order. -/
structure Listing where
  arrange : List Address → List Address
  perm : ∀ addresses, (arrange addresses).Perm addresses

def Listing.inOrder : Listing := ⟨id, fun _ => .refl _⟩

structure Directory where
  registered : List Address
  pending : List DependencyKey := []
  listing : Listing := .inOrder

namespace Directory

def contains (d : Directory) (party : Party) (key : DependencyKey) : Bool :=
  d.registered.any (· == ⟨party, key⟩)

def isPending (d : Directory) (party : Party) (key : DependencyKey) : Bool :=
  party == .application && d.pending.any (· == key)

def listedIn (d : Directory) (party : Party) : List String :=
  (d.listing.arrange (d.registered.filter (·.party == party))).map (·.key.listed)

def notRegistered (d : Directory) (party : Party) (key : DependencyKey) : Error :=
  .notRegistered key none (Suggestion.suggest key.type.name (d.listedIn party) 3)

def lookup (d : Directory) (party : Party) (key : DependencyKey) (required : Bool) :
    Except Error (Binding P) :=
  if required && !(d.contains party key || d.isPending party key) then
    .error (d.notRegistered party key)
  else .ok (.service key party required)

theorem lookup_eq_ok {d : Directory} {party : Party} {key : DependencyKey} {required : Bool}
    {binding : Binding P} :
    d.lookup party key required = .ok binding ↔
      (required = true → (d.contains party key || d.isPending party key) = true) ∧
        binding = .service key party required := by
  unfold lookup
  split
  next h =>
    simp only [Bool.and_eq_true, Bool.not_eq_true'] at h
    simp [h]
  next h =>
    have known : required = true → (d.contains party key || d.isPending party key) = true := by
      intro hr
      rw [hr, Bool.true_and, Bool.not_eq_true', Bool.not_eq_false] at h
      exact h
    simp only [Except.ok.injEq]
    exact ⟨fun hb => ⟨known, hb.symm⟩, fun hb => hb.2.symm⟩

end Directory

end Injector
