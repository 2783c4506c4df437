import Injector.Bean.Invocation
import Injector.Service.Directory

/-!
# Registered services

How the instance of a service is made, and how often.
-/

set_option autoImplicit false

namespace Injector

variable {P : Platform}

inductive Provider (P : Platform) where
  | value (value : P.Datum)
  /-- Made when first asked for. -/
  | singleton (make : Factory P)
  /-- Made each time. -/
  | transient (make : Factory P)
  /-- The instance of a bean, made when first asked for. -/
  | bean (bean : Bean P)

structure Registration (P : Platform) where
  address : Address
  provider : Provider P
  /-- Services known to be needed; only beans declare any. -/
  dependencies : List DependencyKey := []

abbrev Services (P : Platform) := List (Registration P)

namespace Services

def find? (s : Services P) (address : Address) : Option (Registration P) :=
  List.find? (·.address == address) s

def contains (s : Services P) (address : Address) : Bool := (s.find? address).isSome

def register (s : Services P) (r : Registration P) (allowOverride : Bool) :
    Except Error (Services P) :=
  if s.contains r.address then
    if allowOverride then .ok (s.map fun other => if other.address == r.address then r else other)
    else .error (.alreadyRegistered r.address.key)
  else .ok (s ++ [r])

def directory (s : Services P) (listing : Listing) (pending : List DependencyKey) : Directory :=
  ⟨s.map (·.address), pending, listing⟩

end Services

end Injector
