import Injector.Service.Registration

/-!
# Finding and making services

A service that is asked for while it is being resolved is a cycle; the services in between, which
are in flight, are what the error reports.
-/

set_option autoImplicit false

namespace Injector

variable {P : Platform}

namespace Live

def isInFlight (live : Live P) (address : Address) : Bool := live.inFlight.any (· == address)

def cycle (live : Live P) (address : Address) : List DependencyKey :=
  (live.inFlight.dropWhile (· != address)).map (·.key) ++ [address.key]

def enter (live : Live P) (address : Address) : Live P :=
  { live with inFlight := live.inFlight ++ [address] }.note (.entered address)

def leave (live : Live P) (address : Address) (result : Except Error P.Datum) : Live P :=
  { live with inFlight := live.inFlight.dropLast }.note (.left address result)

def refuse (live : Live P) (address : Address) : Live P :=
  live.note (.refused address (live.cycle address))

def built? (live : Live P) (address : Address) : Option P.Datum :=
  (live.built.find? (·.1 == address)).map (·.2)

def keep (live : Live P) (address : Address) (value : P.Datum) : Live P :=
  { live with built := live.built ++ [(address, value)] }

theorem inFlight_leave_enter (live : Live P) (entered left : Address)
    (result : Except Error P.Datum) :
    ((live.enter entered).leave left result).inFlight = live.inFlight := by
  simp [enter, leave, note]

theorem built?_keep {live : Live P} {address : Address} (h : live.built? address = none)
    (value : P.Datum) : (live.keep address value).built? address = some value := by
  have hn : live.built.find? (·.1 == address) = none := by simpa [built?] using h
  simp only [built?, keep, List.find?_append, hn]
  simp

end Live

namespace Services

def whileInFlight (address : Address) (body : Run P P.Datum) : Run P P.Datum := do
  let live ← get
  if live.isInFlight address then
    set (live.refuse address)
    throw (.circularDependency (live.cycle address))
  else
    set (live.enter address)
    Run.thenAlways body fun result live => live.leave address result

/-- Builds an instance unless there is one; a failure leaves none. -/
def once (address : Address) (build : Run P P.Datum) : Run P P.Datum := do
  match (← get).built? address with
  | some value => return value
  | none =>
    Run.note (.begun address)
    let value ← tryCatch build fun e => do
      Run.note (.failed address)
      throw e
    modify fun live => live.keep address value
    Run.note (.built address value)
    return value

def provide (resolve : Resolver P) (r : Registration P) : Run P P.Datum :=
  match r.provider with
  | .value value => return value
  | .transient make => Code.run make resolve
  | .singleton make => once r.address (Code.run make resolve)
  | .bean bean => once r.address (bean.instantiate resolve)

/-- Services in flight are registered and distinct, so there are at most as many as services:
`depth`, the number of services that may still be entered, is not used up. -/
def resolveWithin (s : Services P) (listing : Listing) : Nat → Resolver P
  | 0, _, key => throw (.circularDependency [key])
  | depth + 1, party, key =>
    match s.find? ⟨party, key⟩ with
    | none => throw ((s.directory listing []).notRegistered party key)
    | some r => whileInFlight ⟨party, key⟩ (provide (resolveWithin s listing depth) r)

def resolve (s : Services P) (listing : Listing) : Resolver P :=
  s.resolveWithin listing (s.length + 1)

end Services

end Injector
