import Injector.Operation.Basic

/-!
# What changes while services are resolved

The world, the instances built so far, and the services being resolved. The journal tells which
services were entered and how they were left, which were refused as they were in flight, and which
instances were begun and how that ended.
-/

set_option autoImplicit false

namespace Injector

variable {P : Platform}

inductive ServiceEvent (P : Platform) where
  | entered (address : Address)
  | left (address : Address) (result : Except Error P.Datum)
  /-- The service was in flight already; the chain leads back to it. -/
  | refused (address : Address) (chain : List DependencyKey)
  | begun (address : Address)
  | built (address : Address) (value : P.Datum)
  | failed (address : Address)

structure Live (P : Platform) where
  world : P.World
  /-- Singletons, each built once. -/
  built : List (Address × P.Datum) := []
  /-- Services being resolved, outermost first. -/
  inFlight : List Address := []
  journal : List (ServiceEvent P) := []

def Live.note (live : Live P) (event : ServiceEvent P) : Live P :=
  { live with journal := live.journal ++ [event] }

/-- A computation among live services; a failure keeps what happened before it. -/
abbrev Run (P : Platform) (α : Type) := ExceptT Error (StateM (Live P)) α

abbrev Resolver (P : Platform) := Party → DependencyKey → Run P P.Datum

namespace Code

def answer (resolve : Resolver P) (call : ServiceCall P) : StateM (Live P) call.Reply :=
  fun live =>
    let (result, live) := resolve call.party call.key { live with world := call.world }
    ((result, live.world), live)

def run {α : Type} (code : Code P α) (resolve : Resolver P) : Run P α := fun live =>
  let ((result, world), live) := (code live.world).run (answer resolve) live
  (result, { live with world })

end Code

namespace Run

def note (event : ServiceEvent P) : Run P Unit := modify fun live => live.note event

def thenAlways {α : Type} (body : Run P α) (after : Except Error α → Live P → Live P) :
    Run P α := fun live =>
  let (result, live) := body live
  (result, after result live)

end Run

end Injector
