import Injector.Dialog
import Injector.Error

/-!
# What the library is told about the system it runs in

Accessors, factories and extensions are functions on a `World` that nothing else looks into; values
are known by their type alone.
-/

set_option autoImplicit false

namespace Injector

structure Platform where
  /-- Everything that accessors, factories and handlers can observe or change. -/
  World : Type
  /-- Values other than null. -/
  Datum : Type
  typeOf : Datum → Identity
  /-- What a placed marker carries besides its type. -/
  Payload : Type
  /-- The private state of a handler. -/
  Memory : Type

/-- Values that are no more than their types, in a world where nothing happens. -/
def Platform.bare : Platform where
  World := Unit
  Datum := Identity
  typeOf := id
  Payload := Unit
  Memory := Unit

/-- A step on the world that may fail; what it changed before it failed stays changed. -/
abbrev Effect (P : Platform) (α : Type) := ExceptT Error (StateM P.World) α

structure ServiceCall (P : Platform) where
  party : Party
  key : DependencyKey
  world : P.World

abbrev ServiceCall.Reply {P : Platform} (_ : ServiceCall P) : Type :=
  Except Error P.Datum × P.World

/-- Code that belongs to the application. It works on the world and may fail, and it may ask the
container for services while it runs. -/
abbrev Code (P : Platform) (α : Type) :=
  P.World → Dialog (ServiceCall P) ServiceCall.Reply (Except Error α × P.World)

/-- The code behind one member. It takes the receiver, where there is one, and then the
member's own arguments; an absent argument is null. -/
abbrev Accessor (P : Platform) := List (Option P.Datum) → Code P (Option P.Datum)

abbrev Factory (P : Platform) := Code P P.Datum

variable {P : Platform}

namespace Code

variable {α : Type}

def done (result : Except Error α) : Code P α := fun w => .done (result, w)

def ofEffect (step : Effect P α) : Code P α := fun w => .done (step w)

end Code

def Platform.hasType (P : Platform) (value : P.Datum) (type : TypeKey) : Bool :=
  P.typeOf value == type.identity

def requireArgument (type : TypeKey) (args : List (Option P.Datum)) (index : Nat) :
    Except Error P.Datum :=
  match args[index]? with
  | none => .error (.arityMismatch "member accessor" (index + 1) args.length)
  | some none =>
    .error (.invocationFailed s!"argument {index}" s!"expected {type.name}, got null")
  | some (some value) =>
    if P.hasType value type then .ok value
    else .error (.invocationFailed s!"argument {index}" s!"expected {type.name}")

end Injector
