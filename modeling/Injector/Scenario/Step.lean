import Injector.Bean.Description
import Injector.Container.Basic
import Injector.Scenario.Handler

/-!
# The steps that use a container, and what they are answered with
-/

set_option autoImplicit false

namespace Injector.Scenario

/-- A value and, for an object, what it was made of and its fields as they are now. -/
structure Form where
  value : Option Value
  object : Option Object

def Form.of (w : World) (value : Option Value) : Form :=
  ⟨value, value.bind fun
    | .object _ serial => w.object? serial
    | .plain _ _ => none⟩

inductive Reply where
  | nothing
  | text (text : String)
  | name (name : Option String)
  | types (names : List String)
  | settings (settings : Settings)
  | bean (bean : Bean platform)
  | names (names : List (OperationId × String))
  | binding (binding : Binding platform)
  | form (form : Form)
  | forms (forms : List (Except Error Form))
  | accessor (shown : String) (form : Form)

inductive Answer where
  | ok (reply : Reply)
  | failed (error : Error)
  | noBean
  | noOperation

inductive Obstacle where
  | cyclic
  | missing
  | broken

def Obstacle.error (key : DependencyKey) : Obstacle → Error
  | cyclic => .circularDependency [key, key]
  | missing => .notRegistered key none []
  | broken => .invocationFailed "resolver" "broken"

def Obstacle.resolver (o : Obstacle) : Resolver platform := fun party key => do
  modify fun live => { live with world := live.world.note (.lookedUp party.display key.display) }
  throw (o.error key)

structure Installation where
  classId : String
  /-- Without a literal the bean has no source, or is made by its constructor. -/
  source : Option Literal
  sourceless : Bool := false
  installer : Party := .application
  preset : Option Script := none
  name : String

structure Invocation where
  bean : String
  operation : Nat
  args : List Literal
  /-- The bean whose operation is named, if it is another one. -/
  owner : Option String := none
  obstacle : Option Obstacle := none
  save : Option String := none

inductive Step where
  | install (i : Installation)
  | new (i : Installation)
  | scan (bean : String) (preset : Option Script)
  | dump (bean : String)
  | names (bean : String)
  | invoke (i : Invocation)
  | invokeAll (bean : String) (args : List Literal)
  | accessor (bean : String) (operation : Nat) (args : List Literal)
  | instantiate (bean : String) (obstacle : Option Obstacle) (save : Option String)
  | resolve (address : Address) (save : Option String)
  | resolveUntyped (address : Address) (save : Option String)
  | lookup (address : Address) (required : Bool)
  | setHook (marker : String) (hook : Option HookSpec)
  | extension (name : String)
  | activate (key : ExtensionKey)
  | settings
  | registeredClasses
  | showValue (literal : Literal)

end Injector.Scenario
