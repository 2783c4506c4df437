import Injector.Error
import Injector.Hook.Spec
import Injector.Scenario.Content

/-!
# The world of a scenario

Objects numbered in the order they are made, variables, static fields, the hooks that marker types
declare for themselves, and a log of what was called.
-/

set_option autoImplicit false

namespace Injector.Scenario

inductive Value where
  | plain (type : String) (content : Content)
  | object (type : String) (serial : Nat)
deriving DecidableEq

def Value.type : Value → String
  | plain type _ => type
  | object type _ => type

def Value.ofContent (type : String) (content : Content) : Value :=
  .plain type (content.fitted (.ofType type))

/-- Types of these modules have objects; all other values are plain. -/
def objectModules : List String := ["app::", "plugins::", "vendor::"]

def isObjectType (type : String) : Bool :=
  objectModules.any fun module => module.toList.isPrefixOf type.toList

inductive Ingredient where
  | value (value : Option Value)
  | failure (error : Error)

/-- Suggestions come in no fixed order, so they are shown in the order of their names. -/
def sorted : Error → Error
  | .notRegistered requested requiredBy suggestions =>
    .notRegistered requested requiredBy (suggestions.mergeSort fun a b => decide (a ≤ b))
  | e => e

structure Object where
  type : String
  ingredients : List Ingredient
  fields : List (String × Option Value) := []

inductive Entry where
  | called (label : String) (args : List (Option Value))
  | extensionMade (extension : String)
  | handlerMade (extension origin : String)
  | started (tag : String) (count : Nat) (beanType extension : String)
      (installer : Option String) (fullAccess : Bool)
  | ended (tag : String) (count : Nat) (beanType : String)
  | fieldMatched (tag : String) (count : Nat) (owner field : String) (caps : FieldCaps)
      (markers : List String)
  | methodMatched (tag : String) (count : Nat) (owner method : String) (markers : List String)
  | bindingRequested (tag : String) (count : Nat) (target : String) (index : Nat)
      (parameter : String) (marker : Option String)
  | operationMade (id : Nat)
  | nestedMade (id : Nat)
  | fieldInfo (beanType extension type visibility : String) (isStatic : Bool)
  | methodInfo (beanType extension visibility : String) (isStatic isDefault : Bool)
  | slotInfo (type : String) (optional : Bool) (extension beanType : String) (operation : Nat)
      (isBound : Bool) (shown : String)
  /-- The payload of a marker as it was written. -/
  | marker (payload : Option String)
  | tried (error : Error)
  | making (type : String)
  | lookedUp (party key : String)

structure World where
  hooks : List (String × HookSpec) := []
  objects : Array Object := #[]
  /-- Static fields, by class and field. -/
  statics : List ((String × String) × Option Value) := []
  saved : List (String × Option Value) := []
  log : Array Entry := #[]
  quiet : Bool := false

namespace World

def note (w : World) (entry : Entry) : World :=
  if w.quiet then w else { w with log := w.log.push entry }

def assign {α β : Type} [BEq α] (table : List (α × β)) (key : α) (value : β) : List (α × β) :=
  (key, value) :: table.filter (·.1 != key)

def make (w : World) (type : String) (ingredients : List Ingredient) : Value × World :=
  (.object type (w.objects.size + 1), { w with objects := w.objects.push ⟨type, ingredients, []⟩ })

def object? (w : World) (serial : Nat) : Option Object := w.objects[serial - 1]?

def readField (w : World) (serial : Nat) (field : String) : Option Value :=
  ((w.object? serial).bind (·.fields.lookup field)).join

def writeField (w : World) (serial : Nat) (field : String) (value : Option Value) : World :=
  { w with
    objects := w.objects.modify (serial - 1) fun o =>
      { o with fields := assign o.fields field value } }

def readStatic (w : World) (owner field : String) : Option Value :=
  (w.statics.lookup (owner, field)).join

def writeStatic (w : World) (owner field : String) (value : Option Value) : World :=
  { w with statics := assign w.statics (owner, field) value }

def readVariable (w : World) (name : String) : Option Value := (w.saved.lookup name).join

def writeVariable (w : World) (name : String) (value : Option Value) : World :=
  { w with saved := assign w.saved name value }

def setHook (w : World) (marker : String) (hook : Option HookSpec) : World :=
  { w with
    hooks := match hook with
      | some spec => assign w.hooks marker spec
      | none => w.hooks.filter (·.1 != marker) }

end World

def World.realize (w : World) (type : String) (content : Content) : Value × World :=
  if isObjectType type then w.make type [] else (.ofContent type content, w)

inductive Literal where
  | null
  | value (type : String) (content : Content)
  | variable (name : String)

/-- Every evaluation of a literal of an object type makes a new object. -/
def Literal.eval (w : World) : Literal → Option Value × World
  | .null => (none, w)
  | .variable name => (w.readVariable name, w)
  | .value type content =>
    let (made, w) := w.realize type content
    (some made, w)

def evalAll (w : World) : List Literal → List (Option Value) × World
  | [] => ([], w)
  | l :: rest =>
    let (value, w) := l.eval w
    let (values, w) := evalAll w rest
    (value :: values, w)

end Injector.Scenario
