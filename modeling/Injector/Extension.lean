import Injector.Dialog
import Injector.Operation.Member

/-!
# Extensions and their handlers

An extension is installed once; for each bean it has a part in, a handler answers the matches and
binding requests of that one scan. A handler is shown what it needs and may make calls back while it
answers.
-/

set_option autoImplicit false

namespace Injector

variable {P : Platform}

structure ScanContext where
  beanType : TypeKey
  extension : ExtensionKey
  installer : Party
  /-- The extension installed the bean itself. -/
  fullAccess : Bool

structure FieldMatch (P : Platform) where
  owner : ClassDescriptor P
  field : Field P
  markers : List (Marker P)
  /-- What the markers together allow. -/
  caps : FieldCaps
  context : ScanContext

structure MethodMatch (P : Platform) where
  owner : ClassDescriptor P
  method : Method P
  markers : List (Marker P)
  context : ScanContext

structure BindingRequest (P : Platform) where
  /-- The operation as it is when the request is made. -/
  operation : Operation P
  index : Nat
  parameter : Parameter P
  /-- The marker that led to the extension; none if the type of the parameter did. -/
  marker : Option (Marker P)
  /-- Where services are looked up. -/
  party : Party
  context : ScanContext

inductive FieldCall where
  | newGetter
  | newSetter

inductive MethodCall where
  | newOperation

inductive SlotCall (P : Platform) where
  | bindValue (value : P.Datum)
  | bindNull
  | bindArgument (index : Nat)
  | bindFactory (owner : ClassDescriptor P) (method : Method P)
  | bindConstructor (owner : ClassDescriptor P)
  | bindService (key : DependencyKey)
  | isBound

def SlotCall.Reply : SlotCall P → Type
  | bindFactory .. => Except Error OperationId
  | bindConstructor _ => Except Error OperationId
  | isBound => Bool
  | bindValue _ => Except Error Unit
  | bindNull => Except Error Unit
  | bindArgument _ => Except Error Unit
  | bindService _ => Except Error Unit

abbrev Outcome (P : Platform) := Except Error Unit × P.Memory × P.World

abbrev FieldDialog (P : Platform) :=
  Dialog FieldCall (fun _ => Except Error OperationId) (Outcome P)

abbrev MethodDialog (P : Platform) :=
  Dialog MethodCall (fun _ => Except Error OperationId) (Outcome P)

abbrev SlotDialog (P : Platform) := Dialog (SlotCall P) SlotCall.Reply (Outcome P)

structure Handler (P : Platform) where
  memory : P.Memory
  onStart : ScanContext → P.Memory → P.World → Outcome P
  onEnd : ScanContext → P.Memory → P.World → Outcome P
  onField : FieldMatch P → P.Memory → P.World → FieldDialog P
  onMethod : MethodMatch P → P.Memory → P.World → MethodDialog P
  onBinding : BindingRequest P → P.Memory → P.World → SlotDialog P

def FieldMatch.unhandled (m : FieldMatch P) : Error :=
  .unhandledHook m.context.extension "field matches"

def MethodMatch.unhandled (m : MethodMatch P) : Error :=
  .unhandledHook m.context.extension "method matches"

def BindingRequest.unhandled (r : BindingRequest P) : Error :=
  .unhandledHook r.context.extension "binding requests"

structure Extension (P : Platform) where
  name : String
  newHandler : P.World → Handler P × P.World

abbrev Extensions (P : Platform) := List (ExtensionKey × Extension P)

namespace Extensions

def find? (es : Extensions P) (key : ExtensionKey) : Option (Extension P) :=
  (List.find? (·.1 == key) es).map (·.2)

/-- An extension installed again takes the place of the former one. -/
def install (es : Extensions P) (key : ExtensionKey) (e : Extension P) : Extensions P :=
  if (es.find? key).isSome then es.map fun entry => if entry.1 == key then (entry.1, e) else entry
  else es ++ [(key, e)]

theorem find?_install (es : Extensions P) (key : ExtensionKey) (e : Extension P) :
    (es.install key e).find? key = some e := by
  unfold install
  split
  next h =>
    induction es with
    | nil => simp [find?] at h
    | cons entry rest ih =>
      by_cases he : entry.1 == key
      · simp [find?, he]
      · simp only [find?, List.find?_cons, he, List.map_cons] at h ih ⊢
        simpa [he] using ih h
  next h =>
    have hn : List.find? (·.1 == key) es = none := by simpa [find?] using h
    simp only [find?, List.find?_append, hn]
    simp

def keys (es : Extensions P) : List ExtensionKey :=
  (es.map (·.1)).mergeSort fun a b => decide (a.name ≤ b.name)

end Extensions

abbrev ExtensionMaker (P : Platform) := ExtensionKey → P.World → Extension P × P.World

def ExtensionMaker.obtain (make : ExtensionMaker P) (key : ExtensionKey) (es : Extensions P)
    (w : P.World) : Except Error (Extension P × Extensions P × P.World) :=
  match es.find? key with
  | some e => .ok (e, es, w)
  | none =>
    if key.constructible then
      let (e, w') := make key w
      .ok (e, es.install key e, w')
    else .error (.missingConstructor key)

end Injector
