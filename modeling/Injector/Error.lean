import Injector.Key

/-!
# Errors

Everything that can go wrong, by cause, and the text shown for each cause.
-/

set_option autoImplicit false

namespace Injector

inductive Error where
  | ambiguousHook (marker : MarkerKey) (extension : ExtensionKey)
  | conflictingHook (marker : MarkerKey) (declaredOn : Option TypeKey)
      (existing conflicting : ExtensionKey)
  | conflictingTypeHook (type : TypeKey) (existing conflicting : ExtensionKey)
  | foreignExtension (marker : MarkerKey) (extension : ExtensionKey)
  | missingConstructor (extension : ExtensionKey)
  | conflictingFieldMarkers (declaring : TypeKey) (field : String)
      (memberMarker bindingMarker : MarkerKey)
  | duplicateBindingHook (target : String) (first second : MarkerKey)
  | noEligibleConstructor (type : TypeKey) (reason : String)
  | invalidFactory (target reason : String)
  | unhandledHook (extension : ExtensionKey) (what : String)
  | inaccessible (declaring : TypeKey) (member : String) (extension : ExtensionKey)
  | missingAccessor (declaring : TypeKey) (member accessor : String)
  | accessNotPermitted (extension : ExtensionKey) (declaring : TypeKey) (field mode : String)
  | alreadyBound (operation : String) (index : Nat) (existing : String)
  | nullPrimitive (operation : String) (index : Nat) (expected : TypeKey)
  | primitiveMismatch (operation : String) (index : Nat) (expected : TypeKey)
  | constantTypeMismatch (operation : String) (index : Nat) (expected : TypeKey)
  /-- Without an argument type the index is past the last argument. -/
  | invalidArgumentIndex (operation : String) (parameter argument : Nat)
      (parameterType : TypeKey) (argumentType : Option TypeKey)
  | bindingNotSet (extension : ExtensionKey) (operation : String) (index : Nat)
  | notRegistered (requested : DependencyKey) (requiredBy : Option String)
      (suggestions : List String)
  | resolutionLimitExceeded (type : TypeKey) (limit : Nat)
  | alreadyScanned (type : TypeKey)
  | circularDependency (chain : List DependencyKey)
  | alreadyRegistered (key : DependencyKey)
  | arityMismatch (target : String) (expected actual : Nat)
  | unknownOperation (type : TypeKey) (id : Nat)
  | nullReceiver (target : String)
  /-- An accessor or a factory failed. -/
  | invocationFailed (target source : String)
  /-- An extension failed. -/
  | extensionFailed (extension : ExtensionKey) (source : String)

namespace Error

def isNotRegistered : Error → Bool
  | notRegistered .. => true
  | _ => false

def isCircular : Error → Bool
  | circularDependency _ => true
  | _ => false

/-- Says what a missing service was needed for, unless that is known already. -/
def requiredBy (target : String) : Error → Error
  | notRegistered requested none suggestions =>
    notRegistered requested (some target) suggestions
  | e => e

def source? : Error → Option String
  | invocationFailed _ source => some source
  | extensionFailed _ source => some source
  | _ => none

def conflictingHookMessage (marker : MarkerKey) (declaredOn : Option TypeKey)
    (existing conflicting : ExtensionKey) : String :=
  s!"Conflicting hooks for marker {marker.display}: already handled by {existing.name}, " ++
    s!"redeclared for {conflicting.name}" ++
    (match declaredOn with
      | some type => s!"\n  Declared on: {type.name}"
      | none => "") ++
    "\n  Hint: a marker type maps to exactly one extension with one set of capabilities"

def invalidArgumentMessage (operation : String) (parameter argument : Nat)
    (parameterType : TypeKey) (argumentType : Option TypeKey) : String :=
  match argumentType with
  | none =>
    s!"Parameter {parameter} of {operation} is bound to invocation argument {argument}, " ++
      "which does not exist"
  | some actual =>
    s!"Parameter {parameter} of {operation} ({parameterType.short}) is bound to invocation " ++
      s!"argument {argument} of type {actual.short}"

def notRegisteredMessage (requested : DependencyKey) (requiredBy : Option String)
    (suggestions : List String) : String :=
  s!"Service not registered: {requested.display}" ++
    (match requiredBy with
      | some parent => s!"\n  Required by: {parent}"
      | none => "") ++
    (if suggestions.isEmpty then ""
      else "\n  Did you mean one of:" ++ String.join (suggestions.map ("\n    - " ++ ·))) ++
    s!"\n  Hint: register {requested.type.short} in the namespace that installs the bean, " ++
      "or declare the parameter optional"

def message : Error → String
  | ambiguousHook marker extension =>
    s!"Marker {marker.display} is declared both as a member hook and as a binding hook by " ++
      s!"{extension.name}\n  Hint: a marker type must be either a field/method hook or a " ++
      "binding hook"
  | conflictingHook marker declaredOn existing conflicting =>
    conflictingHookMessage marker declaredOn existing conflicting
  | conflictingTypeHook type existing conflicting =>
    s!"Type {type.name} is already bound by {existing.name}, cannot register " ++
      s!"{conflicting.name} as its binding hook"
  | foreignExtension marker extension =>
    s!"Marker {marker.display} (crate `{marker.module}`) cannot be handled by " ++
      s!"{extension.name} (crate `{extension.module}`)\n  Hint: a marker and its extension " ++
      "must be declared in the same crate"
  | missingConstructor extension =>
    s!"Extension {extension.name} is not installed and has no no-argument constructor\n" ++
      "  Hint: build its key with ExtensionKey::of::<E>() (requires Default) or install it " ++
      "on the builder"
  | conflictingFieldMarkers declaring field memberMarker bindingMarker =>
    s!"Field {declaring.name}::{field} carries member hook {memberMarker.display} and " ++
      s!"binding hook {bindingMarker.display}\n  Hint: member hooks and binding hooks are " ++
      "mutually exclusive on one field"
  | duplicateBindingHook target first second =>
    s!"{target} has more than one binding hook: {first.display} and {second.display}\n" ++
      "  Hint: keep a single binding marker per injection point"
  | noEligibleConstructor type reason =>
    s!"Cannot select a constructor for {type.name}: {reason}\n  Hint: mark exactly one " ++
      "constructor with #[Inject] or declare a single public constructor"
  | invalidFactory target reason => s!"Cannot use {target} as a factory: {reason}"
  | unhandledHook extension what => s!"Extension {extension.name} does not handle {what}"
  | inaccessible declaring member extension =>
    s!"Member {declaring.name}::{member} is not accessible to extension {extension.name}\n" ++
      s!"  Hint: call .opens_to({Text.quoted extension.module}) on the class descriptor of " ++
      declaring.short
  | missingAccessor declaring member accessor =>
    s!"No {accessor} registered for {declaring.name}::{member}\n  Hint: register the " ++
      s!"{accessor} on the class descriptor"
  | accessNotPermitted extension declaring field mode =>
    s!"Extension {extension.name} requested {mode} access to field " ++
      s!"{declaring.name}::{field}, which its markers do not allow"
  | alreadyBound operation index existing =>
    s!"Illegal state: parameter {index} of {operation} is already bound as {existing}"
  | nullPrimitive operation index expected =>
    s!"Illegal argument: cannot bind null to primitive parameter {index} ({expected.name}) " ++
      s!"of {operation}"
  | primitiveMismatch operation index expected =>
    "Illegal argument: cannot bind a constant of another type to primitive parameter " ++
      s!"{index} ({expected.name}) of {operation}"
  | constantTypeMismatch operation index expected =>
    s!"Cannot cast constant for parameter {index} of {operation} to {expected.name}"
  | invalidArgumentIndex operation parameter argument parameterType argumentType =>
    invalidArgumentMessage operation parameter argument parameterType argumentType
  | bindingNotSet extension operation index =>
    s!"Extension {extension.name} did not bind parameter {index} of {operation}\n" ++
      "  Hint: on_binding_requested must call one of the BindingSlot::bind_* methods"
  | notRegistered requested requiredBy suggestions =>
    notRegisteredMessage requested requiredBy suggestions
  | resolutionLimitExceeded type limit =>
    s!"Resolution of {type.name} processed more than {limit} operations without reaching a " ++
      "fixed point\n  Hint: an extension keeps creating operations from its own binding " ++
      "requests"
  | alreadyScanned type => s!"Illegal state: bean {type.name} has already been scanned"
  | circularDependency chain =>
    "Circular dependency detected:\n  " ++
      TypeName.renderChain (chain.map fun key => key.type.short) ++
      "\n  Hint: break the cycle with an optional parameter or a factory binding"
  | alreadyRegistered key =>
    s!"Service already registered: {key.display}\n  Hint: enable allow_override in the scan " ++
      "settings to replace it"
  | arityMismatch target expected actual =>
    s!"{target} expects {expected} argument(s), got {actual}"
  | unknownOperation type id => s!"{type.name} has no operation #{id}"
  | nullReceiver target => s!"{target} requires a bean instance as argument 0, got null"
  | invocationFailed target source => s!"Failed to invoke {target}: {source}"
  | extensionFailed extension source => s!"Extension {extension.name} failed: {source}"

end Error

end Injector
