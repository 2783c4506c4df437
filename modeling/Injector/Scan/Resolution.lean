import Injector.Scan.Contribution
import Injector.Scan.Slot

/-!
# Resolving parameters

Where a parameter carries a binding marker, the marker's extension binds it; else an extension that
binds its type; else it becomes a service of the bean's namespace. Operations wait in a queue and
are resolved in the order they were made; binding may add more.
-/

set_option autoImplicit false

namespace Injector

variable {P : Platform}

structure Hit (P : Platform) where
  marker : Marker P
  hook : HookDescriptor

namespace Scan

def parameterTarget (op : Operation P) (index : Nat) (parameter : Parameter P) : String :=
  s!"Parameter {index} ({parameter.name}) of {op.target}"

/-- The only binding hook among the markers. A second one is refused before the markers after
it are looked at. -/
def bindingHook (f : ScanFrame P) (target : String) :
    Option (Hit P) → List (Marker P) → ScanM P (Option (Hit P))
  | found, [] => return found
  | found, marker :: rest => do
    match ← hookOf f marker with
    | none => bindingHook f target found rest
    | some hook =>
      if hook.capabilities.binding then
        match found with
        | some first => throw (.duplicateBindingHook target first.marker.key marker.key)
        | none => bindingHook f target (some ⟨marker, hook⟩) rest
      else bindingHook f target found rest

def delegate (f : ScanFrame P) (op : Operation P) (index : Nat) (parameter : Parameter P)
    (extension : ExtensionKey) (marker : Option (Marker P)) : ScanM P Unit := do
  let contributor ← activate f extension
  let request : BindingRequest P :=
    { operation := op, index, parameter, marker, party := f.installer
      context := contributor.contextFor extension }
  record (.bindingRequested request)
  tryCatch
    (converse contributor (.bindingRequested request) (contributor.handler.onBinding request)
      (answerSlot f request))
    fun e => throw (e.requiredBy op.target)
  match ← bindingAt op.id index with
  | some _ => return
  | none => throw (.bindingNotSet extension op.target index)

def bindToService (f : ScanFrame P) (op : Operation P) (index : Nat)
    (parameter : Parameter P) : ScanM P Unit := do
  match f.host.directory.lookup f.installer ⟨parameter.type, none⟩ (!parameter.optional) with
  | .ok binding => bindSlot f op.id index binding
  | .error e => throw (e.requiredBy op.target)

def resolveParameter (f : ScanFrame P) (id : OperationId) (index : Nat)
    (parameter : Parameter P) : ScanM P Unit := do
  let op ← operationAt f id
  match ← bindingHook f (parameterTarget op index parameter) none parameter.markers with
  | some hit => delegate f op index parameter hit.hook.extension (some hit.marker)
  | none =>
    match (← get).catalog.typeHook? parameter.type with
    | some extension => delegate f op index parameter extension none
    | none => bindToService f op index parameter

def resolveParameters (f : ScanFrame P) (id : OperationId) :
    Nat → List (Parameter P) → ScanM P Unit
  | _, [] => return
  | index, parameter :: rest => do
    match ← bindingAt id index with
    | some _ => resolveParameters f id (index + 1) rest
    | none =>
      resolveParameter f id index parameter
      resolveParameters f id (index + 1) rest

def resolveOperation (f : ScanFrame P) (id : OperationId) : ScanM P Unit := do
  let op ← operationAt f id
  resolveParameters f id 0 op.params

def dequeue : ScanM P (Option OperationId) := do
  let s ← get
  match s.queue with
  | [] => return none
  | id :: queue =>
    set { s with queue }
    return some id

def spend : ScanM P Unit := modify fun s => { s with remaining := s.remaining - 1 }

def drainWithin (f : ScanFrame P) : Nat → ScanM P Unit
  | 0 => do
    match ← dequeue with
    | none => return
    | some _ => throw (.resolutionLimitExceeded f.beanType f.host.limit)
  | remaining + 1 => do
    match ← dequeue with
    | none => return
    | some id =>
      spend
      record (.resolving id)
      resolveOperation f id
      drainWithin f remaining

def drain (f : ScanFrame P) : ScanM P Unit := do
  drainWithin f (← get).remaining

end Scan

end Injector
