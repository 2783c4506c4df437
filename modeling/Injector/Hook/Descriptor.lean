import Injector.Error
import Injector.Hook.Spec

/-!
# Validated hooks

A hook is either a member hook or a binding hook, and its extension belongs to the module of its
marker.
-/

set_option autoImplicit false

namespace Injector

structure Capabilities where
  /-- Matches fields. -/
  field : Bool
  readable : Bool
  writable : Bool
  /-- Matches methods. -/
  invokable : Bool
  /-- Binds parameters. -/
  binding : Bool
deriving DecidableEq

namespace Capabilities

def isMemberHook (c : Capabilities) : Bool := c.field || c.invokable

def fieldCaps (c : Capabilities) : FieldCaps := ⟨c.readable, c.writable⟩

end Capabilities

def HookSpec.capabilities (s : HookSpec) : Capabilities where
  field := s.field.isSome
  readable := s.field.any (·.gettable)
  writable := s.field.any (·.settable)
  invokable := s.method
  binding := s.binding

structure HookDescriptor where
  marker : MarkerKey
  extension : ExtensionKey
  capabilities : Capabilities

/-- Whether two descriptors say the same: keys are compared by identity. -/
def HookDescriptor.agrees (a b : HookDescriptor) : Bool :=
  a.marker == b.marker && a.extension == b.extension && a.capabilities == b.capabilities

def HookSpec.isAmbiguous (s : HookSpec) : Bool :=
  s.capabilities.isMemberHook && s.capabilities.binding

def HookSpec.describe (s : HookSpec) (marker : MarkerKey) : HookDescriptor :=
  ⟨marker, s.extension, s.capabilities⟩

def HookSpec.validate (s : HookSpec) (marker : MarkerKey) : Except Error HookDescriptor :=
  if s.isAmbiguous then .error (.ambiguousHook marker s.extension)
  else if marker.module != s.extension.module then
    .error (.foreignExtension marker s.extension)
  else .ok (s.describe marker)

theorem HookSpec.validate_eq_ok {s : HookSpec} {marker : MarkerKey} {d : HookDescriptor} :
    s.validate marker = .ok d ↔
      s.isAmbiguous = false ∧ marker.module = s.extension.module ∧ d = s.describe marker := by
  unfold validate
  split
  next h => simp [h]
  next h =>
    split
    next hm =>
      have hm : marker.module ≠ s.extension.module := by simpa using hm
      simp [hm]
    next hm =>
      have hm : marker.module = s.extension.module := by simpa using hm
      simp [h, hm, eq_comm]

end Injector
