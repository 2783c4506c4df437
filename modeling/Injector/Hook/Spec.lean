import Injector.Key

/-!
# What a hook declaration grants

The extension that handles a marker, and what it may do with the marked member.
-/

set_option autoImplicit false

namespace Injector

structure FieldCaps where
  gettable : Bool
  settable : Bool
deriving DecidableEq

namespace FieldCaps

def none : FieldCaps := ⟨false, false⟩
def get : FieldCaps := ⟨true, false⟩
def set : FieldCaps := ⟨false, true⟩
def getSet : FieldCaps := ⟨true, true⟩

def union (a b : FieldCaps) : FieldCaps :=
  ⟨a.gettable || b.gettable, a.settable || b.settable⟩

end FieldCaps

/-- A field hook without permissions is still a field hook. -/
structure HookSpec where
  extension : ExtensionKey
  field : Option FieldCaps := none
  method : Bool := false
  binding : Bool := false

namespace HookSpec

/-- Permissions of repeated field hooks add up. -/
def withField (s : HookSpec) (caps : FieldCaps) : HookSpec :=
  { s with field := some ((s.field.getD .none).union caps) }

def withMethod (s : HookSpec) : HookSpec := { s with method := true }

def withBinding (s : HookSpec) : HookSpec := { s with binding := true }

end HookSpec

end Injector
