import Injector.Platform
import Injector.Hook.Spec

/-!
# Class descriptors

Everything a scan knows about the class of a bean. Each member comes with its markers and the
accessor behind it.
-/

set_option autoImplicit false

namespace Injector

variable {P : Platform}

/-- A marker type and the hook it declares for itself. The declaration is read from the world
each time it is needed. -/
structure MarkerType (P : Platform) where
  key : MarkerKey
  declaredHook : P.World → Option HookSpec

structure Marker (P : Platform) extends MarkerType P where
  payload : P.Payload

inductive Visibility where
  | anyone
  | subclasses
  | package
  | declarer
deriving DecidableEq

structure Parameter (P : Platform) where
  name : String
  type : TypeKey
  /-- A missing service is passed as null. -/
  optional : Bool := false
  /-- Takes any number of values, passed as one. -/
  variadic : Bool := false
  markers : List (Marker P) := []

structure Constructor (P : Platform) where
  visibility : Visibility
  params : List (Parameter P)
  markers : List (Marker P)
  accessor : Accessor P

structure Field (P : Platform) where
  name : String
  type : TypeKey
  visibility : Visibility
  isStatic : Bool
  markers : List (Marker P)
  getter : Option (Accessor P)
  setter : Option (Accessor P)

/-- An abstract method has no accessor. -/
structure Method (P : Platform) where
  name : String
  visibility : Visibility
  isStatic : Bool
  /-- An interface method with a body. -/
  isDefault : Bool
  params : List (Parameter P)
  returns : Option TypeKey
  markers : List (Marker P)
  accessor : Option (Accessor P)

structure Signature where
  name : String
  params : List Identity
deriving DecidableEq

def Method.signature (m : Method P) : Signature := ⟨m.name, m.params.map (·.type.identity)⟩

structure ClassBody (P : Platform) where
  type : TypeKey
  isInterface : Bool := false
  markers : List (Marker P) := []
  declarations : List (MarkerType P × HookSpec) := []
  opensTo : List String := []
  constructors : List (Constructor P) := []
  fields : List (Field P) := []
  methods : List (Method P) := []

structure ClassDescriptor (P : Platform) extends ClassBody P where
  superclass : Option (ClassDescriptor P) := none
  interfaces : List (ClassDescriptor P) := []

namespace ClassDescriptor

def module (c : ClassDescriptor P) : String := c.type.module

def package (c : ClassDescriptor P) : String := c.type.package

def isOpenTo (c : ClassDescriptor P) (module : String) : Bool :=
  c.module == module || c.opensTo.contains module

end ClassDescriptor

def Constructor.isInjected (c : Constructor P) : Bool := c.markers.any (·.key == .inject)

def ClassDescriptor.selectConstructor (c : ClassDescriptor P) :
    Except Error (Constructor P) :=
  match c.constructors.filter (·.isInjected) with
  | [only] => .ok only
  | [] =>
    match c.constructors.filter (·.visibility == .anyone) with
    | [only] => .ok only
    | [] => .error (.noEligibleConstructor c.type "no public constructor")
    | many => .error (.noEligibleConstructor c.type
        s!"{many.length} public constructors and none is marked #[Inject]")
  | many => .error (.noEligibleConstructor c.type
      s!"{many.length} constructors are marked #[Inject]")

end Injector
