import Injector.Class.Basic

/-!
# Supertypes and members

The supertypes of a class, and the walks over its members. Fields are walked from the root class
down; methods are walked from the class up, an override hiding what it overrides.
-/

set_option autoImplicit false

namespace Injector

variable {P : Platform}

namespace ClassDescriptor

mutual

def levels : ClassDescriptor P → List (ClassDescriptor P)
  | ⟨body, superclass, interfaces⟩ =>
    ⟨body, superclass, interfaces⟩ :: levelsAbove superclass

def levelsAbove : Option (ClassDescriptor P) → List (ClassDescriptor P)
  | none => []
  | some superclass => levels superclass

end

theorem levels_eq (c : ClassDescriptor P) : c.levels = c :: levelsAbove c.superclass := by
  cases c with | mk body superclass interfaces => rw [levels]

theorem self_mem_levels (c : ClassDescriptor P) : c ∈ c.levels := by simp [levels_eq]

mutual

def addInterface : ClassDescriptor P → List (ClassDescriptor P) → List (ClassDescriptor P)
  | ⟨body, superclass, interfaces⟩, found =>
    if found.any (·.type == body.type) then found
    else addInterfaces interfaces (found ++ [⟨body, superclass, interfaces⟩])

def addInterfaces : List (ClassDescriptor P) → List (ClassDescriptor P) →
    List (ClassDescriptor P)
  | [], found => found
  | i :: rest, found => addInterfaces rest (addInterface i found)

end

def allInterfaces (c : ClassDescriptor P) : List (ClassDescriptor P) :=
  c.levels.foldl (fun found level => addInterfaces level.interfaces found) []

end ClassDescriptor

structure DeclaredField (P : Platform) where
  owner : ClassDescriptor P
  field : Field P

structure DeclaredMethod (P : Platform) where
  owner : ClassDescriptor P
  method : Method P

namespace DeclaredMethod

def signature (m : DeclaredMethod P) : Signature := m.method.signature

def isOffered (m : DeclaredMethod P) : Bool :=
  m.method.visibility == .anyone && m.method.isDefault && !m.method.isStatic

def firsts (seen : List Signature) : List (DeclaredMethod P) → List (DeclaredMethod P)
  | [] => []
  | m :: rest =>
    if seen.contains m.signature then firsts seen rest
    else m :: firsts (m.signature :: seen) rest

/-- Of methods that are not public, keeps those that nothing hides: a method seen publicly hides
all but private ones, a protected one the protected and package ones after it, and one visible
in its package the later ones of the same package. -/
def unhidden (hidden : List Signature) (guarded : List Signature)
    (packaged : List (String × Signature)) : List (DeclaredMethod P) → List (DeclaredMethod P)
  | [] => []
  | m :: rest =>
    match m.method.visibility with
    | .anyone => unhidden hidden guarded packaged rest
    | .declarer => m :: unhidden hidden guarded packaged rest
    | .subclasses =>
      if hidden.contains m.signature || guarded.contains m.signature then
        unhidden hidden guarded packaged rest
      else m :: unhidden hidden (m.signature :: guarded) packaged rest
    | .package =>
      if hidden.contains m.signature || guarded.contains m.signature ||
          packaged.contains (m.owner.package, m.signature) then
        unhidden hidden guarded packaged rest
      else m :: unhidden hidden guarded ((m.owner.package, m.signature) :: packaged) rest

end DeclaredMethod

namespace ClassDescriptor

def declaredFields (c : ClassDescriptor P) : List (DeclaredField P) :=
  c.fields.map fun f => ⟨c, f⟩

def declaredMethods (c : ClassDescriptor P) : List (DeclaredMethod P) :=
  c.methods.map fun m => ⟨c, m⟩

def fieldWalk (c : ClassDescriptor P) : List (DeclaredField P) :=
  c.levels.reverse.flatMap declaredFields

/-- Static methods are not inherited. -/
def inheritedMethods (c : ClassDescriptor P) : List (DeclaredMethod P) :=
  (levelsAbove c.superclass).flatMap fun level =>
    level.declaredMethods.filter (!·.method.isStatic)

def classMethods (c : ClassDescriptor P) : List (DeclaredMethod P) :=
  c.declaredMethods ++ c.inheritedMethods

def publicMethods (c : ClassDescriptor P) : List (DeclaredMethod P) :=
  DeclaredMethod.firsts [] (c.classMethods.filter (·.method.visibility == .anyone))

def offeredMethods (c : ClassDescriptor P) : List (DeclaredMethod P) :=
  DeclaredMethod.firsts (c.publicMethods.map (·.signature))
    ((c.allInterfaces.flatMap declaredMethods).filter (·.isOffered))

def reservedMethods (c : ClassDescriptor P) : List (DeclaredMethod P) :=
  DeclaredMethod.unhidden ((c.publicMethods ++ c.offeredMethods).map (·.signature)) [] []
    c.classMethods

def methodWalk (c : ClassDescriptor P) : List (DeclaredMethod P) :=
  c.publicMethods ++ c.offeredMethods ++ c.reservedMethods

end ClassDescriptor

end Injector
