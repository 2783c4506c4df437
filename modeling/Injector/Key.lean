import Injector.Text.TypeName
import Injector.Text.Quoted

/-!
# Keys

A type is known by its identity and carries a name for people; markers, extensions and services are
known by the type behind them. Two keys are equal when their identities are, whatever their names.
-/

set_option autoImplicit false

namespace Injector

inductive Identity where
  | named (path : String)
  | numbered (n : Nat)
deriving DecidableEq

/-- The scalars, which can never be null. -/
def primitiveNames : List String :=
  ["bool", "char", "i8", "i16", "i32", "i64", "i128", "isize",
   "u8", "u16", "u32", "u64", "u128", "usize", "f32", "f64", "()"]

def Identity.isPrimitive : Identity → Bool
  | .named path => primitiveNames.contains path
  | .numbered _ => false

structure TypeKey where
  identity : Identity
  name : String

namespace TypeKey

instance : BEq TypeKey := ⟨fun a b => a.identity == b.identity⟩

def ofName (name : String) : TypeKey := ⟨.named name, name⟩

def short (t : TypeKey) : String := TypeName.shorten t.name
def module (t : TypeKey) : String := TypeName.moduleOf t.name
def package (t : TypeKey) : String := TypeName.packageOf t.name
def isPrimitive (t : TypeKey) : Bool := t.identity.isPrimitive
def inspect (t : TypeKey) : String := s!"TypeKey({t.name})"

theorem beq_iff {a b : TypeKey} : (a == b) = true ↔ a.identity = b.identity := by
  show (a.identity == b.identity) = true ↔ _
  simp

instance : EquivBEq TypeKey where
  rfl := by intro a; simp [beq_iff]
  symm := by intro a b; simp only [beq_iff]; exact Eq.symm
  trans := by intro a b c; simp only [beq_iff]; exact Eq.trans

end TypeKey

structure MarkerKey where
  type : TypeKey

namespace MarkerKey

instance : BEq MarkerKey := ⟨fun a b => a.type == b.type⟩

def name (m : MarkerKey) : String := m.type.name
def module (m : MarkerKey) : String := m.type.module
def display (m : MarkerKey) : String := s!"#[{m.type.short}]"
def inspect (m : MarkerKey) : String := s!"MarkerKey({m.name})"

def inject : MarkerKey := ⟨.ofName "nazar_core::marker::Inject"⟩

instance : EquivBEq MarkerKey where
  rfl := by intro a; exact BEq.refl a.type
  symm := fun h => BEq.symm (α := TypeKey) h
  trans := fun h k => PartialEquivBEq.trans (α := TypeKey) h k

end MarkerKey

/-- An extension that is not installed yet can be made on demand only if its key says so. -/
structure ExtensionKey where
  type : TypeKey
  constructible : Bool

namespace ExtensionKey

instance : BEq ExtensionKey := ⟨fun a b => a.type == b.type⟩

def name (e : ExtensionKey) : String := e.type.name
def module (e : ExtensionKey) : String := e.type.module
def inspect (e : ExtensionKey) : String := s!"ExtensionKey({e.name})"

instance : EquivBEq ExtensionKey where
  rfl := by intro a; exact BEq.refl a.type
  symm := fun h => BEq.symm (α := TypeKey) h
  trans := fun h k => PartialEquivBEq.trans (α := TypeKey) h k

end ExtensionKey

structure DependencyKey where
  type : TypeKey
  name : Option String := none

namespace DependencyKey

instance : BEq DependencyKey := ⟨fun a b => a.type == b.type && a.name == b.name⟩

def withName (d : DependencyKey) (name : String) : DependencyKey := { d with name := some name }

def display (d : DependencyKey) : String :=
  match d.name with
  | none => d.type.name
  | some name => s!"{d.type.name} (name={Text.quoted name})"

def inspect (d : DependencyKey) : String :=
  match d.name with
  | none => s!"DependencyKey({d.type.name})"
  | some name => s!"DependencyKey({d.type.name}, name={Text.quoted name})"

def listed (d : DependencyKey) : String :=
  match d.name with
  | none => d.type.name
  | some name => s!"{d.type.name} (named \"{name}\")"

theorem beq_iff {a b : DependencyKey} :
    (a == b) = true ↔ (a.type == b.type) = true ∧ a.name = b.name := by
  show (a.type == b.type && a.name == b.name) = true ↔ _
  simp

instance : EquivBEq DependencyKey where
  rfl := by intro a; simp [beq_iff]
  symm := by
    intro a b h; rw [beq_iff] at h ⊢
    exact ⟨BEq.symm h.1, h.2.symm⟩
  trans := by
    intro a b c h k; rw [beq_iff] at h k ⊢
    exact ⟨PartialEquivBEq.trans h.1 k.1, h.2.trans k.2⟩

end DependencyKey

/-- Someone who installs beans, owns operations and has a namespace of services: the application
or one extension. -/
inductive Party where
  | application
  | extension (key : ExtensionKey)

namespace Party

def same : Party → Party → Bool
  | application, application => true
  | extension a, extension b => a == b
  | _, _ => false

instance : BEq Party := ⟨same⟩

def display : Party → String
  | application => "application"
  | extension key => s!"extension {key.name}"

def inspect : Party → String
  | application => "Application"
  | extension key => s!"Extension({key.inspect})"

def extension? : Party → Option ExtensionKey
  | application => none
  | extension key => some key

theorem same_refl (a : Party) : same a a = true := by
  cases a with
  | application => rfl
  | extension key => exact BEq.refl key

theorem same_symm {a b : Party} (h : same a b = true) : same b a = true := by
  match a, b, h with
  | application, application, _ => rfl
  | extension _, extension _, h => exact BEq.symm (α := ExtensionKey) h

theorem same_trans {a b c : Party} (h : same a b = true) (k : same b c = true) :
    same a c = true := by
  match a, b, c, h, k with
  | application, application, application, _, _ => rfl
  | extension _, extension _, extension _, h, k =>
    exact PartialEquivBEq.trans (α := ExtensionKey) h k

instance : EquivBEq Party where
  rfl := by intro a; exact same_refl a
  symm := same_symm
  trans := same_trans

end Party

def firstEqual {α : Type} [BEq α] (keys : List α) : List Nat :=
  keys.map fun key => keys.findIdx (· == key)

def distinctCount {α : Type} [BEq α] (keys : List α) : Nat := (firstEqual keys).eraseDups.length

structure Address where
  party : Party
  key : DependencyKey

namespace Address

instance : BEq Address := ⟨fun a b => a.party == b.party && a.key == b.key⟩

theorem beq_iff {a b : Address} :
    (a == b) = true ↔ (a.party == b.party) = true ∧ (a.key == b.key) = true := by
  show (a.party == b.party && a.key == b.key) = true ↔ _
  simp

instance : EquivBEq Address where
  rfl := by intro a; simp [beq_iff]
  symm := by
    intro a b h; rw [beq_iff] at h ⊢
    exact ⟨BEq.symm h.1, BEq.symm h.2⟩
  trans := by
    intro a b c h k; rw [beq_iff] at h k ⊢
    exact ⟨PartialEquivBEq.trans h.1 k.1, PartialEquivBEq.trans h.2 k.2⟩

end Address

end Injector
