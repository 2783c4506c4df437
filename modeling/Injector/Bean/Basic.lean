import Injector.Operation.Member

/-!
# Beans

A class, where its instance comes from, and the operations that scans made for it. An operation's id
is its position.
-/

set_option autoImplicit false

namespace Injector

variable {P : Platform}

inductive Source (P : Platform) where
  /-- The constructor of its class. -/
  | construction
  | instance (value : P.Datum)
  /-- There is none; only static members can be used. -/
  | absent

def Source.isConstruction : Source P → Bool
  | construction => true
  | _ => false

structure Bean (P : Platform) where
  descriptor : ClassDescriptor P
  source : Source P
  installer : Party
  operations : Array (Operation P) := #[]
  scanned : Bool := false
  /-- The names given to the operations when they were last asked for. -/
  names : Option (List (OperationId × String)) := none

namespace Bean

def type (b : Bean P) : TypeKey := b.descriptor.type

def ofClass (c : ClassDescriptor P) : Bean P := ⟨c, .construction, .application, #[], false, none⟩

def operation? (b : Bean P) (id : OperationId) : Option (Operation P) := b.operations[id]?

def constructor? (b : Bean P) : Option (Operation P) :=
  b.operations.find? fun op => op.mode == .construct && op.parent.isNone

def children (b : Bean P) (id : OperationId) : List OperationId :=
  (b.operations.toList.filter (·.parent == some id)).map (·.id)

def append (b : Bean P) (op : Operation P) : Bean P :=
  { b with operations := b.operations.push op }

theorem operation?_append (b : Bean P) (op : Operation P) (id : OperationId) :
    (b.append op).operation? id =
      if id = b.operations.size then some op else b.operation? id := by
  simp [operation?, append, Array.getElem?_push]

theorem children_append (b : Bean P) (op : Operation P) (id : OperationId) :
    (b.append op).children id = b.children id ++ if op.parent = some id then [op.id] else [] := by
  by_cases h : op.parent = some id <;> simp [children, append, h]

end Bean

end Injector
