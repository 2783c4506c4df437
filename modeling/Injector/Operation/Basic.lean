import Injector.Class.Basic

/-!
# Operations

The calls that a scan makes out of members. An operation has one accessor, a contract that its
callers keep to, and one slot per parameter of the member. A slot is bound at most once.
-/

set_option autoImplicit false

namespace Injector

variable {P : Platform}

/-- The position of an operation in its bean. -/
abbrev OperationId := Nat

inductive AccessMode where
  | construct
  | invoke
  | get
  | set
  /-- Writes a field with a value that is bound like a parameter. -/
  | inject
deriving DecidableEq

def AccessMode.display : AccessMode → String
  | construct => "construct"
  | invoke => "invoke"
  | get => "get"
  | set => "set"
  | inject => "inject"

structure Contract where
  arguments : List TypeKey
  returns : Option TypeKey

inductive Binding (P : Platform) where
  | constant (value : Option P.Datum)
  /-- The argument of the call at this index. -/
  | argument (index : Nat)
  /-- The result of another operation of the bean. -/
  | operation (id : OperationId)
  | service (key : DependencyKey) (party : Party) (required : Bool)

def Binding.kind : Binding P → String
  | constant _ => "constant"
  | argument _ => "argument"
  | operation _ => "operation"
  | service .. => "service"

structure MemberAccessor (P : Platform) where
  accessor : Accessor P
  arity : Nat
  target : String

def MemberAccessor.invoke (a : MemberAccessor P) (args : List (Option P.Datum)) :
    Code P (Option P.Datum) :=
  if args.length = a.arity then a.accessor args
  else Code.done (.error (.arityMismatch a.target a.arity args.length))

structure Slot (P : Platform) where
  parameter : Parameter P
  binding : Option (Binding P) := none

structure Operation (P : Platform) where
  id : OperationId
  declaring : TypeKey
  member : String
  mode : AccessMode
  operator : Party
  accessor : MemberAccessor P
  contract : Contract
  slots : List (Slot P)
  /-- The first argument of a call is the instance that the member belongs to. -/
  receiver : Bool
  /-- The operation that this one makes a value for. -/
  parent : Option OperationId := none

namespace Operation

def params (op : Operation P) : List (Parameter P) := op.slots.map (·.parameter)

def bindings (op : Operation P) : List (Option (Binding P)) := op.slots.map (·.binding)

def binding? (op : Operation P) (index : Nat) : Option (Binding P) :=
  op.slots[index]?.bind (·.binding)

def isComplete (op : Operation P) : Bool := op.slots.all (·.binding.isSome)

def targetOf (declaring : TypeKey) (member : String) (mode : AccessMode) : String :=
  match mode with
  | .construct | .invoke => s!"{declaring.short}::{member}"
  | mode => s!"{declaring.short}.{member} ({mode.display})"

def target (op : Operation P) : String := targetOf op.declaring op.member op.mode

def bind (op : Operation P) (index : Nat) (binding : Binding P) :
    Except Error (Operation P) :=
  match op.slots[index]? with
  | none => .error (.arityMismatch op.target op.slots.length (index + 1))
  | some slot =>
    match slot.binding with
    | some existing => .error (.alreadyBound op.target index existing.kind)
    | none => .ok { op with slots := op.slots.set index { slot with binding := some binding } }

theorem bind_eq_ok {op bound : Operation P} {index : Nat} {binding : Binding P} :
    op.bind index binding = .ok bound ↔
      ∃ slot, op.slots[index]? = some slot ∧ slot.binding = none ∧
        bound = { op with slots := op.slots.set index { slot with binding := some binding } } := by
  unfold bind
  split
  next h => simp [h]
  next slot h =>
    split
    next existing hb => simp [h, hb]
    next hb => simp [h, hb, eq_comm]

theorem params_bind {op bound : Operation P} {index : Nat} {binding : Binding P}
    (h : op.bind index binding = .ok bound) : bound.params = op.params := by
  obtain ⟨slot, hs, -, rfl⟩ := bind_eq_ok.mp h
  apply List.ext_getElem?
  intro i
  simp only [params, List.getElem?_map, List.getElem?_set]
  split
  next hi => subst hi; split <;> simp_all
  next => rfl

theorem binding?_bind {op bound : Operation P} {index : Nat} {binding : Binding P}
    (h : op.bind index binding = .ok bound) (i : Nat) :
    bound.binding? i = if i = index then some binding else op.binding? i := by
  obtain ⟨slot, hs, -, rfl⟩ := bind_eq_ok.mp h
  have hi : index < op.slots.length := (List.getElem?_eq_some_iff.mp hs).1
  by_cases he : i = index
  · subst he; simp [binding?, hi]
  · simp [binding?, he, List.getElem?_set_ne (Ne.symm he)]

/-- Only an unbound slot can be bound. -/
theorem binding?_of_bind {op bound : Operation P} {index : Nat} {binding : Binding P}
    (h : op.bind index binding = .ok bound) : op.binding? index = none := by
  obtain ⟨slot, hs, hb, -⟩ := bind_eq_ok.mp h
  simp [binding?, hs, hb]

/-- Calls the accessor: the receiver comes first, then the values of the parameters, and for a
field that is written the new value. -/
def call (op : Operation P) (args params : List (Option P.Datum)) :
    Code P (Option P.Datum) :=
  let given := if op.mode = .set then [(args[if op.receiver then 1 else 0]?).join] else []
  if op.receiver then
    match args.head?.join with
    | none => Code.done (.error (.nullReceiver op.target))
    | some receiver => op.accessor.invoke (some receiver :: (params ++ given))
  else op.accessor.invoke (params ++ given)

end Operation

end Injector
