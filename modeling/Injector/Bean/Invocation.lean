import Injector.Bean.Basic
import Injector.Service.Live

/-!
# Running an operation

The value of each parameter comes from its binding, nested operations are run with the arguments of
the same call, and then the accessor is called.
-/

set_option autoImplicit false

namespace Injector

variable {P : Platform}

def resolveOptional (resolve : Resolver P) (party : Party) (key : DependencyKey) :
    Run P (Option P.Datum) := fun live =>
  match resolve party key live with
  | (.ok value, live) => (.ok (some value), live)
  | (.error e, live) =>
    if e.isNotRegistered || e.isCircular then (.ok none, live) else (.error e, live)

namespace Bean

def parameterValue (resolve : Resolver P) (nested : OperationId → Run P (Option P.Datum))
    (op : Operation P) (args : List (Option P.Datum)) (index : Nat) :
    Option (Binding P) → Run P (Option P.Datum)
  | none => throw (.invocationFailed op.target s!"parameter {index} is not bound")
  | some (.constant value) => return value
  | some (.argument argument) => return (args[argument]?).join
  | some (.operation id) => nested id
  | some (.service key party true) => do
    let value ← resolve party key
    return some value
  | some (.service key party false) => resolveOptional resolve party key

def parameterValues (resolve : Resolver P) (nested : OperationId → Run P (Option P.Datum))
    (op : Operation P) (args : List (Option P.Datum)) :
    Nat → List (Option (Binding P)) → Run P (List (Option P.Datum))
  | _, [] => return []
  | index, binding :: rest => do
    let value ← parameterValue resolve nested op args index binding
    let values ← parameterValues resolve nested op args (index + 1) rest
    return value :: values

/-- An operation nests operations made after it, so `depth` need not exceed their number. -/
def invokeWithin (b : Bean P) (resolve : Resolver P) :
    Nat → OperationId → List (Option P.Datum) → Run P (Option P.Datum)
  | 0, id, _ => throw (.unknownOperation b.type id)
  | depth + 1, id, args =>
    match b.operation? id with
    | none => throw (.unknownOperation b.type id)
    | some op =>
      if args.length = op.contract.arguments.length then do
        let params ← parameterValues resolve
          (fun nested => invokeWithin b resolve depth nested args) op args 0 op.bindings
        (op.call args params).run resolve
      else throw (.arityMismatch op.target op.contract.arguments.length args.length)

def invoke (b : Bean P) (resolve : Resolver P) (id : OperationId)
    (args : List (Option P.Datum)) : Run P (Option P.Datum) :=
  b.invokeWithin resolve (b.operations.size + 1) id args

def instantiate (b : Bean P) (resolve : Resolver P) : Run P P.Datum :=
  match b.source with
  | .instance value => return value
  | .absent => throw (.noEligibleConstructor b.type "the bean has no source")
  | .construction =>
    match b.constructor? with
    | none => throw (.noEligibleConstructor b.type "the bean has not been scanned")
    | some op => do
      match ← b.invoke resolve op.id (op.contract.arguments.map fun _ => none) with
      | some value => return value
      | none => throw (.invocationFailed op.target "constructor returned null")

def requiredService : Binding P → Option DependencyKey
  | .service key .application true => some key
  | _ => none

def nestedOperation : Binding P → Option OperationId
  | .operation id => some id
  | _ => none

def addNew (found : List DependencyKey) (key : DependencyKey) : List DependencyKey :=
  if found.contains key then found else found ++ [key]

/-- Visits the operations that wait, the last one first, and those nested in them. -/
def collectDependencies (b : Bean P) :
    Nat → List OperationId → List DependencyKey → List DependencyKey
  | 0, _, found => found
  | _ + 1, [], found => found
  | visits + 1, id :: waiting, found =>
    match b.operation? id with
    | none => collectDependencies b visits waiting found
    | some op =>
      let bindings := op.bindings.filterMap fun binding => binding
      collectDependencies b visits ((bindings.filterMap nestedOperation).reverse ++ waiting)
        ((bindings.filterMap requiredService).foldl addNew found)

def serviceDependencies (b : Bean P) : List DependencyKey :=
  match b.constructor? with
  | none => []
  | some op => b.collectDependencies b.operations.size [op.id] []

end Bean

end Injector
