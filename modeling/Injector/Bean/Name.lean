import Std.Data.HashSet
import Injector.Bean.Basic

/-!
# Names of operations, for people

The name follows the member; an operation whose name is taken gets the first free number after it.
Main statement: names once given stay, however many operations follow.
-/

set_option autoImplicit false

namespace Injector

variable {P : Platform}

def Operation.baseName (op : Operation P) : String :=
  match op.mode with
  | .construct => "new"
  | .invoke => op.member
  | .get => s!"get_{op.member}"
  | .set => s!"set_{op.member}"
  | .inject => s!"inject_{op.member}"

def numberedName (base : String) : Nat → String
  | 0 => base
  | n + 1 => s!"{base}#{n + 2}"

def firstFreeName (used : Std.HashSet String) (base : String) : Nat → Nat → String
  | 0, n => numberedName base n
  | tries + 1, n =>
    if used.contains (numberedName base n) then firstFreeName used base tries (n + 1)
    else numberedName base n

/-- As many forms as there are names used cannot all be used unless no further one is. -/
def freshName (used : Std.HashSet String) (base : String) : String :=
  firstFreeName used base used.size 0

def assignNamesFrom (used : Std.HashSet String) :
    List (Operation P) → List (OperationId × String)
  | [] => []
  | op :: rest =>
    let name := freshName used op.baseName
    (op.id, name) :: assignNamesFrom (used.insert name) rest

def assignNames (ops : List (Operation P)) : List (OperationId × String) := assignNamesFrom {} ops

def usedAfter (used : Std.HashSet String) : List (Operation P) → Std.HashSet String
  | [] => used
  | op :: rest => usedAfter (used.insert (freshName used op.baseName)) rest

theorem assignNamesFrom_append (used : Std.HashSet String) (ops rest : List (Operation P)) :
    assignNamesFrom used (ops ++ rest) =
      assignNamesFrom used ops ++ assignNamesFrom (usedAfter used ops) rest := by
  induction ops generalizing used with
  | nil => rfl
  | cons op ops ih => simp [assignNamesFrom, usedAfter, ih]

theorem length_assignNamesFrom (used : Std.HashSet String) (ops : List (Operation P)) :
    (assignNamesFrom used ops).length = ops.length := by
  induction ops generalizing used with
  | nil => rfl
  | cons op ops ih => simp [assignNamesFrom, ih]

namespace Bean

/-- The names, kept until there are more operations. -/
def operationNames (b : Bean P) : List (OperationId × String) × Bean P :=
  match b.names with
  | some names =>
    if names.length = b.operations.size then (names, b)
    else
      let names := assignNames b.operations.toList
      (names, { b with names := some names })
  | none =>
    let names := assignNames b.operations.toList
    (names, { b with names := some names })

end Bean

def nameOf (names : List (OperationId × String)) (id : OperationId) : Option String :=
  (names.find? (·.1 == id)).map (·.2)

end Injector
