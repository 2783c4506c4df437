import Injector.Bean.Name
import Injector.Text.Record

/-!
# Beans and bindings as people read them
-/

set_option autoImplicit false

namespace Injector

variable {P : Platform}

def Binding.inspect : Binding P → String
  | constant none => "Constant(null)"
  | constant (some _) => "Constant(..)"
  | argument index => s!"Argument({index})"
  | operation id => s!"Operation(#{id})"
  | service key party required =>
    Text.record "Service"
      [("key", key.inspect), ("namespace", party.inspect), ("required", Text.truth required)]

def MemberAccessor.inspect (a : MemberAccessor P) : String :=
  Text.record "MemberAccessor" [("target", Text.quoted a.target), ("arity", toString a.arity)]

def Source.inspect : Source P → String
  | construction => "Class"
  | .instance _ => "Instance(..)"
  | absent => "SourceLess"

def Bean.inspect (b : Bean P) : String :=
  Text.record "Bean"
    [("class", b.type.inspect), ("source", b.source.inspect),
     ("installer", b.installer.inspect), ("operations", toString b.operations.size),
     ("scanned", Text.truth b.scanned)]

def describeBinding (names : List (OperationId × String)) : Option (Binding P) → String
  | none => "unbound"
  | some (.constant none) => "null"
  | some (.constant (some _)) => "constant"
  | some (.argument index) => s!"argument {index}"
  | some (.operation id) => "operation " ++ (nameOf names id).getD "?"
  | some (.service key _ _) => s!"service {key.display}"

def describeOperation (names : List (OperationId × String)) (op : Operation P) : String :=
  let name := (nameOf names op.id).getD "?"
  let operator := match op.operator with
    | .application => "application"
    | .extension key => key.type.short
  let bindings := ", ".intercalate (op.bindings.map (describeBinding names))
  s!"#{op.id} {name} [{operator}] ({bindings})"

def Bean.describe (b : Bean P) : String × Bean P :=
  let (names, b) := b.operationNames
  (String.join (s!"bean {b.type.name}" ::
    b.operations.toList.map fun op => "\n  " ++ describeOperation names op), b)

end Injector
