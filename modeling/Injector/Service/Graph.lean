import Injector.Error
import Injector.Text.Suggestion

/-!
# The graph of services and what they are known to need

Its check finds a cycle, if there is one, by a depth-first walk that keeps the path it came by.
-/

set_option autoImplicit false

namespace Injector

abbrev Graph := List (DependencyKey × List DependencyKey)

namespace Graph

def needs? (g : Graph) (key : DependencyKey) : Option (List DependencyKey) :=
  (g.find? (·.1 == key)).map (·.2)

def nameBefore (a b : DependencyKey) : Bool :=
  match a.name, b.name with
  | none, _ => true
  | some _, none => false
  | some a, some b => decide (a ≤ b)

def before (a b : DependencyKey) : Bool :=
  if a.type.name = b.type.name then nameBefore a b else decide (a.type.name ≤ b.type.name)

def keys (g : Graph) : List DependencyKey := (g.map (·.1)).mergeSort before

/-- A service with all it needs is safe once no way from it leads back. -/
abbrev Check := ExceptT Error (StateM (List DependencyKey))

def unregistered (g : Graph) (path : List DependencyKey) (key : DependencyKey) : Error :=
  .notRegistered key (path.getLast?.map (·.display))
    (Suggestion.suggest key.type.name (g.map (·.1.type.name)) 3)

def cycle (path : List DependencyKey) (key : DependencyKey) : List DependencyKey :=
  path.dropWhile (· != key) ++ [key]

/-- `path` leads to `key`. Its services are distinct, so `depth`, the number of those that may
still be added, is not used up. The state holds what is known to be safe. -/
def visit (g : Graph) : Nat → List DependencyKey → DependencyKey → Check Unit
  | depth, path, key => do
    let safe ← get
    if safe.contains key then return
    else if path.contains key then throw (.circularDependency (cycle path key))
    else
      match g.needs? key with
      | none => throw (unregistered g path key)
      | some needed =>
        match depth with
        | 0 => throw (.circularDependency [key])
        | depth + 1 =>
          needed.forM (visit g depth (path ++ [key]))
          modify fun safe => safe ++ [key]

def check (g : Graph) : Except Error Unit :=
  ((g.keys.forM (g.visit g.length [])).run.run []).1

end Graph

end Injector
