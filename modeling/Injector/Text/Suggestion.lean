import Injector.Text.LowerCase
import Injector.Text.TypeName

/-!
# Names that a mistyped name may have meant

Names match by containment of the whole names, else of the shortened names, else by a common start
of the shortened names, all in lower case.
-/

set_option autoImplicit false

namespace Injector.Suggestion

inductive Match where
  | wholeName
  | shortName
  | commonStart (length : Nat)
deriving DecidableEq

/-- Three characters in common are the least that counts as a common start. -/
def Match.score : Match → Nat
  | .wholeName => 100
  | .shortName => 80
  | .commonStart length => length * 10

def hasInfix (part : List Char) : List Char → Bool
  | [] => part.isEmpty
  | c :: rest => part.isPrefixOf (c :: rest) || hasInfix part rest

theorem hasInfix_iff (part cs : List Char) : hasInfix part cs = true ↔ part <:+: cs := by
  induction cs with
  | nil => simp [hasInfix]
  | cons c rest ih => simp [hasInfix, ih, List.infix_cons_iff]

def eitherContains (a b : List Char) : Bool := hasInfix a b || hasInfix b a

def commonStart : List Char → List Char → Nat
  | a :: as, b :: bs => if a = b then commonStart as bs + 1 else 0
  | _, _ => 0

def matchNames (requested available : String) : Option Match :=
  let requestedShort := Text.lowerChars (TypeName.shortenChars requested.toList)
  let availableShort := Text.lowerChars (TypeName.shortenChars available.toList)
  if eitherContains (Text.lowerChars requested.toList) (Text.lowerChars available.toList) then
    some .wholeName
  else if eitherContains requestedShort availableShort then some .shortName
  else
    let length := commonStart availableShort requestedShort
    if 3 ≤ length then some (.commonStart length) else none

def candidates (requested : String) (available : List String) : List (String × Match) :=
  (available.filter (· != requested)).filterMap fun name =>
    (matchNames requested name).map fun found => (name, found)

/-- Best first; names of one score keep their order. -/
def suggest (requested : String) (available : List String) (limit : Nat) : List String :=
  (((candidates requested available).mergeSort
    fun a b => decide (b.2.score ≤ a.2.score)).take limit).map (·.1)

end Injector.Suggestion
