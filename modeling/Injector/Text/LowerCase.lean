import Injector.Text.Printable
import Injector.Text.Casing

/-!
# The lower-case form of a text

Every code point has its own form, but for the capital sigma, whose form depends on whether it ends
a word.
-/

set_option autoImplicit false

namespace Injector.Text

def isCased (c : Char) : Bool := inRanges casedRanges c

def isCaseIgnorable (c : Char) : Bool := inRanges caseIgnorableRanges c

/-- The capital I with a dot above is the one code point whose form is two code points. -/
def lowerChar (c : Char) : List Char :=
  if c = '\u0130' then ['i', '\u0307']
  else match caseShifts.find? (·.covers c) with
    | some s => [s.apply c]
    | none => [c]

def letterFollows (cs : List Char) : Bool :=
  match cs.dropWhile isCaseIgnorable with
  | [] => false
  | c :: _ => isCased c

/-- `before` is the text already passed, nearest character first. -/
def lowerFrom (before : List Char) : List Char → List Char
  | [] => []
  | c :: rest =>
    let form :=
      if c = 'Σ' then
        if letterFollows before && !letterFollows rest then ['ς'] else ['σ']
      else lowerChar c
    form ++ lowerFrom (c :: before) rest

def lowerChars (cs : List Char) : List Char := lowerFrom [] cs

end Injector.Text
