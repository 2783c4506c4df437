/-!
# Reading JSON text strictly

Readers take the text that is left and give back what they read and the rest; they fail on anything
that the format does not allow.
-/

set_option autoImplicit false

namespace Injector.Json

abbrev Input := List Char

def skipBlanks (cs : Input) : Input :=
  cs.dropWhile fun c => c == ' ' || c == '\n' || c == '\r' || c == '\t'

def literal : List Char → Input → Option Input
  | [], cs => some cs
  | w :: word, c :: cs => if w = c then literal word cs else none
  | _ :: _, [] => none

def token (c : Char) (cs : Input) : Option Input := literal [c] (skipBlanks cs)

def hexDigit? (c : Char) : Option Nat :=
  if c.isDigit then some (c.toNat - '0'.toNat)
  else if 'a' ≤ c ∧ c ≤ 'f' then some (c.toNat - 'a'.toNat + 10)
  else if 'A' ≤ c ∧ c ≤ 'F' then some (c.toNat - 'A'.toNat + 10)
  else none

def codeUnit : Input → Option (Nat × Input)
  | a :: b :: c :: d :: rest => do
    let a ← hexDigit? a
    let b ← hexDigit? b
    let c ← hexDigit? c
    let d ← hexDigit? d
    return (((a * 16 + b) * 16 + c) * 16 + d, rest)
  | _ => none

def simpleEscape? : Char → Option Char
  | '"' => some '"'
  | '\\' => some '\\'
  | '/' => some '/'
  | 'b' => some '\x08'
  | 'f' => some '\x0c'
  | 'n' => some '\n'
  | 'r' => some '\r'
  | 't' => some '\t'
  | _ => none

def isLeading (unit : Nat) : Bool := 0xd800 ≤ unit && unit < 0xdc00

def isTrailing (unit : Nat) : Bool := 0xdc00 ≤ unit && unit < 0xe000

/-- The character written as one or two code units. A surrogate counts in pairs only. -/
def escapedCodePoint (cs : Input) : Option (Char × Input) := do
  let (unit, rest) ← codeUnit cs
  if isTrailing unit then none
  else if isLeading unit then
    match rest with
    | '\\' :: 'u' :: rest => do
      let (second, rest) ← codeUnit rest
      if isTrailing second then
        some (Char.ofNat (0x10000 + (unit - 0xd800) * 0x400 + (second - 0xdc00)), rest)
      else none
    | _ => none
  else some (Char.ofNat unit, rest)

def escape : Input → Option (Char × Input)
  | 'u' :: rest => escapedCodePoint rest
  | c :: rest => (simpleEscape? c).map fun c => (c, rest)
  | [] => none

def stringBody : Nat → Input → Option (List Char × Input)
  | 0, _ => none
  | _ + 1, [] => none
  | _ + 1, '"' :: rest => some ([], rest)
  | fuel + 1, '\\' :: rest => do
    let (c, rest) ← escape rest
    let (text, rest) ← stringBody fuel rest
    return (c :: text, rest)
  | fuel + 1, c :: rest =>
    if c.toNat < 0x20 then none
    else do
      let (text, rest) ← stringBody fuel rest
      return (c :: text, rest)

def string (cs : Input) : Option (List Char × Input) := do
  let rest ← token '"' cs
  stringBody (rest.length + 1) rest

/-- What a skipped escape may be; surrogates need not be paired. -/
def skipEscape : Input → Option Input
  | 'u' :: rest => (codeUnit rest).map (·.2)
  | c :: rest => (simpleEscape? c).map fun _ => rest
  | [] => none

def skipStringBody : Nat → Input → Option Input
  | 0, _ => none
  | _ + 1, [] => none
  | _ + 1, '"' :: rest => some rest
  | fuel + 1, '\\' :: rest => do skipStringBody fuel (← skipEscape rest)
  | fuel + 1, c :: rest => if c.toNat < 0x20 then none else skipStringBody fuel rest

def skipString (cs : Input) : Option Input := do
  let rest ← token '"' cs
  skipStringBody (rest.length + 1) rest

def digits (cs : Input) : Option (List Char × Input) :=
  match cs.takeWhile Char.isDigit with
  | [] => none
  | found => some (found, cs.dropWhile Char.isDigit)

def wholePart (cs : Input) : Option (List Char × Input) :=
  match cs with
  | '0' :: c :: rest => if c.isDigit then none else some (['0'], c :: rest)
  | _ => digits cs

def skipFraction : Input → Option Input
  | '.' :: rest => (digits rest).map (·.2)
  | cs => some cs

def skipSign : Input → Input
  | '+' :: rest => rest
  | '-' :: rest => rest
  | cs => cs

def skipExponent : Input → Option Input
  | 'e' :: rest => (digits (skipSign rest)).map (·.2)
  | 'E' :: rest => (digits (skipSign rest)).map (·.2)
  | cs => some cs

def skipNumber (cs : Input) : Option Input := do
  let (_, rest) ← wholePart cs
  skipExponent (← skipFraction rest)

mutual

/-- Passes over any value. Every nested value is shorter, so `fuel` can be the length. -/
def skipValue : Nat → Input → Option Input
  | 0, _ => none
  | fuel + 1, cs =>
    match skipBlanks cs with
    | 'n' :: rest => literal "ull".toList rest
    | 't' :: rest => literal "rue".toList rest
    | 'f' :: rest => literal "alse".toList rest
    | '"' :: rest => skipStringBody (rest.length + 1) rest
    | '[' :: rest =>
      match skipBlanks rest with
      | ']' :: rest => some rest
      | rest => skipItems fuel rest
    | '\x7b' :: rest =>
      match skipBlanks rest with
      | '\x7d' :: rest => some rest
      | rest => skipEntries fuel rest
    | '-' :: rest => skipNumber rest
    | rest => skipNumber rest

def skipItems : Nat → Input → Option Input
  | 0, _ => none
  | fuel + 1, cs => do
    match skipBlanks (← skipValue fuel cs) with
    | ']' :: rest => some rest
    | ',' :: rest => skipItems fuel rest
    | _ => none

def skipEntries : Nat → Input → Option Input
  | 0, _ => none
  | fuel + 1, cs => do
    let rest ← token ':' (← skipString cs)
    match skipBlanks (← skipValue fuel rest) with
    | '\x7d' :: rest => some rest
    | ',' :: rest => skipEntries fuel rest
    | _ => none

end

def decimal (digits : List Char) : Nat :=
  digits.foldl (fun n c => n * 10 + (c.toNat - '0'.toNat)) 0

/-- A number without sign, fraction or exponent that fits 64 bits. -/
def natural (cs : Input) : Option (Nat × Input) := do
  let (found, rest) ← wholePart (skipBlanks cs)
  let continues := match rest with
    | c :: _ => c == '.' || c == 'e' || c == 'E'
    | [] => false
  if continues || 0xffffffffffffffff < decimal found then none else some (decimal found, rest)

def boolean (cs : Input) : Option (Bool × Input) :=
  match skipBlanks cs with
  | 't' :: rest => (literal "rue".toList rest).map fun rest => (true, rest)
  | 'f' :: rest => (literal "alse".toList rest).map fun rest => (false, rest)
  | _ => none

end Injector.Json
