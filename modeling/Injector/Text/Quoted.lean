import Injector.Text.Printable

/-!
# Quoted text as diagnostics show it

A character is written as itself, as a short escape, or as its code point in hexadecimal between
braces.
-/

set_option autoImplicit false

namespace Injector.Text

def hexDigits (n : Nat) : List Char := Nat.toDigits 16 n

def codePointEscape (c : Char) : List Char :=
  ['\\', 'u', '\x7b'] ++ hexDigits c.toNat ++ ['\x7d']

/-- A mark that would attach to the quote or character before it is written as a code point,
even where it is printable. -/
def escapeChar (c : Char) : List Char :=
  match c with
  | '"' => ['\\', '"']
  | '\\' => ['\\', '\\']
  | '\n' => ['\\', 'n']
  | '\r' => ['\\', 'r']
  | '\t' => ['\\', 't']
  | '\x00' => ['\\', '0']
  | c => if extendsGrapheme c || !isPrintable c then codePointEscape c else [c]

def quoteChars (cs : List Char) : List Char :=
  '"' :: cs.flatMap escapeChar ++ ['"']

def quoted (s : String) : String :=
  String.ofList (quoteChars s.toList)

end Injector.Text
