import Injector.Scenario.Rounding

/-!
# What plain values hold

A value holds what its type has room for: what is written for it is fitted to the type, and what is
not written is false, zero or empty.
-/

set_option autoImplicit false

namespace Injector.Scenario

inductive Content where
  | nothing
  | truth (value : Bool)
  | whole (value : Int)
  | text (value : String)
  | items (values : List Int)
deriving DecidableEq

inductive Shape where
  | unit
  | truth
  | whole
  /-- So many binary digits and an exponent. -/
  | floating (digits : Nat)
  | letter
  | text
  | optional
  | list
  | pair
deriving DecidableEq

def wholeTypes : List String :=
  ["i8", "i16", "i32", "i64", "i128", "isize", "u8", "u16", "u32", "u64", "u128", "usize",
   "core::time::Duration"]

def Shape.ofType (type : String) : Shape :=
  if wholeTypes.contains type then whole
  else if type = "f32" then floating 24
  else if type = "f64" then floating 53
  else if type = "bool" then truth
  else if type = "char" then letter
  else if type = "()" then unit
  else if type = "core::option::Option<i32>" then optional
  else if type = "alloc::vec::Vec<u8>" then list
  else if type = "(i32, i32)" then pair
  else text

def Shape.isNumber : Shape → Bool
  | whole => true
  | floating _ => true
  | _ => false

namespace Content

def truthOf : Content → Bool
  | truth value => value
  | _ => false

def wholeOf : Content → Int
  | whole value => value
  | _ => 0

def textOf : Content → String
  | text value => value
  | _ => ""

def itemsOf : Content → List Int
  | items values => values
  | _ => []

def letterOf (c : Content) : Char := c.textOf.toList.headD '\x00'

def fitted (c : Content) : Shape → Content
  | .unit => nothing
  | .truth => truth c.truthOf
  | .whole => whole c.wholeOf
  | .floating digits => whole (roundTo digits c.wholeOf)
  | .letter => text (String.singleton c.letterOf)
  | .text => text c.textOf
  | .optional => if c = nothing then nothing else whole c.wholeOf
  | .list => items c.itemsOf
  | .pair => items [c.itemsOf.getD 0 0, c.itemsOf.getD 1 0]

/-- Floating-point numbers are shown as whole numbers of 64 bits. -/
def shown (c : Content) : Shape → Content
  | .floating _ => whole (clampSigned c.wholeOf)
  | _ => c

end Content

end Injector.Scenario
