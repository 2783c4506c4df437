/-!
# Names of types

A name is a path whose segments are separated by two colons; arguments, tuples, slices and
references put further paths between delimiters. Shortening keeps the delimiters and of every path
its last segment.
-/

set_option autoImplicit false

namespace Injector.TypeName

def isDelimiter (c : Char) : Bool :=
  c == '<' || c == '>' || c == ',' || c == ' ' || c == '(' || c == ')' ||
    c == '[' || c == ']' || c == '&'

/-- `segment` is the part of the current path that a separator would still drop. -/
def shortenFrom (segment : List Char) : List Char → List Char
  | [] => segment
  | ':' :: ':' :: rest => shortenFrom [] rest
  | c :: rest =>
    if isDelimiter c then segment ++ c :: shortenFrom [] rest
    else shortenFrom (segment ++ [c]) rest

def shortenChars (cs : List Char) : List Char := shortenFrom [] cs

def shorten (name : String) : String := String.ofList (shortenChars name.toList)

def outerPath (cs : List Char) : List Char := cs.takeWhile (· != '<')

def beforeFirstSeparator : List Char → Option (List Char)
  | [] => none
  | ':' :: ':' :: _ => some []
  | c :: rest => (beforeFirstSeparator rest).map (c :: ·)

def beforeLastSeparator : List Char → Option (List Char)
  | [] => none
  | c :: rest =>
    match beforeLastSeparator rest with
    | some path => some (c :: path)
    | none => if c = ':' ∧ rest.head? = some ':' then some [] else none

/-- The deployable unit a type belongs to: the first segment of its path, empty for a type
that lives in none. -/
def moduleOf (name : String) : String :=
  String.ofList ((beforeFirstSeparator (outerPath name.toList)).getD [])

def packageOf (name : String) : String :=
  String.ofList ((beforeLastSeparator (outerPath name.toList)).getD [])

def renderChain (names : List String) : String := " → ".intercalate names

end Injector.TypeName
