import Injector.Settings
import Injector.Text.Json

/-!
# Settings from JSON text

An object names the settings it gives; an array gives them in order. What is not given keeps its
default, and entries of other names are passed over.
-/

set_option autoImplicit false

namespace Injector.Settings

open Json

/-- What an object has given so far; nothing may be given twice. -/
structure Given where
  maxDeferred : Option Nat := none
  allowOverride : Option Bool := none

def Given.settings (g : Given) : Settings where
  maxDeferred := g.maxDeferred.getD 10000
  allowOverride := g.allowOverride.getD false

def readEntry (g : Given) (cs : Input) : Option (Given × Input) := do
  let (name, rest) ← string cs
  let rest ← token ':' rest
  if name = "max_deferred_operations".toList then
    if g.maxDeferred.isSome then none
    else
      let (limit, rest) ← natural rest
      return ({ g with maxDeferred := some limit }, rest)
  else if name = "allow_override".toList then
    if g.allowOverride.isSome then none
    else
      let (allow, rest) ← boolean rest
      return ({ g with allowOverride := some allow }, rest)
  else
    let rest ← skipValue rest.length rest
    return (g, rest)

def readEntries : Nat → Given → Input → Option (Given × Input)
  | 0, _, _ => none
  | fuel + 1, g, cs => do
    let (g, rest) ← readEntry g cs
    match skipBlanks rest with
    | '\x7d' :: rest => some (g, rest)
    | ',' :: rest => readEntries fuel g rest
    | _ => none

def readObject (cs : Input) : Option (Given × Input) :=
  match skipBlanks cs with
  | '\x7d' :: rest => some ({}, rest)
  | _ => readEntries cs.length {} cs

def readArray (cs : Input) : Option (Given × Input) :=
  match skipBlanks cs with
  | ']' :: rest => some ({}, rest)
  | _ => do
    let (limit, rest) ← natural cs
    match skipBlanks rest with
    | ']' :: rest => some (⟨some limit, none⟩, rest)
    | ',' :: rest => do
      let (allow, rest) ← boolean rest
      let rest ← token ']' rest
      return (⟨some limit, some allow⟩, rest)
    | _ => none

def readChars (cs : Input) : Option Settings := do
  let (given, rest) ← match skipBlanks cs with
    | '\x7b' :: rest => readObject rest
    | '[' :: rest => readArray rest
    | _ => none
  match skipBlanks rest with
  | [] => some given.settings
  | _ :: _ => none

def read (text : String) : Option Settings := readChars text.toList

end Injector.Settings
