import Injector.Scan.State

/-!
# The part extensions take in a scan

An extension is activated when something first leads to it; its handler is told when the scan starts
and when it ends, and answers what comes between.
-/

set_option autoImplicit false

namespace Injector

variable {P : Platform}

namespace Scan

/-- The preset handler serves only the extension that installed the bean; any other gets a fresh
one. -/
def takeHandler (fullAccess : Bool) (extension : Extension P) : ScanM P (Handler P × Bool) := do
  let s ← get
  match fullAccess, s.preset with
  | true, some handler =>
    set { s with preset := none }
    return (handler, true)
  | _, _ =>
    let (handler, world) := extension.newHandler s.world
    set { s with world }
    return (handler, false)

def install (f : ScanFrame P) (key : ExtensionKey) : ScanM P (Extension P) := do
  let s ← get
  let (extension, extensions, world) ←
    (f.host.make.obtain key s.extensions s.world :
      Except Error (Extension P × Extensions P × P.World))
  set { s with extensions, world }
  return extension

def settle (result : Except Error Unit) : ScanM P Unit := do
  record (.replied result)
  result

def start (f : ScanFrame P) (key : ExtensionKey) : ScanM P (Contributor P) := do
  let extension ← install f key
  let fullAccess := f.installer == .extension key
  let (handler, preset) ← takeHandler fullAccess extension
  let context : ScanContext := ⟨f.beanType, key, f.installer, fullAccess⟩
  record (.started context preset)
  let s ← get
  let (result, memory, world) := handler.onStart context handler.memory s.world
  close (.made ⟨key, handler, context⟩ (.started context preset) s (result, memory, world)) world
  settle result
  let contributor : Contributor P := ⟨key, { handler with memory }, context⟩
  modify fun s => { s with contributors := s.contributors ++ [contributor] }
  return contributor

def activate (f : ScanFrame P) (key : ExtensionKey) : ScanM P (Contributor P) := do
  match (← get).contributors.find? (·.key == key) with
  | some contributor => return contributor
  | none => start f key

def remember (c : Contributor P) (memory : P.Memory) (cs : List (Contributor P)) :
    List (Contributor P) :=
  cs.map fun other =>
    if other.key == c.key then { other with handler := { other.handler with memory } } else other

/-- Answers a call, after which the handler can look at the bean again. -/
def answerSeen {Q : Type} {R : Q → Type} (answer : (question : Q) → StateM (Scan P) (R question))
    (question : Q) : StateM (Scan P) (R question) := do
  let reply ← answer question
  observe
  return reply

def converse {Q : Type} {R : Q → Type} (c : Contributor P) (shown : ScanEvent P)
    (callback : P.Memory → P.World → Dialog Q R (Outcome P))
    (answer : (question : Q) → StateM (Scan P) (R question)) : ScanM P Unit := do
  let s ← get
  let dialog := callback c.handler.memory s.world
  (observe : StateM (Scan P) Unit)
  let (result, memory, world) ← (dialog.run (answerSeen answer) : StateM (Scan P) (Outcome P))
  close (.made c shown s (result, memory, world)) world
  modify fun s => { s with contributors := remember c memory s.contributors }
  settle result

def finish : List (Contributor P) → ScanM P Unit
  | [] => return
  | c :: rest => do
    record (.ended c.context)
    let s ← get
    let (result, memory, world) := c.handler.onEnd c.context c.handler.memory s.world
    close (.made c (.ended c.context) s (result, memory, world)) world
    settle result
    finish rest

end Scan

end Injector
