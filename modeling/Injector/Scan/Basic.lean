import Injector.Scan.Match

/-!
# Scanning a bean

The constructor is resolved first, then fields and methods are matched, and then everything that was
made meanwhile is resolved.
-/

set_option autoImplicit false

namespace Injector

variable {P : Platform}

namespace Scan

/-- The markers on the class itself only have to be valid. -/
def checkClassMarkers (f : ScanFrame P) (c : ClassDescriptor P) : ScanM P Unit :=
  c.markers.forM fun marker => discard (hookOf f marker)

def scanConstructor (f : ScanFrame P) (c : ClassDescriptor P) : ScanM P Unit := do
  let constructor ← (c.selectConstructor : Except Error (Constructor P))
  discard (append (Operation.ofConstructor (← nextId) c constructor f.installer none))
  drain f

def scanMembers (f : ScanFrame P) (c : ClassDescriptor P) : ScanM P Unit := do
  c.fieldWalk.forM (matchField f)
  c.methodWalk.forM (matchMethod f)
  drain f

def scanWith (f : ScanFrame P) (bean : Bean P) : ScanM P Unit := do
  checkClassMarkers f bean.descriptor
  if bean.source.isConstruction then scanConstructor f bean.descriptor
  scanMembers f bean.descriptor
  finish (← get).contributors
  modify fun s => { s with bean := { s.bean with scanned := true } }

def scanBean (host : Host P) : ScanM P Unit := do
  let bean := (← get).bean
  if bean.scanned then throw (.alreadyScanned bean.type)
  else
    let model ← withCatalog fun w => Catalog.modelFor w bean.descriptor
    scanWith ⟨host, model, bean.type, bean.installer⟩ bean

end Scan

end Injector
