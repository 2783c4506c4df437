import Injector.Proofs.Scan.Licence

/-!
# Who reaches which members

An extension is let at a member of the bean only if the member can be seen by anyone, or its class
is open to the extension, or the extension installed the bean. When it nests an operation in one of
the bean's, nobody asks whether it may reach what that calls.
-/

set_option autoImplicit false

namespace Injector

variable {P : Platform}

inductive Bean.Grants (b : Bean P) (extension : ExtensionKey) (op : Operation P) : Prop
  | construction (constructs : b.Constructs op) (own : b.installer = .extension extension)
  | getter {declared : DeclaredField P} (walked : declared ∈ b.descriptor.fieldWalk)
      (made : op.MadeBy
        (Operation.ofGetter · declared.owner declared.field (.extension extension)))
      (reached : b.installer.MayReach extension declared.owner declared.field.visibility)
  | setter {declared : DeclaredField P} (walked : declared ∈ b.descriptor.fieldWalk)
      (made : op.MadeBy
        (Operation.ofSetter · declared.owner declared.field (.extension extension)))
      (reached : b.installer.MayReach extension declared.owner declared.field.visibility)
  | injection {declared : DeclaredField P} (walked : declared ∈ b.descriptor.fieldWalk)
      (made : op.MadeBy
        (Operation.ofInjection · declared.owner declared.field (.extension extension)))
      (reached : b.installer.MayReach extension declared.owner declared.field.visibility)
  | method {declared : DeclaredMethod P} (walked : declared ∈ b.descriptor.methodWalk)
      (made : op.MadeBy
        (Operation.ofMethod · declared.owner declared.method (.extension extension)))
      (reached : b.installer.MayReach extension declared.owner declared.method.visibility)

/-- An operation with no parent calls a member of the bean, and access was granted to it. -/
theorem Scan.Origin.grants {f : ScanFrame P} {c : Catalog} {events : List (ScanEvent P)}
    {b : Bean P} {op : Operation P} (h : Origin f b.descriptor c events op)
    (installer : f.installer = b.installer) (root : op.parent = none) {extension : ExtensionKey}
    (operator : op.operator = .extension extension) : b.Grants extension op := by
  cases h with
  | @constructor constructor id selected grown =>
    rw [installer] at grown
    have own : op.Own .construct b.installer := Operation.Own.grows ⟨rfl, rfl, rfl⟩ grown
    exact .construction ⟨own, constructor, selected, id, _, rfl, grown⟩
      (own.operator_eq.symm.trans operator)
  | @field m call id made declared marked reached built grown =>
    rw [installer] at reached
    cases call with
    | newGetter =>
      have own := (Operation.own_ofGetter built).grows grown
      obtain rfl : m.context.extension = extension :=
        Party.extension.inj (own.operator_eq.symm.trans operator)
      exact .getter declared ⟨id, made, built, grown⟩ reached
    | newSetter =>
      have own := (Operation.own_ofSetter built).grows grown
      obtain rfl : m.context.extension = extension :=
        Party.extension.inj (own.operator_eq.symm.trans operator)
      exact .setter declared ⟨id, made, built, grown⟩ reached
  | @injection declared target id made walked sole reached built grown =>
    rw [installer] at reached
    have own := (Operation.own_ofInjection built).grows grown
    obtain rfl : target = extension := Party.extension.inj (own.operator_eq.symm.trans operator)
    exact .injection walked ⟨id, made, built, grown⟩ reached
  | @method m id made declared marked reached built grown =>
    rw [installer] at reached
    have own := (Operation.own_ofMethod built).grows grown
    obtain rfl : m.context.extension = extension :=
      Party.extension.inj (own.operator_eq.symm.trans operator)
    exact .method declared ⟨id, made, built, grown⟩ reached
  | @nested r made asked parent operator mode grown =>
    rw [grown.parent_eq, parent] at root
    cases root

namespace Attempt

/-- Whenever the bean can be looked at during the call or after it, each operation of an extension
that stands for itself is one that the extension was granted. -/
def AllGranted (earlier : List (Attempt P)) (a : Attempt P) (b : Bean P) : Prop :=
  ∀ events bean, a.Shows (after earlier b) events bean → ∀ op ∈ bean.operations,
    op.parent = none → ∀ extension, op.operator = .extension extension → bean.Grants extension op

/-- Members of the bean are only reached with a grant, whatever handlers do. -/
theorem allGranted_scan (earlier : List (Attempt P)) (a : Attempt P) (c : ClassDescriptor P)
    (source : Source P) (installer : Party) :
    AllGranted earlier a (.fresh c source installer) := by
  intro events bean shows op ho root extension operator
  obtain ⟨k, -, f, installer, -, origin, -⟩ := entitled_shown earlier shows ho
  exact origin.grants installer root operator

end Attempt

def Method.spareWheel : Method .bare where
  name := "spare_wheel"
  visibility := .declarer
  isStatic := true
  isDefault := false
  params := []
  returns := some ⟨.numbered 1, "Wheel"⟩
  markers := []
  accessor := some fun _ => .done (.ok (some (.numbered 1)))

def ClassDescriptor.shed : ClassDescriptor .bare where
  type := ⟨.numbered 2, "shed::Shed"⟩
  methods := [.spareWheel]

def ExtensionKey.thief : ExtensionKey := ⟨⟨.numbered 3, "thief::Thief"⟩, true⟩

def Handler.thieving : Handler .bare :=
  { Handler.idle with
    onBinding := fun _ memory world =>
      .ask (.bindFactory .shed .spareWheel) fun _ => .done (.ok (), memory, world) }

def Deployment.robbed : Deployment .bare where
  world := ()
  container :=
    { settings := {}
      services := []
      catalog := { typeHooks := [(⟨.numbered 1, "Wheel"⟩, .thief)] }
      extensions := []
      make := fun _ world => (⟨"thief", fun world => (.thieving, world)⟩, world) }

/-- With a parent it is otherwise: the application's cart has an operation by which the thief calls
a method that the thief may not reach. -/
theorem Deployment.reaches_spareWheel :
    (robbed.scan (.fresh .cart .construction .application) none).1.1.isOk = true ∧
      (robbed.scan (.fresh .cart .construction .application) none).1.2.operations.any (fun op =>
        op.declaring == ClassDescriptor.shed.type && op.member == Method.spareWheel.name &&
          op.operator == .extension .thief) = true ∧
      ¬ Party.application.MayReach .thief .shed Method.spareWheel.visibility := by
  refine ⟨by decide +kernel, by decide +kernel, ?_⟩
  rintro (seen | isOpen | own)
  · cases seen
  · exact absurd isOpen (by decide)
  · cases own

end Injector
