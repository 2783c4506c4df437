import Injector.Proofs.Scan.Handed
import Injector.Proofs.Scan.Licence
import Injector.Proofs.Scan.Talk

/-!
# What a call of a handler does to the scan

All that is checked is checked before anything changes, so a call that fails leaves the scan as it
was; one that binds a slot sets that slot, adds the operation that makes the value if there is one,
and is the last that succeeds on the slot.
-/

set_option autoImplicit false

namespace Injector

variable {P : Platform}

namespace SlotCall

def binds : SlotCall P → Bool
  | isBound => false
  | _ => true

def nests : SlotCall P → Bool
  | bindFactory .. => true
  | bindConstructor _ => true
  | _ => false

end SlotCall

namespace BindingRequest

/-- The slot of the request was not bound and is bound now. If it is bound to an operation, then
that is a `nested` one that was added and waits; nothing else is different. -/
structure Binds (r : BindingRequest P) (nested : Option (Operation P)) (s s' : Scan P) : Prop where
  unbound : r.held s.bean = none
  added : ∀ new ∈ nested, new.id = s.bean.operations.size
  set : ∃ op bound binding, s.bean.operation? r.operation.id = some op ∧
    op.bind r.index binding = .ok bound ∧ Bean.nestedOperation binding = nested.map (·.id) ∧
    s' = { s with
      bean := (nested.elim s.bean s.bean.append).put r.operation.id bound
      queue := s.queue ++ (nested.map (·.id)).toList }

structure Settles (r : BindingRequest P) (nests : Bool) (failure : Option Error) (s s' : Scan P) :
    Prop where
  failed : ∀ e, failure = some e → s' = s
  refused : ∀ existing, r.held s.bean = some existing →
    failure = some (.alreadyBound r.target r.index existing.kind)
  bound : failure = none → ∃ nested, nested.isSome = nests ∧ r.Binds nested s s'

variable {r : BindingRequest P} {b later : Bean P} {s s' : Scan P}

theorem held_mono {binding : Binding P} (holds : r.held b = some binding)
    (grown : b.Extends later) : r.held later = some binding := by
  obtain ⟨op, found, bound⟩ := Option.bind_eq_some_iff.mp holds
  obtain ⟨op', found', grows⟩ := grown.operations _ op found
  rw [held, found']
  exact grows.kept _ _ bound

theorem Binds.held {nested : Option (Operation P)} (h : r.Binds nested s s') :
    ∃ binding, r.held s'.bean = some binding := by
  obtain ⟨op, bound, binding, found, binds, -, rfl⟩ := h.set
  refine ⟨binding, ?_⟩
  have there : r.operation.id < (nested.elim s.bean s.bean.append).operations.size := by
    have lt := Bean.lt_of_operation? found
    cases nested with
    | none => exact lt
    | some new =>
      show _ < (s.bean.append new).operations.size
      rw [Bean.size_append]
      exact Nat.lt_succ_of_lt lt
  show ((Bean.put _ _ _).operation? _).bind _ = _
  rw [Bean.operation?_put there, if_pos rfl, Option.bind_some, Operation.binding?_bind binds,
    if_pos rfl]

end BindingRequest

namespace Scan

section Steps

variable {α : Type} {f : ScanFrame P} {r : BindingRequest P} {s : Scan P} {step : ScanM P α}
  {nests : Bool}

def Sets (r : BindingRequest P) (nests : Bool) (s : Scan P) (step : ScanM P α) : Prop :=
  Ends step s (fun _ s' => ∃ nested, nested.isSome = nests ∧ r.Binds nested s s')
    fun _ s' => s' = s

theorem sets_throw (e : Error) : Sets r nests s (throw e : ScanM P α) := rfl

/-- A slot that is not bound can be bound to anything. -/
theorem Asks.exists_bind (asks : Asks f r s.bean) (unbound : r.held s.bean = none)
    (binding : Binding P) : ∃ op bound, s.bean.operation? r.operation.id = some op ∧
      op.bind r.index binding = .ok bound := by
  obtain ⟨op, slot, ho, -, hslot, -⟩ := asks.slot
  rw [BindingRequest.held, ho, Option.bind_some] at unbound
  have hi := (List.getElem?_eq_some_iff.mp hslot).1
  obtain ⟨bound, hb⟩ := Operation.exists_bind hi unbound binding
  exact ⟨op, bound, ho, hb⟩

theorem sets_commit {binding : Binding P} (asks : Asks f r s.bean)
    (unbound : r.held s.bean = none) (plain : Bean.nestedOperation binding = none) :
    Sets r false s (commit f r binding) := by
  obtain ⟨op, bound, ho, hb⟩ := asks.exists_bind unbound binding
  refine (ends_bindSlot ho hb).mpr ⟨none, rfl, unbound, by simp, op, bound, binding, ho, hb,
    plain, ?_⟩
  simp

/-- The operation is added only where the slot can be bound to it. -/
theorem sets_attach {new : Operation P} (asks : Asks f r s.bean)
    (unbound : r.held s.bean = none) (added : new.id = s.bean.operations.size) :
    Sets r true s (attach f r new) := by
  obtain ⟨op, bound, ho, hb⟩ := asks.exists_bind unbound (.operation new.id)
  unfold Sets attach
  rw [ends_bind]
  show Ends (commit f r _ >>= _) { s with bean := s.bean.append new, queue := _ } _ _
  rw [ends_bind]
  unfold commit
  rw [ends_bindSlot (by exact Bean.operation?_append_of_some ho new) hb]
  exact ⟨some new, rfl, unbound, by simpa using added, op, bound, _, ho, hb, rfl, rfl⟩

def Settling (r : BindingRequest P) (nests : Bool) (s : Scan P) (step : ScanM P α) : Prop :=
  Ends step s (fun _ s' => r.Settles nests none s s') fun e s' => r.Settles nests (some e) s s'

theorem bindingAt_slot (r : BindingRequest P) (s : Scan P) :
    bindingAt r.operation.id r.index s = (.ok (r.held s.bean), s) := rfl

theorem ensureUnbound_of_none (h : r.held s.bean = none) : ensureUnbound r s = (.ok ⟨⟩, s) := by
  unfold ensureUnbound
  rw [bind_apply, bindingAt_slot, h]
  rfl

theorem ensureUnbound_of_some {existing : Binding P} (h : r.held s.bean = some existing) :
    ensureUnbound r s = (.error (.alreadyBound r.target r.index existing.kind), s) := by
  unfold ensureUnbound
  rw [bind_apply, bindingAt_slot, h]
  rfl

/-- Whether the slot is bound is looked at before anything else. -/
theorem settling_ensureUnbound {next : ScanM P α}
    (h : r.held s.bean = none → Sets r nests s next) :
    Settling r nests s (ensureUnbound r >>= fun _ => next) := by
  unfold Settling
  rw [ends_bind]
  cases holds : r.held s.bean with
  | some existing =>
    rw [ends_of_error (ensureUnbound_of_some holds)]
    refine ⟨fun _ _ => rfl, ?_, by simp⟩
    intro other same
    rw [Option.some.inj (holds.symm.trans same)]
  | none =>
    rw [ends_of_ok (ensureUnbound_of_none holds)]
    have free : ∀ failure : Option Error, ∀ existing, r.held s.bean = some existing →
        failure = some (.alreadyBound r.target r.index existing.kind) := by
      simp [holds]
    apply (h holds).mono
    · exact fun _ _ bound => ⟨by simp, free _, fun _ => bound⟩
    · exact fun _ _ same => ⟨fun _ _ => same, free _, by simp⟩

theorem Settling.settles (h : Settling r nests s step) :
    r.Settles nests (thrown? (step s).1) s (step s).2 := by
  unfold Settling Ends at h
  split at h
  next ran =>
    rw [ran]
    exact h
  next ran =>
    rw [ran]
    exact h

end Steps

section Calls

variable {f : ScanFrame P} {r : BindingRequest P} {s : Scan P}

theorem settling_bindValue (asks : Asks f r s.bean) (value : P.Datum) :
    Settling r false s (bindValue f r value) := by
  unfold bindValue
  apply settling_ensureUnbound
  intro unbound
  split
  · exact sets_commit asks unbound rfl
  · exact sets_throw _

theorem settling_bindNull (asks : Asks f r s.bean) : Settling r false s (bindNull f r) := by
  unfold bindNull
  apply settling_ensureUnbound
  intro unbound
  split
  · exact sets_throw _
  · exact sets_commit asks unbound rfl

theorem settling_bindArgument (asks : Asks f r s.bean) (argument : Nat) :
    Settling r false s (bindArgument f r argument) := by
  unfold bindArgument
  apply settling_ensureUnbound
  intro unbound
  apply (reads_except fun _ h => h).ends
  exact fun _ _ => sets_commit asks unbound rfl

theorem settling_bindFactory (asks : Asks f r s.bean) (owner : ClassDescriptor P)
    (method : Method P) : Settling r true s (bindFactory f r owner method) := by
  unfold bindFactory
  apply settling_ensureUnbound
  intro unbound
  apply (reads_except fun _ h => h).ends
  intro _ fits
  apply (reads_nextId s).ends
  rintro _ rfl
  apply (reads_except fun _ h => h).ends
  intro new made
  have nested : Nested r s.bean.operations.size new := .factory fits made
  exact sets_attach asks unbound nested.fresh.1.id_eq

theorem settling_bindConstructor (asks : Asks f r s.bean) (owner : ClassDescriptor P) :
    Settling r true s (bindConstructor f r owner) := by
  unfold bindConstructor
  apply settling_ensureUnbound
  intro unbound
  apply (reads_except fun _ h => h).ends
  intro _ fits
  apply (reads_except fun _ h => h).ends
  intro constructor selected
  apply (reads_nextId s).ends
  rintro _ rfl
  have nested : Nested r s.bean.operations.size (.ofConstructor s.bean.operations.size owner
    constructor r.operator (some r.nesting)) := .constructor fits selected
  exact sets_attach asks unbound nested.fresh.1.id_eq

theorem settling_bindService (asks : Asks f r s.bean) (key : DependencyKey) :
    Settling r false s (bindService f r key) := by
  unfold bindService
  apply settling_ensureUnbound
  intro unbound
  apply (reads_except fun _ h => h).ends
  intro binding found
  obtain ⟨-, rfl⟩ := Directory.lookup_eq_ok.mp found
  exact sets_commit asks unbound rfl

theorem settles_answerSlot (asks : Asks f r s.bean) {call : SlotCall P}
    (binds : call.binds = true) :
    r.Settles call.nests (call.failure? (answerSlot f r call s).1) s
      (answerSlot f r call s).2 := by
  cases call with
  | bindValue value => exact (settling_bindValue asks value).settles
  | bindNull => exact (settling_bindNull asks).settles
  | bindArgument argument => exact (settling_bindArgument asks argument).settles
  | bindFactory owner method => exact (settling_bindFactory asks owner method).settles
  | bindConstructor owner => exact (settling_bindConstructor asks owner).settles
  | bindService key => exact (settling_bindService asks key).settles
  | isBound => cases binds

theorem unchanged_of_thrown {α : Type} {step : ScanM P α} {e : Error}
    (h : Ends step s (fun _ _ => True) fun _ s' => s' = s)
    (failed : thrown? (step s).1 = some e) : (step s).2 = s := by
  rcases h.cases with ⟨a, s', ran, -⟩ | ⟨e, s', ran, same⟩
  · rw [ran] at failed
    cases failed
  · rw [ran]
    exact same

theorem harmless_onField (c : Contributor P) (shown : FieldMatch P) :
    (Talk.onField c shown).Harmless s := by
  rintro ⟨call, t⟩ - e failed
  have spares : Ends (newFieldOperation shown call) t (fun _ _ => True) fun _ t' => t' = t := by
    unfold newFieldOperation
    split
    · exact ends_grant fun _ _ _ => trivial
    · exact rfl
  exact unchanged_of_thrown spares failed

theorem harmless_onMethod (c : Contributor P) (shown : MethodMatch P) :
    (Talk.onMethod c shown).Harmless s := by
  rintro ⟨call, t⟩ - e failed
  have spares : Ends (newMethodOperation shown) t (fun _ _ => True) fun _ t' => t' = t :=
    ends_grant fun _ _ _ => trivial
  exact unchanged_of_thrown spares failed

end Calls

section Requests

variable {f : ScanFrame P} {r : BindingRequest P} {s : Scan P}

theorem extends_answerSlot (call : SlotCall P) (s : Scan P) :
    s.bean.Extends (answerSlot f r call s).2.bean :=
  ((local_answerSlot (upheld_extends f s.bean) call (SlotCall.fit_true call)).keeps s
    (.refl s.bean)).2

/-- The slot is one of the bean at every call. -/
theorem asks_asked (asks : Asks f r s.bean) (c : Contributor P) :
    ∀ call ∈ (Talk.onBinding f c r).asked s, Asks f r call.2.bean := by
  have kept : ∀ (call : SlotCall P) (t : Scan P), Asks f r t.bean →
      Asks f r (answerSeen (answerSlot f r) call t).2.bean := fun call t asks =>
    asks.mono (extends_answerSlot call t)
  exact Dialog.asked_keeps kept _ asks

theorem extends_asked (c : Contributor P) :
    ((Talk.onBinding f c r).asked s).Pairwise fun earlier later =>
      ((Talk.onBinding f c r).after earlier).bean.Extends later.2.bean := by
  have kept : ∀ (call : SlotCall P × Scan P) (question : SlotCall P) (t : Scan P),
      (answerSlot f r call.1 call.2).2.bean.Extends t.bean →
        (answerSlot f r call.1 call.2).2.bean.Extends
          (answerSeen (answerSlot f r) question t).2.bean := fun call question t grown =>
    grown.trans (extends_answerSlot question t)
  exact Dialog.asked_pairwise kept (fun call t => .refl _) _ _

theorem harmless_onBinding (asks : Asks f r s.bean) (c : Contributor P) :
    (Talk.onBinding f c r).Harmless s := by
  rintro ⟨call, t⟩ made e failed
  cases binds : call.binds with
  | true => exact (settles_answerSlot (asks_asked asks c _ made) binds).failed e failed
  | false =>
    cases call with
    | isBound => cases failed
    | _ => cases binds

/-- A call that binds the slot is the last to do so. -/
theorem once_asked (asks : Asks f r s.bean) (c : Contributor P) :
    ((Talk.onBinding f c r).asked s).Pairwise fun earlier later =>
      SlotCall.binds earlier.1 = true → (Talk.onBinding f c r).failure earlier = none →
        SlotCall.binds later.1 = true → ∃ existing,
          r.held ((Talk.onBinding f c r).after earlier).bean = some existing ∧
          (Talk.onBinding f c r).failure later =
            some (.alreadyBound r.target r.index existing.kind) := by
  apply (extends_asked c).imp_of_mem
  intro earlier later first second grown binds succeeded rebinds
  have bound := (settles_answerSlot (asks_asked asks c _ first) binds).bound succeeded
  obtain ⟨nested, -, sets⟩ := bound
  obtain ⟨existing, held⟩ := sets.held
  have again := settles_answerSlot (asks_asked asks c _ second) rebinds
  exact ⟨existing, held, again.refused existing (BindingRequest.held_mono held grown)⟩

end Requests

structure Turn.Harmless (turn : Turn P) : Prop where
  /-- A call that fails leaves the scan as it was. -/
  failed : ∀ talk, turn.task.talk? = some talk → talk.Harmless turn.before
  /-- A slot that a handler is asked to bind is not bound yet. -/
  unbound : ∀ f c r, turn.task = .request f c r → r.held turn.before.bean = none
  /-- A call that is to bind it sets this slot and nothing else, if it succeeds, -/
  settled : ∀ f c r, turn.task = .request f c r →
    ∀ call ∈ (Talk.onBinding f c r).asked turn.before, SlotCall.binds call.1 = true →
      r.Settles (SlotCall.nests call.1) ((Talk.onBinding f c r).failure call) call.2
        ((Talk.onBinding f c r).after call)
  /-- and then every later one fails. -/
  once : ∀ f c r, turn.task = .request f c r →
    ((Talk.onBinding f c r).asked turn.before).Pairwise fun earlier later =>
      SlotCall.binds earlier.1 = true → (Talk.onBinding f c r).failure earlier = none →
        SlotCall.binds later.1 = true → ∃ existing,
          r.held ((Talk.onBinding f c r).after earlier).bean = some existing ∧
          (Talk.onBinding f c r).failure later =
            some (.alreadyBound r.target r.index existing.kind)

theorem Turn.Asks.harmless {turn : Turn P} (asks : turn.Asks) : turn.Harmless where
  failed := by
    obtain ⟨task, s⟩ := turn
    intro talk about
    cases task with
    | fieldMatch f c shown =>
      cases about
      exact harmless_onField c shown
    | methodMatch f c shown =>
      cases about
      exact harmless_onMethod c shown
    | request f c r =>
      cases about
      exact harmless_onBinding (asks f c r rfl).1 c
    | _ => cases about
  unbound := fun f c r task => (asks f c r task).2
  settled := fun f c r task call made binds =>
    settles_answerSlot (asks_asked (asks f c r task).1 c call made) binds
  once := fun f c r task => once_asked (asks f c r task).1 c

end Scan

namespace Attempt

/-- How the scan would end without those of the handlers' calls that fail and that `leaves` tells,
by the turn and their number in it. -/
def runWithout (a : Attempt P) (b : Bean P) (leaves : Scan.Turn P → Nat → Bool) :
    Except Error Unit × Scan P :=
  (Scan.Routine.scanBean a.deployment.container.host).recast
    (fun t s => t.without (leaves ⟨t, s⟩) s) (a.deployment.beginScan b a.preset)

structure Harmless (a : Attempt P) (b : Bean P) : Prop where
  turns : ∀ turn ∈ a.turns b, turn.Harmless
  /-- Without such calls the scan ends the same. -/
  spared : ∀ leaves, a.runWithout b leaves = a.run b

/-- Handlers can fail in what they ask for, and go on as if they had not tried. -/
theorem harmless_run (earlier : List (Attempt P)) (a : Attempt P) (c : ClassDescriptor P)
    (source : Source P) (installer : Party) :
    a.Harmless (after earlier (.fresh c source installer)) := by
  have empty : (Bean.fresh c source installer).Linked := .of_empty rfl
  obtain ⟨-, linked⟩ := linked_after earlier empty
  let start := a.deployment.beginScan (after earlier (.fresh c source installer)) a.preset
  have turns : ∀ turn ∈ a.turns (after earlier (.fresh c source installer)), turn.Harmless :=
    fun turn taken => (Scan.Routine.asks_scanBean (s := start) _ linked rfl turn taken).harmless
  refine ⟨turns, fun leaves => Scan.Routine.recast_eq ?_⟩
  intro turn taken
  exact Scan.Task.without_eq (turns turn taken).failed (leaves turn)

end Attempt

/-- Tries an argument that is not there, then does without, and then tries the first one. -/
def Handler.fickle : Handler .bare :=
  { Handler.idle with
    onBinding := fun _ memory world =>
      .ask (.bindArgument 1) fun _ => .ask .bindNull fun _ => .ask (.bindArgument 0) fun _ =>
        .done (.ok (), memory, world) }

def ExtensionKey.fickle : ExtensionKey := ⟨⟨.numbered 3, "fickle::Fickle"⟩, true⟩

def Deployment.whimsical : Deployment .bare where
  world := ()
  container :=
    { settings := {}
      services := []
      catalog := { typeHooks := [(⟨.numbered 1, "Wheel"⟩, .fickle)] }
      extensions := []
      make := fun _ world => (⟨"fickle", fun world => (.fickle, world)⟩, world) }

-- Only the second of the three calls succeeds.
example : ((⟨.whimsical, none⟩ : Attempt .bare).turns (.fresh .cart .construction .application)
    ).flatMap (fun turn => match turn.task with
      | .request f c r => ((Scan.Talk.onBinding f c r).asked turn.before).map fun call =>
        ((Scan.Talk.onBinding f c r).failure call).isNone
      | _ => []) = [false, true, false] := by decide +kernel

end Injector
