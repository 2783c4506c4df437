import Injector.Proofs.Scan.Limit
import Injector.Proofs.Scan.Routine

/-!
# What a missing service is needed for

A service is looked up or asked for only while an operation is resolved, and the failure names that
operation.
-/

set_option autoImplicit false

namespace Injector

variable {P : Platform}

namespace Scan

def Resolving (s : Scan P) (op : Operation P) : Prop :=
  ∃ id, s.resolved.getLast? = some id ∧ s.bean.operation? id = some op

theorem Resolving.of_eq {s s' : Scan P} {op : Operation P} (h : Resolving s op)
    (resolved : s'.resolved = s.resolved) (bean : s'.bean = s.bean) : Resolving s' op := by
  unfold Resolving
  rw [resolved, bean]
  exact h

def Turn.Needed (turn : Turn P) : Prop :=
  ∀ op, turn.task.needy? = some op → Resolving turn.before op

theorem Turn.needed_of_none {turn : Turn P} (h : turn.task.needy? = none) : turn.Needed := by
  intro op needy
  rw [h] at needy
  cases needy

def Turn.Plain (turn : Turn P) : Prop := turn.task.needy? = none

namespace Routine

def Always {α : Type} {step : ScanM P α} (r : Routine step) (p : Turn P → Prop) : Prop :=
  ∀ s, r.Every s p

section Laws

variable {α β : Type} {step step' : ScanM P α} {next : α → ScanM P β} {p q : Turn P → Prop}

theorem always_pure (a : α) : (pure a : Routine (Pure.pure a : ScanM P α)).Always p := by
  rintro s turn ⟨⟩

theorem always_get : (get (P := P)).Always p := by
  rintro s turn ⟨⟩

theorem always_change (act : Scan P → Scan P) (quiet : ∀ s, (act s).calls = s.calls) :
    (change act quiet).Always p := by
  rintro s turn ⟨⟩

theorem always_task {t : Task P} (h : ∀ s, p ⟨t, s⟩) : (task t).Always p :=
  fun s => every_task (h s)

theorem Always.bind {first : Routine step} {rest : ∀ a, Routine (next a)} (h : first.Always p)
    (hn : ∀ a, (rest a).Always p) : (Routine.bind first rest).Always p :=
  fun s => (h s).bind_any fun a s' => hn a s'

theorem Always.discard {r : Routine step} (h : r.Always p) : (Routine.discard r).Always p :=
  h.bind fun _ => always_pure _

theorem Always.ite {c : Prop} [Decidable c] {r : Routine step} {r' : Routine step'}
    (h : r.Always p) (h' : r'.Always p) :
    (Routine.ite r r' : Routine (if c then step else step')).Always p := by
  unfold Routine.ite
  split
  · exact h
  · exact h'

theorem always_forM {step : α → ScanM P PUnit} {r : ∀ x, Routine (step x)}
    (h : ∀ x, (r x).Always p) (xs : List α) : (forM r xs).Always p := by
  induction xs with
  | nil => exact always_pure _
  | cons x xs ih => exact (h x).bind fun _ => ih

theorem Always.mono {r : Routine step} (h : r.Always p) (hp : ∀ turn, p turn → q turn) :
    r.Always q := fun s turn ht => hp turn (h s turn ht)

/-- What no operation needs is not needed by another one than the one being resolved. -/
theorem Always.needed {r : Routine step} (h : r.Always Turn.Plain) : r.Always Turn.Needed :=
  h.mono fun _ plain => Turn.needed_of_none plain

theorem plain_task {t : Task P} (h : t.needy? = none) : (task t).Always Turn.Plain :=
  always_task fun _ => h

theorem plain_decision (x : Except Error α) :
    (decision x : Routine (liftM x : ScanM P α)).Always Turn.Plain := plain_task rfl

theorem plain_throw (e : Error) :
    (throw e : Routine (MonadExcept.throw e : ScanM P α)).Always Turn.Plain := plain_task rfl

end Laws

section Parts

variable (f : ScanFrame P)

theorem plain_record (event : ScanEvent P) : (record event).Always Turn.Plain := always_change _ _

theorem plain_operationAt (id : OperationId) : (operationAt f id).Always Turn.Plain := by
  refine always_get.bind fun s => ?_
  cases s.bean.operation? id with
  | none => exact plain_throw _
  | some op => exact always_pure _

theorem plain_bindingAt (id index : Nat) : (bindingAt (P := P) id index).Always Turn.Plain :=
  always_get.bind fun _ => always_pure _

theorem plain_bindSlot (id : OperationId) (index : Nat) (binding : Binding P) :
    (bindSlot f id index binding).Always Turn.Plain :=
  (plain_operationAt f id).bind fun _ => (plain_decision _).bind fun _ => always_change _ _

theorem plain_append (op : Operation P) : (append op).Always Turn.Plain :=
  (always_change _ _).bind fun _ => always_pure _

theorem plain_nextId : (nextId (P := P)).Always Turn.Plain := always_get.bind fun _ => always_pure _

theorem plain_hook (marker : Marker P) : (hook f marker).Always Turn.Plain := plain_task rfl

theorem plain_hitsOf (markers : List (Marker P)) : (hitsOf f markers).Always Turn.Plain := by
  induction markers with
  | nil => exact always_pure _
  | cons marker rest ih =>
    apply (plain_hook f marker).bind
    intro found
    cases found with
    | none => exact ih
    | some hook => exact ih.bind fun _ => always_pure _

theorem plain_bindingHook (target : String) (markers : List (Marker P)) (found : Option (Hit P)) :
    (bindingHook f target found markers).Always Turn.Plain := by
  induction markers generalizing found with
  | nil => exact always_pure _
  | cons marker rest ih =>
    apply (plain_hook f marker).bind
    intro hook
    cases hook with
    | none => exact ih found
    | some hook =>
      apply Always.ite
      · cases found with
        | none => exact ih _
        | some first => exact plain_throw _
      · exact ih found

theorem plain_activate (key : ExtensionKey) : (activate f key).Always Turn.Plain := by
  refine always_get.bind fun s => ?_
  cases s.contributor? key with
  | none => exact plain_task rfl
  | some c => exact always_pure _

theorem plain_showField (declared : DeclaredField P) (g : HookGroup P) :
    (showField f declared g).Always Turn.Plain :=
  (plain_activate f g.extension).bind fun _ => (plain_record _).bind fun _ => plain_task rfl

theorem plain_showMethod (declared : DeclaredMethod P) (g : HookGroup P) :
    (showMethod f declared g).Always Turn.Plain :=
  (plain_activate f g.extension).bind fun _ => (plain_record _).bind fun _ => plain_task rfl

theorem plain_inject (declared : DeclaredField P) (extension : ExtensionKey) :
    (inject f declared extension).Always Turn.Plain :=
  (plain_activate f extension).bind fun _ => (plain_decision _).bind fun _ => plain_nextId.bind
    fun _ => (plain_decision _).bind fun op => (plain_append op).discard

theorem plain_matchField (declared : DeclaredField P) :
    (matchField f declared).Always Turn.Plain := by
  apply (plain_hitsOf f declared.field.markers).bind
  intro hits
  cases FieldClaim.ofHits hits with
  | unclaimed => exact always_pure _
  | conflict member binding => exact plain_throw _
  | duplicate first second => exact plain_throw _
  | injected binding => exact plain_inject f declared _
  | matched groups => exact always_forM (plain_showField f declared) groups

theorem plain_matchMethod (declared : DeclaredMethod P) :
    (matchMethod f declared).Always Turn.Plain :=
  (plain_hitsOf f declared.method.markers).bind fun _ => always_forM (plain_showMethod f declared) _

theorem plain_finish (contributors : List (Contributor P)) :
    (finish contributors).Always Turn.Plain := by
  induction contributors with
  | nil => exact always_pure _
  | cons c rest ih =>
    show (Routine.bind (task (.farewell c)) fun _ => finish rest).Always Turn.Plain
    exact (plain_task rfl).bind fun _ => ih

end Parts

section Resolution

variable {f : ScanFrame P} {s : Scan P} {op : Operation P} {id : OperationId}

theorem every_delegate (h : Resolving s op) (index : Nat) (parameter : Parameter P)
    (extension : ExtensionKey) (marker : Option (Marker P)) :
    (delegate f op index parameter extension marker).Every s Turn.Needed := by
  apply Every.bind ((plain_activate f extension).needed s)
  apply ((silent_activating.activate f extension s).and
    (frugal_activating.activate f extension s)).mono
  · rintro c s' ⟨quiet, unspent⟩
    apply Every.bind ((plain_record _).needed s')
    rw [ends_record]
    apply Every.bind_any
    · apply every_task
      rintro _ ⟨⟩
      have shown : Resolving s' op := h.of_eq unspent.resolved quiet.bean
      exact shown.of_eq (resolved_push s' (by simp)) rfl
    · intro _
      apply (plain_bindingAt _ _).needed.bind
      intro binding
      cases binding with
      | none => exact (plain_throw _).needed
      | some _ => exact always_pure _
  · exact fun _ _ _ => trivial

theorem every_bindToService (h : Resolving s op) (index : Nat) (parameter : Parameter P) :
    (bindToService f op index parameter).Every s Turn.Needed := by
  show (Routine.bind (task (.service f op parameter)) fun _ =>
    bindSlot f op.id index _).Every s Turn.Needed
  apply Every.bind_any
  · apply every_task
    rintro _ ⟨⟩
    exact h
  · exact fun _ => (plain_bindSlot f op.id index _).needed

theorem every_resolveParameter (h : s.resolved.getLast? = some id) (index : Nat)
    (parameter : Parameter P) : (resolveParameter f id index parameter).Every s Turn.Needed := by
  apply Every.bind ((plain_operationAt f id).needed s)
  apply (reads_operationAt f s id).mono
  · rintro op _ ⟨rfl, found⟩
    have here : Resolving _ op := ⟨id, h, found⟩
    apply Every.bind ((plain_bindingHook f _ _ none).needed _)
    apply ((silent_activating.bindingHook f _ parameter.markers none _).and
      (frugal_activating.bindingHook f _ parameter.markers none _)).mono
    · rintro hit s' ⟨quiet, unspent⟩
      have still : Resolving s' op := here.of_eq unspent.resolved quiet.bean
      cases hit with
      | some hit => exact every_delegate still index parameter _ _
      | none =>
        refine Every.bind (always_get s') ?_
        rw [ends_get]
        cases s'.catalog.typeHook? parameter.type with
        | some extension => exact every_delegate still index parameter extension none
        | none => exact every_bindToService still index parameter
    · exact fun _ _ _ => trivial
  · exact fun _ _ _ => trivial

theorem every_resolveParameters (parameters : List (Parameter P))
    (h : s.resolved.getLast? = some id) (index : Nat) :
    (resolveParameters f id index parameters).Every s Turn.Needed := by
  induction parameters generalizing s index with
  | nil => exact always_pure _ s
  | cons parameter rest ih =>
    apply Every.bind ((plain_bindingAt id index).needed s)
    apply (reads_bindingAt s id index).mono
    · rintro binding _ ⟨rfl, -⟩
      cases binding with
      | some _ => exact ih h _
      | none =>
        apply Every.bind (every_resolveParameter h index parameter)
        have spends := (frugal_consulting f).resolveParameter id index parameter
        apply (spends _).mono
        · exact fun _ s' unspent => ih (unspent.resolved ▸ h) _
        · exact fun _ _ _ => trivial
    · exact fun _ _ _ => trivial

theorem every_resolveOperation (h : s.resolved.getLast? = some id) :
    (resolveOperation f id).Every s Turn.Needed := by
  apply Every.bind ((plain_operationAt f id).needed s)
  apply (reads_operationAt f s id).mono
  · rintro op _ ⟨rfl, -⟩
    exact every_resolveParameters op.params h 0
  · exact fun _ _ _ => trivial

theorem plain_spend : (spend (P := P)).Always Turn.Plain := always_change _ _

theorem plain_dequeue : (dequeue (P := P)).Always Turn.Plain := by
  show (Routine.bind get fun _ => Routine.bind (change _ _) fun _ => pure _).Always _
  exact always_get.bind fun _ => (always_change _ _).bind fun _ => always_pure _

theorem apt_drain (f : ScanFrame P) : (drain f).Always Turn.Needed := by
  have within : ∀ remaining, (drainWithin f remaining).Always Turn.Needed := by
    intro remaining
    induction remaining with
    | zero =>
      apply plain_dequeue.needed.bind
      intro taken
      cases taken with
      | none => exact always_pure _
      | some id => exact (plain_task rfl).needed
    | succ remaining ih =>
      apply plain_dequeue.needed.bind
      intro taken
      cases taken with
      | none => exact always_pure _
      | some id =>
        apply plain_spend.needed.bind
        intro _ s
        apply Every.bind ((plain_record _).needed s)
        rw [ends_record]
        apply Every.bind_any
        · apply every_resolveOperation
          simp [resolved]
        · exact fun _ => ih
  exact always_get.bind fun s => within s.remaining

end Resolution

section Whole

variable (f : ScanFrame P)

theorem plain_checkClassMarkers (c : ClassDescriptor P) :
    (checkClassMarkers f c).Always Turn.Plain :=
  always_forM (fun marker => (plain_hook f marker).discard) c.markers

theorem apt_scanConstructor (c : ClassDescriptor P) : (scanConstructor f c).Always Turn.Needed :=
  (plain_decision _).needed.bind fun _ => plain_nextId.needed.bind fun _ =>
    (plain_append _).discard.needed.bind fun _ => apt_drain f

theorem apt_scanMembers (c : ClassDescriptor P) : (scanMembers f c).Always Turn.Needed :=
  (always_forM (plain_matchField f) _).needed.bind fun _ =>
    (always_forM (plain_matchMethod f) _).needed.bind fun _ => apt_drain f

end Whole

end Routine

end Scan

end Injector
