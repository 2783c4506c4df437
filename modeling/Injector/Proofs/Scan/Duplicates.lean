import Injector.Proofs.Scan.Access
import Injector.Proofs.Scan.Dispatch

/-!
# The same markers on a field and on a parameter

For a field all of them are looked up and then the binding hooks are counted; for a parameter the
second binding hook is refused where it is met. What is decided is the same, but for a marker behind
the second binding hook that cannot be looked up.
-/

set_option autoImplicit false

namespace Injector

variable {P : Platform}

def Error.isInvalidHook : Error → Bool
  | ambiguousHook .. | foreignExtension .. => true
  | _ => false

theorem HookSpec.isInvalidHook_of_validate {spec : HookSpec} {marker : MarkerKey} {e : Error}
    (h : spec.validate marker = .error e) : e.isInvalidHook = true := by
  unfold validate at h
  split at h
  · cases h
    rfl
  · split at h <;> cases h
    rfl

theorem FieldClaim.ofHits_of_plain {hits : List (Hit P)}
    (plain : ∀ hit ∈ hits, hit.hook.capabilities.isFieldHook = false) :
    ofHits hits = match Hit.bindings hits with
      | [] => .unclaimed
      | [binding] => .injected binding
      | first :: second :: _ => .duplicate first second := by
  have members : hits.filter (·.hook.capabilities.isFieldHook) = [] :=
    List.filter_eq_nil_iff.mpr fun hit at_ => by simp [plain hit at_]
  unfold Capabilities.isFieldHook at members
  unfold ofHits Hit.bindings
  dsimp only
  rw [members]
  generalize hits.filter (·.hook.capabilities.binding) = bindings
  rcases bindings with _ | ⟨first, _ | ⟨second, rest⟩⟩ <;> rfl

namespace Scan

section Refusal

variable {f : ScanFrame P} {s mid failed : Scan P} {marker : Marker P} {markers : List (Marker P)}
  {e : Error}

theorem ends_hookOf_invalid (f : ScanFrame P) (marker : Marker P) (s : Scan P) :
    Ends (hookOf f marker) s (fun _ _ => True) fun e _ => e.isInvalidHook = true := by
  unfold hookOf
  rw [ends_bind, ends_withCatalog]
  unfold Catalog.lookup
  split
  next => trivial
  next =>
    unfold Catalog.declared
    rw [ends_bind, ends_get]
    split
    next => trivial
    next =>
      split
      next => trivial
      next =>
        rw [ends_bind, ends_except]
        exact ⟨fun _ _ => trivial, fun e refused => HookSpec.isInvalidHook_of_validate refused⟩

/-- Markers are refused for their declarations alone. -/
theorem ends_hitsOf_invalid (f : ScanFrame P) (markers : List (Marker P)) (s : Scan P) :
    Ends (hitsOf f markers) s (fun _ _ => True) fun e _ => e.isInvalidHook = true := by
  induction markers generalizing s with
  | nil => trivial
  | cons marker rest ih =>
    rw [hitsOf_cons]
    apply (ends_hookOf_invalid f marker s).bind
    intro hook s' _
    apply (ih s').bind
    intro later _ _
    trivial

theorem hitsOf_of_refused (rest : List (Marker P))
    (refused : hookOf f marker s = (.error e, failed)) :
    hitsOf f (marker :: rest) s = (.error e, failed) := by
  rw [hitsOf_cons, bind_apply, refused]

theorem hitsOf_of_looked {hook : Option HookDescriptor} (rest : List (Marker P))
    (looked : hookOf f marker s = (.ok hook, mid)) :
    hitsOf f (marker :: rest) s = match (hitsOf f rest mid : Except Error _ × Scan P) with
      | (.ok later, s') => (.ok ((hook.map (Hit.mk marker)).toList ++ later), s')
      | (.error e, s') => (.error e, s') := by
  rw [hitsOf_cons, bind_apply, looked]
  dsimp only
  rw [bind_apply]
  rcases (hitsOf f rest mid : Except Error _ × Scan P) with ⟨_ | _, _⟩ <;> rfl

/-- A second binding hook is met, where one may have been met before, and behind its marker comes
one that cannot be looked up. -/
def Overlooks (f : ScanFrame P) (markers : List (Marker P)) (s : Scan P) (met : Option (Hit P))
    (first second : Hit P) (mid : Scan P) (e : Error) (failed : Scan P) : Prop :=
  ∃ early late hits, markers = early ++ second.marker :: late ∧
    hitsOf f (early ++ [second.marker]) s = (.ok hits, mid) ∧
    met.toList ++ Hit.bindings hits = [first, second] ∧ hitsOf f late mid = (.error e, failed)

/-- One marker more in front, whose hook counts if it is a binding hook. -/
theorem Overlooks.cons {met met' : Option (Hit P)} {first second : Hit P} {s' : Scan P}
    {hook : Option HookDescriptor} (looked : hookOf f marker s = (.ok hook, s'))
    (since : met'.toList = met.toList ++ Hit.bindings (hook.map (Hit.mk marker)).toList)
    (h : Overlooks f markers s' met' first second mid e failed) :
    Overlooks f (marker :: markers) s met first second mid e failed := by
  obtain ⟨early, late, hits, rfl, later, bindings, refused⟩ := h
  refine ⟨marker :: early, late, (hook.map (Hit.mk marker)).toList ++ hits, rfl, ?_, ?_, refused⟩
  · rw [List.cons_append, hitsOf_of_looked _ looked, later]
  · rw [← bindings, since, List.append_assoc]
    exact congrArg _ (List.filter_append ..)

/-- The search goes on behind a marker, unless that brings a second binding hook. -/
theorem bindingHook_cons (target : String) (met : Option (Hit P)) (rest : List (Marker P))
    {hook : Option HookDescriptor} (looked : hookOf f marker s = (.ok hook, mid)) :
    (∃ met', met'.toList = met.toList ++ Hit.bindings (hook.map (Hit.mk marker)).toList ∧
      bindingHook f target met (marker :: rest) s = bindingHook f target met' rest mid) ∨
    ∃ first second, met = some first ∧ second.marker = marker ∧
      Hit.bindings (hook.map (Hit.mk marker)).toList = [second] ∧
      bindingHook f target met (marker :: rest) s =
        (.error (.duplicateBindingHook target first.marker.key second.marker.key), mid) := by
  rw [bindingHook, bind_apply, looked]
  dsimp only
  cases hook with
  | none => exact .inl ⟨met, by simp [Hit.bindings], rfl⟩
  | some hook =>
    dsimp only
    by_cases binds : hook.capabilities.binding
    · rw [if_pos binds]
      cases met with
      | none => exact .inl ⟨some ⟨marker, hook⟩, by simp [Hit.bindings, binds], rfl⟩
      | some first =>
        exact .inr ⟨first, ⟨marker, hook⟩, rfl, rfl, by simp [Hit.bindings, binds], rfl⟩
    · rw [if_neg binds]
      exact .inl ⟨met, by simp [Hit.bindings, binds], rfl⟩

/-- Where a marker cannot be looked up, the search for a binding hook fails for that, unless it
comes to a second binding hook before. -/
theorem bindingHook_of_refused (target : String) (met : Option (Hit P))
    (refused : hitsOf f markers s = (.error e, failed)) :
    bindingHook f target met markers s = (.error e, failed) ∨
      ∃ first second mid, Overlooks f markers s met first second mid e failed ∧
        bindingHook f target met markers s =
          (.error (.duplicateBindingHook target first.marker.key second.marker.key), mid) := by
  induction markers generalizing s met with
  | nil => cases refused
  | cons marker rest ih =>
    rcases looked : (hookOf f marker s : Except Error _ × Scan P) with ⟨e' | hook, s'⟩
    · rw [hitsOf_of_refused rest looked] at refused
      cases refused
      exact .inl (by rw [bindingHook, bind_apply, looked])
    · have others : hitsOf f rest s' = (.error e, failed) := by
        rw [hitsOf_of_looked rest looked] at refused
        rcases later : (hitsOf f rest s' : Except Error _ × Scan P) with ⟨_ | _, _⟩ <;>
          rw [later] at refused <;> cases refused
        rfl
      obtain ⟨met', since, step⟩ | ⟨first, second, rfl, rfl, new, step⟩ :=
        bindingHook_cons target met rest looked
      · rw [step]
        refine (ih met' others).imp_right ?_
        rintro ⟨first, second, mid, overlooks, ran⟩
        exact ⟨first, second, mid, overlooks.cons looked since, ran⟩
      · have here : hitsOf f [second.marker] s =
            (.ok (hook.map (Hit.mk second.marker)).toList, s') := by
          rw [hitsOf_of_looked [] looked]
          exact congrArg (fun hits => (Except.ok hits, s')) (List.append_nil _)
        exact .inr ⟨first, second, s',
          ⟨[], rest, _, rfl, here, by rw [new]; rfl, others⟩, step⟩

end Refusal

/-- A field and a parameter with the same markers, of which none that can be looked up is a field
hook, and a scan that has come to neither. -/
structure Placement (P : Platform) where
  frame : ScanFrame P
  declared : DeclaredField P
  op : Operation P
  index : Nat
  parameter : Parameter P
  before : Scan P
  id : Nat
  found : before.bean.operation? id = some op
  markers_eq : parameter.markers = declared.field.markers
  plain : ∀ hits s, hitsOf frame declared.field.markers before = (.ok hits, s) →
    ∀ hit ∈ hits, hit.hook.capabilities.isFieldHook = false

namespace Placement

variable (p : Placement P)

def looked : Except Error (List (Hit P)) × Scan P :=
  hitsOf p.frame p.declared.field.markers p.before

def onField : Except Error Unit × Scan P := matchField p.frame p.declared p.before

def onParameter : Except Error Unit × Scan P :=
  resolveParameter p.frame p.id p.index p.parameter p.before

def fieldTarget : String :=
  s!"Field {p.declared.owner.type.short}::{p.declared.field.name}"

inductive Alike : Prop
  | refused {e : Error} {s : Scan P} (looked : p.looked = (.error e, s))
      (field : p.onField = (.error e, s)) (parameter : p.onParameter = (.error e, s))
  | duplicate {first second : Hit P} {rest hits : List (Hit P)} {s s' : Scan P}
      (looked : p.looked = (.ok hits, s)) (bindings : Hit.bindings hits = first :: second :: rest)
      (field : p.onField = (.error (.duplicateBindingHook p.fieldTarget first.marker.key
        second.marker.key), s))
      (parameter : p.onParameter = (.error (.duplicateBindingHook
        (parameterTarget p.op p.index p.parameter) first.marker.key second.marker.key), s'))
  | routed {hit : Hit P} {hits : List (Hit P)} {s : Scan P} (looked : p.looked = (.ok hits, s))
      (bindings : Hit.bindings hits = [hit])
      (field : p.onField = inject p.frame p.declared hit.hook.extension s)
      (parameter : p.onParameter =
        delegate p.frame p.op p.index p.parameter hit.hook.extension (some hit.marker) s)
  | unmarked {hits : List (Hit P)} {s : Scan P} (looked : p.looked = (.ok hits, s))
      (bindings : Hit.bindings hits = []) (field : p.onField = (.ok ⟨⟩, s))
      (parameter : p.onParameter = (s.catalog.typeHook? p.parameter.type).elim
        (bindToService p.frame p.op p.index p.parameter)
        (fun extension => delegate p.frame p.op p.index p.parameter extension none) s)

/-- Two binding hooks are met before a marker that cannot be looked up: for that the field is
refused, and for those the parameter. -/
def Divided : Prop :=
  ∃ first second mid e failed, p.looked = (.error e, failed) ∧
    Overlooks p.frame p.declared.field.markers p.before none first second mid e failed ∧
    p.onField = (.error e, failed) ∧
    p.onParameter = (.error (.duplicateBindingHook (parameterTarget p.op p.index p.parameter)
      first.marker.key second.marker.key), mid)

variable {p} {e : Error} {s : Scan P} {hits : List (Hit P)}

theorem isInvalidHook_of_refused (looked : p.looked = (.error e, s)) : e.isInvalidHook = true :=
  (ends_hitsOf_invalid p.frame p.declared.field.markers p.before).of_error looked

theorem onField_of_refused (looked : p.looked = (.error e, s)) : p.onField = (.error e, s) := by
  have looked : hitsOf p.frame p.declared.field.markers p.before = (.error e, s) := looked
  rw [onField, matchField, bind_apply, looked]

theorem onField_of_looked (looked : p.looked = (.ok hits, s)) :
    p.onField = match Hit.bindings hits with
      | [] => (.ok ⟨⟩, s)
      | [hit] => inject p.frame p.declared hit.hook.extension s
      | first :: second :: _ =>
        (.error (.duplicateBindingHook p.fieldTarget first.marker.key second.marker.key), s) := by
  have looked : hitsOf p.frame p.declared.field.markers p.before = (.ok hits, s) := looked
  rw [onField, matchField, bind_apply, looked]
  dsimp only
  rw [FieldClaim.ofHits_of_plain (p.plain hits s looked)]
  rcases Hit.bindings hits with _ | ⟨first, _ | ⟨second, rest⟩⟩ <;> rfl

theorem onParameter_of_refused (looked : p.looked = (.error e, s)) :
    p.onParameter = (.error e, s) ∨ ∃ first second mid,
      Overlooks p.frame p.declared.field.markers p.before none first second mid e s ∧
        p.onParameter = (.error (.duplicateBindingHook (parameterTarget p.op p.index p.parameter)
          first.marker.key second.marker.key), mid) := by
  rw [onParameter, resolveParameter_apply p.index p.found, bind_apply, p.markers_eq]
  obtain ran | ⟨first, second, mid, overlooks, ran⟩ :=
    bindingHook_of_refused (parameterTarget p.op p.index p.parameter) none looked
  · exact .inl (by rw [ran])
  · exact .inr ⟨first, second, mid, overlooks, by rw [ran]⟩

theorem alike_of_looked (looked : p.looked = (.ok hits, s)) : p.Alike := by
  have field := onField_of_looked looked
  have found : hitsOf p.frame p.parameter.markers p.before = (.ok hits, s) :=
    p.markers_eq ▸ looked
  rcases bindings : Hit.bindings hits with _ | ⟨first, _ | ⟨second, rest⟩⟩
  all_goals rw [bindings] at field
  · exact .unmarked looked bindings field (resolveParameter_of_none p.index p.found found bindings)
  · exact .routed looked bindings field (resolveParameter_of_hit p.index p.found found bindings)
  · obtain ⟨s', parameter, -⟩ :=
      resolveParameter_of_duplicate p.index p.found found bindings
    exact .duplicate looked bindings field parameter

theorem alike_or_divided (p : Placement P) : p.Alike ∨ p.Divided := by
  rcases looked : p.looked with ⟨e | hits, s⟩
  · have field := onField_of_refused looked
    refine (onParameter_of_refused looked).imp (.refused looked field) ?_
    rintro ⟨first, second, mid, overlooks, parameter⟩
    exact ⟨first, second, mid, e, s, looked, overlooks, field, parameter⟩
  · exact .inl (alike_of_looked looked)

/-- No marker is refused for being a second binding hook. -/
theorem not_alike_of_divided (divided : p.Divided) : ¬ p.Alike := by
  obtain ⟨first, second, mid, e, failed, looked, -, -, parameter⟩ := divided
  rintro (⟨looked', -, parameter'⟩ | ⟨looked', -⟩ | ⟨looked', -⟩ | ⟨looked', -⟩)
  · have invalid := isInvalidHook_of_refused looked'
    cases parameter.symm.trans parameter'
    cases invalid
  all_goals cases looked.symm.trans looked'

/-- Fields and parameters are held to one rule, except that a parameter is refused for two binding
hooks without a look at the markers behind them. -/
theorem alike_iff (p : Placement P) : p.Alike ↔ ¬ p.Divided :=
  ⟨fun alike divided => not_alike_of_divided divided alike,
    (alike_or_divided p).resolve_right⟩

end Placement

end Scan

/-- Two markers by which the thief binds, and one that is meant to match methods as well, which no
marker can do. -/
def craving : List (Marker .bare) :=
  [{ key := ⟨⟨.numbered 4, "thief::Coveted"⟩⟩, payload := ()
     declaredHook := fun _ => some { extension := .thief, binding := true } },
   { key := ⟨⟨.numbered 5, "thief::Craved"⟩⟩, payload := ()
     declaredHook := fun _ => some { extension := .thief, binding := true } },
   { key := ⟨⟨.numbered 6, "thief::Muddled"⟩⟩, payload := ()
     declaredHook := fun _ => some { extension := .thief, binding := true, method := true } }]

def Parameter.spare : Parameter .bare where
  name := "spare"
  type := ⟨.numbered 1, "Wheel"⟩
  markers := craving

def Field.spare : Field .bare where
  name := "spare"
  type := ⟨.numbered 1, "Wheel"⟩
  visibility := .anyone
  isStatic := false
  markers := craving
  getter := none
  setter := some fun _ => .done (.ok none)

def Constructor.spare : Constructor .bare where
  visibility := .anyone
  params := [.spare]
  markers := []
  accessor := fun _ => .done (.ok (some (.numbered 0)))

namespace Scan

def cartFrame : ScanFrame .bare :=
  ⟨Deployment.empty.container.host, [], ClassDescriptor.cart.type, .application⟩

def cartScan : Scan .bare :=
  Deployment.empty.beginScan ((Bean.fresh .cart .construction .application).append
    (.ofConstructor 0 .cart .spare .application none)) none

theorem isOk_hitsOf_craving : (hitsOf cartFrame craving cartScan).1.isOk = false := by
  decide +kernel

def Placement.spare : Placement .bare where
  frame := cartFrame
  declared := ⟨.cart, .spare⟩
  op := .ofConstructor 0 .cart .spare .application none
  index := 0
  parameter := .spare
  before := cartScan
  id := 0
  found := rfl
  markers_eq := rfl
  plain hits s looked := by
    have refused := isOk_hitsOf_craving
    rw [show hitsOf cartFrame craving cartScan = (.ok hits, s) from looked] at refused
    cases refused

/-- The two rules differ: of the cart's spare wheel the field is refused for the third marker, and
the parameter for the first two. -/
theorem not_alike_spare : ¬ ∀ p : Placement .bare, p.Alike := by
  intro always
  have refused : Placement.spare.looked.1.isOk = false := isOk_hitsOf_craving
  have duplicate : Placement.spare.onParameter.1.mapError Error.isInvalidHook = .error false := by
    rfl
  rcases always .spare with ⟨looked, -, parameter⟩ | ⟨looked, -⟩ | ⟨looked, -⟩ | ⟨looked, -⟩
  · rw [parameter] at duplicate
    have invalid := Placement.isInvalidHook_of_refused looked
    exact Bool.noConfusion (invalid.symm.trans (Except.error.inj duplicate))
  all_goals
    rw [looked] at refused
    cases refused

end Scan

end Injector
