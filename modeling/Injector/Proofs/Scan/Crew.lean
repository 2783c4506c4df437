import Injector.Proofs.Scan.Licence
import Injector.Proofs.Scan.Requests
import Injector.Proofs.Scan.Walks

/-!
# For whom fields are injected

An extension is activated before a field is injected for it, and no handler can make such an
operation; so whoever is to bind an injected field takes part already.
-/

set_option autoImplicit false

namespace Injector

variable {P : Platform}

namespace Operation

variable {op later : Operation P} {mode : AccessMode} {operator : Party}
  {active : ExtensionKey → Prop}

theorem Own.of_grows (h : later.Own mode operator) (grown : op.Grows later) :
    op.Own mode operator where
  mode_eq := grown.mode_eq.symm.trans h.mode_eq
  operator_eq := by rw [← h.operator_eq, grown.same]
  parent_eq := grown.parent_eq.symm.trans h.parent_eq

def InjectsFor (active : ExtensionKey → Prop) (op : Operation P) : Prop :=
  ∀ extension, op.Own .inject (.extension extension) → active extension

theorem injectsFor_of_mode (h : op.mode ≠ .inject) : op.InjectsFor active :=
  fun _ own => absurd own.mode_eq h

theorem injectsFor_of_parent (h : op.parent.isSome = true) : op.InjectsFor active := by
  intro extension own
  rw [own.parent_eq] at h
  cases h

/-- A handler that is shown a field can make getters and setters. -/
theorem injectsFor_build {m : FieldMatch P} {call : FieldCall} {id : OperationId}
    (h : m.build id call = .ok op) : op.InjectsFor active := by
  cases call with
  | newGetter => exact injectsFor_of_mode (by simp [(own_ofGetter h).mode_eq])
  | newSetter => exact injectsFor_of_mode (by simp [(own_ofSetter h).mode_eq])

theorem injectsFor_ofMethod {id : OperationId} {owner : ClassDescriptor P} {method : Method P}
    (h : ofMethod id owner method operator = .ok op) : op.InjectsFor active :=
  injectsFor_of_mode (by simp [(own_ofMethod h).mode_eq])

end Operation

theorem Life.ne_nil {calls : List (Call P)} {c : Contributor P} (h : Life calls (some c)) :
    calls ≠ [] := by
  cases h <;> simp

namespace Scan

variable {f : ScanFrame P} {base : Nat} {given : Option (Handler P)} {s s' : Scan P}

def InjectedFor (base : Nat) (active : ExtensionKey → Prop) (b : Bean P) : Prop :=
  ∀ (id : Nat) op, base ≤ id → b.operation? id = some op → op.InjectsFor active

section Beans

variable {active active' : ExtensionKey → Prop} {b : Bean P}

theorem InjectedFor.mono (h : InjectedFor base active b)
    (more : ∀ extension, active extension → active' extension) : InjectedFor base active' b :=
  fun id op le ho extension own => more extension (h id op le ho extension own)

theorem upheld_injectedFor :
    Upheld f (InjectedFor base active) (Operation.InjectsFor active) where
  bound := by
    intro id index binding bean bean' h bound
    obtain ⟨old, new, found, grown, rfl⟩ := put_of_slotBound bound
    intro i op le ho
    rcases Bean.operation?_of_put found ho with ⟨rfl, rfl⟩ | ⟨-, ho⟩
    · exact fun extension own => h i old le found extension (own.of_grows grown)
    · exact h i op le ho
  appended := by
    intro op fit bean h i other le ho
    rcases Bean.operation?_of_append ho with ⟨-, rfl⟩ | ho
    · exact fit
    · exact h i other le ho

end Beans

def Heard (s : Scan P) (extension : ExtensionKey) : Prop := s.callsOf extension ≠ []

/-- The extensions that take part are on the roster, and fields are injected only for extensions
that were called. -/
structure Crewed (f : ScanFrame P) (base : Nat) (given : Option (Handler P)) (s : Scan P) :
    Prop where
  roster : Roster f given [] s
  injectors : InjectedFor base s.Heard s.bean

/-- Who was called takes part. -/
theorem Roster.takesPart {key : ExtensionKey} (h : Roster f given [] s) (heard : s.Heard key) :
    ∃ c, s.contributor? key = some c := by
  have life := h.attendance.lives key
  cases found : s.contributor? key with
  | some c => exact ⟨c, rfl⟩
  | none =>
    rw [found] at life
    exact absurd life.eq_nil heard

/-- Who takes part was called. -/
theorem Roster.heard {key : ExtensionKey} {c : Contributor P} (h : Roster f given [] s)
    (found : s.contributor? key = some c) : s.Heard key := by
  have life := h.attendance.lives key
  rw [found] at life
  exact life.ne_nil

theorem Heard.later {since : List (Call P)} {key : ExtensionKey} (h : s.Heard key)
    (calls : s'.calls.toList = s.calls.toList ++ since) : s'.Heard key := by
  unfold Heard callsOf at h ⊢
  rw [calls, List.filter_append]
  exact List.append_ne_nil_of_left_ne_nil h _

/-- Nobody is forgotten, and no field is injected for others meanwhile. -/
theorem Crewed.spans {since : List (Call P)} (h : Crewed f base given s)
    (enrolled : Enrolled f s s') (spans : Spans (InjectedFor base s.Heard) s since s') :
    Crewed f base given s' where
  roster := enrolled.roster given h.roster
  injectors := spans.kept.mono fun _ heard => heard.later spans.calls

def Crews {α : Type} (f : ScanFrame P) (base : Nat) (given : Option (Handler P))
    (step : ScanM P α) : Prop :=
  ∀ s, Crewed f base given s → Ends step s (fun _ s' => Crewed f base given s') fun _ _ => True

section Steps

variable {α β : Type} {step : ScanM P α}

theorem Crewed.attends {ok : α → List (Call P) → Scan P → Prop} {failed : List (Call P) → Prop}
    (h : Crewed f base given s)
    (attends : Attends f (InjectedFor base s.Heard) s step ok failed) :
    Ends step s (fun _ s' => Crewed f base given s') fun _ _ => True :=
  Ends.mono attends (fun _ _ ⟨_, spans, enrolled, _⟩ => h.spans enrolled spans) fun _ _ _ => trivial

theorem Crews.bind {next : α → ScanM P β} (h : Crews f base given step)
    (hn : ∀ a, Crews f base given (next a)) : Crews f base given (step >>= next) :=
  fun s hs => Ends.bind (h s hs) fun a s' hs' => hn a s' hs'

/-- What calls nobody and adds no operation injects nothing. -/
theorem Hush.crews (h : ∀ active, Hush (InjectedFor base active) step) :
    Crews f base given step := fun s hs => hs.attends ((h s.Heard).attends hs.injectors)

theorem crews_compositional : Compositional fun step => Crews (P := P) f base given step where
  pure := fun _ => Hush.crews fun _ => hush_pure _
  throw := fun _ => Hush.crews fun _ => hush_throw _
  get := Hush.crews fun _ => hush_get
  bind := Crews.bind
  withCatalog := fun _ => Hush.crews fun _ => hush_withCatalog _

/-- An operation that is for an extension that was called may be added. -/
theorem Crewed.append {op : Operation P} (h : Crewed f base given s) (fit : op.InjectsFor s.Heard) :
    Ends (append op) s (fun _ s' => Crewed f base given s') fun _ _ => True :=
  have adds : Hush (InjectedFor base s.Heard) (Scan.append op) :=
    (local_append ((upheld_injectedFor (f := f)).appended op fit)).hush
  h.attends (adds.attends h.injectors)

/-- The extension is activated first. -/
theorem crews_inject (declared : DeclaredField P) (extension : ExtensionKey) :
    Crews f base given (inject f declared extension) := by
  intro s hs
  unfold inject
  have activates : Ends (activate f extension) s
      (fun _ s' => Crewed f base given s' ∧ s'.Heard extension) fun _ _ => True := by
    apply Ends.mono (attends_activate hs.injectors)
    · rintro c s' ⟨since, spans, enrolled, -, found⟩
      have crewed := hs.spans enrolled spans
      exact ⟨crewed, crewed.roster.heard found⟩
    · exact fun _ _ _ => trivial
  apply activates.bind
  rintro c s' ⟨crewed, heard⟩
  rw [ends_bind, ends_except]
  refine ⟨fun _ _ => ?_, fun _ _ => trivial⟩
  show Ends (liftM (Operation.ofInjection s'.bean.operations.size declared.owner declared.field
    (.extension extension)) >>= fun op => Functor.discard (append op)) s' _ _
  rw [ends_bind, ends_except]
  refine ⟨fun op built => ends_discard.mpr (crewed.append ?_), fun _ _ => trivial⟩
  intro target own
  have operator := (Operation.own_ofInjection built).operator_eq
  obtain rfl := Party.extension.inj (operator.symm.trans own.operator_eq)
  exact heard

theorem crews_matchField (declared : DeclaredField P) :
    Crews f base given (matchField f declared) := by
  unfold matchField
  apply (crews_compositional.hitsOf f declared.field.markers).bind
  intro hits
  split
  next => exact crews_compositional.pure _
  next => exact Hush.crews fun _ => hush_throw _
  next => exact Hush.crews fun _ => hush_throw _
  next => exact crews_inject declared _
  next =>
    apply crews_compositional.forM
    intro g _ s hs
    exact hs.attends (attends_showField upheld_injectedFor
      (fun _ _ _ _ => Operation.injectsFor_build) hs.injectors declared g)

theorem crews_matchMethod (declared : DeclaredMethod P) :
    Crews f base given (matchMethod f declared) := fun _ hs =>
  hs.attends (attends_matchMethod upheld_injectedFor
    (fun _ _ _ _ _ => Operation.injectsFor_ofMethod) hs.injectors declared)

theorem Crewed.resolveParameter (hs : Crewed f base given s) (linked : s.bean.Linked)
    (id index : Nat) (parameter : Parameter P) :
    Ends (resolveParameter f id index parameter) s (fun _ s' => Crewed f base given s')
      fun _ _ => True :=
  hs.attends (attends_resolveParameter upheld_injectedFor
    (fun _ => Operation.injectsFor_of_parent) hs.injectors linked id index parameter)

end Steps

end Scan

end Injector
