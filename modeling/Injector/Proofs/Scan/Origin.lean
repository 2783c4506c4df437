import Injector.Proofs.Scan.Attendance
import Injector.Proofs.Scan.Claim

/-!
# Where the operations of a scan come from

Whoever makes one was let in by markers on the member, or was asked for the value of a parameter;
and whatever a handler does meanwhile, the scan makes no other operations.
-/

set_option autoImplicit false

namespace Injector

variable {P : Platform}

def Party.MayReach (installer : Party) (extension : ExtensionKey) (owner : ClassDescriptor P)
    (visibility : Visibility) : Prop :=
  visibility = .anyone ∨ owner.isOpenTo extension.module = true ∨
    (installer == .extension extension) = true

theorem Party.mayReach_of_checkAccess {installer : Party} {owner : ClassDescriptor P}
    {member : String} {visibility : Visibility} {context : ScanContext}
    (h : checkAccess owner member visibility context = .ok ())
    (full : context.fullAccess = true → (installer == .extension context.extension) = true) :
    installer.MayReach context.extension owner visibility := by
  unfold checkAccess at h
  split at h
  next allowed =>
    rw [Bool.or_eq_true, Bool.or_eq_true, beq_iff_eq] at allowed
    rcases allowed with (seen | access) | isOpen
    · exact .inl seen
    · exact .inr (.inr (full access))
    · exact .inr (.inl isOpen)
  next => cases h

namespace Scan

section Origins

variable {f : ScanFrame P} {cls : ClassDescriptor P} {c c' : Catalog}
  {past later : List (ScanEvent P)} {op op' : Operation P}

/-- What entitles the scan to an operation: it constructs the bean for the installer; or markers of
the member let an extension in, which may reach the member; or an extension that was asked for the
value of a parameter nests it in the operation that has the parameter. -/
inductive Origin (f : ScanFrame P) (cls : ClassDescriptor P) (c : Catalog)
    (past : List (ScanEvent P)) (op : Operation P) : Prop
  | constructor {constructor : Constructor P} {id : OperationId}
      (selected : cls.selectConstructor = .ok constructor)
      (grown : (Operation.ofConstructor id cls constructor f.installer none).Grows op)
  | field {m : FieldMatch P} {call : FieldCall} {id : OperationId} {made : Operation P}
      (declared : ⟨m.owner, m.field⟩ ∈ cls.fieldWalk)
      (marked : Marked c f.model m.field.markers m.context.extension (·.permits call))
      (reached : f.installer.MayReach m.context.extension m.owner m.field.visibility)
      (built : m.build id call = .ok made) (grown : made.Grows op)
  | injection {declared : DeclaredField P} {extension : ExtensionKey} {id : OperationId}
      {made : Operation P} (walked : declared ∈ cls.fieldWalk)
      (sole : SoleBinding c f.model declared.field.markers extension)
      (reached : f.installer.MayReach extension declared.owner declared.field.visibility)
      (built : Operation.ofInjection id declared.owner declared.field (.extension extension) =
        .ok made) (grown : made.Grows op)
  | method {m : MethodMatch P} {id : OperationId} {made : Operation P}
      (declared : ⟨m.owner, m.method⟩ ∈ cls.methodWalk)
      (marked : Marked c f.model m.method.markers m.context.extension (·.isMethodHook))
      (reached : f.installer.MayReach m.context.extension m.owner m.method.visibility)
      (built : Operation.ofMethod id m.owner m.method (.extension m.context.extension) = .ok made)
      (grown : made.Grows op)
  | nested {r : BindingRequest P} {made : Operation P} (asked : .bindingRequested r ∈ past)
      (parent : made.parent = some r.operation.id) (operator : made.operator = r.operator)
      (mode : made.mode = .invoke ∨ made.mode = .construct) (grown : made.Grows op)

/-- It stays so as the operation grows, the catalog learns, and the scan goes on. -/
theorem Origin.mono (h : Origin f cls c past op) (catalog : c.Grows c') (more : past <+: later)
    (grows : op.Grows op') : Origin f cls c' later op' := by
  cases h with
  | constructor selected grown => exact .constructor selected (grown.trans grows)
  | field declared marked reached built grown =>
    exact .field declared (marked.mono catalog) reached built (grown.trans grows)
  | injection walked sole reached built grown =>
    exact .injection walked (sole.mono catalog) reached built (grown.trans grows)
  | method declared marked reached built grown =>
    exact .method declared (marked.mono catalog) reached built (grown.trans grows)
  | nested asked parent operator mode grown =>
    exact .nested (more.subset asked) parent operator mode (grown.trans grows)

def Holds (b : Bean P) (op : Operation P) : Prop :=
  ∃ id op', b.operation? id = some op' ∧ op.Grows op'

structure Posed (b : Bean P) (r : BindingRequest P) : Prop where
  held : Holds b r.operation
  parameter : r.operation.params[r.index]? = some r.parameter

/-- Every operation from `base` on is one that the scan was entitled to, and whatever an extension
was asked for is a parameter. -/
structure Founded (f : ScanFrame P) (cls : ClassDescriptor P) (base : Nat) (c : Catalog)
    (past : List (ScanEvent P)) (b : Bean P) : Prop where
  entitled : ∀ (id : Nat) op, base ≤ id → b.operation? id = some op → Origin f cls c past op
  posed : ∀ r, .bindingRequested r ∈ past → Posed b r

variable {base : Nat} {b b' : Bean P} {r : BindingRequest P}

theorem Holds.mono (h : Holds b op) (grows : b.Extends b') : Holds b' op := by
  obtain ⟨id, old, ho, grown⟩ := h
  obtain ⟨new, ho', grown'⟩ := grows.operations id old ho
  exact ⟨id, new, ho', grown.trans grown'⟩

theorem Posed.mono (h : Posed b r) (grows : b.Extends b') : Posed b' r :=
  ⟨h.held.mono grows, h.parameter⟩

theorem Founded.learn (h : Founded f cls base c past b) (catalog : c.Grows c') :
    Founded f cls base c' past b where
  entitled := fun id op le ho =>
    (h.entitled id op le ho).mono catalog (List.prefix_refl _) (.refl op)
  posed := h.posed

theorem Founded.tell (h : Founded f cls base c past b) {event : ScanEvent P}
    (posed : ∀ r, event = .bindingRequested r → Posed b r) :
    Founded f cls base c (past ++ [event]) b where
  entitled := fun id op le ho =>
    (h.entitled id op le ho).mono (.refl c) (List.prefix_append _ _) (.refl op)
  posed := by
    intro r asked
    rcases List.mem_append.mp asked with asked | asked
    · exact h.posed r asked
    · exact posed r (List.mem_singleton.mp asked).symm

/-- Entitled to each operation that is added, the scan is so to all. -/
theorem upheld_founded : Upheld f (Founded f cls base c past) (Origin f cls c past) where
  bound := by
    intro id index binding bean bean' h bound
    obtain ⟨old, new, found, grown, rfl⟩ := put_of_slotBound bound
    refine ⟨fun i op le ho => ?_, fun r asked => (h.posed r asked).mono (.put found grown)⟩
    rcases Bean.operation?_of_put found ho with ⟨rfl, rfl⟩ | ⟨-, ho⟩
    · exact (h.entitled i old le found).mono (.refl c) (List.prefix_refl _) grown
    · exact h.entitled i op le ho
  appended := by
    intro op fit bean h
    refine ⟨fun i other le ho => ?_, fun r asked => (h.posed r asked).mono (.append bean op)⟩
    rcases Bean.operation?_of_append ho with ⟨-, rfl⟩ | ho
    · exact fit
    · exact h.entitled i other le ho

end Origins

section Warrants

variable {f : ScanFrame P} {cls : ClassDescriptor P} {base : Nat} {s s' s'' : Scan P}

structure Later (s s' : Scan P) : Prop where
  catalog : s.catalog.Grows s'.catalog
  transcript : s.transcript.toList <+: s'.transcript.toList
  bean : s.bean.Extends s'.bean

theorem Later.refl (s : Scan P) : Later s s := ⟨.refl _, List.prefix_refl _, .refl _⟩

theorem Later.trans (h : Later s s') (k : Later s' s'') : Later s s'' :=
  ⟨h.catalog.trans k.catalog, h.transcript.trans k.transcript, h.bean.trans k.bean⟩

def Standing (f : ScanFrame P) (cls : ClassDescriptor P) (base : Nat) (s : Scan P) (b : Bean P) :
    Prop :=
  s.bean.Extends b ∧ Founded f cls base s.catalog s.transcript.toList b

theorem upheld_standing :
    Upheld f (Standing f cls base s) (Origin f cls s.catalog s.transcript.toList) where
  bound := fun id index binding b b' h bound =>
    ⟨(upheld_extends f s.bean).bound id index binding b b' h.1 bound,
      upheld_founded.bound id index binding b b' h.2 bound⟩
  appended := fun op fit b h =>
    ⟨(upheld_extends f s.bean).appended op trivial b h.1, upheld_founded.appended op fit b h.2⟩

/-- The scan is entitled to the operations it has made, and was so whenever a handler could look
at them; contributors stand for the extensions of their keys. -/
structure Warranted (f : ScanFrame P) (cls : ClassDescriptor P) (base : Nat) (s : Scan P) :
    Prop where
  contexts : ∀ c ∈ s.contributors, c.context = f.contextOf c.key
  founded : Founded f cls base s.catalog s.transcript.toList s.bean
  seen : ∀ past bean rest, s.transcript.toList = past ++ .stood bean :: rest →
    Founded f cls base s.catalog past bean.value

theorem Warranted.standing (h : Warranted f cls base s) : Standing f cls base s s.bean :=
  ⟨.refl _, h.founded⟩

/-- Something else happened. -/
theorem Warranted.of_eq (h : Warranted f cls base s) (catalog : s'.catalog = s.catalog)
    (transcript : s'.transcript = s.transcript) (bean : s'.bean = s.bean)
    (contributors : s'.contributors = s.contributors) :
    Later s s' ∧ Warranted f cls base s' := by
  refine ⟨⟨catalog ▸ .refl _, transcript ▸ List.prefix_refl _, bean ▸ .refl _⟩,
    contributors ▸ h.contexts, ?_, ?_⟩
  · rw [catalog, transcript, bean]
    exact h.founded
  · rw [catalog, transcript]
    exact h.seen

/-- One more event, which may be a look at the bean or a request. -/
theorem Warranted.push (h : Warranted f cls base s) (event : ScanEvent P)
    (looked : ∀ bean, event = .stood bean → bean = .of s.bean)
    (posed : ∀ r, event = .bindingRequested r → Posed s.bean r) :
    Later s { s with transcript := s.transcript.push event } ∧
      Warranted f cls base { s with transcript := s.transcript.push event } := by
  have told := h.founded.tell posed
  rw [← Array.toList_push] at told
  have more : s.transcript.toList <+: (s.transcript.push event).toList := by
    rw [Array.toList_push]
    exact List.prefix_append _ _
  refine ⟨⟨.refl _, more, .refl _⟩, h.contexts, told, ?_⟩
  intro past bean rest cut
  rw [Array.toList_push] at cut
  rcases List.eq_nil_or_concat rest with rfl | ⟨rest, last, rfl⟩
  · obtain ⟨rfl, same⟩ := List.append_inj' cut rfl
    rw [looked bean (List.singleton_inj.mp same), Ghost.value_of]
    exact h.founded
  · rw [List.concat_eq_append, ← List.cons_append, ← List.append_assoc] at cut
    exact h.seen past bean rest (List.append_inj' cut rfl).1

theorem Warranted.learn (h : Warranted f cls base s) {catalog : Catalog}
    (grows : s.catalog.Grows catalog) :
    Later s { s with catalog } ∧ Warranted f cls base { s with catalog } :=
  ⟨⟨grows, List.prefix_refl _, .refl _⟩, h.contexts, h.founded.learn grows,
    fun past bean rest cut => (h.seen past bean rest cut).learn grows⟩

/-- The bean changes to one of which the same holds. -/
theorem Warranted.place (h : Warranted f cls base s) {bean : Bean P} {queue : List OperationId}
    (standing : Standing f cls base s bean) :
    Later s (s.place bean queue) ∧ Warranted f cls base (s.place bean queue) :=
  ⟨⟨.refl _, List.prefix_refl _, standing.1⟩, h.contexts, standing.2, h.seen⟩

def Warrants {α : Type} (f : ScanFrame P) (cls : ClassDescriptor P) (base : Nat) (s : Scan P)
    (step : ScanM P α) (ok : α → Scan P → Prop) : Prop :=
  Ends step s (fun a s' => (Later s s' ∧ Warranted f cls base s') ∧ ok a s')
    fun _ s' => Later s s' ∧ Warranted f cls base s'

namespace Warrants

variable {α β : Type} {step : ScanM P α} {ok : α → Scan P → Prop}

theorem mono {ok' : α → Scan P → Prop} (h : Warrants f cls base s step ok)
    (hok : ∀ a s', ok a s' → ok' a s') : Warrants f cls base s step ok' :=
  Ends.imp h fun a s' hs => ⟨hs.1, hok a s' hs.2⟩

theorem bind {next : α → ScanM P β} {ok' : β → Scan P → Prop}
    (h : Warrants f cls base s step ok)
    (hn : ∀ a s', Later s s' → Warranted f cls base s' → ok a s' →
      Warrants f cls base s' (next a) ok') : Warrants f cls base s (step >>= next) ok' := by
  apply Ends.bind h
  rintro a s' ⟨⟨later, warranted⟩, ha⟩
  exact Ends.mono (hn a s' later warranted ha)
    (fun _ _ hs => ⟨⟨later.trans hs.1.1, hs.1.2⟩, hs.2⟩) fun _ _ hs => ⟨later.trans hs.1, hs.2⟩

theorem pure {a : α} (hs : Warranted f cls base s) (h : ok a s) :
    Warrants f cls base s (Pure.pure a) ok := ⟨⟨.refl s, hs⟩, h⟩

theorem throw {e : Error} (hs : Warranted f cls base s) :
    Warrants f cls base s (MonadExcept.throw e : ScanM P α) ok := ⟨.refl s, hs⟩

/-- An error that is only told differently. -/
theorem rethrow (h : Warrants f cls base s step ok) (tell : Error → Error) :
    Warrants f cls base s (tryCatch step fun e => MonadExcept.throw (tell e)) ok :=
  ends_tryCatch.mpr h

theorem forM {xs : List α} {step : α → ScanM P PUnit} (hs : Warranted f cls base s)
    (h : ∀ x ∈ xs, ∀ s', Later s s' → Warranted f cls base s' →
      Warrants f cls base s' (step x) fun _ _ => True) :
    Warrants f cls base s (xs.forM step) fun _ _ => True := by
  induction xs generalizing s with
  | nil => exact pure hs trivial
  | cons x xs ih =>
    show Warrants f cls base s (step x >>= fun _ => xs.forM step) _
    apply (h x (by simp) s (.refl s) hs).bind
    intro _ s' later hs' _
    exact ih hs' fun y hy s'' later' => h y (by simp [hy]) s'' (later.trans later')

end Warrants

def Lawful {α : Type} (f : ScanFrame P) (cls : ClassDescriptor P) (base : Nat)
    (step : ScanM P α) : Prop :=
  ∀ s, Warranted f cls base s → Warrants f cls base s step fun _ _ => True

theorem lawful_throw {α : Type} (e : Error) : Lawful f cls base (throw e : ScanM P α) :=
  fun _ hs => .throw hs

theorem lawful_except {α : Type} (x : Except Error α) :
    Lawful f cls base (liftM x : ScanM P α) := fun s hs =>
  ends_except.mpr ⟨fun _ _ => ⟨⟨.refl s, hs⟩, trivial⟩, fun _ _ => ⟨.refl s, hs⟩⟩

theorem Lawful.bind {α β : Type} {step : ScanM P α} {next : α → ScanM P β}
    (h : Lawful f cls base step) (hn : ∀ a, Lawful f cls base (next a)) :
    Lawful f cls base (step >>= next) :=
  fun s hs => (h s hs).bind fun a s' _ hs' _ => hn a s' hs'

theorem warrants_withCatalog {α : Type} {step : P.World → CatalogM α} {ok : α → Catalog → Prop}
    (hs : Warranted f cls base s) (confined : ∀ w, Catalog.Confined (step w))
    (h : Ends (step s.world) s.catalog ok fun _ _ => True) :
    Warrants f cls base s (withCatalog step) fun a s' => ok a s'.catalog := by
  apply ends_withCatalog.mpr
  apply (h.and (confined s.world s.catalog)).mono
  · exact fun a catalog both => ⟨hs.learn both.2, both.1⟩
  · exact fun _ catalog both => hs.learn both.2.1

theorem lawful_compositional : Compositional fun step => Lawful (P := P) f cls base step where
  pure := fun _ _ hs => .pure hs trivial
  throw := fun _ => lawful_throw _
  get := fun s hs => ⟨⟨.refl s, hs⟩, trivial⟩
  bind := Lawful.bind
  withCatalog := fun confined _ hs =>
    (warrants_withCatalog hs confined (Ends.any _ _)).mono fun _ _ _ => trivial

end Warrants

end Scan

end Injector
