import Injector.Proofs.Scan.Composition
import Injector.Proofs.Scan.Progress

/-!
# The small steps of a scan

Some leave the bean and the queue alone whatever comes of them; some only read the state; the calls
that change the bean do so in full, or they fail and change nothing.
-/

set_option autoImplicit false

namespace Injector

variable {P : Platform}

namespace Scan

section Kinds

variable {α β : Type} {f : ScanFrame P} {s : Scan P} {step : ScanM P α} {ok : α → Scan P → Prop}

def Silent (step : ScanM P α) : Prop :=
  ∀ s, Ends step s (fun _ s' => Quiet s s') fun _ s' => Quiet s s'

def Reads (s : Scan P) (step : ScanM P α) (ok : α → Prop) : Prop :=
  Ends step s (fun a s' => s' = s ∧ ok a) fun _ s' => s' = s

def Atomic (f : ScanFrame P) (s : Scan P) (step : ScanM P α) (ok : α → Scan P → Prop) : Prop :=
  Ends step s (fun a s' => Follows f s s' ∧ ok a s') fun _ s' => s' = s

theorem silent_pure (a : α) : Silent (pure a : ScanM P α) := fun s => .refl s

theorem silent_throw (e : Error) : Silent (throw e : ScanM P α) := fun s => .refl s

theorem silent_get : Silent (get : ScanM P (Scan P)) := fun s => .refl s

theorem silent_except (x : Except Error α) : Silent (liftM x : ScanM P α) :=
  fun s => ends_except.mpr ⟨fun _ _ => .refl s, fun _ _ => .refl s⟩

theorem silent_modify {change : Scan P → Scan P} (h : ∀ s, Quiet s (change s)) :
    Silent (modify change : ScanM P PUnit) := h

theorem Silent.bind {next : α → ScanM P β} (h : Silent step) (hn : ∀ a, Silent (next a)) :
    Silent (step >>= next) := by
  intro s
  apply (h s).bind
  intro a s' hs
  exact (hn a s').mono (fun _ _ hs' => hs.trans hs') fun _ _ hs' => hs.trans hs'

theorem Silent.leads (h : Silent step) (f : ScanFrame P) (s : Scan P) :
    Leads f s step fun _ s' => Quiet s s' :=
  (h s).mono (fun _ _ hs => ⟨.of_quiet hs, hs⟩) fun _ _ hs => .of_quiet hs

theorem reads_except {x : Except Error α} {ok : α → Prop} (h : ∀ a, x = .ok a → ok a) :
    Reads s (liftM x) ok :=
  ends_except.mpr ⟨fun a ha => ⟨rfl, h a ha⟩, fun _ _ => rfl⟩

/-- What is read and checked first changes nothing. -/
theorem Reads.ends {ok : α → Prop} {next : α → ScanM P β} {ok' : β → Scan P → Prop}
    (h : Reads s step ok) (hn : ∀ a, ok a → Ends (next a) s ok' fun _ s' => s' = s) :
    Ends (step >>= next) s ok' fun _ s' => s' = s := by
  apply Ends.bind h
  rintro a _ ⟨rfl, ha⟩
  exact hn a ha

theorem Reads.bind {ok : α → Prop} {next : α → ScanM P β} {ok' : β → Prop}
    (h : Reads s step ok) (hn : ∀ a, ok a → Reads s (next a) ok') :
    Reads s (step >>= next) ok' := h.ends hn

/-- Before a call changes anything it may read and check. -/
theorem Reads.atomic {ok : α → Prop} {next : α → ScanM P β} {ok' : β → Scan P → Prop}
    (h : Reads s step ok) (hn : ∀ a, ok a → Atomic f s (next a) ok') :
    Atomic f s (step >>= next) ok' := h.ends hn

theorem Reads.leads {ok : α → Prop} (h : Reads s step ok) :
    Leads f s step fun a s' => s' = s ∧ ok a := by
  apply Ends.mono h
  · rintro a _ ⟨rfl, ha⟩
    exact ⟨.refl _, rfl, ha⟩
  · rintro _ _ rfl
    exact .refl _

theorem atomic_throw {e : Error} : Atomic f s (throw e) ok := rfl

theorem Atomic.mono {ok' : α → Scan P → Prop} (h : Atomic f s step ok)
    (hok : ∀ a s', ok a s' → ok' a s') : Atomic f s step ok' :=
  Ends.mono h (fun a s' hs => ⟨hs.1, hok a s' hs.2⟩) fun _ _ hs => hs

theorem Atomic.follows (h : Atomic f s step ok) :
    Atomic f s step fun a s' => Follows f s s' ∧ ok a s' :=
  Ends.mono h (fun _ _ hs => ⟨hs.1, hs⟩) fun _ _ hs => hs

theorem Atomic.leads (h : Atomic f s step ok) : Leads f s step ok := by
  apply Ends.mono h
  · exact fun _ _ hs => hs
  · rintro _ _ rfl
    exact .refl _

/-- What holds whether the call succeeds or not. -/
theorem Atomic.keeps {invariant : Scan P → Prop} (h : Atomic f s step fun _ s' => invariant s')
    (hs : invariant s) : Follows f s (step s).2 ∧ invariant (step s).2 := by
  apply Ends.state fun s' => Follows f s s' ∧ invariant s'
  apply Ends.mono h
  · exact fun _ _ hs' => hs'
  · rintro _ _ rfl
    exact ⟨.refl _, hs⟩

end Kinds

theorem seen_push (s : Scan P) {event : ScanEvent P} (h : ∀ bean, event ≠ .stood bean) :
    seen { s with transcript := s.transcript.push event } = s.seen := by
  cases event with
  | stood bean => exact absurd rfl (h bean)
  | _ => simp [seen]

theorem seen_observe (s : Scan P) : seen (observe s).2 = s.seen ++ [s.bean] := by
  show seen { s with transcript := s.transcript.push (.stood (.of s.bean)) } = _
  simp [seen, Ghost.value_of]

theorem follows_observe (f : ScanFrame P) (s : Scan P) : Follows f s (observe s).2 :=
  .observed rfl (seen_observe s)

theorem silent_record {event : ScanEvent P} (h : ∀ bean, event ≠ .stood bean) :
    Silent (record event) := silent_modify fun s => ⟨rfl, rfl, seen_push s h⟩

theorem silent_close (call : Call P) (world : P.World) : Silent (close call world) :=
  silent_modify fun _ => ⟨rfl, rfl, rfl⟩

theorem withCatalog_apply {α : Type} (step : P.World → CatalogM α) (s : Scan P) :
    withCatalog step s = ((step s.world s.catalog : Except Error α × Catalog).1,
      { s with catalog := (step s.world s.catalog : Except Error α × Catalog).2 }) := by
  unfold withCatalog
  rw [get_bind_apply]
  show ((liftM (step s.world s.catalog : Except Error α × Catalog).1 : ScanM P α)
    { s with catalog := (step s.world s.catalog : Except Error α × Catalog).2 }) = _
  rcases (step s.world s.catalog : Except Error α × Catalog) with ⟨_ | _, _⟩ <;> rfl

/-- All that the step changes is the catalog. -/
theorem ends_withCatalog {α : Type} {step : P.World → CatalogM α} {s : Scan P}
    {ok : α → Scan P → Prop} {failed : Error → Scan P → Prop} :
    Ends (withCatalog step) s ok failed ↔ Ends (step s.world) s.catalog
      (fun a catalog => ok a { s with catalog }) fun e catalog => failed e { s with catalog } := by
  unfold Ends
  rw [withCatalog_apply]
  rcases (step s.world s.catalog : Except Error α × Catalog) with ⟨_ | _, _⟩ <;> rfl

theorem silent_withCatalog {α : Type} (step : P.World → CatalogM α) :
    Silent (withCatalog step) := fun _ =>
  ends_withCatalog.mpr
    ((Ends.any _ _).mono (fun _ _ _ => ⟨rfl, rfl, rfl⟩) fun _ _ _ => ⟨rfl, rfl, rfl⟩)

theorem silent_install (f : ScanFrame P) (key : ExtensionKey) : Silent (install f key) := by
  intro s
  unfold install
  rw [ends_bind]
  show Ends (_ >>= _) s _ _
  rw [ends_bind]
  exact ends_except.mpr ⟨fun _ _ => ⟨rfl, rfl, rfl⟩, fun _ _ => .refl s⟩

theorem silent_takeHandler (fullAccess : Bool) (extension : Extension P) :
    Silent (takeHandler fullAccess extension) := by
  intro s
  unfold takeHandler
  rw [ends_bind, ends_get]
  split <;> exact ⟨rfl, rfl, rfl⟩

theorem silent_settle (result : Except Error Unit) : Silent (settle (P := P) result) :=
  (silent_record (by simp)).bind fun _ => silent_except result

theorem silent_activating : Activating (@Silent P) where
  pure := silent_pure
  throw := fun _ => silent_throw _
  get := silent_get
  bind := Silent.bind
  withCatalog := fun _ => silent_withCatalog _
  install := silent_install
  takeHandler := silent_takeHandler
  record := fun unseen _ => silent_record unseen
  close := silent_close
  settle := silent_settle
  seat := fun _ => silent_modify fun _ => ⟨rfl, rfl, rfl⟩

theorem reads_operationAt (f : ScanFrame P) (s : Scan P) (id : Nat) :
    Reads s (operationAt f id) fun op => s.bean.operation? id = some op := by
  unfold Reads operationAt
  rw [ends_bind, ends_get]
  cases ho : s.bean.operation? id with
  | none => exact rfl
  | some op => exact ⟨rfl, rfl⟩

theorem reads_bindingAt (s : Scan P) (id index : Nat) :
    Reads s (bindingAt id index) fun binding =>
      binding = (s.bean.operation? id).bind (·.binding? index) := ⟨rfl, rfl⟩

theorem reads_nextId (s : Scan P) :
    Reads s (nextId (P := P)) fun id => id = s.bean.operations.size := ⟨rfl, rfl⟩

theorem scanBean_refused (host : Host P) {s : Scan P} (scanned : s.bean.scanned = true) :
    scanBean host s = (.error (.alreadyScanned s.bean.type), s) := by
  unfold scanBean
  rw [get_bind_apply, if_pos scanned]
  rfl

/-- The hooks of the class are gathered before anything else, unless the bean is refused since it
was scanned before. -/
theorem ends_scanBean_of {host : Host P} {s : Scan P} {ok : PUnit → Scan P → Prop}
    {failed : Error → Scan P → Prop}
    (refused : s.bean.scanned = true → failed (.alreadyScanned s.bean.type) s)
    (scans : Ends (withCatalog fun w => Catalog.modelFor w s.bean.descriptor) s
      (fun model s' =>
        Ends (scanWith ⟨host, model, s.bean.type, s.bean.installer⟩ s.bean) s' ok failed) failed) :
    Ends (scanBean host) s ok failed := by
  unfold scanBean
  show Ends (if s.bean.scanned then _ else _) s ok failed
  split
  next scanned => exact refused scanned
  next => exact ends_bind.mpr scans

end Scan

end Injector
