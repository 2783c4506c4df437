import Injector.Proofs.Hook.Catalog
import Injector.Proofs.Scan.Local

/-!
# What a scan spends

Only draining the queue resolves operations and counts them; every other step leaves the count
alone, and if the limit is exceeded in one, that is what a callback said.
-/

set_option autoImplicit false

namespace Injector

variable {P : Platform}

namespace Scan

def resolved (s : Scan P) : List OperationId :=
  s.transcript.toList.filterMap fun
    | .resolving id => some id
    | _ => none

structure Unspent (s s' : Scan P) : Prop where
  remaining : s'.remaining = s.remaining
  resolved : s'.resolved = s.resolved

namespace Unspent

variable {s s' s'' : Scan P}

theorem refl (s : Scan P) : Unspent s s := ⟨rfl, rfl⟩

theorem trans (h : Unspent s s') (k : Unspent s' s'') : Unspent s s'' :=
  ⟨k.remaining.trans h.remaining, k.resolved.trans h.resolved⟩

end Unspent

def ByCallback (e : Error) (s : Scan P) : Prop :=
  e.isLimit = true → ScanEvent.replied (.error e) ∈ s.transcript

theorem byCallback_of_not_limit {e : Error} {s : Scan P} (h : e.isLimit = false) :
    ByCallback e s := by
  intro limit
  rw [h] at limit
  cases limit

section Kinds

variable {α β : Type} {step : ScanM P α}

def Frugal (step : ScanM P α) : Prop :=
  ∀ s, Ends step s (fun _ s' => Unspent s s') fun e s' => Unspent s s' ∧ ByCallback e s'

theorem frugal_pure (a : α) : Frugal (pure a : ScanM P α) := fun s => .refl s

theorem frugal_throw {e : Error} (h : e.isLimit = false) : Frugal (throw e : ScanM P α) :=
  fun s => ⟨.refl s, byCallback_of_not_limit h⟩

theorem frugal_get : Frugal (get : ScanM P (Scan P)) := fun s => .refl s

theorem frugal_except {x : Except Error α} (h : ∀ e, x = .error e → e.isLimit = false) :
    Frugal (liftM x : ScanM P α) :=
  fun s => ends_except.mpr
    ⟨fun _ _ => .refl s, fun e he => ⟨.refl s, byCallback_of_not_limit (h e he)⟩⟩

theorem frugal_modify {change : Scan P → Scan P} (h : ∀ s, Unspent s (change s)) :
    Frugal (modify change : ScanM P PUnit) := h

theorem Frugal.bind {next : α → ScanM P β} (h : Frugal step)
    (hn : ∀ a, Frugal (next a)) : Frugal (step >>= next) := by
  intro s
  apply (h s).bind
  intro a s' hs
  exact (hn a s').mono (fun _ _ hs' => hs.trans hs') fun _ _ hs' => ⟨hs.trans hs'.1, hs'.2⟩

/-- An error that is only told differently. -/
theorem Frugal.rethrow (h : Frugal step) (target : String) :
    Frugal (tryCatch step fun e => throw (e.requiredBy target)) := by
  intro s
  rw [ends_tryCatch]
  apply (h s).mono (fun _ _ hs => hs)
  rintro e s' ⟨hs, blamed⟩
  refine ⟨hs, ?_⟩
  cases e with
  | notRegistered requested requiredBy suggestions =>
    cases requiredBy <;> exact byCallback_of_not_limit rfl
  | _ => exact blamed

end Kinds

theorem resolved_push (s : Scan P) {event : ScanEvent P} (h : ∀ id, event ≠ .resolving id) :
    resolved { s with transcript := s.transcript.push event } = s.resolved := by
  cases event with
  | resolving id => exact absurd rfl (h id)
  | _ => simp [resolved]

theorem unspent_push (s : Scan P) {event : ScanEvent P} (h : ∀ id, event ≠ .resolving id) :
    Unspent s { s with transcript := s.transcript.push event } := ⟨rfl, resolved_push s h⟩

theorem unspent_observe (s : Scan P) : Unspent s (observe s).2 := unspent_push s (by simp)

theorem frugal_record {event : ScanEvent P} (h : ∀ id, event ≠ .resolving id) :
    Frugal (record event) := frugal_modify fun s => unspent_push s h

theorem frugal_close (call : Call P) (world : P.World) : Frugal (close call world) :=
  frugal_modify fun _ => ⟨rfl, rfl⟩

theorem frugal_append (op : Operation P) : Frugal (append op) := by
  unfold append
  apply Frugal.bind
  · exact frugal_modify fun _ => ⟨rfl, rfl⟩
  · exact fun _ => frugal_pure _

/-- Whatever a handler asks for, nothing is resolved on the spot. -/
theorem Local.unspent {α : Type} {invariant : Bean P → Prop} {step : StateM (Scan P) α}
    (h : Local invariant step) (s : Scan P) : Unspent s (step s).2 := by
  obtain ⟨act, runs, -⟩ := h
  rw [runs s]
  exact ⟨rfl, rfl⟩

theorem frugal_withCatalog {α : Type} {step : P.World → CatalogM α}
    (h : ∀ w, Catalog.Confined (step w)) : Frugal (withCatalog step) := by
  intro s
  have confined := h s.world s.catalog
  unfold withCatalog
  rw [ends_bind, ends_get]
  show Ends (set _ >>= fun _ => _) s _ _
  rw [ends_bind, ends_set, ends_except]
  refine ⟨fun _ _ => ⟨rfl, rfl⟩, fun e he => ⟨⟨rfl, rfl⟩, byCallback_of_not_limit ?_⟩⟩
  exact (confined.of_error (Prod.ext he rfl)).2

theorem not_limit_of_obtain {make : ExtensionMaker P} {key : ExtensionKey} {es : Extensions P}
    {w : P.World} {e : Error} (h : make.obtain key es w = .error e) : e.isLimit = false := by
  unfold ExtensionMaker.obtain at h
  split at h
  · cases h
  · split at h
    · cases h
    · cases h
      rfl

theorem frugal_install (f : ScanFrame P) (key : ExtensionKey) :
    Frugal (install f key) := by
  intro s
  unfold install
  rw [ends_bind, ends_get]
  show Ends (_ >>= _) s _ _
  rw [ends_bind, ends_except]
  exact ⟨fun _ _ => ⟨rfl, rfl⟩,
    fun e he => ⟨.refl s, byCallback_of_not_limit (not_limit_of_obtain he)⟩⟩

theorem frugal_takeHandler (fullAccess : Bool) (extension : Extension P) :
    Frugal (takeHandler fullAccess extension) := by
  intro s
  unfold takeHandler
  rw [ends_bind, ends_get]
  split <;> exact ⟨rfl, rfl⟩

theorem frugal_settle (result : Except Error Unit) :
    Frugal (settle (P := P) result) := by
  intro s
  unfold settle
  rw [ends_bind]
  show Ends (liftM result) { s with transcript := s.transcript.push (.replied result) } _ _
  rw [ends_except]
  have unspent : Unspent s { s with transcript := s.transcript.push (.replied result) } :=
    unspent_push s (by simp)
  refine ⟨fun _ _ => unspent, ?_⟩
  rintro e rfl
  exact ⟨unspent, fun _ => Array.mem_push_self⟩

theorem frugal_activating : Activating (@Frugal P) where
  pure := frugal_pure
  throw := frugal_throw
  get := frugal_get
  bind := Frugal.bind
  withCatalog := frugal_withCatalog
  install := frugal_install
  takeHandler := frugal_takeHandler
  record := fun _ unresolved => frugal_record unresolved
  close := frugal_close
  settle := frugal_settle
  seat := fun _ => frugal_modify fun _ => ⟨rfl, rfl⟩

theorem frugal_bindSlot (f : ScanFrame P) (id index : Nat) (binding : Binding P) :
    Frugal (bindSlot f id index binding) := by
  unfold bindSlot
  apply (frugal_activating.operationAt f id).bind
  intro op
  apply Frugal.bind
  · apply frugal_except
    intro e he
    unfold Operation.bind at he
    split at he
    · cases he
      rfl
    · split at he
      · cases he
        rfl
      · cases he
  · exact fun _ => frugal_modify fun _ => ⟨rfl, rfl⟩

end Scan

end Injector
