import Injector.Proofs.Scan.Farewell
import Injector.Proofs.Scan.Need

/-!
# How a scan fails

The first task that fails ends it: no handler hears of anything after that, and the scan fails as
the task did.
-/

set_option autoImplicit false

namespace Injector

variable {P : Platform}

namespace Scan

namespace Routine

variable (f : ScanFrame P)

def scanOperations (bean : Bean P) : Routine (scanOperations f bean) :=
  bind (checkClassMarkers f bean.descriptor) fun _ =>
    bind (ite (scanConstructor f bean.descriptor) (pure PUnit.unit)) fun _ =>
      scanMembers f bean.descriptor

def scanWith (bean : Bean P) : Routine (scanWith f bean) :=
  same (scanWith_eq f bean).symm <| bind (scanOperations f bean) fun _ => bind get fun s =>
    bind (finish s.contributors) fun _ => change _ fun _ => rfl

def scanBean (host : Host P) : Routine (scanBean host) :=
  bind get fun s => ite (throw _) <| bind (task (.model s.bean.descriptor)) fun _ =>
    scanWith _ s.bean

theorem apt_scanWith (bean : Bean P) : (scanWith f bean).Always Turn.Needed := by
  show (Routine.bind (scanOperations f bean) fun _ => _).Always _
  have operations : (scanOperations f bean).Always Turn.Needed := by
    apply (plain_checkClassMarkers f bean.descriptor).needed.bind
    intro _
    apply Always.bind
    · exact (apt_scanConstructor f bean.descriptor).ite (always_pure _)
    · exact fun _ => apt_scanMembers f bean.descriptor
  exact operations.bind fun _ => always_get.bind fun s =>
    (plain_finish s.contributors).needed.bind fun _ => always_change _ _

theorem apt_scanBean (host : Host P) : (scanBean host).Always Turn.Needed :=
  always_get.bind fun s => (plain_throw _).needed.ite <|
    (plain_task rfl).needed.bind fun _ => apt_scanWith _ s.bean

def Fails {α : Type} {step : ScanM P α} (r : Routine step) (s : Scan P)
    (failed : List (Turn P) → Scan P → Prop) : Prop :=
  Ends step s (fun _ _ => True) fun _ s' => failed (r.turns s) s'

section Failures

variable {α β : Type} {step step' : ScanM P α} {next : α → ScanM P β}
  {next' : Scan P → ScanM P β} {s : Scan P} {failed : List (Turn P) → Scan P → Prop}

theorem Fails.bind {first : Routine step} {rest : ∀ a, Routine (next a)}
    (h : Ends step s
      (fun a s' => (rest a).Fails s' fun later s'' => failed (first.turns s ++ later) s'')
      fun _ s' => failed (first.turns s) s') : (Routine.bind first rest).Fails s failed := by
  unfold Fails
  rw [ends_bind]
  rcases h.cases with ⟨a, s', ran, later⟩ | ⟨e, s', ran, stopped⟩
  · rw [ends_of_ok ran, turns_bind_of_ok first rest ran]
    exact later
  · rw [ends_of_error ran, turns_bind_of_error first rest ran]
    exact stopped

theorem Fails.get {rest : ∀ a, Routine (next' a)} (h : (rest s).Fails s failed) :
    (Routine.bind .get rest).Fails s failed := by
  apply Fails.bind
  exact h

theorem Fails.same {r : Routine step} (h : r.Fails s failed) (eq : step = step') :
    (Routine.same eq r).Fails s failed := by
  subst eq
  exact h

theorem Fails.ite {c : Prop} [Decidable c] {r : Routine step} {r' : Routine step'}
    (h : c → r.Fails s failed) (h' : ¬c → r'.Fails s failed) :
    (Routine.ite r r' : Routine (if c then step else step')).Fails s failed := by
  unfold Routine.ite
  split
  next holds => exact (h holds).same _
  next fails => exact (h' fails).same _

end Failures

theorem isFarewell_finish (contributors : List (Contributor P)) (s : Scan P) :
    (finish contributors).Every s (·.task.isFarewell = true) := by
  induction contributors generalizing s with
  | nil =>
    intro turn ht
    cases ht
  | cons c rest ih =>
    show (Routine.bind (task (.farewell c)) fun _ => finish rest).Every s _
    exact Every.bind_any (every_task rfl) fun _ => ih

end Routine

/-- Nothing that a handler asks for marks a bean as scanned. -/
theorem upheld_unscanned (f : ScanFrame P) : Upheld f (·.scanned = false) fun _ => True where
  bound := by
    intro id index binding b b' unscanned bound
    obtain ⟨op, op', -, -, rfl⟩ := put_of_slotBound bound
    exact unscanned
  appended := fun _ _ _ unscanned => unscanned

/-- The scan did not come to its end: the bean is not marked, and unless someone who was told of the
end failed, nobody was told. -/
structure Unfinished (turns : List (Turn P)) (s : Scan P) : Prop where
  unscanned : s.bean.scanned = false
  unended : (∃ turn ∈ turns.getLast?, turn.task.isFarewell = true) ∨ Ongoing s.calls.toList

theorem Unfinished.after {turns : List (Turn P)} {s : Scan P} (h : Unfinished turns s)
    (earlier : List (Turn P)) : Unfinished (earlier ++ turns) s where
  unscanned := h.unscanned
  unended := by
    apply h.unended.imp_left
    rintro ⟨turn, last, farewell⟩
    refine ⟨turn, ?_, farewell⟩
    rw [List.getLast?_append, Option.mem_def.mp last]
    rfl

theorem fails_finish {s : Scan P} (unscanned : s.bean.scanned = false) :
    (Routine.finish s.contributors).Fails s Unfinished := by
  apply (((Routine.finish s.contributors).ends s).and
    (silent_activating.finish s.contributors s)).mono
  · exact fun _ _ _ => trivial
  · rintro e s' ⟨halt, quiet⟩
    have last := List.getLast?_eq_some_getLast halt.ne_nil
    have farewell := Routine.isFarewell_finish s.contributors s _ (List.mem_of_mem_getLast? last)
    exact ⟨quiet.bean ▸ unscanned, .inl ⟨_, last, farewell⟩⟩

theorem fails_scanWith (f : ScanFrame P) (bean : Bean P) {s : Scan P}
    (unscanned : s.bean.scanned = false) (unheard : s.calls = #[]) :
    (Routine.scanWith f bean).Fails s Unfinished := by
  apply Routine.Fails.same
  apply Routine.Fails.bind
  apply Ends.mono (attentive_scanOperations (upheld_unscanned f) bean s unscanned)
  · rintro _ s₁ ⟨calls, spans, -, -⟩
    apply Routine.Fails.get
    apply Routine.Fails.bind
    apply (fails_finish spans.kept).mono
    · exact fun _ _ _ => trivial
    · exact fun _ _ unfinished => unfinished.after _
  · rintro _ s₁ ⟨calls, spans, -, ongoing⟩
    refine ⟨spans.kept, .inr ?_⟩
    rw [spans.calls, unheard]
    simpa using ongoing

theorem fails_scanBean (host : Host P) {s : Scan P} (unscanned : s.bean.scanned = false)
    (unheard : s.calls = #[]) : (Routine.scanBean host).Fails s Unfinished := by
  have looks : Hush (·.scanned = false)
      (withCatalog fun w => Catalog.modelFor w s.bean.descriptor) := hush_withCatalog _
  apply Routine.Fails.get
  apply Routine.Fails.ite
  · intro scanned
    rw [unscanned] at scanned
    cases scanned
  intro _
  apply Routine.Fails.bind
  apply Ends.mono (looks s unscanned)
  · rintro hooks s₁ ⟨unattended, unscanned₁⟩
    apply (fails_scanWith _ s.bean unscanned₁ (unattended.calls.trans unheard)).mono
    · exact fun _ _ _ => trivial
    · exact fun _ _ unfinished => unfinished.after _
  · rintro _ s₁ ⟨unattended, unscanned₁⟩
    refine ⟨unscanned₁, .inr ?_⟩
    rw [unattended.calls, unheard]
    exact ongoing_nil

structure FirstFailure (turns : List (Turn P)) (turn : Turn P) (e : Error)
    (result : Except Error Unit) (s : Scan P) : Prop where
  /-- Everything before it succeeded, and nothing came after it. -/
  last : ∃ earlier, turns = earlier ++ [turn] ∧ ∀ other ∈ earlier, other.verdict = .ok ⟨⟩
  /-- The failure is told as it is; only if a service is missing, what needs it is added. -/
  told : result = .error (turn.task.told e)
  /-- The scan is as the task left it, and so no handler was called any more. -/
  left : s = turn.after
  unscanned : s.bean.scanned = false
  /-- Unless this was a handler that was told of the end, none was. -/
  unended : turn.task.isFarewell = false → ∀ call ∈ s.calls.toList, call.event.isEnd = false

structure Prompt (turns : List (Turn P)) (result : Except Error Unit) (s : Scan P) : Prop where
  /-- All callbacks were made for the tasks, -/
  called : s.calls.toList = turns.flatMap Turn.calls
  /-- and each task made at most one, and came to what was replied. -/
  heeded : ∀ turn ∈ turns, turn.calls = [] ∨ (∃ call, turn.calls = [call]) ∧
    turn.after.transcript.back? = some (.replied turn.verdict)
  /-- What needs a service is the operation that was being resolved. -/
  needed : ∀ turn ∈ turns, turn.Needed
  failed : ∀ turn ∈ turns, ∀ e, turn.verdict = .error e → FirstFailure turns turn e result s
  succeeded : (∀ turn ∈ turns, turn.verdict = .ok ⟨⟩) → result = .ok ⟨⟩

theorem Course.prompt {turns : List (Turn P)} {s s' : Scan P} (h : Course turns s s')
    (unheard : s.calls = #[]) (needed : ∀ turn ∈ turns, turn.Needed) :
    Prompt turns (.ok ⟨⟩) s' where
  called := by
    rw [h.calls_eq, unheard]
    rfl
  heeded := fun turn _ => turn.calls_eq
  needed := needed
  failed := by
    intro turn ht e failed
    rw [h.succeeded turn ht] at failed
    cases failed
  succeeded := fun _ => rfl

theorem Halt.prompt {turns : List (Turn P)} {e : Error} {s s' : Scan P} (h : Halt turns e s s')
    (unheard : s.calls = #[]) (needed : ∀ turn ∈ turns, turn.Needed)
    (unfinished : Unfinished turns s') : Prompt turns (.error e) s' where
  called := by
    rw [h.calls_eq, unheard]
    rfl
  heeded := fun turn _ => turn.calls_eq
  needed := needed
  failed := by
    intro turn ht e' failed'
    cases h with
    | @intro earlier last e s course failed =>
      rcases List.mem_append.mp ht with among | rest
      · rw [course.succeeded turn among] at failed'
        cases failed'
      obtain rfl : turn = last := List.mem_singleton.mp rest
      obtain rfl : e = e' := Except.error.inj (failed.symm.trans failed')
      refine ⟨⟨earlier, rfl, course.succeeded⟩, rfl, rfl, unfinished.unscanned, fun notEnd => ?_⟩
      rcases unfinished.unended with ⟨other, final, farewell⟩ | ongoing
      · rw [List.getLast?_concat, Option.mem_some_iff] at final
        rw [final, farewell] at notEnd
        cases notEnd
      · exact ongoing
  succeeded := by
    intro all
    obtain ⟨course, failed⟩ := h
    rw [all _ (by simp)] at failed
    cases failed

end Scan

namespace Attempt

def turns (a : Attempt P) (b : Bean P) : List (Scan.Turn P) :=
  (Scan.Routine.scanBean a.deployment.container.host).turns (a.deployment.beginScan b a.preset)

/-- Whatever fails first in a scan of a new bean ends it, and is what the scan fails with. -/
theorem prompt_run (a : Attempt P) (c : ClassDescriptor P) (source : Source P)
    (installer : Party) :
    Scan.Prompt (a.turns (.fresh c source installer)) (a.run (.fresh c source installer)).1
      (a.run (.fresh c source installer)).2 := by
  let start := a.deployment.beginScan (.fresh c source installer) a.preset
  let host := a.deployment.container.host
  have ends := ((Scan.Routine.scanBean host).ends start).and
    (Scan.fails_scanBean host (s := start) rfl rfl)
  have needed : ∀ turn ∈ a.turns (.fresh c source installer), turn.Needed :=
    Scan.Routine.apt_scanBean host start
  rcases ends.cases with ⟨_, s', ran, course, -⟩ | ⟨e, s', ran, halt, unfinished⟩
  · have run : a.run (.fresh c source installer) = (.ok ⟨⟩, s') := ran
    rw [run]
    exact course.prompt rfl needed
  · have run : a.run (.fresh c source installer) = (.error e, s') := ran
    rw [run]
    exact halt.prompt rfl needed unfinished

end Attempt

def ClassDescriptor.barrow : ClassDescriptor .bare where
  type := ⟨.numbered 0, "Barrow"⟩
  constructors :=
    [{ visibility := .anyone
       params := [{ name := "wheel", type := ⟨.numbered 1, "Wheel"⟩ }]
       markers := []
       accessor := fun _ => .done (.ok (some (.numbered 0))) }]

-- The hooks are gathered and the constructor is chosen; then the part is missed.
example : ((⟨.empty, none⟩ : Attempt .bare).turns (.fresh .barrow .construction .application)).map
    (fun turn => (turn.task.needy?.isSome, turn.verdict.isOk)) =
      [(false, true), (false, true), (true, false)] := rfl

end Injector
