import Injector.Proofs.Scan.Routine

/-!
# Calls that are left out

What handlers ask for, call by call, and scans in which some of the calls are not made. Where all
that is left out would have changed nothing, such a scan takes the same course.
-/

set_option autoImplicit false

namespace Injector

variable {P : Platform}

namespace Dialog

variable {Q σ α : Type} {R : Q → Type} {answer : (question : Q) → StateM σ (R question)}

def asked (answer : (question : Q) → StateM σ (R question)) : Dialog Q R α → σ → List (Q × σ)
  | done _, _ => []
  | ask question next, s =>
    (question, s) :: (next (answer question s).1).asked answer (answer question s).2

def runFrom (answer : Nat → (question : Q) → StateM σ (R question)) :
    Nat → Dialog Q R α → StateM σ α
  | _, done result => pure result
  | n, ask question next => do
    let reply ← answer n question
    (next reply).runFrom answer (n + 1)

theorem asked_keeps {invariant : σ → Prop}
    (h : ∀ question s, invariant s → invariant (answer question s).2) (d : Dialog Q R α) {s : σ}
    (hs : invariant s) : ∀ call ∈ d.asked answer s, invariant call.2 := by
  induction d generalizing s with
  | done result => simp [asked]
  | ask question next ih =>
    rw [asked, List.forall_mem_cons]
    exact ⟨hs, ih _ (h question s hs)⟩

/-- What holds after a question, and is kept by the answers, each later question finds. -/
theorem asked_pairwise {later : Q × σ → σ → Prop}
    (kept : ∀ call question s, later call s → later call (answer question s).2)
    (start : ∀ question s, later (question, s) (answer question s).2)
    (d : Dialog Q R α) (s : σ) :
    (d.asked answer s).Pairwise fun first second => later first second.2 := by
  induction d generalizing s with
  | done result => exact .nil
  | ask question next ih =>
    rw [asked, List.pairwise_cons]
    exact ⟨asked_keeps (kept (question, s)) _ (start question s), ih _ _⟩

/-- Only the questions that are asked matter. -/
theorem runFrom_eq {other : Nat → (question : Q) → StateM σ (R question)} (d : Dialog Q R α)
    (n : Nat) {s : σ}
    (same : ∀ call ∈ d.asked answer s, ∀ m, other m call.1 call.2 = answer call.1 call.2) :
    d.runFrom other n s = d.run answer s := by
  induction d generalizing n s with
  | done result => rfl
  | ask question next ih =>
    rw [asked, List.forall_mem_cons] at same
    show Dialog.runFrom other (n + 1) (next (other n question s).1) (other n question s).2 = _
    rw [same.1 n]
    exact ih _ (n + 1) same.2

end Dialog

def thrown? {α : Type} : Except Error α → Option Error
  | .ok _ => none
  | .error e => some e

def SlotCall.failure? : (call : SlotCall P) → call.Reply → Option Error
  | bindValue _, reply => thrown? reply
  | bindNull, reply => thrown? reply
  | bindArgument _, reply => thrown? reply
  | bindFactory .., reply => thrown? reply
  | bindConstructor _, reply => thrown? reply
  | bindService _, reply => thrown? reply
  | isBound, _ => none

namespace Scan

structure Talk (P : Platform) where
  Q : Type
  R : Q → Type
  contributor : Contributor P
  event : ScanEvent P
  callback : P.Memory → P.World → Dialog Q R (Outcome P)
  answer : (call : Q) → StateM (Scan P) (R call)
  /-- How the call failed, if it did. -/
  failure? : (call : Q) → R call → Option Error

namespace Talk

def onField (c : Contributor P) (shown : FieldMatch P) : Talk P where
  Q := FieldCall
  R := fun _ => Except Error OperationId
  contributor := c
  event := .fieldMatched shown
  callback := c.handler.onField shown
  answer := answerField shown
  failure? := fun _ => thrown?

def onMethod (c : Contributor P) (shown : MethodMatch P) : Talk P where
  Q := MethodCall
  R := fun _ => Except Error OperationId
  contributor := c
  event := .methodMatched shown
  callback := c.handler.onMethod shown
  answer := answerMethod shown
  failure? := fun _ => thrown?

def onBinding (f : ScanFrame P) (c : Contributor P) (shown : BindingRequest P) : Talk P where
  Q := SlotCall P
  R := SlotCall.Reply
  contributor := c
  event := .bindingRequested shown
  callback := c.handler.onBinding shown
  answer := answerSlot f shown
  failure? := SlotCall.failure?

def asked (talk : Talk P) (s : Scan P) : List (talk.Q × Scan P) :=
  (talk.callback talk.contributor.handler.memory s.world).asked (answerSeen talk.answer)
    (observe s).2

def failure (talk : Talk P) (call : talk.Q × Scan P) : Option Error :=
  talk.failure? call.1 (talk.answer call.1 call.2).1

def after (talk : Talk P) (call : talk.Q × Scan P) : Scan P := (talk.answer call.1 call.2).2

def Harmless (talk : Talk P) (s : Scan P) : Prop :=
  ∀ call ∈ talk.asked s, ∀ e, talk.failure call = some e → talk.after call = call.2

def ending (talk : Talk P) (before : Scan P) : Outcome P → ScanM P Unit
  | (result, memory, world) => do
    close (.made talk.contributor talk.event before (result, memory, world)) world
    modify fun s => { s with contributors := remember talk.contributor memory s.contributors }
    settle result

def holding (talk : Talk P)
    (hold : Dialog talk.Q talk.R (Outcome P) → StateM (Scan P) (Outcome P)) : ScanM P Unit :=
  fun s =>
    let ended := hold (talk.callback talk.contributor.handler.memory s.world) (observe s).2
    talk.ending s ended.1 ended.2

def step (talk : Talk P) : ScanM P Unit :=
  converse talk.contributor talk.event talk.callback talk.answer

theorem step_eq (talk : Talk P) : talk.step = talk.holding (·.run (answerSeen talk.answer)) := rfl

/-- A call that would fail and that is to be left out is not made: the handler goes on with the
reply that it would have got, and all that happens is that it can look at the bean. -/
def answerUnless (talk : Talk P) (leaves : Bool) (call : talk.Q) :
    StateM (Scan P) (talk.R call) := fun s =>
  if leaves && (talk.failure (call, s)).isSome then ((talk.answer call s).1, (observe s).2)
  else answerSeen talk.answer call s

def without (talk : Talk P) (leaves : Nat → Bool) : ScanM P Unit :=
  talk.holding (·.runFrom (fun n => talk.answerUnless (leaves n)) 0)

theorem without_eq {talk : Talk P} {s : Scan P} (harmless : talk.Harmless s)
    (leaves : Nat → Bool) : talk.without leaves s = talk.step s := by
  have same : ∀ call ∈ talk.asked s, ∀ n,
      talk.answerUnless (leaves n) call.1 call.2 = answerSeen talk.answer call.1 call.2 := by
    intro call made n
    unfold answerUnless
    split
    next left =>
      obtain ⟨e, failed⟩ := Option.isSome_iff_exists.mp (Bool.and_eq_true_iff.mp left).2
      have unchanged : (talk.answer call.1 call.2).2 = call.2 := harmless call made e failed
      show ((talk.answer call.1 call.2).1, (observe call.2).2) =
        ((talk.answer call.1 call.2).1, (observe (talk.answer call.1 call.2).2).2)
      rw [unchanged]
    next => rfl
  rw [step_eq]
  unfold without holding
  dsimp only
  rw [Dialog.runFrom_eq _ 0 same]

end Talk

namespace Task

def talk? : Task P → Option (Talk P)
  | fieldMatch _ c shown => some (.onField c shown)
  | methodMatch _ c shown => some (.onMethod c shown)
  | request f c shown => some (.onBinding f c shown)
  | _ => none

def without (leaves : Nat → Bool) : (t : Task P) → ScanM P t.Result
  | fieldMatch _ c shown => (Talk.onField c shown).without leaves
  | methodMatch _ c shown => (Talk.onMethod c shown).without leaves
  | request f c shown => (Talk.onBinding f c shown).without leaves
  | t => t.body

theorem without_eq {t : Task P} {s : Scan P}
    (harmless : ∀ talk, t.talk? = some talk → talk.Harmless s) (leaves : Nat → Bool) :
    t.without leaves s = t.body s := by
  cases t with
  | fieldMatch _ c shown => exact Talk.without_eq (harmless _ rfl) leaves
  | methodMatch _ c shown => exact Talk.without_eq (harmless _ rfl) leaves
  | request f c shown => exact Talk.without_eq (harmless _ rfl) leaves
  | _ => rfl

end Task

namespace Routine

variable {α β : Type} {step : ScanM P α} {next : α → ScanM P β} {s : Scan P}
  {p : Turn P → Prop} {body : (t : Task P) → ScanM P t.Result}

def recast (body : (t : Task P) → ScanM P t.Result) {α : Type} {step : ScanM P α} :
    Routine step → ScanM P α
  | pure a => Pure.pure a
  | get => MonadState.get
  | change act _ => modify act
  | task t => fun s => ((body t s).1.mapError t.told, (body t s).2)
  | bind first rest => first.recast body >>= fun a => (rest a).recast body
  | same _ routine => routine.recast body

theorem Every.first {first : Routine step} {rest : ∀ a, Routine (next a)}
    (h : (Routine.bind first rest).Every s p) : first.Every s p := by
  intro turn ht
  apply h
  rw [turns]
  exact List.mem_append_left _ ht

theorem Every.rest {first : Routine step} {rest : ∀ a, Routine (next a)} {a : α} {s' : Scan P}
    (h : (Routine.bind first rest).Every s p) (ran : step s = (.ok a, s')) :
    (rest a).Every s' p := by
  intro turn ht
  apply h
  rw [turns_bind_of_ok first rest ran]
  exact List.mem_append_right _ ht

/-- Only the tasks that are taken up matter, and the states that they find. -/
theorem recast_eq {r : Routine step}
    (same : r.Every s fun turn => body turn.task turn.before = turn.run) :
    r.recast body s = step s := by
  induction r generalizing s with
  | pure a => rfl
  | get => rfl
  | change act quiet => rfl
  | task t =>
    have run : body t s = t.body s := same ⟨t, s⟩ (List.mem_singleton.mpr rfl)
    show ((body t s).1.mapError t.told, (body t s).2) = t.step s
    rw [run, t.step_apply]
    rcases (t.body s : Except Error t.Result × Scan P) with ⟨_ | _, _⟩ <;> rfl
  | @bind _ _ step next first rest ihf ihr =>
    show (first.recast body >>= fun a => (rest a).recast body) s = _
    rw [bind_apply, bind_apply, ihf same.first]
    rcases ran : (step s : Except Error _ × Scan P) with ⟨e | a, s'⟩
    · rfl
    · exact ihr a (same.rest ran)
  | same h r ih =>
    subst h
    exact ih same

end Routine

end Scan

end Injector
