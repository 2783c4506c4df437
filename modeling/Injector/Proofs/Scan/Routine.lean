import Injector.Proofs.Scan.Task

/-!
# A scan as a routine of tasks

Between two tasks a scan only looks at its state and changes it, and calls no handler. A task that
fails is the last one: no part of a scan takes up an error that another one ended with.
-/

set_option autoImplicit false

namespace Injector

variable {P : Platform}

namespace Scan

structure Turn (P : Platform) where
  task : Task P
  before : Scan P

namespace Turn

def run (turn : Turn P) : Except Error turn.task.Result × Scan P := turn.task.body turn.before

def after (turn : Turn P) : Scan P := turn.run.2

def verdict (turn : Turn P) : Except Error Unit := turn.run.1.map fun _ => ⟨⟩

def calls (turn : Turn P) : List (Call P) := turn.after.calls.toList.drop turn.before.calls.size

theorem hears (turn : Turn P) : Hears turn.before turn.verdict turn.after := by
  unfold verdict after
  rcases (turn.task.heeds_body turn.before).cases with ⟨a, s', ran, heard⟩ | ⟨e, s', ran, heard⟩
  · have run : turn.run = (.ok a, s') := ran
    rw [run]
    exact heard
  · have run : turn.run = (.error e, s') := ran
    rw [run]
    exact heard

theorem calls_after (turn : Turn P) :
    turn.after.calls.toList = turn.before.calls.toList ++ turn.calls := by
  unfold calls
  rcases turn.hears with same | ⟨call, pushed, -⟩
  · simp [same]
  · simp [pushed]

/-- At most one handler is called, and then the task comes to what that handler replied. -/
theorem calls_eq (turn : Turn P) : turn.calls = [] ∨
    (∃ call, turn.calls = [call]) ∧
      turn.after.transcript.back? = some (.replied turn.verdict) := by
  unfold calls
  rcases turn.hears with same | ⟨call, pushed, replied⟩
  · exact .inl (by simp [same])
  · exact .inr ⟨⟨call, by simp [pushed]⟩, replied⟩

end Turn

/-- How a step is made up: of tasks, and of what cannot fail and calls no handler. Nothing here
recovers from a failure. -/
inductive Routine : {α : Type} → ScanM P α → Type 1
  | pure {α : Type} (a : α) : Routine (Pure.pure a)
  | get : Routine MonadState.get
  | change (act : Scan P → Scan P) (quiet : ∀ s, (act s).calls = s.calls) : Routine (modify act)
  | task (t : Task P) : Routine t.step
  | bind {α β : Type} {step : ScanM P α} {next : α → ScanM P β} :
    Routine step → (∀ a, Routine (next a)) → Routine (step >>= next)
  | same {α : Type} {step step' : ScanM P α} (h : step = step') : Routine step → Routine step'

namespace Routine

def turns {α : Type} {step : ScanM P α} : Routine step → Scan P → List (Turn P)
  | pure _, _ => []
  | get, _ => []
  | change _ _, _ => []
  | task t, s => [⟨t, s⟩]
  | @bind _ _ _ step _ first rest, s =>
    first.turns s ++ match (step s : Except Error _ × Scan P) with
      | (.ok a, s') => (rest a).turns s'
      | (.error _, _) => []
  | same _ routine, s => routine.turns s

section Sequences

variable {α β : Type} {step : ScanM P α} {next : α → ScanM P β} {s s' : Scan P}

theorem turns_bind_of_ok {a : α} (first : Routine step) (rest : ∀ a, Routine (next a))
    (h : step s = (.ok a, s')) :
    (bind first rest).turns s = first.turns s ++ (rest a).turns s' := by
  rw [turns, h]

theorem turns_bind_of_error {e : Error} (first : Routine step) (rest : ∀ a, Routine (next a))
    (h : step s = (.error e, s')) : (bind first rest).turns s = first.turns s := by
  rw [turns, h, List.append_nil]

def Every (r : Routine step) (s : Scan P) (p : Turn P → Prop) : Prop := ∀ turn ∈ r.turns s, p turn

variable {p : Turn P → Prop}

theorem every_task {t : Task P} (h : p ⟨t, s⟩) : (task t).Every s p := by
  intro turn ht
  rw [List.mem_singleton.mp ht]
  exact h

theorem Every.bind {first : Routine step} {rest : ∀ a, Routine (next a)} (h : first.Every s p)
    (hn : Ends step s (fun a s' => (rest a).Every s' p) fun _ _ => True) :
    (Routine.bind first rest).Every s p := by
  unfold Every
  rcases hn.cases with ⟨a, s', ran, later⟩ | ⟨e, s', ran, -⟩
  · rw [turns_bind_of_ok first rest ran, List.forall_mem_append]
    exact ⟨h, later⟩
  · rw [turns_bind_of_error first rest ran]
    exact h

/-- Whatever comes of the first step. -/
theorem Every.bind_any {first : Routine step} {rest : ∀ a, Routine (next a)}
    (h : first.Every s p) (hn : ∀ a s', (rest a).Every s' p) :
    (Routine.bind first rest).Every s p :=
  h.bind ((Ends.any step s).mono (fun a s' _ => hn a s') fun _ _ h => h)

end Sequences

end Routine

inductive Course : List (Turn P) → Scan P → Scan P → Prop
  | nil {s s' : Scan P} (calls : s'.calls = s.calls) : Course [] s s'
  | cons {turn : Turn P} {rest : List (Turn P)} {s s' : Scan P}
    (calls : turn.before.calls = s.calls) (succeeded : turn.verdict = .ok ⟨⟩)
    (later : Course rest turn.after s') : Course (turn :: rest) s s'

inductive Halt : List (Turn P) → Error → Scan P → Scan P → Prop
  | intro {earlier : List (Turn P)} {last : Turn P} {e : Error} {s : Scan P}
    (course : Course earlier s last.before) (failed : last.verdict = .error e) :
    Halt (earlier ++ [last]) (last.task.told e) s last.after

section Courses

variable {turns later : List (Turn P)} {s s' s'' : Scan P}

theorem Course.of_calls (h : Course turns s s') (calls : s.calls = s''.calls) :
    Course turns s'' s' := by
  cases h with
  | nil same => exact .nil (same.trans calls)
  | cons same succeeded rest => exact .cons (same.trans calls) succeeded rest

theorem Course.append (h : Course turns s s') (k : Course later s' s'') :
    Course (turns ++ later) s s'' := by
  induction h with
  | nil calls => exact k.of_calls calls
  | cons calls succeeded _ ih => exact .cons calls succeeded (ih k)

theorem Course.halt {e : Error} (h : Course turns s s') (k : Halt later e s' s'') :
    Halt (turns ++ later) e s s'' := by
  obtain ⟨course, failed⟩ := k
  rw [← List.append_assoc]
  exact .intro (h.append course) failed

theorem Course.calls_eq (h : Course turns s s') :
    s'.calls.toList = s.calls.toList ++ turns.flatMap Turn.calls := by
  induction h with
  | nil same => simp [same]
  | @cons turn rest s s' same _ _ ih =>
    rw [ih, turn.calls_after, same, List.flatMap_cons, List.append_assoc]

theorem Halt.calls_eq {e : Error} (h : Halt turns e s s') :
    s'.calls.toList = s.calls.toList ++ turns.flatMap Turn.calls := by
  obtain ⟨course, -⟩ := h
  rw [Turn.calls_after, course.calls_eq, List.flatMap_append, List.flatMap_singleton,
    List.append_assoc]

theorem Course.succeeded (h : Course turns s s') : ∀ turn ∈ turns, turn.verdict = .ok ⟨⟩ := by
  induction h with
  | nil => simp
  | cons _ succeeded _ ih => exact List.forall_mem_cons.mpr ⟨succeeded, ih⟩

theorem Halt.ne_nil {e : Error} (h : Halt turns e s s') : turns ≠ [] := by
  obtain ⟨-, -⟩ := h
  simp

end Courses

theorem ends_turn (t : Task P) (s : Scan P) :
    Ends t.step s (fun _ s' => Course [⟨t, s⟩] s s') fun e s' => Halt [⟨t, s⟩] e s s' := by
  unfold Ends
  rw [t.step_apply]
  rcases ran : (t.body s : Except Error t.Result × Scan P) with ⟨e | a, s'⟩
  · have run : (Turn.mk t s).run = (.error e, s') := ran
    have halt : Halt ([] ++ [⟨t, s⟩]) (t.told e) s (Turn.mk t s).after :=
      .intro (.nil rfl) (by rw [Turn.verdict, run]; rfl)
    rw [Turn.after, run] at halt
    exact halt
  · have run : (Turn.mk t s).run = (.ok a, s') := ran
    have after : (Turn.mk t s).after = s' := by rw [Turn.after, run]
    exact .cons rfl (by rw [Turn.verdict, run]; rfl) (.nil (by rw [after]))

/-- A step succeeds if all its tasks do; else it ends where and as the first that fails does. -/
theorem Routine.ends {α : Type} {step : ScanM P α} (r : Routine step) (s : Scan P) :
    Ends step s (fun _ s' => Course (r.turns s) s s') fun e s' => Halt (r.turns s) e s s' := by
  induction r generalizing s with
  | pure a => exact .nil rfl
  | get => exact .nil rfl
  | change act quiet => exact .nil (quiet s)
  | task t => exact ends_turn t s
  | bind first rest ihf ihr =>
    rw [ends_bind]
    rcases (ihf s).cases with ⟨a, s', ran, course⟩ | ⟨e, s', ran, halt⟩
    · rw [ends_of_ok ran, turns_bind_of_ok first rest ran]
      exact (ihr a s').mono (fun _ _ later => course.append later)
        fun _ _ later => course.halt later
    · rw [ends_of_error ran, turns_bind_of_error first rest ran]
      exact halt
  | same h _ ih =>
    subst h
    exact ih s

section Decomposition

variable (f : ScanFrame P)

theorem dequeue_eq : dequeue (P := P) = MonadState.get >>= fun s =>
    modify (fun s : Scan P => { s with queue := s.queue.tail }) >>= fun _ =>
      Pure.pure s.queue.head? := by
  funext s
  obtain ⟨_, _, _, _, queue, _, _, _, _, _⟩ := s
  cases queue <;> rfl

theorem activate_eq (key : ExtensionKey) : activate f key = MonadState.get >>= fun s =>
    (s.contributor? key).elim (start f key) Pure.pure := by
  unfold activate
  refine bind_congr fun s => ?_
  show _ = Option.elim (s.contributors.find? _) _ _
  cases s.contributors.find? (·.key == key) <;> rfl

theorem bindToService_eq (op : Operation P) (index : Nat) (parameter : Parameter P) :
    bindToService f op index parameter =
      tryCatch (liftM (f.host.directory.lookup f.installer ⟨parameter.type, none⟩
        (!parameter.optional) : Except Error (Binding P)))
          (fun e => MonadExcept.throw (e.requiredBy op.target)) >>= bindSlot f op.id index := by
  unfold bindToService
  cases (f.host.directory.lookup f.installer ⟨parameter.type, none⟩ (!parameter.optional) :
    Except Error (Binding P)) <;> rfl

end Decomposition

namespace Routine

def decision {α : Type} (x : Except Error α) : Routine (liftM x : ScanM P α) := task (.decision x)

def throw {α : Type} (e : Error) : Routine (MonadExcept.throw e : ScanM P α) :=
  decision (.error e)

def discard {α : Type} {step : ScanM P α} (r : Routine step) : Routine (Functor.discard step) :=
  bind r fun _ => pure PUnit.unit

def ite {α : Type} {c : Prop} [Decidable c] {step step' : ScanM P α} (r : Routine step)
    (r' : Routine step') : Routine (if c then step else step') :=
  if h : c then same (if_pos h).symm r else same (if_neg h).symm r'

def forM {α : Type} {step : α → ScanM P PUnit} (r : ∀ x, Routine (step x)) :
    (xs : List α) → Routine (xs.forM step)
  | [] => pure PUnit.unit
  | x :: xs => bind (r x) fun _ => forM r xs

def record (event : ScanEvent P) : Routine (record event) := change _ fun _ => rfl

def append (op : Operation P) : Routine (append op) := bind (change _ fun _ => rfl) fun _ => pure _

def nextId : Routine (nextId (P := P)) := bind get fun _ => pure _

def bindingAt (id index : Nat) : Routine (bindingAt (P := P) id index) := bind get fun _ => pure _

def spend : Routine (spend (P := P)) := change _ fun _ => rfl

def dequeue : Routine (dequeue (P := P)) :=
  same dequeue_eq.symm (bind get fun _ => bind (change _ fun _ => rfl) fun _ => pure _)

variable (f : ScanFrame P)

def operationAt (id : OperationId) : Routine (operationAt f id) :=
  bind get fun s => match s.bean.operation? id with
    | some op => pure op
    | none => throw _

def bindSlot (id : OperationId) (index : Nat) (binding : Binding P) :
    Routine (bindSlot f id index binding) :=
  bind (operationAt f id) fun _ => bind (decision _) fun _ => change _ fun _ => rfl

def hook (marker : Marker P) : Routine (hookOf f marker) := task (.hook f marker)

def hitsOf : (markers : List (Marker P)) → Routine (hitsOf f markers)
  | [] => pure []
  | marker :: rest => bind (hook f marker) fun
    | none => hitsOf rest
    | some _ => bind (hitsOf rest) fun _ => pure _

def bindingHook (target : String) : (found : Option (Hit P)) → (markers : List (Marker P)) →
    Routine (bindingHook f target found markers)
  | found, [] => pure found
  | found, marker :: rest => bind (hook f marker) fun
    | none => bindingHook target found rest
    | some _ => ite
      (match found with
        | some _ => throw _
        | none => bindingHook target _ rest)
      (bindingHook target found rest)

def activate (key : ExtensionKey) : Routine (activate f key) :=
  same (activate_eq f key).symm <| bind get fun s => match s.contributor? key with
    | some c => pure c
    | none => task (.activation f key)

def delegate (op : Operation P) (index : Nat) (parameter : Parameter P)
    (extension : ExtensionKey) (marker : Option (Marker P)) :
    Routine (delegate f op index parameter extension marker) :=
  bind (activate f extension) fun c =>
    bind (record _) fun _ =>
      bind (task (.request f c
        ⟨op, index, parameter, marker, f.installer, c.contextFor extension⟩)) fun _ =>
        bind (bindingAt op.id index) fun
          | some _ => pure PUnit.unit
          | none => throw _

def bindToService (op : Operation P) (index : Nat) (parameter : Parameter P) :
    Routine (bindToService f op index parameter) :=
  same (bindToService_eq f op index parameter).symm
    (bind (task (.service f op parameter)) fun _ => bindSlot f op.id index _)

def resolveParameter (id : OperationId) (index : Nat) (parameter : Parameter P) :
    Routine (resolveParameter f id index parameter) :=
  bind (operationAt f id) fun op => bind (bindingHook f _ none parameter.markers) fun
    | some _ => delegate f op index parameter _ _
    | none => bind get fun s => match s.catalog.typeHook? parameter.type with
      | some extension => delegate f op index parameter extension none
      | none => bindToService f op index parameter

def resolveParameters (id : OperationId) : (index : Nat) → (parameters : List (Parameter P)) →
    Routine (resolveParameters f id index parameters)
  | _, [] => pure PUnit.unit
  | index, parameter :: rest => bind (bindingAt id index) fun
    | some _ => resolveParameters id (index + 1) rest
    | none => bind (resolveParameter f id index parameter) fun _ =>
      resolveParameters id (index + 1) rest

def resolveOperation (id : OperationId) : Routine (resolveOperation f id) :=
  bind (operationAt f id) fun op => resolveParameters f id 0 op.params

def drainWithin : (remaining : Nat) → Routine (drainWithin f remaining)
  | 0 => bind dequeue fun
    | none => pure PUnit.unit
    | some _ => task (.limit f)
  | remaining + 1 => bind dequeue fun
    | none => pure PUnit.unit
    | some id => bind spend fun _ => bind (record _) fun _ =>
      bind (resolveOperation f id) fun _ => drainWithin remaining

def drain : Routine (drain f) := bind get fun s => drainWithin f s.remaining

def showField (declared : DeclaredField P) (g : HookGroup P) : Routine (showField f declared g) :=
  bind (activate f g.extension) fun c => bind (record _) fun _ =>
    task (.fieldMatch f c
      ⟨declared.owner, declared.field, g.markers, g.caps, c.contextFor g.extension⟩)

def showMethod (declared : DeclaredMethod P) (g : HookGroup P) :
    Routine (showMethod f declared g) :=
  bind (activate f g.extension) fun c => bind (record _) fun _ =>
    task (.methodMatch f c ⟨declared.owner, declared.method, g.markers, c.contextFor g.extension⟩)

def inject (declared : DeclaredField P) (extension : ExtensionKey) :
    Routine (inject f declared extension) :=
  bind (activate f extension) fun _ => bind (decision _) fun _ => bind nextId fun _ =>
    bind (decision _) fun op => discard (append op)

def matchField (declared : DeclaredField P) : Routine (matchField f declared) :=
  bind (hitsOf f declared.field.markers) fun hits => match FieldClaim.ofHits hits with
    | .unclaimed => pure PUnit.unit
    | .conflict _ _ => throw _
    | .duplicate _ _ => throw _
    | .injected _ => inject f declared _
    | .matched groups => forM (showField f declared) groups

def matchMethod (declared : DeclaredMethod P) : Routine (matchMethod f declared) :=
  bind (hitsOf f declared.method.markers) fun _ => forM (showMethod f declared) _

def checkClassMarkers (c : ClassDescriptor P) : Routine (checkClassMarkers f c) :=
  forM (fun marker => discard (hook f marker)) c.markers

def scanConstructor (c : ClassDescriptor P) : Routine (scanConstructor f c) :=
  bind (decision _) fun _ => bind nextId fun _ => bind (discard (append _)) fun _ => drain f

def scanMembers (c : ClassDescriptor P) : Routine (scanMembers f c) :=
  bind (forM (matchField f) _) fun _ => bind (forM (matchMethod f) _) fun _ => drain f

def finish : (contributors : List (Contributor P)) → Routine (finish contributors)
  | [] => pure PUnit.unit
  | c :: rest => same (finish_cons c rest).symm (bind (task (.farewell c)) fun _ => finish rest)

end Routine

end Scan

end Injector
