import Injector.Proofs.Scan.Callback
import Injector.Proofs.Scan.Farewell

/-!
# The life cycle of an extension in a scan

Its handler is told first that the scan starts, and last that it ends; in between the same handler
answers everything that leads to the extension. Whoever is activated is told of the end, in the same
order, once everything else has been said.
-/

set_option autoImplicit false

namespace Injector

variable {P : Platform}

def Bean.contextOf (b : Bean P) (key : ExtensionKey) : ScanContext :=
  ⟨b.type, key, b.installer, b.installer == .extension key⟩

/-- The callbacks of a scan of `b` on `host`, for which the handler `given` was brought along. -/
structure LifeCycle (host : Host P) (b : Bean P) (given : Option (Handler P))
    (result : Except Error Unit) (s : Scan P) : Prop where
  /-- No callback is missing from the calls. -/
  told : s.callbacks = s.calls.toList.map (·.event)
  /-- Each ran the function of its handler, and the reply is what that came to. -/
  performed : ∃ f : ScanFrame P, f.host = host ∧ f.beanType = b.type ∧
    f.installer = b.installer ∧ ∀ call ∈ s.calls.toList, call.Performed f
  replied : s.replies = s.calls.toList.map (·.result)
  /-- An extension has full access if it installed the bean, and only then. -/
  context : ∀ call ∈ s.calls.toList,
    call.contributor.context = b.contextOf call.contributor.key ∧
      ∃ key, (call.contributor.key == key) = true ∧ call.event.context? = some (b.contextOf key)
  /-- Only the extension that installed the bean gets the handler that was brought along. -/
  handler : ∀ call ∈ s.calls.toList, ∀ context preset, call.event = .started context preset →
    call.contributor.handler.Serves (b.installer == .extension call.contributor.key) given
      (s.extensions.Makes call.contributor.key) preset
  /-- An extension is activated once, first of all, and its next callback always finds the handler
  as the one before left it. -/
  life : ∀ key, s.callsOf key = [] ∨ ∃ first later, s.callsOf key = first :: later ∧
    first.event.isStart = true ∧ (∀ call ∈ later, call.event.isStart = false) ∧
      (first :: later).IsChain fun call next => next.contributor = call.after
  /-- Whoever was activated is told of the end, in the same order and after everything else. -/
  ended : ∃ main ends, s.calls.toList = main ++ ends ∧
    (∀ call ∈ main, call.event.isEnd = false) ∧
    (∀ call ∈ ends, call.event = .ended call.contributor.context) ∧
    ends.map (·.contributor.key) <+: Scan.startedKeys main ∧
    (result = .ok ⟨⟩ → ends.map (·.contributor.key) = Scan.startedKeys main)

/-- One start, and then each call finds what the one before left. -/
theorem Life.cases_calls {calls : List (Call P)} {now : Option (Contributor P)}
    (h : Life calls now) : calls = [] ∧ now = none ∨ ∃ first later, calls = first :: later ∧
      first.event.isStart = true ∧ (∀ call ∈ later, call.event.isStart = false) ∧
        (first :: later).IsChain (fun call next => next.contributor = call.after) ∧
          ∀ call ∈ (first :: later).getLast?, now = some call.after := by
  induction h with
  | absent => exact .inl ⟨rfl, rfl⟩
  | @started call start => exact .inr ⟨call, [], rfl, start, by simp, by simp, by simp⟩
  | @called calls c h call same later ih =>
    obtain ⟨-, absent⟩ | ⟨first, rest, rfl, start, between, chain, last⟩ := ih
    · cases absent
    · refine .inr ⟨first, rest ++ [call], rfl, start, ?_, ?_, ?_⟩
      · rw [List.forall_mem_append, List.forall_mem_singleton]
        exact ⟨between, later⟩
      · rw [← List.cons_append]
        apply chain.append (by simp)
        intro before hb next hn
        obtain rfl : call = next := by simpa using hn
        rw [same]
        exact Option.some.inj (last before hb)
      · intro other ho
        rw [← List.cons_append, List.getLast?_concat] at ho
        cases ho
        rfl

theorem Scan.Concluded.told {f : ScanFrame P} {given : Option (Handler P)} {complete : Prop}
    {s : Scan P} (h : Concluded f given complete s) :
    s.callbacks = s.calls.toList.map (·.event) := by
  obtain ⟨now, attendance⟩ := h.attendance
  rw [attendance.told, List.append_nil]

/-- From a state in which nothing was heard all that is heard is reported. -/
theorem Scan.Reports.of_begin {f : ScanFrame P} {s s' : Scan P} (h : Reports f s s')
    (unheard : s.calls = #[]) (transcript : s.transcript = #[]) :
    (∀ call ∈ s'.calls.toList, call.Performed f) ∧
      s'.replies = s'.calls.toList.map (·.result) := by
  obtain ⟨since, calls, replies, performed⟩ := h
  have none : s.replies = [] := by
    rw [Scan.replies, transcript]
    rfl
  rw [unheard, List.nil_append] at calls
  rw [none, List.nil_append] at replies
  rw [calls]
  exact ⟨performed, replies⟩

theorem Scan.Concluded.lifeCycle {f g : ScanFrame P} {host : Host P} {b : Bean P}
    {given : Option (Handler P)} {complete : Prop} {result : Except Error Unit} {s : Scan P}
    (h : Concluded f given complete s) (type : f.beanType = b.type)
    (installer : f.installer = b.installer) (ok : result = .ok ⟨⟩ → complete)
    (frame : g.host = host ∧ g.beanType = b.type ∧ g.installer = b.installer)
    (performed : ∀ call ∈ s.calls.toList, call.Performed g)
    (replied : s.replies = s.calls.toList.map (·.result)) : LifeCycle host b given result s := by
  obtain ⟨now, attendance⟩ := h.attendance
  obtain ⟨main, ends, split, ongoing, ended, among, all⟩ := h.ended
  have contexts : f.contextOf = b.contextOf := by
    funext key
    rw [ScanFrame.contextOf, Bean.contextOf, type, installer]
  refine ⟨h.told, ⟨g, frame.1, frame.2.1, frame.2.2, performed⟩, replied, ?_, ?_, ?_, main, ends,
    split, ongoing, ended, among, fun done => all (ok done)⟩
  · intro call hc
    rw [← contexts]
    exact attendance.known call hc
  · rw [← installer]
    exact attendance.staffed
  · intro key
    apply (attendance.lives key).cases_calls.imp
    · exact fun absent => absent.1
    · rintro ⟨first, later, calls, start, between, chain, -⟩
      exact ⟨first, later, calls, start, between, chain⟩

namespace Attempt

theorem ends_run_life (a : Attempt P) (b : Bean P) :
    Ends (Scan.scanBean a.deployment.container.host) (a.deployment.beginScan b a.preset)
      (fun _ s' => ∃ f : ScanFrame P, f.beanType = b.type ∧ f.installer = b.installer ∧
        Scan.Concluded f a.preset True s')
      fun _ s' => ∃ f : ScanFrame P, f.beanType = b.type ∧ f.installer = b.installer ∧
        Scan.Concluded f a.preset False s' :=
  Scan.ends_scanBean_life _ rfl rfl rfl rfl

/-- The transcript has the callbacks that were made, no more and no others. -/
theorem told_run (a : Attempt P) (b : Bean P) :
    (a.run b).2.callbacks = (a.run b).2.calls.toList.map (·.event) := by
  rcases (a.ends_run_life b).cases with ⟨_, s', ran, f, -, -, concluded⟩ |
    ⟨e, s', ran, f, -, -, concluded⟩
  · have run : a.run b = (.ok ⟨⟩, s') := ran
    rw [run]
    exact concluded.told
  · have run : a.run b = (.error e, s') := ran
    rw [run]
    exact concluded.told

/-- Every callback ran the function of its handler, and what that came to is the reply. -/
theorem performed_run (a : Attempt P) (b : Bean P) : ∃ f : ScanFrame P,
    (f.host = a.deployment.container.host ∧ f.beanType = b.type ∧ f.installer = b.installer) ∧
      (∀ call ∈ (a.run b).2.calls.toList, call.Performed f) ∧
        (a.run b).2.replies = (a.run b).2.calls.toList.map (·.result) := by
  obtain ⟨f, host, type, installer, reported⟩ := Ends.state
    (fun s' => ∃ f : ScanFrame P, f.host = a.deployment.container.host ∧ f.beanType = b.type ∧
      f.installer = b.installer ∧ Scan.Reports f (a.deployment.beginScan b a.preset) s')
    (Scan.ends_scanBean_performed a.deployment.container.host (a.deployment.beginScan b a.preset))
  exact ⟨f, ⟨host, type, installer⟩, reported.of_begin rfl rfl⟩

/-- Every scan keeps to the life cycle of extensions, however it ends and whatever handlers do. -/
theorem lifeCycle_run (a : Attempt P) (b : Bean P) :
    LifeCycle a.deployment.container.host b a.preset (a.run b).1 (a.run b).2 := by
  obtain ⟨g, frame, performed, replied⟩ := a.performed_run b
  rcases (a.ends_run_life b).cases with ⟨_, s', ran, f, type, installer, concluded⟩ |
    ⟨e, s', ran, f, type, installer, concluded⟩
  · have run : a.run b = (.ok ⟨⟩, s') := ran
    rw [run] at performed replied ⊢
    exact concluded.lifeCycle type installer (fun _ => trivial) frame performed replied
  · have run : a.run b = (.error e, s') := ran
    rw [run] at performed replied ⊢
    exact concluded.lifeCycle type installer (fun ok => by cases ok) frame performed replied

end Attempt

end Injector
