import Injector.Proofs.Scan.Resolve

/-!
# Whole scans

Members add operations at the end of the queue, the queue is worked off after the constructor and
again after the members, and so a scan that succeeds leaves no slot unbound.
-/

set_option autoImplicit false

namespace Injector

variable {P : Platform}

namespace Scan

variable {f : ScanFrame P} {base k i q : Nat} {s : Scan P}

theorem atomic_append {op : Operation P} (hs : Progress f base k i q s)
    (made : Made f s.bean op) :
    Atomic f s (append op) fun _ s' =>
      Progress f base k i q s' ∧ ∃ id : Nat, s'.bean.operation? id = some op := by
  have change : Change f s.bean (s.bean.append op) := .add made
  have progress : Progress f base k i q
      { s with bean := s.bean.append op, queue := s.queue ++ [op.id] } :=
    ⟨change.linked hs.linked, hs.installer, hs.frontier.append made.fresh.1⟩
  have found : (s.bean.append op).operation? s.bean.operations.size = some op := by
    rw [Bean.operation?_append, if_pos rfl]
  exact ⟨.of_reaches (.single change) rfl, progress, _, found⟩

/-- An operation of a member is made once access is granted, under the next id. -/
theorem ends_grant {α : Type} {check : Except Error Unit}
    {build : OperationId → Except Error (Operation P)} {next : Operation P → ScanM P α}
    {ok : α → Scan P → Prop}
    (h : ∀ op, check = .ok () → build s.bean.operations.size = .ok op →
      Ends (next op) s ok fun _ s' => s' = s) :
    Ends (liftM check >>= fun _ => nextId >>= fun id => liftM (build id) >>= next) s ok
      fun _ s' => s' = s := by
  apply (reads_except fun _ h => h).ends
  intro _ access
  apply (reads_nextId s).ends
  rintro _ rfl
  apply (reads_except fun _ h => h).ends
  intro op built
  exact h op access built

theorem atomic_grant {α : Type} {check : Except Error Unit}
    {build : OperationId → Except Error (Operation P)} {next : Operation P → ScanM P α}
    {ok : α → Scan P → Prop}
    (h : ∀ op, check = .ok () → build s.bean.operations.size = .ok op → Atomic f s (next op) ok) :
    Atomic f s (liftM check >>= fun _ => nextId >>= fun id => liftM (build id) >>= next) ok :=
  ends_grant h

theorem atomic_newFieldOperation (m : FieldMatch P) (call : FieldCall)
    (hs : Progress f base k i q s) :
    Atomic f s (newFieldOperation m call) fun _ s' => Progress f base k i q s' := by
  unfold newFieldOperation
  split
  next allowed =>
    apply atomic_grant
    intro op access built
    exact (atomic_append hs (.field allowed access built)).mono fun _ _ h => h.1
  next => exact atomic_throw

theorem atomic_newMethodOperation (m : MethodMatch P) (hs : Progress f base k i q s) :
    Atomic f s (newMethodOperation m) fun _ s' => Progress f base k i q s' := by
  apply atomic_grant
  intro op access built
  exact (atomic_append hs (.method access built)).mono fun _ _ h => h.1

theorem leads_showField (declared : DeclaredField P) (g : HookGroup P)
    (hs : Progress f base k i q s) :
    Leads f s (showField f declared g) fun _ s' => Progress f base k i q s' := by
  apply leads_announce (by simp)
  intro contributor s' quiet
  exact leads_converse contributor _ _ (fun _ _ hb hq h => h.of_eq hb hq)
    (fun call _ h => (atomic_newFieldOperation _ call h).keeps h) (quiet.progress hs)

theorem leads_showMethod (declared : DeclaredMethod P) (g : HookGroup P)
    (hs : Progress f base k i q s) :
    Leads f s (showMethod f declared g) fun _ s' => Progress f base k i q s' := by
  apply leads_announce (by simp)
  intro contributor s' quiet
  exact leads_converse contributor _ _ (fun _ _ hb hq h => h.of_eq hb hq)
    (fun _ _ h => (atomic_newMethodOperation _ h).keeps h) (quiet.progress hs)

theorem leads_inject (declared : DeclaredField P) (extension : ExtensionKey)
    (hs : Progress f base k i q s) :
    Leads f s (inject f declared extension) fun _ s' => Progress f base k i q s' := by
  unfold inject
  apply ((silent_activating.activate f extension).leads f s).bind
  intro contributor s' quiet
  apply Atomic.leads
  apply atomic_grant
  intro op access built
  have appended := atomic_append (quiet.progress hs) (.injection access built)
  exact ends_discard.mpr (appended.mono fun _ _ h => h.1)

theorem leads_matchField (declared : DeclaredField P) (hs : Progress f base k i q s) :
    Leads f s (matchField f declared) fun _ s' => Progress f base k i q s' := by
  unfold matchField
  apply ((silent_activating.hitsOf f declared.field.markers).leads f s).bind
  intro hits s' quiet
  have hs' := quiet.progress hs
  split
  next => exact Leads.pure hs'
  next => exact Leads.throw
  next => exact Leads.throw
  next => exact leads_inject declared _ hs'
  next => exact Leads.forM hs' fun g _ _ h => leads_showField declared g h

theorem leads_matchMethod (declared : DeclaredMethod P) (hs : Progress f base k i q s) :
    Leads f s (matchMethod f declared) fun _ s' => Progress f base k i q s' := by
  unfold matchMethod
  apply ((silent_activating.hitsOf f declared.method.markers).leads f s).bind
  intro hits s' quiet
  exact Leads.forM (quiet.progress hs) fun g _ _ h => leads_showMethod declared g h

theorem leads_scanConstructor (hs : Progress f base k 0 k s) :
    Leads f s (scanConstructor f s.bean.descriptor) fun _ s' =>
      Settled f base s' ∧ s'.bean.Constructed := by
  unfold scanConstructor
  apply (reads_except fun _ h => h).leads.bind
  rintro constructor _ ⟨rfl, selected⟩
  apply (reads_nextId _).leads.bind
  rintro _ _ ⟨rfl, rfl⟩
  have appended := (atomic_append hs (.constructor selected)).leads
  apply (Leads.discard appended).bind
  rintro _ s' ⟨hs', id, ho⟩
  have made : s'.bean.Constructed := ⟨id, _, ho, rfl, rfl⟩
  apply (leads_drain hs').follows.mono
  rintro _ s'' ⟨hf, hs''⟩
  exact ⟨hs'', made.mono hf.reaches.grows⟩

theorem leads_scanMembers (c : ClassDescriptor P) (hs : Settled f base s) :
    Leads f s (scanMembers f c) fun _ s' => Settled f base s' := by
  have start : Progress f base s.bean.operations.size 0 s.bean.operations.size s := hs
  unfold scanMembers
  apply (Leads.forM start fun declared _ _ h => leads_matchField declared h).bind
  intro _ s₁ h₁
  apply (Leads.forM h₁ fun declared _ _ h => leads_matchMethod declared h).bind
  intro _ s₂ h₂
  exact leads_drain h₂

theorem Settled.close (hs : Settled f base s) :
    Settled f base { s with bean := { s.bean with scanned := true } } := by
  have change : Change f s.bean { s.bean with scanned := true } := .close
  have frontier := hs.frontier
  exact ⟨change.linked hs.linked, hs.installer, frontier.queue_eq, frontier.base_le,
    frontier.q_le, frontier.room, frontier.bound_iff⟩

theorem leads_finish (hs : Settled f base s) :
    Leads f s (finish s.contributors >>= fun _ =>
      modify fun s => { s with bean := { s.bean with scanned := true } }) fun _ s' =>
        Settled f base s' := by
  apply ((silent_activating.finish s.contributors).leads f s).bind
  intro _ s' quiet
  have hs' : Settled f base s' := by
    rw [Settled, quiet.bean]
    exact quiet.progress hs
  have change : Change f s'.bean { s'.bean with scanned := true } := .close
  exact ⟨.of_reaches (.single change) rfl, hs'.close⟩

/-- Of the operations that are there before a scan none waits. -/
theorem settled_begin (linked : s.bean.Linked) (installer : s.bean.installer = f.installer)
    (queue : s.queue = []) : Settled f s.bean.operations.size s := by
  refine ⟨linked, installer, by simp [queue], Nat.le_refl _, Nat.le_refl _, .inr ⟨rfl, rfl⟩, ?_⟩
  intro id op ho hb
  have hlt := Bean.lt_of_operation? ho
  omega

/-- A bean that was scanned before keeps its operations, and they are not resolved again. -/
theorem leads_scanWith (linked : s.bean.Linked) (installer : s.bean.installer = f.installer)
    (queue : s.queue = []) :
    Leads f s (scanWith f s.bean) fun _ s' => Settled f s.bean.operations.size s' ∧
      (s.bean.source.isConstruction = true → s'.bean.Constructed) := by
  have start := settled_begin linked installer queue
  have rest : ∀ s', Settled f s.bean.operations.size s' →
      Leads f s' (scanMembers f s.bean.descriptor >>= fun _ => get >>= fun s =>
        finish s.contributors >>= fun _ =>
          modify fun s => { s with bean := { s.bean with scanned := true } }) fun _ s' =>
            Settled f s.bean.operations.size s' := by
    intro s' hs'
    apply (leads_scanMembers s.bean.descriptor hs').bind
    intro _ s'' hs''
    exact leads_finish hs''
  unfold scanWith
  apply ((silent_activating.checkClassMarkers f s.bean.descriptor).leads f s).bind
  intro _ s' quiet
  have hs' : Progress f s.bean.operations.size s.bean.operations.size 0
    s.bean.operations.size s' := quiet.progress start
  split
  next =>
    have made := leads_scanConstructor hs'
    rw [quiet.bean] at made
    apply made.bind
    rintro _ s'' ⟨hs'', constructed⟩
    apply (rest s'' hs'').follows.mono
    rintro _ last ⟨hf, hlast⟩
    exact ⟨hlast, fun _ => constructed.mono hf.reaches.grows⟩
  next absent =>
    have settled : Settled f s.bean.operations.size s' := by
      rw [Settled, quiet.bean]
      exact hs'
    apply (rest s' settled).mono
    intro _ s'' hs''
    exact ⟨hs'', fun construction => absurd construction absent⟩

/-- The frame of the scan is known only once the hooks of the class are. -/
theorem ends_scanBean (host : Host P) (linked : s.bean.Linked) (queue : s.queue = []) :
    Ends (scanBean host) s
      (fun _ s' => ∃ f : ScanFrame P, f.host = host ∧ Follows f s s' ∧
        Settled f s.bean.operations.size s' ∧
          (s.bean.source.isConstruction = true → s'.bean.Constructed))
      fun _ s' => ∃ f : ScanFrame P, Follows f s s' := by
  have unknown : ScanFrame P := ⟨host, [], s.bean.type, s.bean.installer⟩
  apply ends_scanBean_of
  · exact fun _ => ⟨unknown, .refl s⟩
  apply Ends.mono (silent_withCatalog _ s)
  · intro model s' quiet
    have hs' : s'.bean.Linked := quiet.bean ▸ linked
    have ran := leads_scanWith (f := ⟨host, model, s.bean.type, s.bean.installer⟩) hs'
      (by rw [quiet.bean]) (quiet.queue.trans queue)
    rw [quiet.bean] at ran
    apply Ends.mono ran
    · rintro _ s'' ⟨hf, hs'', constructed⟩
      exact ⟨_, rfl, (Follows.of_quiet quiet).trans hf, hs'', constructed⟩
    · intro _ s'' hf
      exact ⟨_, (Follows.of_quiet quiet).trans hf⟩
  · intro _ s' quiet
    exact ⟨unknown, .of_quiet quiet⟩

end Scan

end Injector
