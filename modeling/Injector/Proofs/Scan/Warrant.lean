import Injector.Proofs.Scan.Origin
import Injector.Scan.Slot

/-!
# What steps are entitled to

Every step of a scan makes only operations that the scan is entitled to. Markers are looked up
before an extension is shown a member, and a request is on record before its handler is asked; so
what entitles the scan to an operation is known when it is made.
-/

set_option autoImplicit false

namespace Injector

variable {P : Platform}

namespace Scan

variable {f : ScanFrame P} {cls : ClassDescriptor P} {base : Nat} {s : Scan P}

section Activation

theorem warrants_modify {change : Scan P → Scan P}
    (h : Later s (change s) ∧ Warranted f cls base (change s)) :
    Warrants f cls base s (modify change) fun _ _ => True := ⟨h, trivial⟩

/-- Changes of what has no part in it. -/
theorem lawful_modify {change : Scan P → Scan P}
    (h : ∀ s, (change s).catalog = s.catalog ∧ (change s).transcript = s.transcript ∧
      (change s).bean = s.bean ∧ (change s).contributors = s.contributors) :
    Lawful f cls base (modify change : ScanM P PUnit) := fun s hs =>
  warrants_modify (hs.of_eq (h s).1 (h s).2.1 (h s).2.2.1 (h s).2.2.2)

theorem lawful_record {event : ScanEvent P} (unseen : ∀ bean, event ≠ .stood bean)
    (unasked : ∀ r, event ≠ .bindingRequested r) : Lawful f cls base (record event) := fun _ hs =>
  warrants_modify (hs.push event (fun bean stood => absurd stood (unseen bean))
    fun r asked => absurd asked (unasked r))

theorem lawful_close (call : Call P) (world : P.World) : Lawful f cls base (close call world) :=
  lawful_modify fun _ => ⟨rfl, rfl, rfl, rfl⟩

theorem lawful_settle (result : Except Error Unit) : Lawful f cls base (settle (P := P) result) :=
  (lawful_record (by simp) (by simp)).bind fun _ => lawful_except result

theorem lawful_install (g : ScanFrame P) (key : ExtensionKey) :
    Lawful f cls base (install g key) := by
  intro s hs
  unfold install Warrants
  rw [ends_bind, ends_get]
  show Ends (_ >>= _) s _ _
  rw [ends_bind, ends_except]
  exact ⟨fun _ _ => ⟨hs.of_eq rfl rfl rfl rfl, trivial⟩, fun _ _ => ⟨.refl s, hs⟩⟩

theorem lawful_takeHandler (fullAccess : Bool) (extension : Extension P) :
    Lawful f cls base (takeHandler fullAccess extension) := by
  intro s hs
  unfold takeHandler Warrants
  rw [ends_bind, ends_get]
  split
  · exact ⟨hs.of_eq rfl rfl rfl rfl, trivial⟩
  · exact ⟨hs.of_eq rfl rfl rfl rfl, trivial⟩

def StandsFor (f : ScanFrame P) (key : ExtensionKey) (c : Contributor P) : Prop :=
  (c.key == key) = true ∧ c.context = f.contextOf c.key

theorem warrants_start (hs : Warranted f cls base s) (key : ExtensionKey) :
    Warrants f cls base s (start f key) fun c _ => StandsFor f key c := by
  unfold start
  apply (lawful_install f key s hs).bind
  intro extension s₁ _ hs₁ _
  apply (lawful_takeHandler _ extension s₁ hs₁).bind
  intro taken s₂ _ hs₂ _
  apply (lawful_record (by simp) (by simp) s₂ hs₂).bind
  intro _ s₃ _ hs₃ _
  apply (lawful_compositional.get s₃ hs₃).bind
  intro s₄ s₅ _ hs₅ _
  apply (lawful_close _ _ s₅ hs₅).bind
  intro _ s₆ _ hs₆ _
  apply (lawful_settle _ s₆ hs₆).bind
  intro _ s₇ _ hs₇ _
  have listed : ∀ c : Contributor P, c.context = f.contextOf c.key →
      Warranted f cls base { s₇ with contributors := s₇.contributors ++ [c] } := fun c hc =>
    ⟨List.forall_mem_append.mpr ⟨hs₇.contexts, List.forall_mem_singleton.mpr hc⟩, hs₇.founded,
      hs₇.seen⟩
  exact (warrants_modify ⟨⟨.refl _, List.prefix_refl _, .refl _⟩, listed _ rfl⟩).bind
    fun _ _ _ hs₈ _ => .pure hs₈ ⟨BEq.rfl, rfl⟩

theorem warrants_activate (hs : Warranted f cls base s) (key : ExtensionKey) :
    Warrants f cls base s (activate f key) fun c _ => StandsFor f key c := by
  unfold activate Warrants
  rw [ends_bind, ends_get]
  split
  next c found =>
    have listed : c ∈ s.contributors := List.mem_of_find?_eq_some found
    exact Warrants.pure hs ⟨key_of_contributor? found, hs.contexts c listed⟩
  next => exact warrants_start hs key

end Activation

section Conversation

variable {Q : Type} {R : Q → Type}

/-- What a handler asks for changes the bean, if at all, to one of which the same holds. -/
theorem Local.warranted {α : Type} {step : StateM (Scan P) α}
    (h : Local (Standing f cls base s) step) (hs : Warranted f cls base s) :
    Later s (step s).2 ∧ Warranted f cls base (step s).2 := by
  obtain ⟨act, runs, keeps⟩ := h
  rw [runs s]
  exact hs.place (keeps s.bean s.queue hs.standing)

theorem Warranted.observe (hs : Warranted f cls base s) :
    Later s (observe s).2 ∧ Warranted f cls base (observe s).2 := by
  refine hs.push (.stood (.of s.bean)) ?_ fun _ asked => nomatch asked
  intro bean stood
  exact (ScanEvent.stood.inj stood).symm

theorem warrants_converse (hs : Warranted f cls base s) (c : Contributor P) (shown : ScanEvent P)
    (callback : P.Memory → P.World → Dialog Q R (Outcome P))
    {answer : (question : Q) → StateM (Scan P) (R question)}
    (answers : ∀ s', Later s s' → ∀ question, Local (Standing f cls base s') (answer question)) :
    Warrants f cls base s (converse c shown callback answer) fun _ _ => True := by
  have looked := hs.observe
  have talked : Later s ((callback c.handler.memory s.world).run (answerSeen answer)
        (observe s).2).2 ∧
      Warranted f cls base ((callback c.handler.memory s.world).run (answerSeen answer)
        (observe s).2).2 := by
    have seen : ∀ question s', Later s s' ∧ Warranted f cls base s' →
        Later s (answerSeen answer question s').2 ∧
          Warranted f cls base (answerSeen answer question s').2 := by
      rintro question s' ⟨later, hs'⟩
      obtain ⟨later', answered⟩ := (answers s' later question).warranted hs'
      obtain ⟨later'', seen⟩ := answered.observe
      exact ⟨(later.trans later').trans later'', seen⟩
    exact Dialog.run_keeps seen _ looked
  unfold converse
  show Ends (get >>= fun s => liftM observe >>= fun _ => liftM _ >>= fun outcome => _) s _ _
  rw [ends_bind, ends_get, ends_bind, ends_state, ends_bind, ends_state]
  generalize (callback c.handler.memory s.world).run (answerSeen answer) (observe s).2 = ended
    at talked ⊢
  obtain ⟨⟨result, memory, world⟩, s'⟩ := ended
  obtain ⟨later, hs'⟩ := talked
  have closes : Warrants f cls base s'
      (close (.made c shown s (result, memory, world)) world >>= fun _ =>
        modify (fun s => { s with contributors := remember c memory s.contributors }) >>= fun _ =>
          settle result) fun _ _ => True := by
    apply (lawful_close _ world s' hs').bind
    intro _ t _ ht _
    have remembered : ∀ c' ∈ remember c memory t.contributors,
        c'.context = f.contextOf c'.key := by
      rw [remember, List.forall_mem_map]
      intro c' hc'
      rw [key_remembered, context_remembered]
      exact ht.contexts c' hc'
    apply (warrants_modify (s := t) ⟨⟨.refl _, List.prefix_refl _, .refl _⟩, remembered, ht.founded,
      ht.seen⟩).bind
    intro _ t' _ ht' _
    exact lawful_settle result t' ht'
  exact Ends.mono closes (fun _ _ h => ⟨⟨later.trans h.1.1, h.1.2⟩, h.2⟩)
    fun _ _ h => ⟨later.trans h.1, h.2⟩

end Conversation

section Binding

theorem mode_ofMethod {id : OperationId} {owner : ClassDescriptor P} {method : Method P}
    {operator : Party} {op : Operation P}
    (h : Operation.ofMethod id owner method operator = .ok op) :
    op.operator = operator ∧ op.mode = .invoke := by
  unfold Operation.ofMethod at h
  split at h
  next => cases h
  next =>
    cases h
    exact ⟨rfl, rfl⟩

theorem mode_ofFactory {id : OperationId} {owner : ClassDescriptor P} {method : Method P}
    {operator : Party} {nesting : Nesting} {op : Operation P}
    (h : Operation.ofFactory id owner method operator nesting = .ok op) :
    op.operator = operator ∧ op.mode = .invoke := by
  unfold Operation.ofFactory at h
  split at h
  next =>
    cases made : Operation.ofMethod id owner method operator with
    | error e =>
      rw [made] at h
      cases h
    | ok op =>
      rw [made] at h
      cases h
      obtain ⟨operator, mode⟩ := mode_ofMethod made
      exact ⟨operator, mode⟩
  next => cases h

/-- The operations that a handler nests come from its having been asked. -/
theorem fit_nested {c : Catalog} {past : List (ScanEvent P)} {r : BindingRequest P}
    (asked : .bindingRequested r ∈ past) (call : SlotCall P) :
    SlotCall.Fit (Origin f cls c past) r call := by
  cases call with
  | bindFactory owner method =>
    intro id op made
    obtain ⟨-, parent, -⟩ := Operation.fresh_ofFactory made
    obtain ⟨operator, mode⟩ := mode_ofFactory made
    exact .nested asked parent operator (.inl mode) (.refl op)
  | bindConstructor owner =>
    intro constructor _ id
    exact .nested asked rfl rfl (.inr rfl) (.refl _)
  | _ => trivial

theorem lawful_bindSlot (id index : Nat) (binding : Binding P) :
    Lawful f cls base (bindSlot f id index binding) := by
  intro s hs
  unfold Warrants Ends
  rw [bindSlot_eq]
  cases bound : slotBound f id index binding s.bean with
  | error e => exact ⟨.refl s, hs⟩
  | ok bean =>
    exact ⟨hs.place (upheld_standing.bound id index binding s.bean bean hs.standing bound), trivial⟩

theorem warrants_delegate (hs : Warranted f cls base s) {op : Operation P} {index : Nat}
    {parameter : Parameter P} (held : Holds s.bean op)
    (parameterAt : op.params[index]? = some parameter) (extension : ExtensionKey)
    (marker : Option (Marker P)) :
    Warrants f cls base s (delegate f op index parameter extension marker) fun _ _ => True := by
  unfold delegate
  apply (warrants_activate hs extension).bind
  intro c s₁ later₁ hs₁ _
  dsimp only
  generalize asked : (⟨op, index, parameter, marker, f.installer, c.contextFor extension⟩ :
    BindingRequest P) = r
  have posed : Posed s₁.bean r := by
    subst asked
    exact ⟨held.mono later₁.bean, parameterAt⟩
  -- the request is on record before the handler is asked
  have recorded : Warrants f cls base s₁ (record (.bindingRequested r)) fun _ s₂ =>
      ScanEvent.bindingRequested r ∈ s₂.transcript.toList := by
    refine ⟨hs₁.push (.bindingRequested r) (fun _ stood => nomatch stood) ?_, by simp⟩
    intro r' same
    exact ScanEvent.bindingRequested.inj same ▸ posed
  apply recorded.bind
  intro _ s₂ _ hs₂ known
  have answers : ∀ s', Later s₂ s' → ∀ call,
      Local (Standing f cls base s') (answerSlot f r call) := fun s' later call =>
    local_answerSlot upheld_standing call (fit_nested (later.transcript.subset known) call)
  have answered := warrants_converse hs₂ c (.bindingRequested r) (c.handler.onBinding r) answers
  apply (answered.rethrow (·.requiredBy op.target)).bind
  intro _ s₃ _ hs₃ _
  apply (lawful_compositional.bindingAt op.id index s₃ hs₃).bind
  intro binding s₄ _ hs₄ _
  split
  · exact .pure hs₄ trivial
  · exact .throw hs₄

theorem lawful_bindToService (op : Operation P) (index : Nat) (parameter : Parameter P) :
    Lawful f cls base (bindToService f op index parameter) := by
  unfold bindToService
  split
  · exact lawful_bindSlot _ _ _
  · exact lawful_throw _

end Binding

end Scan

end Injector
