import Injector.Proofs.Scan.Coverage
import Injector.Proofs.Scan.Crew
import Injector.Proofs.Scan.Limit

/-!
# What is known when a parameter is taken up

There are two things: what the scan is entitled to, and who takes part. An operation is taken up
with its first parameter, and no parameter is before its operation is.
-/

set_option autoImplicit false

namespace Injector

variable {P : Platform}

namespace Scan

section Spending

variable {f : ScanFrame P} {s s' : Scan P}

theorem frugal_dequeue : Frugal (dequeue (P := P)) := by
  intro s
  unfold dequeue
  rw [ends_bind, ends_get]
  split
  · exact .refl s
  · exact ⟨rfl, rfl⟩

/-- What was resolved stays so. -/
theorem Later.resolved (h : Later s s') : s.resolved ⊆ s'.resolved :=
  (h.transcript.filterMap _).subset

end Spending

namespace Rounds

variable {f : ScanFrame P} {cls : ClassDescriptor P} {base k i q : Nat}
  {given : Option (Handler P)} {rounds more : List (Round P)} {s s' s'' : Scan P}

structure Underway (f : ScanFrame P) (cls : ClassDescriptor P) (base : Nat)
    (given : Option (Handler P)) (k i q : Nat) (s : Scan P) : Prop
    extends Progress f base k i q s where
  warranted : Warranted f cls base s
  crewed : Crewed f base given s

/-- The round is about the parameter at the frontier, after its operation was taken up. -/
structure Met (f : ScanFrame P) (cls : ClassDescriptor P) (base : Nat) (given : Option (Handler P))
    (r : Round P) : Prop where
  frame : r.frame = f
  underway : ∃ q, Underway f cls base given r.id r.index q r.before
  taken : r.id ∈ r.before.resolved

def Opened (rounds : List (Round P)) (b : Bean P) (id : Nat) : Prop :=
  (∃ r ∈ rounds, r.place = (id, 0)) ∨ ∃ op, b.operation? id = some op ∧ op.params = []

/-- The scan went through the rounds from `s` to `s'`, and took up no operation without them. -/
structure Passed (f : ScanFrame P) (cls : ClassDescriptor P) (base : Nat)
    (given : Option (Handler P)) (rounds : List (Round P)) (s s' : Scan P) : Prop where
  later : Later s s'
  warranted : Warranted f cls base s'
  met : ∀ r ∈ rounds, Met f cls base given r ∧ Later r.before s'
  opened : ∀ id ∈ s'.resolved, id ∈ s.resolved ∨ Opened rounds s'.bean id

theorem Opened.mono {b later : Bean P} {id : Nat} (h : Opened rounds b id)
    (all : ∀ r ∈ rounds, r ∈ more) (grown : b.Extends later) : Opened more later id := by
  rcases h with ⟨r, hr, place⟩ | ⟨op, ho, none⟩
  · exact .inl ⟨r, all r hr, place⟩
  · obtain ⟨op', ho', grows⟩ := grown.operations id op ho
    exact .inr ⟨op', ho', by rw [grows.params, none]⟩

theorem passed_nil (later : Later s s') (warranted : Warranted f cls base s')
    (resolved : s'.resolved = s.resolved) : Passed f cls base given [] s s' where
  later := later
  warranted := warranted
  met := List.forall_mem_nil _
  opened := fun _ taken => .inl (resolved ▸ taken)

theorem Passed.trans (h : Passed f cls base given rounds s s')
    (k : Passed f cls base given more s' s'') :
    Passed f cls base given (rounds ++ more) s s'' where
  later := h.later.trans k.later
  warranted := k.warranted
  met := List.forall_mem_append.mpr
    ⟨fun r hr => ⟨(h.met r hr).1, (h.met r hr).2.trans k.later⟩, k.met⟩
  opened := by
    intro id taken
    rcases k.opened id taken with before | opened
    · refine (h.opened id before).imp_right fun opened => ?_
      exact opened.mono (fun _ => List.mem_append_left _) k.later.bean
    · exact .inr (opened.mono (fun _ => List.mem_append_right _) (.refl _))

def Passes {α : Type} {step : ScanM P α} (rounds : Rounds step) (f : ScanFrame P)
    (cls : ClassDescriptor P) (base : Nat) (given : Option (Handler P)) (s : Scan P)
    (ok : α → Scan P → Prop) : Prop :=
  Ends step s (fun a s' => Passed f cls base given (rounds s) s s' ∧ ok a s') fun _ s' =>
    Passed f cls base given (rounds s) s s'

section Steps

variable {α β : Type} {step : ScanM P α} {next : α → ScanM P β} {ok : α → Scan P → Prop}

theorem Passes.mono {rounds : Rounds step} {ok' : α → Scan P → Prop}
    (h : rounds.Passes f cls base given s ok) (hok : ∀ a s', ok a s' → ok' a s') :
    rounds.Passes f cls base given s ok' :=
  Ends.mono h (fun a s' ha => ⟨ha.1, hok a s' ha.2⟩) fun _ _ he => he

theorem Passes.bind {first : Rounds step} {rest : ∀ a, Rounds (next a)} {ok' : β → Scan P → Prop}
    (h : first.Passes f cls base given s ok)
    (hn : ∀ a s', ok a s' → (rest a).Passes f cls base given s' ok') :
    (Rounds.bind first rest).Passes f cls base given s ok' := by
  rcases Ends.cases h with ⟨a, s', ran, passed, ha⟩ | ⟨e, s', ran, passed⟩
  · have rounds : Rounds.bind first rest s = first s ++ rest a s' := by rw [Rounds.bind, ran]
    unfold Passes
    rw [ends_bind, ends_of_ok ran, rounds]
    exact Ends.mono (hn a s' ha) (fun _ _ hb => ⟨passed.trans hb.1, hb.2⟩)
      fun _ _ he => passed.trans he
  · have rounds : Rounds.bind first rest s = first s := by rw [Rounds.bind, ran, List.append_nil]
    unfold Passes
    rw [ends_bind, ends_of_error ran, rounds]
    exact passed

theorem Passes.ite {c : Prop} [Decidable c] {step' : ScanM P α} {r : Rounds step}
    {r' : Rounds step'} (h : r.Passes f cls base given s ok)
    (h' : r'.Passes f cls base given s ok) :
    (Rounds.ite r r' : Rounds (if c then step else step')).Passes f cls base given s ok := by
  unfold Passes Rounds.ite
  by_cases hc : c
  · simp only [if_pos hc]
    exact h
  · simp only [if_neg hc]
    exact h'

theorem passes_pure {a : α} (hs : Warranted f cls base s) (h : ok a s) :
    (none : Rounds (pure a : ScanM P α)).Passes f cls base given s ok :=
  ⟨passed_nil (.refl s) hs rfl, h⟩

theorem passes_throw {e : Error} (hs : Warranted f cls base s) :
    (none : Rounds (throw e : ScanM P α)).Passes f cls base given s ok :=
  passed_nil (.refl s) hs rfl

theorem passes_reads {read : α → Prop} (hs : Warranted f cls base s) (h : Reads s step read) :
    (none : Rounds step).Passes f cls base given s fun a s' => s' = s ∧ read a := by
  apply Ends.mono h
  · rintro a _ ⟨rfl, ha⟩
    exact ⟨passed_nil (.refl _) hs rfl, rfl, ha⟩
  · rintro _ _ rfl
    exact passed_nil (.refl _) hs rfl

/-- A step in which no operation is taken up. -/
theorem passes_of_leads (leads : Leads f s step ok)
    (warrants : Warrants f cls base s step fun _ _ => True)
    (crews : Ends step s (fun _ s' => Crewed f base given s') fun _ _ => True)
    (frugal : Frugal step) :
    (none : Rounds step).Passes f cls base given s fun a s' => ok a s' ∧
      ∀ k' i' q', Progress f base k' i' q' s' → Underway f cls base given k' i' q' s' := by
  apply (((Ends.and leads warrants).and crews).and (frugal s)).mono
  · rintro a s' ⟨⟨⟨⟨-, ha⟩, ⟨later, warranted⟩, -⟩, crewed⟩, unspent⟩
    exact ⟨passed_nil later warranted unspent.resolved, ha, fun _ _ _ progress =>
      ⟨progress, warranted, crewed⟩⟩
  · rintro _ s' ⟨⟨⟨-, later, warranted⟩, -⟩, unspent, -⟩
    exact passed_nil later warranted unspent.resolved

/-- The bean and the queue are left alone, too. -/
theorem Underway.silent (h : Underway f cls base given k i q s) (silent : Silent step)
    (lawful : Lawful f cls base step) (crews : Crews f base given step) (frugal : Frugal step) :
    (none : Rounds step).Passes f cls base given s fun _ s' =>
      Quiet s s' ∧ Underway f cls base given k i q s' :=
  (passes_of_leads (silent.leads f s) (lawful s h.warranted) (crews s h.crewed) frugal).mono
    fun _ _ ⟨quiet, goes⟩ => ⟨quiet, goes k i q (quiet.progress h.toProgress)⟩

end Steps

section Resolving

theorem Underway.one {op : Operation P} {parameter : Parameter P}
    (h : Underway f cls base given k i q s) (taken : k ∈ s.resolved)
    (found : s.bean.operation? k = some op) (atFrontier : op.params[i]? = some parameter) :
    (one f k i parameter).Passes f cls base given s fun _ s' =>
      Later s s' ∧ Underway f cls base given k (i + 1) q s' := by
  let r : Round P := ⟨f, k, i, parameter, s⟩
  have passed : ∀ {s'}, Later s s' → Warranted f cls base s' → Unspent s s' →
      Passed f cls base given [r] s s' := by
    intro s' later warranted unspent
    refine ⟨later, warranted, List.forall_mem_singleton.mpr ⟨⟨rfl, ⟨q, h⟩, taken⟩, later⟩, ?_⟩
    exact fun id before => .inl (unspent.resolved ▸ before)
  apply (((Ends.and (leads_resolveParameter h.toProgress found atFrontier)
    (warrants_resolveParameter h.warranted found atFrontier)).and
      (h.crewed.resolveParameter h.linked k i parameter)).and
        ((frugal_consulting f).resolveParameter k i parameter s)).mono
  · rintro _ s' ⟨⟨⟨⟨-, progress⟩, ⟨later, warranted⟩, -⟩, crewed⟩, unspent⟩
    exact ⟨passed later warranted unspent, later, progress, warranted, crewed⟩
  · rintro _ s' ⟨⟨⟨-, later, warranted⟩, -⟩, unspent, -⟩
    exact passed later warranted unspent

theorem Underway.resolveParameters {op : Operation P} {earlier parameters : List (Parameter P)}
    (h : Underway f cls base given k i q s) (taken : k ∈ s.resolved)
    (found : s.bean.operation? k = some op) (left : op.params = earlier ++ parameters)
    (passed : earlier.length = i) :
    (resolveParameters f k i parameters).Passes f cls base given s fun _ s' =>
      Underway f cls base given (k + 1) 0 q s' := by
  induction parameters generalizing i s op earlier with
  | nil =>
    have ended : op.params.length = i := by rw [left, List.append_nil, passed]
    have next := h.frontier.next found (by simpa [Operation.params] using Nat.le_of_eq ended)
    exact passes_pure h.warranted ⟨⟨h.linked, h.installer, next⟩, h.warranted, h.crewed⟩
  | cons parameter rest ih =>
    have atFrontier : op.params[i]? = some parameter := by
      rw [left, ← passed]
      simp
    have unbound := h.toProgress.unbound
    apply (passes_reads h.warranted (reads_bindingAt s k i)).bind
    rintro binding _ ⟨rfl, rfl⟩
    rw [unbound]
    apply (h.one taken found atFrontier).bind
    rintro _ s' ⟨later, next⟩
    obtain ⟨op', found', grown⟩ := later.bean.operations k op found
    have left' : op'.params = (earlier ++ [parameter]) ++ rest := by
      rw [grown.params, left, List.append_assoc]
      rfl
    exact ih next (later.resolved taken) found' left' (by simp [passed])

theorem Underway.resolveOperation (h : Underway f cls base given k 0 q s)
    (taken : k ∈ s.resolved) :
    (resolveOperation f k).Passes f cls base given s fun _ s' =>
      Underway f cls base given (k + 1) 0 q s' := by
  apply (passes_reads h.warranted (reads_operationAt f s k)).bind
  rintro op _ ⟨rfl, found⟩
  exact h.resolveParameters taken found (List.nil_append _).symm rfl

/-- The rounds of an operation begin with its first parameter. -/
theorem opened_resolveOperation (h : Progress f base k 0 q s) {op : Operation P}
    (found : s.bean.operation? k = some op) : Opened (resolveOperation f k s) s.bean k := by
  have rounds : resolveOperation f k s = resolveParameters f k 0 op.params s := by
    rw [resolveOperation, Rounds.bind, operationAt_of_some f found]
    rfl
  cases params : op.params with
  | nil => exact .inr ⟨op, found, params⟩
  | cons parameter rest =>
    have unbound : bindingAt k 0 s = (.ok Option.none, s) := by
      rw [← h.unbound]
      rfl
    refine .inl ⟨⟨f, k, 0, parameter, s⟩, ?_, rfl⟩
    rw [rounds, params, resolveParameters, Rounds.bind, unbound]
    exact List.mem_cons_self

theorem Passed.taken (h : Passed f cls base given rounds s' s'') (later : Later s s')
    (resolved : s'.resolved = s.resolved ++ [k]) (opened : Opened rounds s'.bean k) :
    Passed f cls base given rounds s s'' where
  later := later.trans h.later
  warranted := h.warranted
  met := h.met
  opened := by
    intro id taken
    rcases h.opened id taken with before | opened'
    · rw [resolved, List.mem_append, List.mem_singleton] at before
      refine before.imp_right ?_
      rintro rfl
      exact opened.mono (fun _ hr => hr) h.later.bean
    · exact .inr opened'

/-- The next operation is taken up. It is on record before its parameters are. -/
theorem Underway.take {remaining : Nat} {ok : PUnit → Scan P → Prop}
    (h : Underway f cls base given k 0 (k + 1) s)
    (rest : ∀ s', Underway f cls base given (k + 1) 0 (k + 1) s' →
      (drainWithin f remaining).Passes f cls base given s' ok) :
    (Rounds.bind (none : Rounds (spend (P := P))) fun _ =>
      Rounds.bind (none : Rounds (record (.resolving k))) fun _ =>
        Rounds.bind (Rounds.resolveOperation f k) fun _ => drainWithin f remaining).Passes
          f cls base given s ok := by
  let spent : Scan P := { s with remaining := s.remaining - 1 }
  let noted : Scan P := { spent with transcript := spent.transcript.push (.resolving k) }
  obtain ⟨later, warranted⟩ : Later s spent ∧ Warranted f cls base spent :=
    (lawful_spend s h.warranted).1
  obtain ⟨later', warranted'⟩ : Later spent noted ∧ Warranted f cls base noted :=
    (lawful_record (by simp) (by simp) spent warranted).1
  have crewed : Crewed f base given spent := Hush.crews (fun _ => hush_spend) s h.crewed
  have crewed' : Crewed f base given noted := Hush.crews (fun _ => hush_record rfl) spent crewed
  have resolved : noted.resolved = s.resolved ++ [k] := by simp [noted, spent, Scan.resolved]
  have underway : Underway f cls base given k 0 (k + 1) noted :=
    ⟨h.toProgress.of_eq rfl rfl, warranted', crewed'⟩
  have taken : k ∈ noted.resolved := by simp [resolved]
  obtain ⟨op, found⟩ := Bean.exists_operation? (underway.frontier.q_le)
  have whole : (Rounds.bind (Rounds.resolveOperation f k) fun _ => drainWithin f remaining).Passes
      f cls base given noted ok := (underway.resolveOperation taken).bind fun _ => rest
  have opened : Opened (Rounds.bind (Rounds.resolveOperation f k)
      (fun _ => drainWithin f remaining) noted) noted.bean k :=
    (opened_resolveOperation underway.toProgress found).mono
      (fun _ => List.mem_append_left _) (.refl _)
  exact Ends.mono whole
    (fun _ _ ha => ⟨ha.1.taken (later.trans later') resolved opened, ha.2⟩)
    fun _ _ he => he.taken (later.trans later') resolved opened

def Rested (f : ScanFrame P) (cls : ClassDescriptor P) (base : Nat) (given : Option (Handler P))
    (s : Scan P) : Prop :=
  Underway f cls base given s.bean.operations.size 0 s.bean.operations.size s

theorem Underway.dequeue (h : Underway f cls base given k 0 k s) :
    (none : Rounds (dequeue (P := P))).Passes f cls base given s fun taken s' =>
      taken = .none ∧ Rested f cls base given s' ∨
        taken = some k ∧ Underway f cls base given k 0 (k + 1) s' := by
  apply (passes_of_leads (leads_dequeue h.toProgress) (lawful_dequeue s h.warranted)
    (Hush.crews (fun _ => hush_dequeue) s h.crewed) frugal_dequeue).mono
  rintro taken s' ⟨⟨rfl, settled⟩ | ⟨rfl, progress⟩, goes⟩
  · exact .inl ⟨rfl, goes _ _ _ settled⟩
  · exact .inr ⟨rfl, goes _ _ _ progress⟩

theorem Underway.drainWithin (remaining : Nat) (h : Underway f cls base given k 0 k s) :
    (drainWithin f remaining).Passes f cls base given s fun _ => Rested f cls base given := by
  induction remaining generalizing k s with
  | zero =>
    apply h.dequeue.bind
    rintro taken s' (⟨rfl, rested⟩ | ⟨rfl, underway⟩)
    · exact passes_pure rested.warranted rested
    · exact passes_throw underway.warranted
  | succ remaining ih =>
    apply h.dequeue.bind
    rintro taken s' (⟨rfl, rested⟩ | ⟨rfl, underway⟩)
    · exact passes_pure rested.warranted rested
    · exact underway.take fun _ => ih

theorem Underway.drain (h : Underway f cls base given k 0 k s) :
    (drain f).Passes f cls base given s fun _ => Rested f cls base given := by
  have gets : Reads s MonadState.get fun _ => True := ⟨rfl, trivial⟩
  apply (passes_reads h.warranted gets).bind
  rintro s₀ _ ⟨rfl, -⟩
  exact h.drainWithin s₀.remaining

end Resolving

section Members

theorem Underway.scanConstructor (h : Underway f cls base given k 0 k s)
    (described : s.bean.descriptor = cls) :
    (scanConstructor f cls).Passes f cls base given s fun _ => Rested f cls base given := by
  have selects : Reads s (liftM cls.selectConstructor) fun constructor =>
      cls.selectConstructor = .ok constructor := reads_except fun _ selected => selected
  apply (passes_reads h.warranted selects).bind
  rintro constructor _ ⟨rfl, selected⟩
  apply (passes_reads h.warranted (reads_nextId _)).bind
  rintro _ s ⟨rfl, rfl⟩
  have leads := atomic_append h.toProgress (.constructor (described ▸ selected))
  rw [described] at leads
  have fit : (Operation.ofConstructor s.bean.operations.size cls constructor f.installer
      Option.none).InjectsFor s.Heard :=
    Operation.injectsFor_of_mode (by simp [Operation.ofConstructor])
  apply (passes_of_leads (Leads.discard leads.leads)
    (ends_discard.mpr (warrants_append h.warranted (.constructor selected (.refl _))))
    (ends_discard.mpr (h.crewed.append fit)) (frugal_activating.discard (frugal_append _))).bind
  rintro _ s' ⟨⟨progress, -⟩, goes⟩
  exact (goes _ _ _ progress).drain

/-- No operation is taken up while members are matched. -/
theorem Underway.forM {α : Type} {visit : α → ScanM P Unit} {members : List α}
    (h : Underway f cls base given k 0 k s)
    (leads : ∀ member s, Progress f base k 0 k s →
      Leads f s (visit member) fun _ => Progress f base k 0 k)
    (lawful : ∀ member ∈ members, Lawful f cls base (visit member))
    (crews : ∀ member, Crews f base given (visit member))
    (frugal : ∀ member, Frugal (visit member)) :
    (none : Rounds (members.forM visit)).Passes f cls base given s fun _ =>
      Underway f cls base given k 0 k := by
  have walk : Leads f s (members.forM visit) fun _ => Progress f base k 0 k :=
    Leads.forM h.toProgress fun member _ s' hs => leads member s' hs
  have warrants : Warrants f cls base s (members.forM visit) fun _ _ => True :=
    Warrants.forM h.warranted fun member at_ s' _ hs' => lawful member at_ s' hs'
  apply (passes_of_leads walk warrants
    (crews_compositional.forM (fun member _ => crews member) s h.crewed)
    (frugal_activating.forM fun member _ => frugal member)).mono
  exact fun _ _ ⟨progress, goes⟩ => goes _ _ _ progress

theorem Rested.scanMembers (h : Rested f cls base given s) :
    (scanMembers f cls).Passes f cls base given s fun _ => Rested f cls base given := by
  apply (Underway.forM h (fun declared _ hs => leads_matchField declared hs)
    (fun _ => lawful_matchField) crews_matchField (frugal_consulting f).matchField).bind
  intro _ s₁ fields
  apply (fields.forM (fun declared _ hs => leads_matchMethod declared hs)
    (fun _ => lawful_matchMethod) crews_matchMethod (frugal_consulting f).matchMethod).bind
  intro _ s₂ methods
  exact methods.drain

/-- Once everything is resolved, nothing more is taken up. -/
theorem Rested.close (h : Rested f cls base given s) :
    (none : Rounds (closing (P := P))).Passes f cls base given s fun _ _ => True := by
  have lawful : Lawful f cls base (closing (P := P)) :=
    lawful_compositional.get.bind fun s =>
      (lawful_finish s.contributors).bind fun _ s hs => warrants_modify hs.close
  have frugal : Frugal (closing (P := P)) :=
    frugal_get.bind fun s => (frugal_activating.finish s.contributors).bind fun _ =>
      frugal_modify fun _ => ⟨rfl, rfl⟩
  apply ((lawful s h.warranted).and (frugal s)).mono
  · rintro _ s' ⟨⟨⟨later, warranted⟩, -⟩, unspent⟩
    exact ⟨passed_nil later warranted unspent.resolved, trivial⟩
  · rintro _ s' ⟨⟨later, warranted⟩, unspent, -⟩
    exact passed_nil later warranted unspent.resolved

theorem Rested.scanWith (h : Rested f s.bean.descriptor base given s) :
    (scanWith f s.bean).Passes f s.bean.descriptor base given s fun _ _ => True := by
  have markers := Underway.silent h (silent_activating.checkClassMarkers f s.bean.descriptor)
    (lawful_compositional.checkClassMarkers f _) (crews_compositional.checkClassMarkers f _)
    (frugal_activating.checkClassMarkers f _)
  have operations : (scanOperations f s.bean).Passes f s.bean.descriptor base given s fun _ =>
      Rested f s.bean.descriptor base given := by
    apply markers.bind
    rintro _ s' ⟨quiet, h'⟩
    have start : Rested f s.bean.descriptor base given s' := by
      unfold Rested
      rw [quiet.bean]
      exact h'
    have constructed : (Rounds.ite (scanConstructor f s.bean.descriptor) none :
        Rounds (if s.bean.source.isConstruction then
          Scan.scanConstructor f s.bean.descriptor else pure ⟨⟩)).Passes f s.bean.descriptor base
          given s' fun _ => Rested f s.bean.descriptor base given :=
      (Underway.scanConstructor start (congrArg Bean.descriptor quiet.bean)).ite
        (passes_pure start.warranted start)
    exact constructed.bind fun _ s'' rested => rested.scanMembers
  have whole : (Rounds.bind (scanOperations f s.bean) fun _ => none).Passes f s.bean.descriptor base
      given s fun _ _ => True := operations.bind fun _ _ rested => rested.close
  unfold Passes
  rw [scanWith_closing]
  exact whole

def Settles (host : Host P) (given : Option (Handler P)) (s s' : Scan P) : Prop :=
  (∃ f, frame? host s = .ok f ∧
    Passed f s.bean.descriptor s.bean.operations.size given (scanBean host s) s s') ∨
    s'.bean = s.bean

theorem ends_scanBean_passed (host : Host P) (linked : s.bean.Linked) (queue : s.queue = [])
    (contributors : s.contributors = []) (transcript : s.transcript = #[]) (calls : s.calls = #[]) :
    Ends (Scan.scanBean host) s (fun _ s' => Settles host s.preset s s')
      fun _ s' => Settles host s.preset s s' := by
  by_cases scanned : s.bean.scanned = true
  · rw [ends_of_error (scanBean_refused host scanned)]
    exact .inr rfl
  apply ends_scanBean_of
  · exact fun refused => absurd refused scanned
  have silent : Silent (looks s) := silent_withCatalog _
  have hushed : Hush (fun _ => True) (looks s) := hush_withCatalog _
  have frugal : Frugal (looks s) :=
    frugal_withCatalog fun w => Catalog.confined_modelFor w s.bean.descriptor
  rcases (Ends.traced (((silent s).and (hushed s trivial)).and (frugal s))).cases with
    ⟨model, s₁, ran, ⟨⟨quiet, unattended, -⟩, unspent⟩, -⟩ | ⟨e, s₁, ran, ⟨⟨quiet, -⟩, -⟩, -⟩
  · let f : ScanFrame P := ⟨host, model, s.bean.type, s.bean.installer⟩
    have known : frame? host s = .ok f := frame?_of_looks host ran
    show Ends (looks s) s _ _
    rw [ends_of_ok ran]
    have lawful : Lawful f s.bean.descriptor s.bean.operations.size (looks s) :=
      lawful_compositional.withCatalog fun w => Catalog.confined_modelFor w s.bean.descriptor
    have begun := warranted_begin f s.bean.descriptor contributors transcript
    obtain ⟨⟨later, warranted⟩, -⟩ := (lawful s begun).of_ok ran
    have crewed : Crewed f s.bean.operations.size s.preset s₁ := by
      refine ⟨(roster_begin f calls transcript contributors rfl).unattended unattended, ?_⟩
      intro id op le ho
      rw [quiet.bean] at ho
      exact absurd (Bean.lt_of_operation? ho) (Nat.not_lt.mpr le)
    have progress : Settled f s₁.bean.operations.size s₁ :=
      settled_begin (quiet.bean ▸ linked) (by rw [quiet.bean]) (quiet.queue.trans queue)
    have rested : Rested f s₁.bean.descriptor s₁.bean.operations.size s.preset s₁ := by
      rw [quiet.bean]
      rw [Settled, quiet.bean] at progress
      rw [Rested, quiet.bean]
      exact ⟨progress, warranted, crewed⟩
    have scans := rested.scanWith
    rw [quiet.bean] at scans
    have rounds : scanBean host s = scanWith f s.bean s₁ := by
      rw [scanBean_of_fresh host scanned, ran]
    have settles : ∀ s', Passed f s.bean.descriptor s.bean.operations.size s.preset
        (scanWith f s.bean s₁) s₁ s' → Settles host s.preset s s' := by
      intro s' passed
      refine .inl ⟨f, known, ?_⟩
      rw [rounds]
      exact (passed_nil later warranted unspent.resolved).trans passed
    exact Ends.mono scans (fun _ s' h => settles s' h.1) fun _ => settles
  · show Ends (looks s) s _ _
    rw [ends_of_error ran]
    exact .inr quiet.bean

end Members

end Rounds

end Scan

end Injector
