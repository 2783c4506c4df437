import Mathlib.Data.List.TakeWhile
import Injector.Proofs.Service.Journal

/-!
# How services are resolved, seen from the journal

Whatever factories and beans do, a resolution leaves all services as they are told of to have been
left: those in flight are in flight again, and the story of a service that is made once goes on as
such stories do.
-/

set_option autoImplicit false

namespace Injector

variable {P : Platform}

def Live.tell (live : Live P) (events : List (ServiceEvent P)) : Live P :=
  { live with journal := live.journal ++ events }

namespace Services

variable {s : Services P} {listing : Listing} {live later : Live P} {a b : Address}
  {body build : Run P P.Datum}

theorem whileInFlight_of_inFlight (h : live.isInFlight a = true) :
    whileInFlight a body live =
      (.error (.circularDependency (live.cycle a)), live.refuse a) := by
  unfold whileInFlight
  rw [get_bind_apply, h, if_pos rfl]
  rfl

theorem whileInFlight_of_free (h : live.isInFlight a = false) :
    whileInFlight a body live = ((body (live.enter a)).1,
      (body (live.enter a)).2.leave a (body (live.enter a)).1) := by
  unfold whileInFlight
  rw [get_bind_apply, h, if_neg Bool.false_ne_true]
  rfl

theorem resolve_of_some {party : Party} {key : DependencyKey} {r : Registration P}
    (found : s.find? ⟨party, key⟩ = some r) :
    s.resolve listing party key =
      whileInFlight ⟨party, key⟩ (provide (s.resolveWithin listing s.length) r) := by
  unfold resolve resolveWithin
  rw [found]

theorem resolve_of_none {party : Party} {key : DependencyKey}
    (missing : s.find? ⟨party, key⟩ = none) :
    s.resolve listing party key = throw ((s.directory listing []).notRegistered party key) := by
  unfold resolve resolveWithin
  rw [missing]

theorem once_of_built {value : P.Datum} (h : live.built? a = some value) :
    once a build live = (.ok value, live) := by
  unfold once
  rw [get_bind_apply, h]
  rfl

def attempted (a : Address) : Except Error P.Datum × Live P → Live P
  | (.ok value, live) => (live.keep a value).note (.built a value)
  | (.error _, live) => live.note (.failed a)

/-- The outcome of the attempt is told, and nothing else. -/
theorem journal_attempted (a : Address) (made : Except Error P.Datum × Live P) :
    ∃ outcome, (attempted a made).journal = made.2.journal ++ [outcome] := by
  rcases made with ⟨e | value, live⟩
  · exact ⟨.failed a, rfl⟩
  · exact ⟨.built a value, rfl⟩

theorem once_of_unbuilt (h : live.built? a = none) :
    once a build live = ((build (live.note (.begun a))).1,
      attempted a (build (live.note (.begun a)))) := by
  unfold once
  rw [get_bind_apply, h]
  show (Run.note (.begun a) >>= fun _ => _) live = _
  rw [bind_apply]
  show (tryCatch build _ >>= _) (live.note (.begun a)) = _
  rw [bind_apply, tryCatch_apply]
  rcases (build (live.note (.begun a)) : Except Error P.Datum × Live P) with ⟨e | value, l⟩ <;> rfl

theorem contains_of_find? {r : Registration P} (found : s.find? a = some r) :
    s.contains a = true := by
  rw [contains, found]
  rfl

/-- The chain leads from the service in flight to itself. -/
theorem refuses_cycle (known : s.contains a = true) (h : live.isInFlight a = true) :
    s.Refuses live.inFlight a (live.cycle a) := by
  refine ⟨known, ?_⟩
  unfold Live.cycle
  have split := List.takeWhile_append_dropWhile (p := (· != a)) (l := live.inFlight)
  have outside : ∀ b ∈ live.inFlight.takeWhile (· != a), (b == a) = false := by
    intro b hb
    have passed := List.mem_takeWhile_imp hb
    rwa [bne, Bool.not_eq_true'] at passed
  cases rest : live.inFlight.dropWhile (· != a) with
  | nil =>
    rw [rest, List.append_nil] at split
    rw [Live.isInFlight, List.any_eq_true] at h
    obtain ⟨b, hb, same⟩ := h
    rw [← split] at hb
    rw [outside b hb] at same
    cases same
  | cons entry inner =>
    have stops := List.head?_dropWhile_not (· != a) live.inFlight
    rw [rest, List.head?_cons] at stops
    have same : (entry == a) = true := by simpa [bne] using stops
    rw [rest] at split
    exact ⟨_, entry, inner, split.symm, same, outside, rfl⟩

theorem Refuses.isInFlight {chain : List DependencyKey} (h : s.Refuses live.inFlight a chain) :
    live.isInFlight a = true := by
  obtain ⟨outer, entry, inner, hs, same, -⟩ := h.chain_eq
  rw [Live.isInFlight, List.any_eq_true]
  exact ⟨entry, by simp [hs], same⟩

/-- There is one chain only. -/
theorem Refuses.chain_unique {chain : List DependencyKey} (h : s.Refuses live.inFlight a chain) :
    chain = live.cycle a := by
  obtain ⟨outer, entry, inner, hs, same, outside, rfl⟩ := h.chain_eq
  have passes : ∀ b ∈ outer, (b != a) = true := by
    intro b hb
    rw [bne, outside b hb]
    rfl
  have stops : (entry != a) = false := by
    rw [bne, same]
    rfl
  rw [Live.cycle, hs, List.dropWhile_append_of_pos passes, List.dropWhile_cons_of_neg]
  rw [stops]
  exact Bool.false_ne_true

theorem proceeds_refuse (known : s.contains a = true) (h : live.isInFlight a = true) :
    s.Proceeds live (live.refuse a) where
  inFlight := rfl
  journal := ⟨[.refused a (live.cycle a)], rfl, .refused (refuses_cycle known h) .nil⟩
  untouched := by
    intro b _
    refine ⟨?_, rfl⟩
    show stages b (live.journal ++ [.refused a (live.cycle a)]) = _
    rw [stages_append]
    exact List.append_nil _
  told := by
    intro b r _ _ _ story
    show Story (live.built? b) (stages b (live.journal ++ [.refused a (live.cycle a)]))
    rw [stages_append]
    exact (List.append_nil _).symm ▸ story

section Enclosing

variable {before after : List (ServiceEvent P)} {ended : Live P} {result : Except Error P.Datum}

theorem Proper.apart (proper : s.Proper (live.inFlight ++ [a])) (hb : live.isInFlight b = true) :
    (a == b) = false := by
  rw [Live.isInFlight, List.any_eq_true] at hb
  obtain ⟨c, hc, same⟩ := hb
  have distinct := (List.pairwise_append.mp proper.distinct).2.2
  rw [← BEq.congr_right same, BEq.comm]
  exact distinct c hc a List.mem_cons_self

theorem isInFlight_entered (live : Live P) (a b : Address) (before : List (ServiceEvent P)) :
    ((live.enter a).tell before).isInFlight b = (live.isInFlight b || a == b) := by
  simp [Live.isInFlight, Live.tell, Live.enter, Live.note]

theorem journal_entered (live : Live P) (a : Address) (before : List (ServiceEvent P)) :
    ((live.enter a).tell before).journal = live.journal ++ ([.entered a] ++ before) := by
  simp [Live.tell, Live.enter, Live.note]

theorem journal_left (journal : ended.journal = later.journal ++ after) (a : Address)
    (result : Except Error P.Datum) :
    (ended.leave a result).journal = later.journal ++ (after ++ [.left a result]) := by
  simp [Live.leave, Live.note, journal]

theorem stages_entered_apart (marks : ∀ event ∈ before, event.Marks a)
    (apart : (a == b) = false) :
    stages b ((live.enter a).tell before).journal = stages b live.journal := by
  rw [journal_entered, stages_append, stages_append, stages_of_marks marks apart]
  simp [stages, ServiceEvent.stage?, apart]

theorem stages_left_apart (journal : ended.journal = later.journal ++ after)
    (marks : ∀ event ∈ after, event.Marks a) (apart : (a == b) = false) :
    stages b (ended.leave a result).journal = stages b later.journal := by
  rw [journal_left journal, stages_append, stages_append, stages_of_marks marks apart]
  simp [stages, ServiceEvent.stage?, apart]

/-- What is told of the service itself, which nothing happened to while it was in flight. -/
theorem stages_enclosed (journal : ended.journal = later.journal ++ after)
    (same : stages a later.journal = stages a ((live.enter a).tell before).journal) :
    stages a (ended.leave a result).journal = stages a live.journal ++
      (.entered :: (stages a before ++ stages a after ++ [.left result])) := by
  have first : stages a [ServiceEvent.entered (P := P) a] = [.entered] := by
    simp [stages, ServiceEvent.stage?]
  have close : stages a [ServiceEvent.left (P := P) a result] = [.left result] := by
    simp [stages, ServiceEvent.stage?]
  rw [journal_left journal, stages_append, same, journal_entered, stages_append, stages_append,
    stages_append, first, close]
  simp

/-- A service that was entered is left. In between the services in flight were these and the ones
that were in flight before; if the service is made once, its own story has to go on. -/
theorem Proceeds.enclosed (before after : List (ServiceEvent P)) (ended : Live P)
    (result : Except Error P.Datum) (proper : s.Proper (live.inFlight ++ [a]))
    (h : s.Proceeds ((live.enter a).tell before) later)
    (marksBefore : ∀ event ∈ before, event.Marks a) (marksAfter : ∀ event ∈ after, event.Marks a)
    (inFlight : ended.inFlight = later.inFlight) (journal : ended.journal = later.journal ++ after)
    (built : ∀ b, (a == b) = false → ended.built? b = later.built? b)
    (story : ∀ r, s.find? a = some r → r.IsOnce →
      Story (live.built? a) (stages a live.journal) → Story (ended.built? a)
        (stages a live.journal ++
          (.entered :: (stages a before ++ stages a after ++ [.left result])))) :
    s.Proceeds live (ended.leave a result) where
  inFlight := by
    show ended.inFlight.dropLast = live.inFlight
    rw [inFlight, h.inFlight]
    exact List.dropLast_concat
  journal := by
    obtain ⟨since, hs, nested⟩ := h.journal
    have told := ((nested_of_marks marksBefore).append nested).append (nested_of_marks marksAfter)
    refine ⟨.entered a :: (before ++ since ++ after ++ .left a result :: []), ?_,
      .entered proper told .nil⟩
    rw [journal_left journal, hs, journal_entered]
    simp
  untouched := by
    intro b hb
    have apart := proper.apart hb
    obtain ⟨same, kept⟩ := h.untouched b (by rw [isInFlight_entered, hb, Bool.true_or])
    rw [stages_entered_apart marksBefore apart] at same
    exact ⟨(stages_left_apart journal marksAfter apart).trans same, (built b apart).trans kept⟩
  told := by
    intro b r found once free told
    cases here : a == b with
    | true =>
      obtain ⟨same, -⟩ := h.untouched a (by rw [isInFlight_entered, BEq.rfl, Bool.or_true])
      rw [← find?_congr here] at found
      rw [← Live.built?_congr here, ← stages_congr here] at told ⊢
      rw [stages_enclosed journal same]
      exact story r found once told
    | false =>
      have goes := h.told b r found once (by rw [isInFlight_entered, free, here]; rfl)
      rw [stages_entered_apart marksBefore here] at goes
      rw [stages_left_apart journal marksAfter here]
      show Story (ended.built? b) _
      rw [built b here]
      exact goes told

end Enclosing

theorem isInFlight_enter (live : Live P) (a : Address) : (live.enter a).isInFlight a = true := by
  simp [Live.isInFlight, Live.enter, Live.note]

/-- A step that leaves every service it entered, while `stack` is in flight. -/
def Orderly {α : Type} (s : Services P) (stack : List Address) (step : Run P α) : Prop :=
  ∀ live, live.inFlight = stack → s.Proceeds live (step live).2

section Making

variable {stack : List Address} {resolve : Resolver P}

theorem agree_of_orderly {α : Type} {step : Run P α} (h : s.Orderly live.inFlight step) :
    Run.Agree (s.Proceeds live) step step :=
  fun l hl => ⟨rfl, hl.trans (h l hl.inFlight)⟩

theorem orderly_run {α : Type} (h : ∀ party key, s.Orderly stack (resolve party key))
    (code : Code P α) : s.Orderly stack (code.run resolve) := by
  rintro live rfl
  have runs := Code.agree_run (Proceeds.worldly s live)
    (fun party key => agree_of_orderly (h party key)) code
  exact (runs live (.refl s live)).2

theorem orderly_invoke (h : ∀ party key, s.Orderly stack (resolve party key)) (b : Bean P)
    (id : OperationId) (args : List (Option P.Datum)) :
    s.Orderly stack (b.invoke resolve id args) := by
  rintro live rfl
  have runs := Bean.agree_invokeWithin (Proceeds.worldly s live)
    (fun party key => agree_of_orderly (h party key)) b (b.operations.size + 1) id args
  exact (runs live (.refl s live)).2

theorem orderly_instantiate (h : ∀ party key, s.Orderly stack (resolve party key)) (b : Bean P) :
    s.Orderly stack (b.instantiate resolve) := by
  rintro live rfl
  have makes := Bean.agree_instantiate (Proceeds.worldly s live)
    (fun party key => agree_of_orderly (h party key)) b
  exact (makes live (.refl s live)).2

variable {r : Registration P}

/-- A service that is not made once has no story. -/
theorem proceeds_anew (found : s.find? a = some r) (again : ¬ r.IsOnce)
    (proper : s.Proper (live.inFlight ++ [a])) (h : s.Orderly (live.inFlight ++ [a]) build) :
    s.Proceeds live ((build (live.enter a)).2.leave a (build (live.enter a)).1) := by
  have goes : s.Proceeds ((live.enter a).tell []) (build (live.enter a)).2 := by
    rw [Live.tell, List.append_nil]
    exact h (live.enter a) rfl
  apply goes.enclosed [] [] _ _ proper (List.forall_mem_nil _) (List.forall_mem_nil _) rfl
    (List.append_nil _).symm fun _ _ => rfl
  intro r' found' made
  rw [found, Option.some.injEq] at found'
  exact absurd (found' ▸ made) again

/-- The instance there is is found. -/
theorem proceeds_found {value : P.Datum} (proper : s.Proper (live.inFlight ++ [a]))
    (known : live.built? a = some value) :
    s.Proceeds live ((live.enter a).leave a (.ok value)) := by
  have goes : s.Proceeds ((live.enter a).tell []) (live.enter a) := by
    rw [Live.tell, List.append_nil]
    exact .refl s _
  apply goes.enclosed [] [] _ _ proper (List.forall_mem_nil _) (List.forall_mem_nil _) rfl
    (List.append_nil _).symm fun _ _ => rfl
  intro _ _ _ story
  rw [known] at story
  show Story (live.built? a) _
  rw [known]
  exact story.found

/-- An attempt to make the instance either makes it or leaves none. -/
theorem proceeds_attempted {home : Address} (here : (home == a) = true)
    {made : Except Error P.Datum} (proper : s.Proper (live.inFlight ++ [a]))
    (known : live.built? a = none)
    (goes : s.Proceeds ((live.enter a).note (.begun home)) later) :
    s.Proceeds live ((attempted home (made, later)).leave a made) := by
  have unbuilt : later.built? a = none :=
    (goes.untouched a (isInFlight_enter live a)).2.trans known
  have marked : ∀ event : ServiceEvent P, event.Marks a → ∀ e ∈ [event], e.Marks a :=
    fun event he => List.forall_mem_singleton.mpr he
  cases made with
  | error e =>
    apply Proceeds.enclosed [.begun home] [.failed home] (later.note (.failed home)) (.error e)
      proper goes (marked _ here) (marked _ here) rfl rfl fun _ _ => rfl
    intro _ _ _ story
    rw [known] at story
    show Story (later.built? a) _
    rw [unbuilt]
    simpa [stages, ServiceEvent.stage?, here] using story.failed e
  | ok value =>
    apply Proceeds.enclosed [.begun home] [.built home value]
      ((later.keep home value).note (.built home value)) (.ok value) proper goes (marked _ here)
      (marked _ here) rfl rfl fun b apart =>
        Live.built?_keep_apart ((BEq.congr_left here).trans apart) later value
    intro _ _ _ story
    rw [known] at story
    have kept : (later.keep home value).built? a = some value := by
      rw [← Live.built?_congr here] at unbuilt ⊢
      exact Live.built?_keep unbuilt value
    show Story ((later.keep home value).built? a) _
    rw [kept]
    simpa [stages, ServiceEvent.stage?, here] using story.built value

/-- The instance of a service that is made once is found, or there is an attempt to make it. -/
theorem proceeds_once (found : s.find? a = some r) (proper : s.Proper (live.inFlight ++ [a]))
    (h : s.Orderly (live.inFlight ++ [a]) build) :
    s.Proceeds live ((once r.address build (live.enter a)).2.leave a
      (once r.address build (live.enter a)).1) := by
  have here : (r.address == a) = true := address_of_find? found
  cases known : live.built? a with
  | some value =>
    have known' : (live.enter a).built? r.address = some value :=
      (Live.built?_congr here live).trans known
    rw [once_of_built known']
    exact proceeds_found proper known
  | none =>
    have unbuilt : (live.enter a).built? r.address = none :=
      (Live.built?_congr here live).trans known
    rw [once_of_unbuilt unbuilt]
    exact proceeds_attempted here proper known (h _ rfl)

/-- How a service that is made once is provided. -/
theorem provide_of_isOnce (s : Services P) (resolve : Resolver P) (made : r.IsOnce) :
    ∃ build, provide resolve r = once r.address build ∧ ∀ stack,
      (∀ party key, s.Orderly stack (resolve party key)) → s.Orderly stack build := by
  obtain ⟨address, provider, dependencies⟩ := r
  cases provider with
  | value value => exact made.elim
  | transient make => exact made.elim
  | singleton make => exact ⟨Code.run make resolve, rfl, fun _ h => orderly_run h make⟩
  | bean b => exact ⟨b.instantiate resolve, rfl, fun _ h => orderly_instantiate h b⟩

theorem proceeds_provide (found : s.find? a = some r) (proper : s.Proper (live.inFlight ++ [a]))
    (h : ∀ party key, s.Orderly (live.inFlight ++ [a]) (resolve party key)) :
    s.Proceeds live ((provide resolve r (live.enter a)).2.leave a
      (provide resolve r (live.enter a)).1) := by
  obtain ⟨address, provider, dependencies⟩ := r
  cases provider with
  | value value =>
    have given : s.Orderly (live.inFlight ++ [a]) (pure value : Run P P.Datum) :=
      fun l _ => .refl s l
    exact proceeds_anew found id proper given
  | transient make => exact proceeds_anew found id proper (orderly_run h make)
  | singleton make => exact proceeds_once found proper (orderly_run h make)
  | bean b => exact proceeds_once found proper (orderly_instantiate h b)

end Making

/-- A resolution leaves every service it entered, however deep it went and however it ended. -/
theorem proceeds_resolveWithin (depth : Nat) (party : Party) (key : DependencyKey)
    (proper : s.Proper live.inFlight) :
    s.Proceeds live (s.resolveWithin listing depth party key live).2 := by
  induction depth generalizing party key live with
  | zero => exact .refl s live
  | succ depth ih =>
    unfold resolveWithin
    cases found : s.find? ⟨party, key⟩ with
    | none => exact .refl s live
    | some r =>
      have known := contains_of_find? found
      dsimp only
      cases entered : live.isInFlight ⟨party, key⟩ with
      | true =>
        rw [whileInFlight_of_inFlight entered]
        exact proceeds_refuse known entered
      | false =>
        have inside := proper.snoc known entered
        rw [whileInFlight_of_free entered]
        apply proceeds_provide found inside
        rintro party key l hl
        exact ih party key (hl ▸ inside)

theorem orderly_resolve {stack : List Address} (proper : s.Proper stack) (party : Party)
    (key : DependencyKey) : s.Orderly stack (s.resolve listing party key) := by
  rintro live rfl
  exact proceeds_resolveWithin (s.length + 1) party key proper

end Services

end Injector
