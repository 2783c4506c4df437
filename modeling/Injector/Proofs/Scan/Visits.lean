import Injector.Proofs.Scan.Coverage
import Injector.Proofs.Scan.Dispatch

/-!
# The members that a scan matches

Once the instance can be made, all fields are matched and then all methods, each of them once;
nothing else in a scan shows a member to an extension, and a match that fails is the last one.
-/

set_option autoImplicit false

namespace Injector

variable {P : Platform}

def ClassDescriptor.members (c : ClassDescriptor P) : List (Member P) :=
  c.fieldWalk.map .field ++ c.methodWalk.map .method

namespace Scan

def opening (host : Host P) (bean : Bean P) : ScanM P (ScanFrame P) :=
  if bean.scanned then throw (.alreadyScanned bean.type)
  else
    (withCatalog fun w => Catalog.modelFor w bean.descriptor) >>= fun model =>
      let f : ScanFrame P := ⟨host, model, bean.type, bean.installer⟩
      checkClassMarkers f bean.descriptor >>= fun _ =>
        (if bean.source.isConstruction then scanConstructor f bean.descriptor
          else pure ⟨⟩) >>= fun _ => pure f

theorem scanMembers_eq (f : ScanFrame P) (c : ClassDescriptor P) :
    scanMembers f c = c.members.forM (visit f) >>= fun _ => drain f := by
  have split : c.members.forM (visit f) =
      c.fieldWalk.forM (matchField f) >>= fun _ => c.methodWalk.forM (matchMethod f) := by
    show forM (c.fieldWalk.map .field ++ c.methodWalk.map .method) (visit f) = _
    rw [List.forM_append, List.forM_map, List.forM_map]
    rfl
  rw [split, bind_assoc]
  rfl

theorem scanBean_opening (host : Host P) :
    scanBean host = get >>= fun s => opening host s.bean >>= fun f =>
      s.bean.descriptor.members.forM (visit f) >>= fun _ => drain f >>= fun _ => closing := by
  unfold scanBean opening
  refine bind_congr fun s => ?_
  dsimp only
  by_cases scanned : s.bean.scanned = true
  · rw [if_pos scanned, if_pos scanned]
    rfl
  · rw [if_neg scanned, if_neg scanned, bind_assoc]
    refine bind_congr fun model => ?_
    rw [scanWith_closing, scanOperations]
    simp only [bind_assoc, pure_bind, scanMembers_eq]

def visitsOf (f : ScanFrame P) : List (Member P) → Scan P → List (Visit P)
  | [], _ => []
  | m :: rest, s => ⟨f, m, s⟩ :: match (visit f m s : Except Error Unit × Scan P) with
    | (.ok _, s') => visitsOf f rest s'
    | (.error _, _) => []

def visits (host : Host P) (s : Scan P) : List (Visit P) :=
  match (opening host s.bean s : Except Error (ScanFrame P) × Scan P) with
  | (.ok f, s') => visitsOf f s.bean.descriptor.members s'
  | (.error _, _) => []

section Walk

variable {host : Host P} {f : ScanFrame P} {s s' : Scan P} {done : List (Visit P)} {e : Error}

theorem visitsOf_of_ok {m : Member P} {rest : List (Member P)} {result : Unit}
    (ran : visit f m s = (.ok result, s')) :
    visitsOf f (m :: rest) s = ⟨f, m, s⟩ :: visitsOf f rest s' := by
  rw [visitsOf, ran]

theorem visitsOf_of_error {m : Member P} {rest : List (Member P)}
    (ran : visit f m s = (.error e, s')) : visitsOf f (m :: rest) s = [⟨f, m, s⟩] := by
  rw [visitsOf, ran]

theorem frame_visitsOf (f : ScanFrame P) (members : List (Member P)) (s : Scan P) :
    ∀ v ∈ visitsOf f members s, v.frame = f := by
  induction members generalizing s with
  | nil => exact List.forall_mem_nil _
  | cons m rest ih =>
    rcases ran : (visit f m s : Except Error Unit × Scan P) with ⟨e | _, s'⟩
    · rw [visitsOf_of_error ran]
      exact List.forall_mem_singleton.mpr rfl
    · rw [visitsOf_of_ok ran]
      exact List.forall_mem_cons.mpr ⟨rfl, ih s'⟩

def FailsAt (done : List (Visit P)) (e : Error) : Prop :=
  ∃ earlier last, done = earlier ++ [last] ∧ (∀ v ∈ earlier, v.result = .ok ⟨⟩) ∧
    last.result = .error e

theorem FailsAt.last {e' : Error} {v : Visit P} (h : FailsAt done e) (hv : v ∈ done)
    (failed : v.result = .error e') : e = e' ∧ done.getLast? = some v := by
  obtain ⟨earlier, last, rfl, fine, stopped⟩ := h
  rcases List.mem_append.mp hv with before | at_
  · cases (fine v before).symm.trans failed
  · obtain rfl := List.mem_singleton.mp at_
    exact ⟨Except.error.inj (stopped.symm.trans failed), List.getLast?_concat ..⟩

/-- Members are visited in turn, and nothing is shown in between. -/
theorem ends_visits (f : ScanFrame P) (members : List (Member P)) (s : Scan P) :
    Ends (members.forM (visit f)) s
      (fun _ s' => Showing ((visitsOf f members s).flatMap Visit.shown) s s' ∧
        (visitsOf f members s).map Visit.member = members ∧
          ∀ v ∈ visitsOf f members s, v.result = .ok ⟨⟩)
      fun e s' => Showing ((visitsOf f members s).flatMap Visit.shown) s s' ∧
        (visitsOf f members s).map Visit.member <+: members ∧
          FailsAt (visitsOf f members s) e := by
  induction members generalizing s with
  | nil => exact ⟨showing_nil rfl, rfl, List.forall_mem_nil _⟩
  | cons m rest ih =>
    let v : Visit P := ⟨f, m, s⟩
    show Ends (visit f m >>= fun _ => rest.forM (visit f)) s _ _
    rw [ends_bind]
    rcases ran : (visit f m s : Except Error Unit × Scan P) with ⟨e | _, s₁⟩
    · have run : v.run = (.error e, s₁) := ran
      have after : v.after = s₁ := congrArg Prod.snd run
      rw [ends_of_error ran, visitsOf_of_error ran, List.flatMap_singleton]
      exact ⟨after ▸ v.showing, by simp, [], v, rfl, List.forall_mem_nil _, congrArg Prod.fst run⟩
    · have run : v.run = (.ok ⟨⟩, s₁) := ran
      have after : v.after = s₁ := congrArg Prod.snd run
      have first : Showing v.shown s s₁ := after ▸ v.showing
      rw [ends_of_ok ran, visitsOf_of_ok ran, List.flatMap_cons, List.map_cons]
      apply (ih s₁).mono
      · rintro _ s' ⟨later, members, fine⟩
        exact ⟨first.append later, congrArg (m :: ·) members,
          List.forall_mem_cons.mpr ⟨congrArg Prod.fst run, fine⟩⟩
      · rintro e s' ⟨later, members, earlier, last, split, fine, failed⟩
        exact ⟨first.append later, List.prefix_cons_inj m |>.mpr members, v :: earlier, last,
          by rw [split]; rfl, List.forall_mem_cons.mpr ⟨congrArg Prod.fst run, fine⟩, failed⟩

theorem asks_not_isMember {event : ScanEvent P}
    (h : event.isStart = true ∨ event.slot?.isSome = true) : event.isMember = false := by
  obtain ⟨noField, noMethod⟩ := ScanEvent.asks_of_only h
  rw [ScanEvent.isMember, noField, noMethod]
  rfl

theorem omits_drain (f : ScanFrame P) : Omits ScanEvent.isMember (drain f) :=
  (omits_draining _).drain (omits_resolveOperation fun _ => asks_not_isMember)

theorem omits_opening (host : Host P) (bean : Bean P) :
    Omits ScanEvent.isMember (opening host bean) := by
  have compositional := omits_compositional (P := P) ScanEvent.isMember
  unfold opening
  split
  · exact (hush_throw _).omits
  · apply (hush_withCatalog _).omits.bind
    intro model
    apply (compositional.checkClassMarkers _ _).bind
    intro _
    refine Omits.bind ?_ fun _ => compositional.pure _
    split
    · unfold scanConstructor
      exact (hush_except _).omits.bind fun _ => compositional.nextId.bind fun _ =>
        (compositional.discard (omits_append _)).bind fun _ => omits_drain _
    · exact compositional.pure _

theorem omits_closing : Omits ScanEvent.isMember (closing (P := P)) :=
  hush_get.omits.bind fun s =>
    (omits_finish (fun _ => rfl) s.contributors).bind fun _ => fun _ => rfl

/-- The frame of the scan has the model of the class. -/
theorem ends_opening (host : Host P) (s : Scan P) :
    Ends (opening host s.bean) s
      (fun f s' => Rounds.frame? host s = .ok f ∧ Showing [] s s') fun _ s' => Showing [] s s' := by
  have frame : Ends (opening host s.bean) s (fun f _ => Rounds.frame? host s = .ok f)
      fun _ _ => True := by
    unfold opening
    split
    · trivial
    · have looks : Ends (Rounds.looks s) s (fun model _ => Rounds.frame? host s =
          .ok ⟨host, model, s.bean.type, s.bean.installer⟩) fun _ _ => True :=
        (Ends.as_run _ _).mono (fun _ _ ran => Rounds.frame?_of_looks host ran) fun _ _ _ => trivial
      apply Ends.bind looks
      intro model s₁ known
      apply (Ends.any _ _).bind
      intro _ s₂ _
      apply (Ends.any _ _).bind
      exact fun _ _ _ => known
  exact (frame.and (omits_opening host s.bean s)).mono
    (fun _ _ h => ⟨h.1, showing_nil h.2⟩) fun _ _ h => showing_nil h.2

/-- What a scan shows is what it shows while it matches members. -/
theorem ends_scanBean_visits (host : Host P) (s : Scan P) :
    Ends (scanBean host) s
      (fun _ s' => Showing ((visits host s).flatMap Visit.shown) s s' ∧
        (visits host s).map Visit.member = s.bean.descriptor.members ∧
          ∀ v ∈ visits host s, v.result = .ok ⟨⟩)
      fun e s' => Showing ((visits host s).flatMap Visit.shown) s s' ∧
        (visits host s).map Visit.member <+: s.bean.descriptor.members ∧
          ((∀ v ∈ visits host s, v.result = .ok ⟨⟩) ∨ FailsAt (visits host s) e) := by
  rw [scanBean_opening, ends_bind, ends_get, ends_bind]
  rcases (ends_opening host s).traced.cases with
    ⟨f, s₁, ran, ⟨-, start⟩, -⟩ | ⟨e, s₁, ran, start, -⟩
  · have taken : visits host s = visitsOf f s.bean.descriptor.members s₁ := by rw [visits, ran]
    have rest : Omits ScanEvent.isMember (drain f >>= fun _ => closing) :=
      (omits_drain f).bind fun _ => omits_closing
    rw [ends_of_ok ran, taken, ends_bind]
    apply (ends_visits f s.bean.descriptor.members s₁).mono
    · rintro _ s₂ ⟨shown, members, fine⟩
      apply (rest s₂).mono
      · exact fun _ s' same => ⟨start.append (shown.then same), members, fine⟩
      · exact fun _ s' same =>
          ⟨start.append (shown.then same), ⟨[], (List.append_nil _).trans members⟩, .inl fine⟩
    · exact fun e s' ⟨shown, members, failed⟩ => ⟨start.append shown, members, .inr failed⟩
  · have none : visits host s = [] := by rw [visits, ran]
    rw [ends_of_error ran, none]
    exact ⟨start, List.nil_prefix, .inl (List.forall_mem_nil _)⟩

theorem frame_visits (host : Host P) (s : Scan P) :
    ∀ v ∈ visits host s, Rounds.frame? host s = .ok v.frame := by
  rcases (ends_opening host s).traced.cases with
    ⟨f, s₁, ran, ⟨known, -⟩, -⟩ | ⟨e, s₁, ran, -, -⟩
  · rw [visits, ran]
    intro v at_
    rw [frame_visitsOf f _ s₁ v at_]
    exact known
  · rw [visits, ran]
    exact List.forall_mem_nil _

end Walk

end Scan

namespace Attempt

def visits (a : Attempt P) (b : Bean P) : List (Scan.Visit P) :=
  Scan.visits a.deployment.container.host (a.deployment.beginScan b a.preset)

structure Groups (a : Attempt P) (b : Bean P) : Prop where
  /-- Markers are looked up with the model of the class. -/
  frame : ∀ v ∈ a.visits b, Scan.Rounds.frame? a.deployment.container.host
    (a.deployment.beginScan b a.preset) = .ok v.frame
  partitioned : ∀ v ∈ a.visits b, ∀ found looked,
    Scan.hitsOf v.frame v.member.markers v.before = (.ok found, looked) →
      v.member.Unclaimed found → v.Partitioned found looked
  shown : (a.run b).2.calls.toList.filter (·.event.isMember) = (a.visits b).flatMap Scan.Visit.shown
  failed : ∀ v ∈ a.visits b, ∀ e, v.result = .error e →
    (a.run b).1 = .error e ∧ (a.visits b).getLast? = some v
  within : (a.visits b).map Scan.Visit.member <+: b.descriptor.members
  all : (a.run b).1 = .ok ⟨⟩ → (a.visits b).map Scan.Visit.member = b.descriptor.members

/-- Matches are partitioned by extension, in every scan and whatever handlers do. -/
theorem groups_run (a : Attempt P) (b : Bean P) : a.Groups b := by
  have frame := Scan.frame_visits a.deployment.container.host (a.deployment.beginScan b a.preset)
  have partitioned : ∀ v ∈ a.visits b, ∀ found looked,
      Scan.hitsOf v.frame v.member.markers v.before = (.ok found, looked) →
        v.member.Unclaimed found → v.Partitioned found looked :=
    fun v _ found looked => Scan.Visit.partitioned
  have shown : ∀ {s' calls}, Scan.Showing calls (a.deployment.beginScan b a.preset) s' →
      s'.calls.toList.filter (·.event.isMember) = calls := id
  have ends := Scan.ends_scanBean_visits a.deployment.container.host
    (a.deployment.beginScan b a.preset)
  rcases ran : a.run b with ⟨e | _, s'⟩
  · obtain ⟨showing, within, stop⟩ := ends.of_error ran
    refine ⟨frame, partitioned, by rw [ran]; exact shown showing, fun v at_ e' error => ?_, within,
      fun ok => by rw [ran] at ok; cases ok⟩
    rcases stop with fine | failed
    · cases (fine v at_).symm.trans error
    · obtain ⟨rfl, last⟩ := failed.last at_ error
      exact ⟨congrArg Prod.fst ran, last⟩
  · obtain ⟨showing, all, fine⟩ := ends.of_ok ran
    refine ⟨frame, partitioned, by rw [ran]; exact shown showing, fun v at_ e' error => ?_,
      ⟨[], (List.append_nil _).trans all⟩, fun _ => all⟩
    cases (fine v at_).symm.trans error

end Attempt

end Injector
