import Injector.Proofs.Service.Discipline
import Injector.Proofs.Service.Trace

/-!
# Resolutions end

Services in flight are distinct and registered, so they are never more than there are services, and
how many more may be entered does not matter. What is left of a resolution is one level of it, which
resolves in the same way what its service asks for.
-/

set_option autoImplicit false

namespace Injector

variable {P : Platform}

namespace Services

variable {s : Services P} {listing : Listing} {live : Live P} {a : Address} {party : Party}
  {key : DependencyKey}

theorem once_congr {build build' : Run P P.Datum}
    (h : build (live.note (.begun a)) = build' (live.note (.begun a))) :
    once a build live = once a build' live := by
  cases known : live.built? a with
  | some value => rw [once_of_built known, once_of_built known]
  | none => rw [once_of_unbuilt known, once_of_unbuilt known, h]

/-- Only answers to what a service asks for matter when it is made. -/
theorem provide_congr {resolve resolve' : Resolver P} {stack : List Address}
    (h : ∀ party key, Run.Agree (·.inFlight = stack) (resolve party key) (resolve' party key))
    (r : Registration P) (hs : live.inFlight = stack) :
    provide resolve r live = provide resolve' r live := by
  have worldly : Live.Worldly fun l : Live P => l.inFlight = stack := fun _ _ hl => hl
  have noted : ∀ event, (live.note event).inFlight = stack := fun _ => hs
  obtain ⟨address, provider, dependencies⟩ := r
  cases provider with
  | value value => rfl
  | transient make => exact (Code.agree_run worldly h make live hs).1
  | singleton make => exact once_congr (Code.agree_run worldly h make _ (noted _)).1
  | bean b => exact once_congr (Bean.agree_instantiate worldly h b _ (noted _)).1

def visit (s : Services P) (listing : Listing) (resolve : Resolver P) : Resolver P :=
  fun party key =>
  match s.find? ⟨party, key⟩ with
  | none => throw ((s.directory listing []).notRegistered party key)
  | some r => whileInFlight ⟨party, key⟩ (provide resolve r)

theorem resolveWithin_succ (s : Services P) (listing : Listing) (depth : Nat) :
    s.resolveWithin listing (depth + 1) = s.visit listing (s.resolveWithin listing depth) := rfl

/-- What is asked for while the service is in flight too is all that matters. -/
theorem visit_congr {resolve resolve' : Resolver P} (proper : s.Proper live.inFlight)
    (h : ∀ a, s.Proper (live.inFlight ++ [a]) → ∀ party key,
      Run.Agree (·.inFlight = live.inFlight ++ [a]) (resolve party key) (resolve' party key)) :
    s.visit listing resolve party key live = s.visit listing resolve' party key live := by
  unfold visit
  cases found : s.find? ⟨party, key⟩ with
  | none => rfl
  | some r =>
    dsimp only
    cases entered : live.isInFlight ⟨party, key⟩ with
    | true => rw [whileInFlight_of_inFlight entered, whileInFlight_of_inFlight entered]
    | false =>
      have inside := proper.snoc (contains_of_find? found) entered
      rw [whileInFlight_of_free entered, whileInFlight_of_free entered,
        provide_congr (h _ inside) r rfl]

/-- A level does not tell resolvers apart that resolve alike one level further in. -/
theorem visit_resolveWithin_congr {depth : Nat} {resolve : Resolver P}
    (proper : s.Proper live.inFlight)
    (h : ∀ l party key, s.Proper l.inFlight → l.inFlight.length = live.inFlight.length + 1 →
      s.resolveWithin listing depth party key l = resolve party key l) :
    s.visit listing (s.resolveWithin listing depth) party key live =
      s.visit listing resolve party key live := by
  apply visit_congr proper
  intro a inside party key l hl
  have longer : l.inFlight.length = live.inFlight.length + 1 := by
    rw [hl, List.length_append, List.length_singleton]
  rw [← hl] at inside
  exact ⟨h l party key inside longer,
    (proceeds_resolveWithin depth party key inside).inFlight.trans hl⟩

/-- Any two depths that cover the services not in flight resolve alike. -/
theorem resolveWithin_congr {depth depth' : Nat} (proper : s.Proper live.inFlight)
    (enough : s.length < depth + live.inFlight.length)
    (enough' : s.length < depth' + live.inFlight.length) :
    s.resolveWithin listing depth party key live =
      s.resolveWithin listing depth' party key live := by
  induction depth generalizing depth' party key live with
  | zero =>
    have bounded := proper.length_le
    omega
  | succ depth ih =>
    cases depth' with
    | zero =>
      have bounded := proper.length_le
      omega
    | succ depth' =>
      rw [resolveWithin_succ, resolveWithin_succ]
      apply visit_resolveWithin_congr proper
      intro l party key inside longer
      exact ih inside (by omega) (by omega)

/-- The depth of the outermost resolution is as good as any other that is enough. -/
theorem resolveWithin_eq_resolve {depth : Nat} (proper : s.Proper live.inFlight)
    (enough : s.length < depth + live.inFlight.length) :
    s.resolveWithin listing depth party key live = s.resolve listing party key live :=
  resolveWithin_congr proper enough (by omega)

theorem resolve_eq_visit (proper : s.Proper live.inFlight) (party : Party) (key : DependencyKey) :
    s.resolve listing party key live = s.visit listing (s.resolve listing) party key live := by
  unfold resolve
  rw [resolveWithin_succ]
  apply visit_resolveWithin_congr proper
  intro l party key inside longer
  exact resolveWithin_eq_resolve inside (by omega)

/-- A service that is in flight is refused, and no other is. -/
theorem refuses_iff (proper : s.Proper live.inFlight) {chain : List DependencyKey} :
    s.Refuses live.inFlight ⟨party, key⟩ chain ↔ s.resolve listing party key live =
      (.error (.circularDependency chain), live.note (.refused ⟨party, key⟩ chain)) := by
  rw [resolve_eq_visit proper, visit]
  constructor
  · intro refuses
    obtain ⟨r, found⟩ := Option.isSome_iff_exists.mp refuses.registered
    rw [found]
    dsimp only
    rw [whileInFlight_of_inFlight refuses.isInFlight, Live.refuse, refuses.chain_unique]
  · intro ran
    cases found : s.find? ⟨party, key⟩ with
    | none =>
      rw [found] at ran
      cases ran
    | some r =>
      rw [found] at ran
      dsimp only at ran
      cases entered : live.isInFlight ⟨party, key⟩ with
      | true =>
        rw [whileInFlight_of_inFlight entered] at ran
        obtain ⟨refused, -⟩ := Prod.mk.inj ran
        cases refused
        exact refuses_cycle (contains_of_find? found) entered
      | false =>
        -- a service that was entered is left last, which is not what a refusal tells
        rw [whileInFlight_of_free entered] at ran
        have told := congrArg Live.journal (Prod.mk.inj ran).2
        have last := congrArg List.getLast? told
        simp [Live.leave, Live.note] at last

structure Resolves (s : Services P) (listing : Listing) (live : Live P) (party : Party)
    (key : DependencyKey) : Prop where
  restored : (s.resolve listing party key live).2.inFlight = live.inFlight
  told : ∃ since, (s.resolve listing party key live).2.journal = live.journal ++ since ∧
    s.Disciplined live.inFlight since
  /-- However many more services might be entered, the resolution comes to the same end. -/
  ended : ∀ depth, s.length < depth + live.inFlight.length →
    s.resolveWithin listing depth party key live = s.resolve listing party key live
  /-- What the service asks for is resolved in the same way. -/
  unfolds : s.resolve listing party key live = s.visit listing (s.resolve listing) party key live
  refused : ∀ chain, s.Refuses live.inFlight ⟨party, key⟩ chain ↔
    s.resolve listing party key live =
      (.error (.circularDependency chain), live.note (.refused ⟨party, key⟩ chain))

theorem resolves_of_proper (proper : s.Proper live.inFlight) (party : Party)
    (key : DependencyKey) : s.Resolves listing live party key where
  restored := (proceeds_resolveWithin _ party key proper).inFlight
  told := by
    obtain ⟨since, told, nested⟩ := (proceeds_resolveWithin (s.length + 1) party key proper).journal
    exact ⟨since, told, nested.disciplined proper⟩
  ended := fun _ enough => resolveWithin_eq_resolve proper enough
  unfolds := resolve_eq_visit proper party key
  refused := fun _ => refuses_iff proper

end Services

end Injector
