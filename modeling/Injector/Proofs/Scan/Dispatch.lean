import Mathlib.Data.List.Forall2
import Injector.Proofs.Scan.Grouping
import Injector.Proofs.Scan.Kinds
import Injector.Proofs.Scan.Priority
import Injector.Proofs.Scan.Sequence

/-!
# What a match on a member comes to

Its markers are looked up and grouped, and each group is shown to its extension before the next one
is; where an extension cannot be activated or its callback fails, no other is shown anything.
-/

set_option autoImplicit false

namespace Injector

variable {P : Platform}

inductive Member (P : Platform) where
  | field (declared : DeclaredField P)
  | method (declared : DeclaredMethod P)

namespace Member

def markers : Member P → List (Marker P)
  | field declared => declared.field.markers
  | method declared => declared.method.markers

def hits (m : Member P) (found : List (Hit P)) : List (Hit P) :=
  found.filter fun hit => match m with
    | field _ => hit.hook.capabilities.isFieldHook
    | method _ => hit.hook.capabilities.isMethodHook

/-- Binding hooks have a field for themselves; on a method they mean nothing. -/
def Unclaimed (m : Member P) (found : List (Hit P)) : Prop :=
  match m with
  | field _ => Hit.bindings found = []
  | method _ => True

def shown (m : Member P) (g : HookGroup P) (c : Contributor P) : ScanEvent P :=
  match m with
  | field declared =>
    .fieldMatched
      ⟨declared.owner, declared.field, g.markers, g.caps, c.contextFor g.extension⟩
  | method declared =>
    .methodMatched ⟨declared.owner, declared.method, g.markers, c.contextFor g.extension⟩

structure ShownTo (m : Member P) (g : HookGroup P) (call : Call P) : Prop where
  extension : (call.contributor.key == g.extension) = true
  event : call.event = m.shown g call.contributor

theorem isMember_shown (m : Member P) (g : HookGroup P) (c : Contributor P) :
    (m.shown g c).isMember = true := by
  cases m <;> rfl

end Member

namespace Scan

def visit (f : ScanFrame P) : Member P → ScanM P Unit
  | .field declared => matchField f declared
  | .method declared => matchMethod f declared

def present (f : ScanFrame P) : Member P → HookGroup P → ScanM P Unit
  | .field declared, g => showField f declared g
  | .method declared, g => showMethod f declared g

section Lookup

variable {f : ScanFrame P} {s s₁ : Scan P} {markers : List (Marker P)} {found : List (Hit P)}

theorem ends_hookOf_maps (f : ScanFrame P) (marker : Marker P) (s : Scan P) :
    Ends (hookOf f marker) s (fun hook s' => ∃ descriptor,
      s'.catalog.Maps f.model marker.toMarkerType descriptor ∧ hook = descriptor.map (·.value))
      fun _ _ => True := by
  unfold hookOf
  rw [ends_bind, ends_withCatalog]
  apply (Catalog.ends_lookup_maps s.world f.model marker.toMarkerType s.catalog).imp
  exact fun descriptor _ maps => ⟨descriptor, maps, rfl⟩

/-- The hits are the markers that the model maps to hooks, in order. -/
theorem found_of_hitsOf (looked : hitsOf f markers s = (.ok found, s₁)) :
    Found s₁.catalog f.model markers found := by
  induction markers generalizing s found with
  | nil =>
    cases looked
    exact .nil
  | cons marker rest ih =>
    obtain ⟨hook, s', later, first, others, rfl⟩ := ok_of_hitsOf_cons looked
    obtain ⟨descriptor, maps, rfl⟩ := (ends_hookOf_maps f marker s).of_ok first
    have grows := (learns_compositional.hitsOf f rest s').of_ok others
    cases descriptor with
    | none => exact .skip (maps.mono grows) (ih others)
    | some hook => exact .hit (maps.mono grows) (ih others)

theorem visit_eq (m : Member P) (looked : hitsOf f m.markers s = (.ok found, s₁))
    (unclaimed : m.Unclaimed found) :
    visit f m s = (HookGroup.ofHits (m.hits found)).forM (present f m) s₁ := by
  cases m with
  | field declared =>
    show matchField f declared s = _
    unfold matchField
    have looked : hitsOf f declared.field.markers s = (.ok found, s₁) := looked
    rw [bind_apply, looked]
    dsimp only
    rcases FieldClaim.ofHits_of_unbound unclaimed with ⟨claim, none⟩ | claim
    · rw [claim, Member.hits, none]
      rfl
    · rw [claim]
      rfl
  | method declared =>
    show matchMethod f declared s = _
    unfold matchMethod
    have looked : hitsOf f declared.method.markers s = (.ok found, s₁) := looked
    rw [bind_apply, looked]
    rfl

end Lookup

section Presentation

variable {f : ScanFrame P} {m : Member P} {g : HookGroup P} {groups : List (HookGroup P)}
  {s s' : Scan P}

def Showing (calls : List (Call P)) (s s' : Scan P) : Prop :=
  s'.callsLike ScanEvent.isMember = s.callsLike ScanEvent.isMember ++ calls

theorem showing_nil (h : s'.callsLike ScanEvent.isMember = s.callsLike ScanEvent.isMember) :
    Showing [] s s' := by
  rw [Showing, h, List.append_nil]

theorem Showing.append {calls later : List (Call P)} {s'' : Scan P} (h : Showing calls s s')
    (k : Showing later s' s'') : Showing (calls ++ later) s s'' := by
  rw [Showing, k, h, List.append_assoc]

/-- Nothing is shown after that. -/
theorem Showing.then {calls : List (Call P)} {s'' : Scan P} (h : Showing calls s s')
    (same : s''.callsLike ScanEvent.isMember = s'.callsLike ScanEvent.isMember) :
    Showing calls s s'' := by
  rw [Showing, same, h]

theorem omits_activate (f : ScanFrame P) (key : ExtensionKey) :
    Omits ScanEvent.isMember (activate f key) := by
  have starts : ∀ s, Attends f (fun _ => True) s (activate f key) (fun _ calls _ => Starts calls)
      Starts := fun s => (attends_activate trivial).mono (fun _ _ _ h => h.1) fun _ h => h
  apply omits_of_attends f starts
  intro calls starts call at_
  have start := starts call at_
  cases event : call.event <;>
    simp [event, ScanEvent.isStart, ScanEvent.isMember, ScanEvent.field?, ScanEvent.isMethod]
      at start ⊢

theorem showing_of_addressed {c : Contributor P} {event : ScanEvent P} {reply : Except Error Unit}
    (h : Addressed c event s s' reply) (member : event.isMember = true) :
    ∃ call, Showing [call] s s' ∧ call.contributor = c ∧ call.event = event := by
  obtain ⟨call, calls, same, shown⟩ := h.asked
  refine ⟨call, ?_, same, shown⟩
  simp [Showing, callsLike, calls, shown, member]

/-- The extension is activated if need be, and then its handler is called once. -/
theorem ends_present (f : ScanFrame P) (m : Member P) (g : HookGroup P) (s : Scan P) :
    Ends (present f m g) s (fun _ s' => ∃ call, Showing [call] s s' ∧ m.ShownTo g call)
      fun e s' => activate f g.extension s = (.error e, s') ∧ Showing [] s s' ∨
        (∃ call, Showing [call] s s' ∧ m.ShownTo g call) ∧
          s'.transcript.back? = some (.replied (.error e)) := by
  obtain ⟨talk, talks, split⟩ : ∃ talk : Contributor P → ScanM P Unit,
      (∀ c s, Ends (talk c) s (fun _ s' => Addressed c (m.shown g c) s s' (.ok ⟨⟩))
        fun e s' => Addressed c (m.shown g c) s s' (.error e)) ∧
      present f m g = activate f g.extension >>= fun c => record (m.shown g c) >>= fun _ =>
        talk c := by
    cases m with
    | field declared =>
      refine ⟨_, fun c s => ?_, rfl⟩
      exact ends_addressed fun call =>
        local_answerField (upheld_true f) _ call fun _ _ _ _ _ => trivial
    | method declared =>
      refine ⟨_, fun c s => ?_, rfl⟩
      exact ends_addressed fun call =>
        local_answerMethod (upheld_true f) _ call fun _ _ _ _ => trivial
  have attends : Attends f (fun _ => True) s (activate f g.extension)
      (fun c calls s' => Starts calls ∧ s'.contributor? g.extension = some c) Starts :=
    attends_activate trivial
  rw [split, ends_bind]
  rcases (Ends.traced ((omits_activate f g.extension s).and attends)).cases with
    ⟨c, s₁, ran, ⟨same, calls, -, -, -, takesPart⟩, -⟩ | ⟨e, s₁, ran, ⟨same, -⟩, -⟩
  · have shows : ∀ {s' reply}, Addressed c (m.shown g c)
        { s₁ with transcript := s₁.transcript.push (m.shown g c) } s' reply →
          ∃ call, Showing [call] s s' ∧ m.ShownTo g call := by
      intro s' reply addressed
      obtain ⟨call, showing, rfl, event⟩ := showing_of_addressed addressed (m.isMember_shown g c)
      exact ⟨call, (showing_nil same).append showing, key_of_contributor? takesPart, event⟩
    rw [ends_of_ok ran, ends_bind, ends_record]
    apply (talks c _).mono
    · exact fun _ _ addressed => shows addressed
    · exact fun e _ addressed => .inr ⟨shows addressed, addressed.replied⟩
  · rw [ends_of_error ran]
    exact .inl ⟨ran, showing_nil same⟩

/-- All groups before one were shown, and then its extension could not be activated, or its callback
failed. -/
structure Interrupted (f : ScanFrame P) (m : Member P) (groups : List (HookGroup P)) (s : Scan P)
    (e : Error) (s' : Scan P) (calls : List (Call P)) : Prop where
  stopped : ∃ earlier g later mid, groups = earlier ++ g :: later ∧
    earlier.forM (present f m) s = (.ok ⟨⟩, mid) ∧
      (activate f g.extension mid = (.error e, s') ∧ List.Forall₂ m.ShownTo earlier calls ∨
        List.Forall₂ m.ShownTo (earlier ++ [g]) calls ∧
          s'.transcript.back? = some (.replied (.error e)))

theorem forM_cons_apply {s₁ : Scan P} {rest : List (HookGroup P)}
    (first : present f m g s = (.ok ⟨⟩, s₁)) :
    (g :: rest).forM (present f m) s = rest.forM (present f m) s₁ := by
  show (present f m g >>= fun _ => rest.forM (present f m)) s = _
  rw [bind_apply, first]

theorem Interrupted.cons {calls : List (Call P)} {call : Call P} {e : Error} {s₁ : Scan P}
    (first : present f m g s = (.ok ⟨⟩, s₁)) (shown : m.ShownTo g call)
    (h : Interrupted f m groups s₁ e s' calls) :
    Interrupted f m (g :: groups) s e s' (call :: calls) := by
  obtain ⟨earlier, stop, later, mid, rfl, ran, failed⟩ := h.stopped
  refine ⟨g :: earlier, stop, later, mid, rfl, (forM_cons_apply first).trans ran, ?_⟩
  exact failed.imp (fun h => ⟨h.1, .cons shown h.2⟩) fun h => ⟨.cons shown h.1, h.2⟩

/-- The groups are shown one after the other, until one fails. -/
theorem ends_presents (f : ScanFrame P) (m : Member P) (groups : List (HookGroup P)) (s : Scan P) :
    Ends (groups.forM (present f m)) s
      (fun _ s' => ∃ calls, Showing calls s s' ∧ List.Forall₂ m.ShownTo groups calls)
      fun e s' => ∃ calls, Showing calls s s' ∧ Interrupted f m groups s e s' calls := by
  induction groups generalizing s with
  | nil => exact ⟨[], showing_nil rfl, .nil⟩
  | cons g rest ih =>
    show Ends (present f m g >>= fun _ => rest.forM (present f m)) s _ _
    rw [ends_bind]
    rcases (ends_present f m g s).traced.cases with
      ⟨_, s₁, ran, ⟨call, showing, shown⟩, -⟩ | ⟨e, s₁, ran, failed, -⟩
    · rw [ends_of_ok ran]
      apply (ih s₁).mono
      · rintro _ s' ⟨calls, later, all⟩
        exact ⟨call :: calls, showing.append later, .cons shown all⟩
      · rintro e s' ⟨calls, later, interrupted⟩
        exact ⟨call :: calls, showing.append later, interrupted.cons ran shown⟩
    · rw [ends_of_error ran]
      rcases failed with ⟨stopped, showing⟩ | ⟨⟨call, showing, shown⟩, replied⟩
      · exact ⟨[], showing, [], g, rest, s, rfl, rfl, .inl ⟨stopped, .nil⟩⟩
      · exact ⟨[call], showing, [], g, rest, s, rfl, rfl, .inr ⟨.cons shown .nil, replied⟩⟩

end Presentation

structure Visit (P : Platform) where
  frame : ScanFrame P
  member : Member P
  before : Scan P

namespace Visit

variable (v : Visit P)

def run : Except Error Unit × Scan P := visit v.frame v.member v.before

def result : Except Error Unit := v.run.1

def after : Scan P := v.run.2

def shown : List (Call P) :=
  (v.after.calls.toList.drop v.before.calls.size).filter (·.event.isMember)

structure Partitioned (v : Visit P) (found : List (Hit P)) (looked : Scan P) : Prop where
  /-- These are the markers that the model of the class maps to hooks. -/
  hooks : Found looked.catalog v.frame.model v.member.markers found
  partition : HookGroup.Partition (v.member.hits found) (HookGroup.ofHits (v.member.hits found))
  /-- A single marker is no exception. -/
  grouped : v.run = (HookGroup.ofHits (v.member.hits found)).forM (present v.frame v.member) looked
  all : v.result = .ok ⟨⟩ →
    List.Forall₂ v.member.ShownTo (HookGroup.ofHits (v.member.hits found)) v.shown
  failed : ∀ e, v.result = .error e → Interrupted v.frame v.member
    (HookGroup.ofHits (v.member.hits found)) looked e v.after v.shown

variable {v : Visit P} {found : List (Hit P)} {looked : Scan P}

theorem exists_calls (v : Visit P) :
    ∃ since, v.after.calls.toList = v.before.calls.toList ++ since := by
  have spans : ∀ {since s'}, Spans (fun _ => True) v.before since s' →
      ∃ since, s'.calls.toList = v.before.calls.toList ++ since := fun h => ⟨_, h.calls⟩
  apply Ends.state fun s' : Scan P => ∃ since, s'.calls.toList = v.before.calls.toList ++ since
  show Ends (visit v.frame v.member) v.before _ _
  cases v.member with
  | field declared =>
    exact Ends.mono (attends_matchField (upheld_true v.frame) trivial declared)
      (fun _ _ h => h.elim fun _ h => spans h.1) fun _ _ h => h.elim fun _ h => spans h.1
  | method declared =>
    exact Ends.mono
      (attends_matchMethod (upheld_true v.frame) (fun _ _ _ _ _ _ => trivial) trivial declared)
      (fun _ _ h => h.elim fun _ h => spans h.1) fun _ _ h => h.elim fun _ h => spans h.1

theorem showing (v : Visit P) : Showing v.shown v.before v.after := by
  obtain ⟨since, calls⟩ := v.exists_calls
  simp [Showing, callsLike, shown, calls]

theorem shown_of_showing {calls : List (Call P)} (h : Showing calls v.before v.after) :
    v.shown = calls := List.append_cancel_left (v.showing.symm.trans h)

theorem partitioned (h : hitsOf v.frame v.member.markers v.before = (.ok found, looked))
    (unclaimed : v.member.Unclaimed found) : v.Partitioned found looked := by
  have grouped : v.run =
      (HookGroup.ofHits (v.member.hits found)).forM (present v.frame v.member) looked :=
    visit_eq v.member h unclaimed
  have unshown : looked.callsLike ScanEvent.isMember = v.before.callsLike ScanEvent.isMember :=
    ((omits_compositional ScanEvent.isMember).hitsOf v.frame v.member.markers v.before).of_ok h
  have ends := ends_presents v.frame v.member (HookGroup.ofHits (v.member.hits found)) looked
  refine ⟨found_of_hitsOf h, HookGroup.partition_ofHits _, grouped, fun ok => ?_,
    fun e failed => ?_⟩
  · obtain ⟨calls, showing, all⟩ := ends.of_ok (grouped.symm.trans (Prod.ext ok rfl))
    rwa [shown_of_showing ((showing_nil unshown).append showing)]
  · obtain ⟨calls, showing, interrupted⟩ :=
      ends.of_error (grouped.symm.trans (Prod.ext failed rfl))
    rwa [shown_of_showing ((showing_nil unshown).append showing)]

end Visit

end Scan

end Injector
