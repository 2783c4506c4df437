import Mathlib.Data.List.Basic
import Injector.Proofs.Ends
import Injector.Scan.Basic

/-!
# The callbacks of a scan

An extension takes part from its first callback on, which tells it that the scan starts; each
callback after that finds the handler as the one before left it. The contributors of a scan are the
extensions that take part, in the order of their first callbacks.
-/

set_option autoImplicit false

namespace Injector

variable {P : Platform}

namespace ScanEvent

def context? : ScanEvent P → Option ScanContext
  | started context _ => some context
  | fieldMatched shown => some shown.context
  | methodMatched shown => some shown.context
  | bindingRequested shown => some shown.context
  | ended context => some context
  | _ => none

def isStart : ScanEvent P → Bool
  | started .. => true
  | _ => false

def isEnd : ScanEvent P → Bool
  | ended _ => true
  | _ => false

end ScanEvent

namespace Extensions

def Grows (es later : Extensions P) : Prop :=
  ∀ key e, es.find? key = some e → later.find? key = some e

theorem Grows.refl (es : Extensions P) : es.Grows es := fun _ _ h => h

theorem Grows.trans {es later last : Extensions P} (h : es.Grows later) (k : later.Grows last) :
    es.Grows last := fun key e found => k key e (h key e found)

/-- An extension that is made on demand takes no other one's place. -/
theorem grows_obtain {make : ExtensionMaker P} {key : ExtensionKey} {es later : Extensions P}
    {e : Extension P} {w w' : P.World} (h : make.obtain key es w = .ok (e, later, w')) :
    es.Grows later ∧ later.find? key = some e := by
  unfold ExtensionMaker.obtain at h
  split at h
  next found =>
    cases h
    exact ⟨.refl _, found⟩
  next missing =>
    split at h
    next =>
      cases h
      refine ⟨fun other e' found => ?_, find?_install _ _ _⟩
      unfold install
      rw [missing, if_neg (by simp)]
      unfold find? at found ⊢
      rw [Option.map_eq_some_iff] at found
      obtain ⟨entry, listed, rfl⟩ := found
      rw [List.find?_append, listed]
      rfl
    next => cases h

end Extensions

/-- The handler is the one that was given, for an extension with full access, or else a new one. -/
def Handler.Serves (handler : Handler P) (fullAccess : Bool) (given : Option (Handler P))
    (isNew : Handler P → Prop) (preset : Bool) : Prop :=
  match fullAccess, given with
  | true, some other => preset = true ∧ handler = other
  | _, _ => preset = false ∧ isNew handler

theorem Handler.Serves.mono {handler : Handler P} {fullAccess preset : Bool}
    {given : Option (Handler P)} {isNew isNew' : Handler P → Prop}
    (h : handler.Serves fullAccess given isNew preset) (weaker : isNew handler → isNew' handler) :
    handler.Serves fullAccess given isNew' preset := by
  unfold Serves at h ⊢
  split at h
  next => exact h
  next => exact ⟨h.1, weaker h.2⟩

def Extensions.Makes (es : Extensions P) (key : ExtensionKey) (handler : Handler P) : Prop :=
  ∃ extension w, es.find? key = some extension ∧ handler = (extension.newHandler w).1

theorem Extensions.Makes.mono {es later : Extensions P} {key : ExtensionKey} {handler : Handler P}
    (h : es.Makes key handler) (grows : es.Grows later) : later.Makes key handler := by
  obtain ⟨extension, w, installed, made⟩ := h
  exact ⟨extension, w, grows _ _ installed, made⟩

def ScanFrame.contextOf (f : ScanFrame P) (key : ExtensionKey) : ScanContext :=
  ⟨f.beanType, key, f.installer, f.installer == .extension key⟩

/-- A key of the same extension tells the handler the same, but for its name. -/
theorem ScanFrame.contextFor_eq {f : ScanFrame P} {c : Contributor P} {key : ExtensionKey}
    (h : c.context = f.contextOf c.key) (same : (c.key == key) = true) :
    c.contextFor key = f.contextOf key := by
  have access : (Party.extension c.key == .extension key) = true := same
  rw [Contributor.contextFor, h, contextOf, contextOf, BEq.congr_right access]

namespace Call

def after (call : Call P) : Contributor P :=
  { call.contributor with handler := { call.contributor.handler with memory := call.memory } }

/-- What is told to the handler is what its contributor stands for, under the key that led to
it. -/
def Known (f : ScanFrame P) (call : Call P) : Prop :=
  call.contributor.context = f.contextOf call.contributor.key ∧
    ∃ key, (call.contributor.key == key) = true ∧ call.event.context? = some (f.contextOf key)

/-- The handler of an extension is the one that the scan was given if the extension installed the
bean, and else a new one of the extension. -/
def Staffed (f : ScanFrame P) (given : Option (Handler P)) (extensions : Extensions P)
    (call : Call P) : Prop :=
  ∀ context preset, call.event = .started context preset →
    call.contributor.handler.Serves (f.installer == .extension call.contributor.key) given
      (extensions.Makes call.contributor.key) preset

theorem Staffed.mono {f : ScanFrame P} {given : Option (Handler P)} {es later : Extensions P}
    {call : Call P} (h : call.Staffed f given es) (grows : es.Grows later) :
    call.Staffed f given later :=
  fun context preset started => (h context preset started).mono fun makes => makes.mono grows

theorem staffed_of_not_start {f : ScanFrame P} {given : Option (Handler P)}
    {es : Extensions P} {call : Call P} (h : call.event.isStart = false) :
    call.Staffed f given es := by
  intro context preset started
  rw [started] at h
  cases h

end Call

/-- The callbacks of one extension in a scan, and the contributor that the next one would find.
Each but the first finds what the one before left. -/
inductive Life : List (Call P) → Option (Contributor P) → Prop
  | absent : Life [] none
  | started {call : Call P} (start : call.event.isStart = true) : Life [call] (some call.after)
  | called {calls : List (Call P)} {c : Contributor P} (h : Life calls (some c)) {call : Call P}
      (same : call.contributor = c) (later : call.event.isStart = false) :
      Life (calls ++ [call]) (some call.after)

theorem Life.eq_nil {calls : List (Call P)} (h : Life calls none) : calls = [] := by
  cases h
  rfl

namespace Scan

def callbacks (s : Scan P) : List (ScanEvent P) :=
  s.transcript.toList.filter (·.context?.isSome)

def callsOf (s : Scan P) (key : ExtensionKey) : List (Call P) :=
  s.calls.toList.filter (·.contributor.key == key)

theorem callsOf_congr {key key' : ExtensionKey} (h : (key == key') = true) (s : Scan P) :
    s.callsOf key = s.callsOf key' := by
  unfold callsOf
  congr 1
  funext call
  exact BEq.congr_right h

/-- The calls made so far, apart from one for `pending` that is being made. For each extension that
takes part `now` is the contributor that its next callback will find. -/
structure Attendance (f : ScanFrame P) (preset : Option (Handler P)) (pending : List (ScanEvent P))
    (now : ExtensionKey → Option (Contributor P)) (s : Scan P) : Prop where
  told : s.callbacks = s.calls.toList.map (·.event) ++ pending
  known : ∀ call ∈ s.calls.toList, call.Known f
  staffed : ∀ call ∈ s.calls.toList, call.Staffed f preset s.extensions
  lives : ∀ key, Life (s.callsOf key) (now key)

structure Unattended (s s' : Scan P) : Prop where
  calls : s'.calls = s.calls
  contributors : s'.contributors = s.contributors
  preset : s'.preset = s.preset
  callbacks : s'.callbacks = s.callbacks
  extensions : s.extensions.Grows s'.extensions

namespace Unattended

variable {s s' s'' : Scan P}

theorem refl (s : Scan P) : Unattended s s := ⟨rfl, rfl, rfl, rfl, .refl _⟩

theorem trans (h : Unattended s s') (k : Unattended s' s'') : Unattended s s'' :=
  ⟨k.calls.trans h.calls, k.contributors.trans h.contributors, k.preset.trans h.preset,
    k.callbacks.trans h.callbacks, h.extensions.trans k.extensions⟩

end Unattended

section Attending

variable {f : ScanFrame P} {preset : Option (Handler P)} {pending : List (ScanEvent P)}
  {now now' : ExtensionKey → Option (Contributor P)} {s s' : Scan P} {call : Call P}

theorem Attendance.unattended (h : Attendance f preset pending now s) (k : Unattended s s') :
    Attendance f preset pending now s' where
  told := by
    rw [k.callbacks, k.calls]
    exact h.told
  known := by
    rw [k.calls]
    exact h.known
  staffed := by
    rw [k.calls]
    exact fun call hc => (h.staffed call hc).mono k.extensions
  lives := by
    intro key
    unfold callsOf
    rw [k.calls]
    exact h.lives key

/-- One more call has been made. -/
theorem Attendance.made (h : Attendance f preset pending now s) (known : call.Known f)
    (told : s'.callbacks = s.calls.toList.map (·.event) ++ [call.event])
    (calls : s'.calls.toList = s.calls.toList ++ [call])
    (extensions : s.extensions.Grows s'.extensions) (staffed : call.Staffed f preset s'.extensions)
    (own : ∀ key, (call.contributor.key == key) = true →
      Life (s.callsOf key ++ [call]) (now' key))
    (others : ∀ key, (call.contributor.key == key) = false → now' key = now key) :
    Attendance f preset [] now' s' where
  told := by
    rw [told, calls, List.map_append, List.append_nil]
    rfl
  known := by
    rw [calls, List.forall_mem_append, List.forall_mem_singleton]
    exact ⟨h.known, known⟩
  staffed := by
    rw [calls, List.forall_mem_append, List.forall_mem_singleton]
    exact ⟨fun call hc => (h.staffed call hc).mono extensions, staffed⟩
  lives := by
    intro key
    unfold callsOf
    rw [calls, List.filter_append, List.filter_singleton]
    cases here : call.contributor.key == key with
    | true => exact own key here
    | false =>
      rw [others key here, cond_false, List.append_nil]
      exact h.lives key

end Attending

def contributor? (s : Scan P) (key : ExtensionKey) : Option (Contributor P) :=
  s.contributors.find? (·.key == key)

/-- While a scan runs the contributors are the extensions that take part, each once, in the order
in which they were activated. The handler the scan was given is kept until the extension that
installed the bean is activated. -/
structure Roster (f : ScanFrame P) (preset : Option (Handler P)) (pending : List (ScanEvent P))
    (s : Scan P) : Prop where
  attendance : Attendance f preset pending s.contributor? s
  distinct : s.contributors.Pairwise fun c c' => (c.key == c'.key) = false
  contexts : ∀ c ∈ s.contributors, c.context = f.contextOf c.key
  preset : (∀ c ∈ s.contributors, (f.installer == .extension c.key) = false) → s.preset = preset
  order : (s.calls.toList.filter (·.event.isStart)).map (·.contributor.key) =
    s.contributors.map (·.key)
  running : ∀ call ∈ s.calls.toList, call.event.isEnd = false

section Contributors

variable {f : ScanFrame P} {given : Option (Handler P)} {pending : List (ScanEvent P)}
  {s s' : Scan P} {c : Contributor P} {key : ExtensionKey}

theorem Roster.unattended (h : Roster f given pending s) (k : Unattended s s') :
    Roster f given pending s' where
  attendance := by
    have same : s'.contributor? = s.contributor? := by
      funext key
      rw [contributor?, contributor?, k.contributors]
    rw [same]
    exact h.attendance.unattended k
  distinct := k.contributors ▸ h.distinct
  contexts := k.contributors ▸ h.contexts
  preset := by
    rw [k.contributors, k.preset]
    exact h.preset
  order := by
    rw [k.calls, k.contributors]
    exact h.order
  running := k.calls ▸ h.running

theorem key_of_contributor? (h : s.contributor? key = some c) : (c.key == key) = true := by
  unfold contributor? at h
  have found := List.find?_some h
  exact found

theorem Roster.contributor?_key (h : Roster f given pending s) (hc : c ∈ s.contributors) :
    s.contributor? c.key = some c := by
  obtain ⟨before, after, split⟩ := List.append_of_mem hc
  have distinct := h.distinct
  rw [split, List.pairwise_append] at distinct
  have others : before.find? (·.key == c.key) = none := by
    rw [List.find?_eq_none]
    intro other ho
    simp [distinct.2.2 other ho c (by simp)]
  rw [contributor?, split, List.find?_append, others, List.find?_cons, BEq.rfl]
  rfl

theorem contributor?_congr {key' : ExtensionKey} (h : (key == key') = true) (s : Scan P) :
    s.contributor? key = s.contributor? key' := by
  unfold contributor?
  congr 1
  funext c
  exact BEq.congr_right h

structure Joins (f : ScanFrame P) (key : ExtensionKey) (s : Scan P) (call : Call P) (s' : Scan P) :
    Prop where
  key_eq : call.contributor.key = key
  context : call.contributor.context = f.contextOf key
  handler : ∃ preset, call.event = .started (f.contextOf key) preset ∧
    call.contributor.handler.Serves (f.installer == .extension key) s.preset
      (s'.extensions.Makes key) preset
  preset : (f.installer == .extension key) = false → s'.preset = s.preset
  calls : s'.calls.toList = s.calls.toList ++ [call]
  callbacks : s'.callbacks = s.callbacks ++ [call.event]
  extensions : s.extensions.Grows s'.extensions

theorem Joins.staffed {call : Call P} (h : Joins f key s call s')
    (preset : (f.installer == .extension key) = true → s.preset = given) :
    call.Staffed f given s'.extensions := by
  intro context flag started
  obtain ⟨_, event, serves⟩ := h.handler
  rw [h.key_eq]
  rw [event, ScanEvent.started.injEq] at started
  obtain ⟨-, rfl⟩ := started
  cases full : f.installer == .extension key with
  | true =>
    rw [full, preset full] at serves
    exact serves
  | false =>
    rw [full] at serves
    exact serves

/-- Activated, an extension takes part. -/
theorem Joins.attendance {call : Call P} (h : Joins f key s call s')
    (roster : Roster f given [] s) (new : s.contributor? key = none)
    {now : ExtensionKey → Option (Contributor P)}
    (own : ∀ other, (key == other) = true → now other = some call.after)
    (others : ∀ other, (key == other) = false → now other = s.contributor? other) :
    Attendance f given [] now s' := by
  obtain ⟨flag, event, -⟩ := h.handler
  have preset : (f.installer == .extension key) = true → s.preset = given := by
    intro full
    apply roster.preset
    intro c hc
    rw [← Bool.not_eq_true]
    intro full'
    have same : (Party.extension c.key == .extension key) = true :=
      BEq.trans (BEq.symm full') full
    rw [contributor?, List.find?_eq_none] at new
    exact new c hc same
  apply roster.attendance.made
  · refine ⟨by rw [h.context, h.key_eq], key, by rw [h.key_eq]; exact BEq.rfl, ?_⟩
    rw [event]
    rfl
  · rw [h.callbacks, roster.attendance.told, List.append_nil]
  · exact h.calls
  · exact h.extensions
  · exact h.staffed preset
  · intro other same
    rw [h.key_eq] at same
    have unheard := roster.attendance.lives other
    rw [← contributor?_congr same, new] at unheard
    rw [unheard.eq_nil, own other same]
    exact .started (by rw [event]; rfl)
  · intro other apart
    rw [h.key_eq] at apart
    exact others other apart

theorem contributor?_snoc (joined : s'.contributors = s.contributors ++ [c])
    (key : ExtensionKey) : s'.contributor? key =
      (s.contributor? key).or (if c.key == key then some c else none) := by
  rw [contributor?, joined, List.find?_append, List.find?_singleton]
  rfl

theorem Joins.roster {call : Call P} (h : Joins f key s call s')
    (roster : Roster f given [] s) (new : s.contributor? key = none)
    (joined : s'.contributors = s.contributors ++ [call.after]) : Roster f given [] s' where
  attendance := by
    apply h.attendance roster new
    · intro other same
      have here : (call.after.key == other) = true := h.key_eq.symm ▸ same
      rw [contributor?_snoc joined, ← contributor?_congr same, new, if_pos here]
      rfl
    · intro other apart
      have elsewhere : (call.after.key == other) = false := h.key_eq.symm ▸ apart
      rw [contributor?_snoc joined, elsewhere]
      exact Option.or_none
  distinct := by
    rw [joined, List.pairwise_append]
    refine ⟨roster.distinct, List.pairwise_singleton _ _, fun c hc c' hc' => ?_⟩
    rw [List.mem_singleton.mp hc', ← Bool.not_eq_true]
    rw [contributor?, List.find?_eq_none] at new
    have apart := new c hc
    rwa [← h.key_eq] at apart
  contexts := by
    rw [joined, List.forall_mem_append, List.forall_mem_singleton]
    refine ⟨roster.contexts, ?_⟩
    show call.contributor.context = f.contextOf call.contributor.key
    rw [h.context, h.key_eq]
  preset := by
    rw [joined, List.forall_mem_append, List.forall_mem_singleton]
    rintro ⟨others, limited⟩
    rw [h.preset (h.key_eq ▸ limited)]
    exact roster.preset others
  order := by
    obtain ⟨flag, event, -⟩ := h.handler
    have start : call.event.isStart = true := by rw [event]; rfl
    rw [joined, h.calls, List.filter_append, List.filter_singleton, start, List.map_append,
      roster.order, List.map_append]
    rfl
  running := by
    obtain ⟨flag, event, -⟩ := h.handler
    rw [h.calls, List.forall_mem_append, List.forall_mem_singleton, event]
    exact ⟨roster.running, rfl⟩

theorem key_remembered (memory : P.Memory) (other : Contributor P) :
    (if other.key == c.key then { other with handler := { other.handler with memory } }
      else other).key = other.key := by
  split <;> rfl

theorem context_remembered (memory : P.Memory) (other : Contributor P) :
    (if other.key == c.key then { other with handler := { other.handler with memory } }
      else other).context = other.context := by
  split <;> rfl

/-- Only the contributor whose handler was called remembers something else. -/
theorem contributor?_remember {memory : P.Memory} (takesPart : s.contributor? c.key = some c)
    (remembers : s'.contributors = remember c memory s.contributors) (key : ExtensionKey) :
    s'.contributor? key = if c.key == key then
      some { c with handler := { c.handler with memory } } else s.contributor? key := by
  have same : ∀ cs : List (Contributor P), (remember c memory cs).find? (·.key == key) =
      (cs.find? (·.key == key)).map fun other =>
        if other.key == c.key then { other with handler := { other.handler with memory } }
        else other := by
    intro cs
    rw [remember, List.find?_map]
    congr 2
    funext other
    exact congrArg (· == key) (key_remembered memory other)
  rw [contributor?, remembers, same]
  by_cases here : (c.key == key) = true
  · show (s.contributor? key).map _ = _
    rw [if_pos here, ← contributor?_congr here, takesPart, Option.map_some, if_pos BEq.rfl]
  · rw [if_neg here]
    show (s.contributor? key).map _ = s.contributor? key
    cases found : s.contributor? key with
    | none => rfl
    | some other =>
      have apart : ¬ (other.key == c.key) = true := by
        rw [BEq.congr_left (key_of_contributor? found), BEq.comm]
        exact here
      rw [Option.map_some, if_neg apart]

structure Answers (shown : ScanEvent P) (s : Scan P) (call : Call P) (s' : Scan P) : Prop where
  event : call.event = shown
  calls : s'.calls.toList = s.calls.toList ++ [call]
  callbacks : s'.callbacks = s.callbacks
  contributors : s'.contributors = remember call.contributor call.memory s.contributors
  preset : s'.preset = s.preset
  extensions : s.extensions.Grows s'.extensions

theorem Answers.roster {call : Call P} {shown : ScanEvent P} (h : Answers shown s call s')
    (roster : Roster f given [shown] s)
    (takesPart : s.contributor? call.contributor.key = some call.contributor)
    (context : ∃ key, (call.contributor.key == key) = true ∧
      shown.context? = some (call.contributor.contextFor key))
    (between : shown.isStart = false ∧ shown.isEnd = false) : Roster f given [] s' where
  attendance := by
    have listed : call.contributor ∈ s.contributors := List.mem_of_find?_eq_some takesPart
    apply roster.attendance.made
    · obtain ⟨key, same, told⟩ := context
      have known := roster.contexts _ listed
      exact ⟨known, key, same, by rw [h.event, told, ScanFrame.contextFor_eq known same]⟩
    · rw [h.callbacks, roster.attendance.told, h.event]
    · exact h.calls
    · exact h.extensions
    · exact Call.staffed_of_not_start (h.event ▸ between.1)
    · intro key here
      rw [contributor?_remember takesPart h.contributors, if_pos here]
      have life := roster.attendance.lives key
      rw [← contributor?_congr here, takesPart] at life
      exact life.called rfl (h.event ▸ between.1)
    · intro key elsewhere
      rw [contributor?_remember takesPart h.contributors, elsewhere]
      rfl
  distinct := by
    rw [h.contributors, remember, List.pairwise_map]
    simp only [key_remembered]
    exact roster.distinct
  contexts := by
    rw [h.contributors, remember, List.forall_mem_map]
    intro c hc
    rw [key_remembered, context_remembered]
    exact roster.contexts c hc
  preset := by
    rw [h.contributors, remember, List.forall_mem_map, h.preset]
    simp only [key_remembered]
    exact roster.preset
  order := by
    have between : call.event.isStart = false := h.event ▸ between.1
    rw [h.contributors, h.calls, List.filter_append, List.filter_singleton, between, cond_false,
      List.append_nil, roster.order, remember, List.map_map]
    exact List.map_congr_left fun other _ => (key_remembered call.memory other).symm
  running := by
    rw [h.calls, List.forall_mem_append, List.forall_mem_singleton, h.event]
    exact ⟨roster.running, between.2⟩

end Contributors

end Scan

end Injector
