import Injector.Proofs.Scan.Learning
import Injector.Proofs.Scan.Requests

/-!
# Who binds a parameter

A binding marker comes before a type hook, a type hook before the service of the type; whoever is
asked is asked alone, and the parameter is passed only once it is bound.
-/

set_option autoImplicit false

namespace Injector

variable {P : Platform}

def Hit.bindings (hits : List (Hit P)) : List (Hit P) :=
  hits.filter (·.hook.capabilities.binding)

def ScanEvent.isRequest : ScanEvent P → Bool
  | bindingRequested _ => true
  | _ => false

def requestsOf (calls : List (Call P)) : List (Call P) := calls.filter (·.event.isRequest)

theorem requestsOf_append (calls later : List (Call P)) :
    requestsOf (calls ++ later) = requestsOf calls ++ requestsOf later := List.filter_append ..

theorem requestsOf_starts {calls : List (Call P)} (h : Scan.Starts calls) :
    requestsOf calls = [] := by
  refine List.filter_eq_nil_iff.mpr fun call at_ request => ?_
  have start := h call at_
  cases event : call.event <;> simp [event, ScanEvent.isStart, ScanEvent.isRequest] at start request

namespace Scan

section Lookup

variable {f : ScanFrame P} {s s₁ : Scan P} {hits : List (Hit P)} {markers : List (Marker P)}

def claimOf (target : String) : List (Hit P) → Except Error (Option (Hit P))
  | [] => .ok none
  | [hit] => .ok (some hit)
  | first :: second :: _ =>
    .error (.duplicateBindingHook target first.marker.key second.marker.key)

/-- A look at all markers looks at the first, and then at the others. -/
theorem hitsOf_cons (f : ScanFrame P) (marker : Marker P) (rest : List (Marker P)) :
    hitsOf f (marker :: rest) = hookOf f marker >>= fun hook =>
      hitsOf f rest >>= fun later => pure ((hook.map (Hit.mk marker)).toList ++ later) := by
  show hookOf f marker >>= _ = _
  refine bind_congr fun hook => ?_
  cases hook with
  | none => simp
  | some hook => rfl

theorem ok_of_hitsOf_cons {marker : Marker P} {rest : List (Marker P)}
    (looked : hitsOf f (marker :: rest) s = (.ok hits, s₁)) :
    ∃ hook s' later, hookOf f marker s = (.ok hook, s') ∧ hitsOf f rest s' = (.ok later, s₁) ∧
      hits = (hook.map (Hit.mk marker)).toList ++ later := by
  rw [hitsOf_cons, bind_apply] at looked
  rcases first : (hookOf f marker s : Except Error _ × Scan P) with ⟨e | hook, s'⟩
  · rw [first] at looked
    cases looked
  · rw [first] at looked
    dsimp only at looked
    rw [bind_apply] at looked
    rcases others : (hitsOf f rest s' : Except Error _ × Scan P) with ⟨e | later, s''⟩
    · rw [others] at looked
      cases looked
    · rw [others] at looked
      cases looked
      exact ⟨hook, s', later, rfl, others, rfl⟩

/-- The search for a binding hook gives up at the second one; else it finds what a look at all
markers finds, and leaves the scan as that does. -/
theorem ends_bindingHook (target : String) (found : Option (Hit P))
    (looked : hitsOf f markers s = (.ok hits, s₁)) :
    Ends (bindingHook f target found markers) s
      (fun hit s' => claimOf target (found.toList ++ Hit.bindings hits) = .ok hit ∧ s' = s₁)
      fun e _ => claimOf target (found.toList ++ Hit.bindings hits) = .error e := by
  induction markers generalizing found s hits with
  | nil =>
    cases looked
    cases found <;> exact ⟨rfl, rfl⟩
  | cons marker rest ih =>
    obtain ⟨hook, s', later, first, others, rfl⟩ := ok_of_hitsOf_cons looked
    unfold bindingHook
    rw [ends_bind, ends_of_ok first]
    cases hook with
    | none => exact ih found others
    | some hook =>
      dsimp only
      by_cases binds : hook.capabilities.binding
      · have bindings : Hit.bindings ((Option.map (Hit.mk marker) (some hook)).toList ++ later) =
            ⟨marker, hook⟩ :: Hit.bindings later := by
          simp [Hit.bindings, binds]
        rw [if_pos binds, bindings]
        cases found with
        | none => exact ih (some ⟨marker, hook⟩) others
        | some first => exact rfl
      · have bindings : Hit.bindings ((Option.map (Hit.mk marker) (some hook)).toList ++ later) =
            Hit.bindings later := by
          simp [Hit.bindings, binds]
        rw [if_neg binds, bindings]
        exact ih found others

end Lookup

section Delegation

variable {f : ScanFrame P} {s s' s₁ : Scan P} {c : Contributor P}

/-- Between the two states the contributor was asked for a binding and nobody else for anything,
and this is what it replied. -/
structure Consults (c : Contributor P) (request : BindingRequest P) (s s' : Scan P)
    (reply : Except Error Unit) : Prop where
  asked : ∃ call, s'.calls.toList = s.calls.toList ++ [call] ∧ call.contributor = c ∧
    call.event = .bindingRequested request
  replied : s'.transcript.back? = some (.replied reply)

theorem ends_consult (request : BindingRequest P) :
    Ends (converse c (.bindingRequested request) (c.handler.onBinding request)
        (answerSlot f request)) s
      (fun _ s' => Consults c request s s' (.ok ⟨⟩))
      fun e s' => Consults c request s s' (.error e) := by
  have answers : ∀ call, Local (fun _ => True) (answerSlot f request call) := fun call =>
    local_answerSlot (upheld_true f) call (SlotCall.fit_true call)
  exact (ends_addressed answers).mono (fun _ _ h => ⟨h.asked, h.replied⟩)
    fun _ _ h => ⟨h.asked, h.replied⟩

def bound (s : Scan P) (id index : Nat) : Bool :=
  ((s.bean.operation? id).bind (·.binding? index)).isSome

def requestTo (f : ScanFrame P) (op : Operation P) (index : Nat) (parameter : Parameter P)
    (extension : ExtensionKey) (marker : Option (Marker P)) (c : Contributor P) :
    BindingRequest P :=
  { operation := op, index, parameter, marker, party := f.installer
    context := c.contextFor extension }

/-- Once the extension takes part, its handler is asked; an error of it is told along with the
operation, and without one the slot has to be bound. -/
theorem ends_delegate {op : Operation P} {index : Nat} {parameter : Parameter P}
    {extension : ExtensionKey} {marker : Option (Marker P)}
    (activated : activate f extension s = (.ok c, s₁)) :
    Ends (delegate f op index parameter extension marker) s
      (fun _ s' => Consults c (requestTo f op index parameter extension marker c) s₁ s' (.ok ⟨⟩) ∧
        bound s' op.id index = true)
      fun e s' =>
        (∃ reply,
          Consults c (requestTo f op index parameter extension marker c) s₁ s' (.error reply) ∧
            e = reply.requiredBy op.target) ∨
        Consults c (requestTo f op index parameter extension marker c) s₁ s' (.ok ⟨⟩) ∧
          bound s' op.id index = false ∧ e = .bindingNotSet extension op.target index := by
  unfold delegate
  rw [ends_bind, ends_of_ok activated, ends_bind, ends_record, ends_bind, ends_tryCatch]
  apply (ends_consult (requestTo f op index parameter extension marker c)).mono
  · rintro _ s' ⟨asked, replied⟩
    rcases slot : (s'.bean.operation? op.id).bind (·.binding? index) with _ | binding
    · have read : bindingAt op.id index s' = (.ok none, s') := by rw [← slot]; rfl
      rw [ends_bind, ends_of_ok read]
      exact .inr ⟨⟨asked, replied⟩, by rw [bound, slot]; rfl, rfl⟩
    · have read : bindingAt op.id index s' = (.ok (some binding), s') := by rw [← slot]; rfl
      rw [ends_bind, ends_of_ok read]
      exact ⟨⟨asked, replied⟩, by rw [bound, slot]; rfl⟩
  · rintro e s' ⟨asked, replied⟩
    exact .inl ⟨e, ⟨asked, replied⟩, rfl⟩

end Delegation

section Choice

variable {f : ScanFrame P} {s s₁ : Scan P} {op : Operation P} {id : Nat} {parameter : Parameter P}
  {hits : List (Hit P)} (index : Nat)

theorem resolveParameter_apply (found : s.bean.operation? id = some op) :
    resolveParameter f id index parameter s =
      (bindingHook f (parameterTarget op index parameter) none parameter.markers >>= fun hit =>
        hit.elim (get >>= fun s => (s.catalog.typeHook? parameter.type).elim
            (bindToService f op index parameter)
            fun extension => delegate f op index parameter extension none)
          fun hit => delegate f op index parameter hit.hook.extension (some hit.marker)) s := by
  unfold resolveParameter
  rw [bind_apply, operationAt_of_some f found]
  dsimp only
  refine congrFun (bind_congr fun hit => ?_) s
  cases hit with
  | some hit => rfl
  | none =>
    refine bind_congr fun s => ?_
    cases s.catalog.typeHook? parameter.type <;> rfl

/-- A second binding hook ends the resolution before anybody is asked. -/
theorem resolveParameter_of_duplicate (found : s.bean.operation? id = some op)
    (looked : hitsOf f parameter.markers s = (.ok hits, s₁)) {first second : Hit P}
    {rest : List (Hit P)} (bindings : Hit.bindings hits = first :: second :: rest) :
    ∃ s', resolveParameter f id index parameter s =
        (.error (.duplicateBindingHook (parameterTarget op index parameter) first.marker.key
          second.marker.key), s') ∧ s'.calls = s.calls := by
  have hushed := (hush_compositional (P := P) fun _ => True).bindingHook f
    (parameterTarget op index parameter) parameter.markers none s trivial
  rw [resolveParameter_apply index found, bind_apply]
  rcases ((ends_bindingHook (parameterTarget op index parameter) none looked).and hushed).cases
    with ⟨hit, s', -, ⟨claim, -⟩, -⟩ | ⟨e, s', ran, claim, unattended, -⟩
  · rw [bindings] at claim
    cases claim
  · rw [bindings] at claim
    cases claim
    exact ⟨s', by rw [ran], unattended.calls⟩

/-- Unless there are several, the search ends as a look at all markers does. -/
theorem resolveParameter_of_claim (found : s.bean.operation? id = some op)
    (looked : hitsOf f parameter.markers s = (.ok hits, s₁)) {hit : Option (Hit P)}
    (claim : claimOf (parameterTarget op index parameter) (Hit.bindings hits) = .ok hit) :
    resolveParameter f id index parameter s =
      hit.elim
        ((s₁.catalog.typeHook? parameter.type).elim (bindToService f op index parameter)
          (fun extension => delegate f op index parameter extension none) s₁)
        fun hit => delegate f op index parameter hit.hook.extension (some hit.marker) s₁ := by
  rw [resolveParameter_apply index found, bind_apply]
  rcases (ends_bindingHook (parameterTarget op index parameter) none looked).cases
    with ⟨hit', _, ran, claim', rfl⟩ | ⟨e, s', -, refused⟩
  · cases claim.symm.trans claim'
    rw [ran]
    cases hit <;> rfl
  · cases claim.symm.trans refused

/-- The only binding hook is the one to be asked. -/
theorem resolveParameter_of_hit (found : s.bean.operation? id = some op)
    (looked : hitsOf f parameter.markers s = (.ok hits, s₁)) {hit : Hit P}
    (bindings : Hit.bindings hits = [hit]) :
    resolveParameter f id index parameter s =
      delegate f op index parameter hit.hook.extension (some hit.marker) s₁ :=
  resolveParameter_of_claim index found looked (congrArg _ bindings)

/-- Without a binding hook the type of the parameter decides. -/
theorem resolveParameter_of_none (found : s.bean.operation? id = some op)
    (looked : hitsOf f parameter.markers s = (.ok hits, s₁)) (bindings : Hit.bindings hits = []) :
    resolveParameter f id index parameter s =
      (s₁.catalog.typeHook? parameter.type).elim (bindToService f op index parameter)
        (fun extension => delegate f op index parameter extension none) s₁ :=
  resolveParameter_of_claim index found looked (congrArg _ bindings)

end Choice

theorem typeHook?_of_grows {c c' : Catalog} (h : c.Grows c') (type : TypeKey) :
    c'.typeHook? type = c.typeHook? type := by
  rw [Catalog.typeHook?, Catalog.typeHook?, h.typeHooks]

/-- A parameter that is taken up to be resolved, and the state in which it is. -/
structure Round (P : Platform) where
  frame : ScanFrame P
  id : OperationId
  index : Nat
  parameter : Parameter P
  before : Scan P

namespace Round

variable (r : Round P)

def run : Except Error Unit × Scan P :=
  resolveParameter r.frame r.id r.index r.parameter r.before

def result : Except Error Unit := r.run.1

def after : Scan P := r.run.2

def calls : List (Call P) := r.after.calls.toList.drop r.before.calls.size

def binding? : Option (Binding P) := (r.after.bean.operation? r.id).bind (·.binding? r.index)

def service : Address := ⟨r.frame.installer, ⟨r.parameter.type, none⟩⟩

def provided : Bool :=
  r.parameter.optional || r.frame.host.directory.contains r.service.party r.service.key ||
    r.frame.host.directory.isPending r.service.party r.service.key

structure Due (r : Round P) (op : Operation P) : Prop where
  found : r.before.bean.operation? r.id = some op
  id_eq : op.id = r.id
  parameter : op.params[r.index]? = some r.parameter
  unbound : op.binding? r.index = none

/-- One handler is asked, that of the extension and with this marker, and nobody else. If it
fails, so does the resolution; else it has to have bound the parameter. -/
structure Asks (r : Round P) (op : Operation P) (extension : ExtensionKey)
    (marker : Option (Marker P)) : Prop where
  only : ∃ call, requestsOf r.calls = [call] ∧ (call.contributor.key == extension) = true ∧
    call.event =
      .bindingRequested (requestTo r.frame op r.index r.parameter extension marker call.contributor)
  ending : ∃ reply, r.after.transcript.back? = some (.replied reply) ∧ r.result = match reply with
    | .error e => .error (e.requiredBy op.target)
    | .ok _ => if r.binding?.isSome then .ok ⟨⟩
      else .error (.bindingNotSet extension op.target r.index)

/-- Nobody is asked, and the parameter becomes the service of its type, if this may be missing or
there is one. -/
structure Serves (r : Round P) (op : Operation P) : Prop where
  silent : r.calls = []
  result_eq : r.result = if r.provided then .ok ⟨⟩ else
    .error ((r.frame.host.directory.notRegistered r.service.party r.service.key).requiredBy
      op.target)
  bound : r.result = .ok ⟨⟩ →
    r.binding? = some (.service r.service.key r.service.party (!r.parameter.optional))

structure Prioritized (r : Round P) (op : Operation P) (hits : List (Hit P)) (looked : Scan P) :
    Prop where
  duplicate : ∀ first second rest, Hit.bindings hits = first :: second :: rest → r.calls = [] ∧
    r.result = .error (.duplicateBindingHook (parameterTarget op r.index r.parameter)
      first.marker.key second.marker.key)
  marked : ∀ hit, Hit.bindings hits = [hit] →
    ∀ c s, activate r.frame hit.hook.extension looked = (.ok c, s) →
      r.Asks op hit.hook.extension (some hit.marker)
  typed : Hit.bindings hits = [] →
    ∀ extension, r.before.catalog.typeHook? r.parameter.type = some extension →
      ∀ c s, activate r.frame extension looked = (.ok c, s) → r.Asks op extension none
  served : Hit.bindings hits = [] → r.before.catalog.typeHook? r.parameter.type = none →
    r.Serves op

variable {r : Round P} {op : Operation P} {hits : List (Hit P)} {looked : Scan P}

theorem asks_of_run {extension : ExtensionKey} {marker : Option (Marker P)} {c : Contributor P}
    {s : Scan P} (due : r.Due op) (unheard : looked.calls = r.before.calls)
    (run : r.run = delegate r.frame op r.index r.parameter extension marker looked)
    (activated : activate r.frame extension looked = (.ok c, s)) : r.Asks op extension marker := by
  have attends : Attends r.frame (fun _ => True) looked (activate r.frame extension)
      (fun c since s' => Starts since ∧ s'.contributor? extension = some c) Starts :=
    attends_activate trivial
  obtain ⟨starts, spans, -, activates, takesPart⟩ := attends.of_ok activated
  have only : ∀ {s' reply},
      Consults c (requestTo r.frame op r.index r.parameter extension marker c) s s' reply →
      r.after = s' → ∃ call, requestsOf r.calls = [call] ∧
        (call.contributor.key == extension) = true ∧ call.event = .bindingRequested
          (requestTo r.frame op r.index r.parameter extension marker call.contributor) := by
    rintro s' reply ⟨⟨call, calls, rfl, event⟩, -⟩ after
    have since : r.calls = starts ++ [call] := by
      rw [Round.calls, after, calls, spans.calls, unheard]
      simp
    refine ⟨call, ?_, key_of_contributor? takesPart, event⟩
    rw [since, requestsOf_append, requestsOf_starts activates]
    simp [requestsOf, event, ScanEvent.isRequest]
  have bound_eq : ∀ {s'}, r.after = s' → r.binding?.isSome = bound s' op.id r.index := by
    rintro _ rfl
    rw [bound, due.id_eq]
    rfl
  have ends : Ends (delegate r.frame op r.index r.parameter extension marker) looked _ _ :=
    ends_delegate activated
  rcases ends.cases with ⟨_, s', ran, consulted, isBound⟩ |
    ⟨e, s', ran, ⟨reply, consulted, rfl⟩ | ⟨consulted, unbound, rfl⟩⟩
  all_goals
    have after : r.after = s' := by rw [Round.after, run, ran]
    have result := congrArg Prod.fst (run.trans ran)
    refine ⟨only consulted after, _, after ▸ consulted.replied, ?_⟩
  · rw [bound_eq after, isBound]
    exact result
  · exact result
  · rw [bound_eq after, unbound]
    exact result

/-- A slot that is unbound can be bound. -/
theorem bindSlot_apply {s : Scan P} {op bound : Operation P} {id index : Nat}
    {binding : Binding P} (f : ScanFrame P) (found : s.bean.operation? id = some op)
    (bind : op.bind index binding = .ok bound) :
    bindSlot f id index binding s = (.ok ⟨⟩, s.place (s.bean.put id bound) s.queue) := by
  rw [bindSlot_eq, slotBound, found]
  dsimp only
  rw [bind]
  rfl

theorem lookup_service (r : Round P) :
    (r.frame.host.directory.lookup r.frame.installer ⟨r.parameter.type, none⟩
      (!r.parameter.optional) : Except Error (Binding P)) =
      if r.provided then .ok (.service r.service.key r.service.party (!r.parameter.optional))
      else .error (r.frame.host.directory.notRegistered r.service.party r.service.key) := by
  show r.frame.host.directory.lookup r.service.party r.service.key _ = _
  rw [Directory.lookup, provided]
  cases r.parameter.optional <;> cases r.frame.host.directory.contains .. <;>
    cases r.frame.host.directory.isPending .. <;> rfl

/-- A parameter that is made a service is so at once, unless the service is missed. -/
theorem serves_of_run (due : r.Due op) (quiet : Quiet r.before looked)
    (unheard : looked.calls = r.before.calls)
    (run : r.run = bindToService r.frame op r.index r.parameter looked) : r.Serves op := by
  have found : looked.bean.operation? op.id = some op := by
    rw [quiet.bean, due.id_eq]
    exact due.found
  have inBounds : r.index < op.slots.length := by
    simpa [Operation.params] using (List.getElem?_eq_some_iff.mp due.parameter).1
  rw [bindToService, lookup_service] at run
  by_cases provided : r.provided = true
  · obtain ⟨filled, bind⟩ := Operation.exists_bind inBounds due.unbound
      (.service r.service.key r.service.party (!r.parameter.optional))
    rw [if_pos provided] at run
    have binds := run.trans (bindSlot_apply r.frame found bind)
    have after : r.after = looked.place (looked.bean.put op.id filled) looked.queue := by
      rw [Round.after, binds]
    refine ⟨?_, ?_, fun _ => ?_⟩
    · rw [Round.calls, after]
      simp [Scan.place, unheard]
    · rw [if_pos provided]
      exact congrArg Prod.fst binds
    · rw [Round.binding?, after]
      show ((looked.bean.put op.id filled).operation? r.id).bind _ = _
      rw [Bean.operation?_put (Bean.lt_of_operation? found), if_pos due.id_eq.symm]
      show filled.binding? r.index = _
      rw [Operation.binding?_bind bind, if_pos rfl]
  · rw [if_neg provided] at run
    have fails : r.run = (.error ((r.frame.host.directory.notRegistered r.service.party
        r.service.key).requiredBy op.target), looked) := run
    have result := congrArg Prod.fst fails
    refine ⟨?_, ?_, fun ok => ?_⟩
    · rw [Round.calls, Round.after, fails]
      simp [unheard]
    · rw [if_neg provided]
      exact result
    · cases result.symm.trans ok

/-- The order in which it is decided who binds the parameter. -/
theorem prioritized (due : r.Due op)
    (h : hitsOf r.frame r.parameter.markers r.before = (.ok hits, looked)) :
    r.Prioritized op hits looked := by
  have quiet := (silent_activating.hitsOf r.frame r.parameter.markers r.before).of_ok h
  have unheard := (((hush_compositional (P := P) fun _ => True).hitsOf r.frame
    r.parameter.markers r.before trivial).of_ok h).1.calls
  have learned := (learns_compositional.hitsOf r.frame r.parameter.markers r.before).of_ok h
  have types := typeHook?_of_grows learned r.parameter.type
  constructor
  case duplicate =>
    intro first second rest bindings
    obtain ⟨s', ran, calls⟩ := resolveParameter_of_duplicate r.index due.found h bindings
    have run : r.run = _ := ran
    exact ⟨by rw [Round.calls, Round.after, run]; simp [calls], congrArg Prod.fst run⟩
  case marked =>
    intro hit bindings c s activated
    exact asks_of_run due unheard (resolveParameter_of_hit r.index due.found h bindings) activated
  case typed =>
    intro bindings extension typeHook c s activated
    have run := resolveParameter_of_none r.index due.found h bindings
    rw [types, typeHook] at run
    exact asks_of_run due unheard run activated
  case served =>
    intro bindings typeHook
    have run := resolveParameter_of_none r.index due.found h bindings
    rw [types, typeHook] at run
    exact serves_of_run due quiet unheard run

end Round

end Scan

end Injector
