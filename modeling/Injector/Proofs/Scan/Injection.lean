import Injector.Proofs.Scan.Passage

/-!
# Injected fields

An extension claims a field by the one binding marker on it; when the operation that writes the
field is resolved later, the same marker is found again, and that extension is asked.
-/

set_option autoImplicit false

namespace Injector

variable {P : Platform}

namespace Operation

theorem params_ofInjection {id : OperationId} {c : ClassDescriptor P} {field : Field P}
    {operator : Party} {op : Operation P} (h : ofInjection id c field operator = .ok op) :
    op.params = [fieldParameter field] := by
  unfold ofInjection at h
  split at h
  next => cases h
  next =>
    cases h
    rfl

end Operation

namespace Scan

section Markers

variable {c c' : Catalog} {model : HookModel} {markers later : List (Marker P)}
  {hits more : List (Hit P)} {marker : Marker P} {extension : ExtensionKey}

structure BoundBy (c : Catalog) (model : HookModel) (markers : List (Marker P)) (marker : Marker P)
    (extension : ExtensionKey) : Prop where
  alone : ∃ before after, markers = before ++ marker :: after ∧ ∀ other ∈ before ++ after,
    c.MapsOnlyTo model other.toMarkerType (·.capabilities.binding = false)
  mapped : c.MapsTo model marker.toMarkerType fun hook =>
    (hook.extension == extension) = true ∧ hook.capabilities.binding = true

theorem SoleBinding.exists_boundBy (h : SoleBinding c model markers extension) :
    ∃ marker, BoundBy c model markers marker extension := by
  obtain ⟨before, marker, after, split, mapped, others⟩ := h.only
  exact ⟨marker, ⟨before, after, split, others⟩, mapped⟩

theorem BoundBy.mono (h : BoundBy c model markers marker extension) (grows : c.Grows c') :
    BoundBy c' model markers marker extension where
  alone := by
    obtain ⟨before, after, split, others⟩ := h.alone
    exact ⟨before, after, split, fun other at_ => (others other at_).mono grows⟩
  mapped := h.mapped.mono grows fun _ h => h

theorem Found.append (h : Found c model markers hits) (k : Found c model later more) :
    Found c model (markers ++ later) (hits ++ more) := by
  induction h with
  | nil => exact k
  | skip unmapped _ ih => exact .skip unmapped ih
  | hit mapped _ ih => exact .hit mapped ih

/-- Markers that are mapped to no binding hook are found as such. -/
theorem exists_found_unbinding (h : ∀ marker ∈ markers,
    c.MapsOnlyTo model marker.toMarkerType (·.capabilities.binding = false)) :
    ∃ hits, Found c model markers hits ∧ Hit.bindings hits = [] := by
  induction markers with
  | nil => exact ⟨[], .nil, rfl⟩
  | cons marker rest ih =>
    rw [List.forall_mem_cons] at h
    obtain ⟨⟨found, maps, only⟩, others⟩ := h
    obtain ⟨hits, known, none⟩ := ih others
    cases found with
    | none => exact ⟨hits, .skip maps known, none⟩
    | some hook =>
      refine ⟨⟨marker, hook.value⟩ :: hits, .hit maps known, ?_⟩
      have unbinding : hook.value.capabilities.binding = false := only hook rfl
      rw [Hit.bindings, List.filter_cons, unbinding]
      exact none

theorem BoundBy.found (h : BoundBy c model markers marker extension) :
    ∃ hits hit, Found c model markers hits ∧ Hit.bindings hits = [hit] ∧ hit.marker = marker ∧
      (hit.hook.extension == extension) = true := by
  obtain ⟨before, after, rfl, others⟩ := h.alone
  obtain ⟨hook, maps, same, binds⟩ := h.mapped
  rw [List.forall_mem_append] at others
  obtain ⟨first, known, none⟩ := exists_found_unbinding others.1
  obtain ⟨last, known', none'⟩ := exists_found_unbinding others.2
  refine ⟨first ++ ⟨marker, hook.value⟩ :: last, ⟨marker, hook.value⟩,
    known.append (.hit maps known'), ?_, rfl, same⟩
  have here : Hit.bindings (⟨marker, hook.value⟩ :: last) = [⟨marker, hook.value⟩] := by
    rw [Hit.bindings, List.filter_cons, binds]
    exact congrArg (List.cons _) none'
  show List.filter _ (first ++ _) = _
  rw [List.filter_append]
  exact congrArg₂ (· ++ ·) none here

end Markers

section Lookups

variable {f : ScanFrame P} {s : Scan P} {markers : List (Marker P)} {hits : List (Hit P)}

/-- A marker that is known is looked up without a change. -/
theorem hookOf_of_maps {marker : Marker P} {found : Option (Shared HookDescriptor)}
    (h : s.catalog.Maps f.model marker.toMarkerType found) :
    hookOf f marker s = (.ok (found.map (·.value)), s) := by
  unfold hookOf
  rw [bind_apply, withCatalog_apply, h s.world]
  rfl

theorem hitsOf_of_found (h : Found s.catalog f.model markers hits) :
    hitsOf f markers s = (.ok hits, s) := by
  induction h with
  | nil => rfl
  | skip unmapped _ ih =>
    rw [hitsOf_cons, bind_apply, hookOf_of_maps unmapped]
    dsimp only
    rw [bind_apply, ih]
    rfl
  | hit mapped _ ih =>
    rw [hitsOf_cons, bind_apply, hookOf_of_maps mapped]
    dsimp only
    rw [bind_apply, ih]
    rfl

theorem activate_of_takesPart {key : ExtensionKey} {c : Contributor P}
    (h : s.contributor? key = some c) : activate f key s = (.ok c, s) := by
  have listed : s.contributors.find? (·.key == key) = some c := h
  unfold activate
  rw [get_bind_apply, listed]
  rfl

end Lookups

section Claims

variable {f : ScanFrame P} {cls : ClassDescriptor P} {base : Nat} {given : Option (Handler P)}
  {c c' : Catalog} {events : List (ScanEvent P)} {op later : Operation P}
  {declared : DeclaredField P} {marker : Marker P} {extension : ExtensionKey}

structure Claims (f : ScanFrame P) (cls : ClassDescriptor P) (c : Catalog) (op : Operation P)
    (declared : DeclaredField P) (marker : Marker P) (extension : ExtensionKey) : Prop where
  walked : declared ∈ cls.fieldWalk
  operator : op.operator = .extension extension
  made : op.MadeBy (Operation.ofInjection · declared.owner declared.field (.extension extension))
  bound : BoundBy c f.model declared.field.markers marker extension

theorem Origin.claims (h : Origin f cls c events op) (mode : op.mode = .inject) :
    ∃ declared marker extension, Claims f cls c op declared marker extension := by
  cases h with
  | constructor selected grown =>
    rw [grown.mode_eq] at mode
    cases mode
  | @field m call id made declared marked reached built grown =>
    rw [grown.mode_eq] at mode
    cases call with
    | newGetter => cases (Operation.own_ofGetter built).mode_eq.symm.trans mode
    | newSetter => cases (Operation.own_ofSetter built).mode_eq.symm.trans mode
  | @injection declared extension id made walked sole reached built grown =>
    obtain ⟨marker, bound⟩ := sole.exists_boundBy
    exact ⟨declared, marker, extension, walked,
      ((Operation.own_ofInjection built).grows grown).operator_eq, ⟨id, made, built, grown⟩, bound⟩
  | method declared marked reached built grown =>
    rw [grown.mode_eq] at mode
    cases (Operation.own_ofMethod built).mode_eq.symm.trans mode
  | nested asked parent operator nests grown =>
    rw [← grown.mode_eq, mode] at nests
    rcases nests with nests | nests <;> cases nests

theorem Claims.own (h : Claims f cls c op declared marker extension) :
    op.Own .inject (.extension extension) := by
  obtain ⟨id, made, built, grown⟩ := h.made
  exact (Operation.own_ofInjection built).grows grown

/-- The field is the operation's one parameter. -/
theorem Claims.params (h : Claims f cls c op declared marker extension) :
    op.params = [Operation.fieldParameter declared.field] := by
  obtain ⟨id, made, built, grown⟩ := h.made
  rw [grown.params, Operation.params_ofInjection built]

theorem Claims.mono (h : Claims f cls c op declared marker extension) (grows : c.Grows c')
    (grown : op.Grows later) : Claims f cls c' later declared marker extension where
  walked := h.walked
  operator := (h.own.grows grown).operator_eq
  made := by
    obtain ⟨id, made, built, grown'⟩ := h.made
    exact ⟨id, made, built, grown'.trans grown⟩
  bound := h.bound.mono grows

/-- The round takes up the one slot of the operation. Among the field's markers the search for a
binding hook comes to this one, and its extension is asked for the value. -/
structure Round.Honours (r : Round P) (op : Operation P) (declared : DeclaredField P)
    (marker : Marker P) (extension : ExtensionKey) : Prop where
  due : r.Due op
  first : r.index = 0
  parameter : r.parameter = Operation.fieldParameter declared.field
  found : ∃ hit, hit.marker = marker ∧ (hit.hook.extension == extension) = true ∧
    bindingHook r.frame (parameterTarget op r.index r.parameter) none r.parameter.markers r.before =
      (.ok (some hit), r.before) ∧ r.Asks op hit.hook.extension (some marker)

theorem Claims.honoured {r : Round P}
    (h : Claims f cls r.before.catalog op declared marker extension)
    (met : Rounds.Met f cls base given r) (due : r.Due op) :
    r.Honours op declared marker extension := by
  have parameter := due.parameter
  rw [h.params] at parameter
  obtain ⟨first, same⟩ : r.index = 0 ∧ Operation.fieldParameter declared.field = r.parameter := by
    simpa [List.getElem?_singleton] using parameter
  obtain ⟨hits, hit, known, bindings, rfl, named⟩ := h.bound.found
  have looked : hitsOf r.frame r.parameter.markers r.before = (.ok hits, r.before) := by
    rw [← same, met.frame]
    exact hitsOf_of_found known
  obtain ⟨q, underway⟩ := met.underway
  obtain ⟨c, takesPart⟩ := underway.crewed.roster.takesPart
    (underway.crewed.injectors r.id op underway.frontier.base_le due.found extension h.own)
  rw [← contributor?_congr named] at takesPart
  refine ⟨due, first, same.symm, hit, rfl, named, ?_, ?_⟩
  · rcases (ends_bindingHook (parameterTarget op r.index r.parameter) none looked).cases with
      ⟨found, _, ran, claim, rfl⟩ | ⟨e, s', -, refused⟩
    · rw [bindings] at claim
      cases claim
      exact ran
    · rw [bindings] at refused
      cases refused
  · exact (Round.prioritized due looked).marked hit bindings c r.before
      (activate_of_takesPart takesPart)

end Claims

end Scan

def ScanEvent.asksFor (id : OperationId) : ScanEvent P → Bool
  | bindingRequested shown => shown.operation.id == id
  | _ => false

def requestsFor (id : OperationId) (calls : List (Call P)) : List (Call P) :=
  calls.filter (·.event.asksFor id)

theorem requestsFor_eq (id : OperationId) (calls : List (Call P)) :
    requestsFor id calls = (requestsOf calls).filter (·.event.asksFor id) := by
  rw [requestsFor, requestsOf, List.filter_filter]
  refine List.filter_congr fun call _ => ?_
  cases call.event <;> simp [ScanEvent.asksFor, ScanEvent.isRequest]

namespace Scan

/-- In a round handlers are asked for its own parameter alone. -/
theorem Round.asksFor_iff (r : Round P) (linked : r.before.bean.Linked) {call : Call P}
    (made : call ∈ requestsOf r.calls) (id : OperationId) :
    call.event.asksFor id = true ↔ r.id = id := by
  have asked : ∃ since, r.after.calls.toList = r.before.calls.toList ++ since ∧
      AskedUpTo (toLex (r.id, r.index)) (toLex (r.id, r.index + 1)) since := by
    have attends := attends_resolveParameter (upheld_true r.frame) (fun _ _ => trivial) trivial
      linked r.id r.index r.parameter
    apply Ends.state fun s' : Scan P => ∃ since, s'.calls.toList = r.before.calls.toList ++ since ∧
      AskedUpTo (toLex (r.id, r.index)) (toLex (r.id, r.index + 1)) since
    exact Ends.mono attends (fun _ _ ⟨since, spans, _, asked⟩ => ⟨since, spans.calls, asked⟩)
      fun _ _ ⟨since, spans, _, asked⟩ => ⟨since, spans.calls, asked⟩
  obtain ⟨since, calls, asked⟩ := asked
  have here : r.calls = since := by
    rw [Round.calls, calls]
    simp
  rw [here, requestsOf, List.mem_filter] at made
  obtain ⟨listed, request⟩ := made
  cases event : call.event with
  | bindingRequested shown =>
    have slot : toLex (shown.operation.id, shown.index) ∈ slotsOf since :=
      List.mem_filterMap.mpr ⟨call, listed, by rw [event]; rfl⟩
    have first := asked.first_le _ slot
    have last := asked.lt_last _ slot
    simp only [Prod.Lex.toLex_le_toLex, Prod.Lex.toLex_lt_toLex] at first last
    have same : shown.operation.id = r.id := by
      rcases first with lt | ⟨same, -⟩
      · rcases last with lt' | ⟨same, -⟩
        · exact absurd (Nat.lt_trans lt lt') (Nat.lt_irrefl _)
        · exact same
      · exact same.symm
    rw [ScanEvent.asksFor, same, beq_iff_eq]
  | _ => simp [event, ScanEvent.isRequest] at request

/-- The requests for an operation are those of the rounds that are about it. -/
theorem requestsFor_rounds {rounds : List (Round P)}
    (linked : ∀ r ∈ rounds, r.before.bean.Linked) (id : OperationId) :
    (rounds.flatMap fun r => requestsOf r.calls).filter (·.event.asksFor id) =
      (rounds.filter (·.id == id)).flatMap fun r => requestsOf r.calls := by
  induction rounds with
  | nil => rfl
  | cons r rest ih =>
    rw [List.forall_mem_cons] at linked
    rw [List.flatMap_cons, List.filter_append, ih linked.2, List.filter_cons]
    by_cases about : r.id = id
    · have all : (requestsOf r.calls).filter (·.event.asksFor id) = requestsOf r.calls :=
        List.filter_eq_self.mpr fun call made => (r.asksFor_iff linked.1 made id).mpr about
      rw [all, if_pos (beq_iff_eq.mpr about), List.flatMap_cons]
    · have none : (requestsOf r.calls).filter (·.event.asksFor id) = [] :=
        List.filter_eq_nil_iff.mpr fun call made asks =>
          about ((r.asksFor_iff linked.1 made id).mp asks)
      rw [none, if_neg (by simpa using about), List.nil_append]

/-- There is no second round about a parameter. -/
theorem Round.alone {rounds : List (Round P)} {r : Round P}
    (once : (rounds.map Round.place).Nodup) (hr : r ∈ rounds)
    (only : ∀ other ∈ rounds, other.id = r.id → other.index = r.index) :
    rounds.filter (·.id == r.id) = [r] := by
  have listed : r ∈ rounds.filter (·.id == r.id) := List.mem_filter.mpr ⟨hr, beq_self_eq_true _⟩
  have places : (rounds.filter (·.id == r.id)).map Round.place =
      List.replicate (rounds.filter (·.id == r.id)).length r.place := by
    rw [← List.map_const', List.map_inj_left]
    intro other ho
    obtain ⟨ho, same⟩ := List.mem_filter.mp ho
    exact Prod.ext (eq_of_beq same) (only other ho (eq_of_beq same))
  have nodup : ((rounds.filter (·.id == r.id)).map Round.place).Nodup :=
    once.sublist (List.filter_sublist.map _)
  rw [places, List.nodup_replicate] at nodup
  obtain ⟨other, alone⟩ := List.length_eq_one_iff.mp
    (Nat.le_antisymm nodup (List.length_pos_of_mem listed))
  rw [alone] at listed ⊢
  rw [List.mem_singleton.mp listed]

end Scan

namespace Attempt

/-- What comes of an operation by which an extension that claimed a field with a marker is to write
it. -/
structure Injects (a : Attempt P) (b : Bean P) (f : ScanFrame P) (id : OperationId)
    (op : Operation P) (declared : DeclaredField P) (marker : Marker P)
    (extension : ExtensionKey) : Prop where
  frame : Scan.Rounds.frame? a.deployment.container.host
    (a.deployment.beginScan b a.preset) = .ok f
  claims : Scan.Claims f b.descriptor (a.run b).2.catalog op declared marker extension
  /-- If it is taken up, then in one round, and there is one request for it in the whole scan, made
  to the extension and with the marker. -/
  asked : id ∈ (a.run b).2.resolved → ∃ r before call key,
    (a.rounds b).filter (·.id == id) = [r] ∧ before.Grows op ∧
      r.Honours before declared marker extension ∧
        requestsFor id (a.run b).2.calls.toList = [call] ∧
          (call.contributor.key == extension) = true ∧ (key == extension) = true ∧
            call.event = .bindingRequested (Scan.requestTo f before 0
              (Operation.fieldParameter declared.field) key (some marker) call.contributor)
  /-- Else nobody is asked. -/
  unasked : id ∉ (a.run b).2.resolved → (a.rounds b).filter (·.id == id) = [] ∧
    requestsFor id (a.run b).2.calls.toList = []

def AllInjected (a : Attempt P) (b : Bean P) : Prop :=
  ∀ (id : Nat) op, b.operations.size ≤ id → (a.run b).2.bean.operation? id = some op →
    op.mode = .inject → ∃ f declared marker extension, a.Injects b f id op declared marker extension

section Runs

variable {a : Attempt P} {b : Bean P} {f : ScanFrame P} {id : Nat} {op : Operation P}

theorem settles_run (a : Attempt P) (linked : b.Linked) :
    Scan.Rounds.Settles a.deployment.container.host a.preset
      (a.deployment.beginScan b a.preset) (a.run b).2 :=
  Ends.state (Scan.Rounds.Settles a.deployment.container.host a.preset _)
    (Scan.Rounds.ends_scanBean_passed _ linked rfl rfl rfl rfl)

theorem covers_run (a : Attempt P) (linked : b.Linked) :
    Scan.Rounds.Covers a.deployment.container.host (a.deployment.beginScan b a.preset) (a.run b).2
      (a.rounds b) :=
  Ends.state (Scan.Rounds.Covers _ _ · (a.rounds b))
    ((Scan.Rounds.covers_scanBean a.deployment.container.host linked rfl).mono
      (fun _ _ h => h.1) fun _ _ h => h)

theorem requests_run (a : Attempt P) (b : Bean P) :
    requestsOf (a.run b).2.calls.toList = (a.rounds b).flatMap fun r => requestsOf r.calls :=
  Ends.state (Scan.Rounds.Requested (a.rounds b) (a.deployment.beginScan b a.preset))
    ((Scan.Rounds.tells_scanBean a.deployment.container.host _).mono
      (fun _ _ h => h.1) fun _ _ h => h.1)

abbrev Passes (a : Attempt P) (b : Bean P) (f : ScanFrame P) : Prop :=
  Scan.Rounds.Passed f b.descriptor b.operations.size a.preset (a.rounds b)
    (a.deployment.beginScan b a.preset) (a.run b).2

/-- What is known of the operation in each round that is about it. -/
theorem Passes.claims (h : a.Passes b f) (linked : b.Linked) (new : b.operations.size ≤ id)
    (ho : (a.run b).2.bean.operation? id = some op) (mode : op.mode = .inject) {r : Scan.Round P}
    (hr : r ∈ a.rounds b) (about : r.id = id) :
    ∃ before declared marker extension, before.Grows op ∧
      r.Honours before declared marker extension ∧
        Scan.Claims f b.descriptor (a.run b).2.catalog op declared marker extension := by
  obtain ⟨met, later⟩ := h.met r hr
  obtain ⟨-, -, before, due⟩ := (a.covers_run linked).due r hr
  obtain ⟨op', ho', grown⟩ := later.bean.operations r.id before due.found
  obtain rfl : op' = op := Option.some.inj (ho'.symm.trans (about ▸ ho))
  obtain ⟨q, underway⟩ := met.underway
  have origin := underway.warranted.founded.entitled r.id before (about ▸ new) due.found
  obtain ⟨declared, marker, extension, claims⟩ := origin.claims (grown.mode_eq ▸ mode)
  exact ⟨before, declared, marker, extension, grown, claims.honoured met due,
    claims.mono later.catalog grown⟩

theorem Passes.injects (h : a.Passes b f) (frame : Scan.Rounds.frame?
      a.deployment.container.host (a.deployment.beginScan b a.preset) = .ok f) (linked : b.Linked)
    (new : b.operations.size ≤ id) (ho : (a.run b).2.bean.operation? id = some op)
    (mode : op.mode = .inject) :
    ∃ declared marker extension, a.Injects b f id op declared marker extension := by
  have once := (a.covers_run linked).within.sublist.nodup (Bean.parametersFrom_nodup _ _)
  have requests : requestsFor id (a.run b).2.calls.toList =
      ((a.rounds b).filter (·.id == id)).flatMap fun r => requestsOf r.calls := by
    rw [requestsFor_eq, a.requests_run b, Scan.requestsFor_rounds]
    exact fun r hr => (h.met r hr).1.underway.elim fun _ underway => underway.linked
  obtain ⟨declared, marker, extension, claims⟩ :=
    (h.warranted.founded.entitled id op new ho).claims mode
  by_cases taken : id ∈ (a.run b).2.resolved
  · have opened : Scan.Rounds.Opened (a.rounds b) (a.run b).2.bean id :=
      (h.opened id taken).resolve_left (by simp [Scan.resolved, Deployment.beginScan])
    rcases opened with ⟨r, hr, place⟩ | ⟨op', ho', none⟩
    · obtain rfl : r.id = id := congrArg Prod.fst place
      obtain ⟨before, declared, marker, extension, grown, honours, claims⟩ :=
        h.claims linked new ho mode hr rfl
      have alone : (a.rounds b).filter (·.id == r.id) = [r] := by
        refine Scan.Round.alone once hr fun other at_ about => ?_
        obtain ⟨_, _, _, _, -, others, -⟩ := h.claims linked new ho mode at_ about
        rw [others.first, honours.first]
      obtain ⟨hit, rfl, named, -, asks⟩ := honours.found
      obtain ⟨call, only, key, event⟩ := asks.only
      refine ⟨declared, hit.marker, extension, frame, claims, fun _ => ?_,
        fun waits => absurd taken waits⟩
      refine ⟨r, before, call, _, alone, grown, honours, ?_, BEq.trans key named, named, ?_⟩
      · rw [requests, alone, List.flatMap_singleton, only]
      · rw [event, (h.met r hr).1.frame, honours.first, honours.parameter]
    · obtain rfl : op' = op := Option.some.inj (ho'.symm.trans ho)
      cases claims.params.symm.trans none
  · have waits : (a.rounds b).filter (·.id == id) = [] := by
      refine List.filter_eq_nil_iff.mpr fun r hr about => taken ?_
      obtain ⟨met, later⟩ := h.met r hr
      exact eq_of_beq about ▸ later.resolved met.taken
    refine ⟨declared, marker, extension, frame, claims, fun took => absurd took taken,
      fun _ => ⟨waits, ?_⟩⟩
    rw [requests, waits, List.flatMap_nil]

end Runs

/-- Whoever claims a field is asked for its value, by the marker that the claim was made with and no
more than once, whatever handlers do and whatever the container was used for before. -/
theorem allInjected_run (earlier : List (Attempt P)) (a : Attempt P) (c : ClassDescriptor P)
    (source : Source P) (installer : Party) :
    a.AllInjected (after earlier (.fresh c source installer)) := by
  have linked := (linked_after earlier (b := .fresh c source installer) (.of_empty rfl)).2
  generalize after earlier (.fresh c source installer) = b at linked ⊢
  intro id op new ho mode
  rcases a.settles_run linked with ⟨f, frame, passed⟩ | same
  · exact ⟨f, Passes.injects passed frame linked new ho mode⟩
  · rw [same] at ho
    exact absurd (Bean.lt_of_operation? ho) (Nat.not_lt.mpr new)

end Attempt

def ExtensionKey.porter : ExtensionKey := ⟨⟨.numbered 3, "porter::Porter"⟩, true⟩

def Field.handle : Field .bare where
  name := "handle"
  type := ⟨.numbered 1, "Handle"⟩
  visibility := .anyone
  isStatic := true
  markers :=
    [{ key := ⟨⟨.numbered 4, "porter::Carried"⟩⟩, payload := ()
       declaredHook := fun _ => some { extension := .porter, binding := true } }]
  getter := none
  setter := some fun _ => .done (.ok none)

def ClassDescriptor.trolley : ClassDescriptor .bare where
  type := ⟨.numbered 2, "Trolley"⟩
  fields := [.handle]

def Handler.portering : Handler .bare :=
  { Handler.idle with
    onBinding := fun _ memory world =>
      .ask .bindNull fun _ => .done (.ok (), memory, world) }

def Deployment.station (maxDeferred : Nat) : Deployment .bare where
  world := ()
  container :=
    { settings := { maxDeferred }
      services := []
      catalog := {}
      extensions := []
      make := fun _ world => (⟨"porter", fun world => (.portering, world)⟩, world) }

namespace Attempt

def porterage (maxDeferred : Nat) : Attempt .bare := ⟨.station maxDeferred, none⟩

theorem allInjected_run_trolley :
    0 ∈ ((porterage 1).run (.fresh .trolley .absent .application)).2.resolved ∧
      ∃ op, ((porterage 1).run (.fresh .trolley .absent .application)).2.bean.operation? 0 =
        some op ∧ op.mode = .inject ∧ ∃ f declared marker extension,
          (porterage 1).Injects (.fresh .trolley .absent .application) f 0 op declared marker
            extension := by
  have made : (((porterage 1).run (.fresh .trolley .absent .application)).2.bean.operation? 0).map
      (·.mode) = some .inject := by decide +kernel
  obtain ⟨op, ho, mode⟩ := Option.map_eq_some_iff.mp made
  refine ⟨by decide +kernel, op, ho, mode, ?_⟩
  have all : (porterage 1).AllInjected (.fresh .trolley .absent .application) :=
    allInjected_run [] (porterage 1) .trolley .absent .application
  exact all 0 op (Nat.le_refl 0) ho mode

/-- An operation that leaves the queue past the limit ends the scan, and nobody is asked for it. -/
theorem unrequested_past_limit : ¬ ∀ (a : Attempt .bare) (c : ClassDescriptor .bare)
    (source : Source .bare) (installer : Party) (id : Nat) (op : Operation .bare),
      (a.run (.fresh c source installer)).2.bean.operation? id = some op → op.mode = .inject →
        id ∉ (a.run (.fresh c source installer)).2.queue →
          ∃ call, requestsFor id (a.run (.fresh c source installer)).2.calls.toList = [call] := by
  intro always
  obtain ⟨call, once⟩ :=
    always (porterage 0) .trolley .absent .application 0 _ rfl rfl (by decide +kernel)
  have never : (requestsFor 0 ((porterage 0).run
      (.fresh .trolley .absent .application)).2.calls.toList).isEmpty = true := by decide +kernel
  rw [once] at never
  cases never

end Attempt

end Injector
