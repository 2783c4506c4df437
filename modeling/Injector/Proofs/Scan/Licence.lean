import Injector.Proofs.Scan.Entitlement

/-!
# What operations owe their place to

Whichever scan made it, an operation owes its place to markers that let its operator in, to the
bean's being constructed, or to a parameter that its operator was asked for.
-/

set_option autoImplicit false

namespace Injector

variable {P : Platform}

namespace Operation

structure Own (op : Operation P) (mode : AccessMode) (operator : Party) : Prop where
  mode_eq : op.mode = mode
  operator_eq : op.operator = operator
  parent_eq : op.parent = none

section Members

variable {id : OperationId} {c : ClassDescriptor P} {field : Field P} {operator : Party}
  {op later : Operation P} {mode : AccessMode}

theorem Own.grows (h : op.Own mode operator) (grown : op.Grows later) :
    later.Own mode operator where
  mode_eq := grown.mode_eq.trans h.mode_eq
  operator_eq := by rw [grown.same, h.operator_eq]
  parent_eq := grown.parent_eq.trans h.parent_eq

theorem own_ofGetter (h : ofGetter id c field operator = .ok op) : op.Own .get operator := by
  unfold ofGetter at h
  split at h
  next => cases h
  next =>
    cases h
    exact ⟨rfl, rfl, rfl⟩

theorem own_ofSetter (h : ofSetter id c field operator = .ok op) : op.Own .set operator := by
  unfold ofSetter at h
  split at h
  next => cases h
  next =>
    cases h
    exact ⟨rfl, rfl, rfl⟩

theorem own_ofInjection (h : ofInjection id c field operator = .ok op) :
    op.Own .inject operator := by
  unfold ofInjection at h
  split at h
  next => cases h
  next =>
    cases h
    exact ⟨rfl, rfl, rfl⟩

theorem own_ofMethod {method : Method P} (h : ofMethod id c method operator = .ok op) :
    op.Own .invoke operator :=
  have made := Scan.mode_ofMethod h
  ⟨made.2, made.1, (fresh_ofMethod h).2.1⟩

end Members

/-- The operation is one that `make` makes, of which some slots may have been bound. -/
def MadeBy (op : Operation P) (make : OperationId → Except Error (Operation P)) : Prop :=
  ∃ id made, make id = .ok made ∧ made.Grows op

end Operation

structure Bean.Constructs (b : Bean P) (op : Operation P) : Prop where
  own : op.Own .construct b.installer
  made : ∃ constructor, b.descriptor.selectConstructor = .ok constructor ∧
    op.MadeBy fun id => .ok (.ofConstructor id b.descriptor constructor b.installer none)

namespace Scan

def Requested (events : List (ScanEvent P)) (b : Bean P) (op : Operation P) : Prop :=
  ∃ r parent, .bindingRequested r ∈ events ∧ op.operator = .extension r.context.extension ∧
    op.parent = some r.operation.id ∧ b.operation? r.operation.id = some parent ∧
    r.operation.Grows parent ∧ parent.params[r.index]? = some r.parameter

/-- What an operation has to have by what it does. The markers that it takes are looked up in the
catalog with the model of the bean's class. -/
structure Licensed (model : HookModel) (c : Catalog) (events : List (ScanEvent P)) (b : Bean P)
    (op : Operation P) : Prop where
  getter : op.mode = .get → ∃ extension, op.operator = .extension extension ∧
    ∃ declared ∈ b.descriptor.fieldWalk,
      op.MadeBy (Operation.ofGetter · declared.owner declared.field (.extension extension)) ∧
      Marked c model declared.field.markers extension (·.permits .newGetter)
  setter : op.mode = .set → ∃ extension, op.operator = .extension extension ∧
    ∃ declared ∈ b.descriptor.fieldWalk,
      op.MadeBy (Operation.ofSetter · declared.owner declared.field (.extension extension)) ∧
      Marked c model declared.field.markers extension (·.permits .newSetter)
  injection : op.mode = .inject → ∃ extension, op.operator = .extension extension ∧
    ∃ declared ∈ b.descriptor.fieldWalk,
      op.MadeBy (Operation.ofInjection · declared.owner declared.field (.extension extension)) ∧
      SoleBinding c model declared.field.markers extension
  method : op.mode = .invoke → op.parent = none → ∃ extension, op.operator = .extension extension ∧
    ∃ declared ∈ b.descriptor.methodWalk,
      op.MadeBy (Operation.ofMethod · declared.owner declared.method (.extension extension)) ∧
      Marked c model declared.method.markers extension (·.isMethodHook)
  other : op.mode = .construct ∨ op.mode = .invoke ∧ op.parent ≠ none →
    b.Constructs op ∨ Requested events b op

section Licences

variable {f : ScanFrame P} {c : Catalog} {events : List (ScanEvent P)} {b : Bean P}
  {op : Operation P}

theorem Posed.requested {r : BindingRequest P} (posed : Posed b r) (linked : b.Linked)
    (asked : .bindingRequested r ∈ events) (operator : op.operator = r.operator)
    (parent : op.parent = some r.operation.id) : Requested events b op := by
  obtain ⟨id, old, ho, grown⟩ := posed.held
  obtain rfl : r.operation.id = id := grown.id_eq.symm.trans (linked.id_eq id old ho)
  exact ⟨r, old, asked, operator, parent, ho, grown, grown.params ▸ posed.parameter⟩

/-- Each origin speaks of the operations of one mode, or of nested ones. -/
theorem Origin.licensed (h : Origin f b.descriptor c events op)
    (installer : f.installer = b.installer) (linked : b.Linked)
    (posed : ∀ r, .bindingRequested r ∈ events → Posed b r) :
    Licensed f.model c events b op := by
  cases h with
  | @constructor constructor id selected grown =>
    rw [installer] at grown
    have own : op.Own .construct b.installer := Operation.Own.grows ⟨rfl, rfl, rfl⟩ grown
    have constructs : b.Constructs op := ⟨own, constructor, selected, id, _, rfl, grown⟩
    exact ⟨by simp [own.mode_eq], by simp [own.mode_eq], by simp [own.mode_eq],
      by simp [own.mode_eq], fun _ => .inl constructs⟩
  | @field m call id made declared marked reached built grown =>
    cases call with
    | newGetter =>
      have own := (Operation.own_ofGetter built).grows grown
      refine ⟨fun _ => ?_, by simp [own.mode_eq], by simp [own.mode_eq], by simp [own.mode_eq],
        by simp [own.mode_eq]⟩
      exact ⟨m.context.extension, own.operator_eq, _, declared, ⟨id, made, built, grown⟩, marked⟩
    | newSetter =>
      have own := (Operation.own_ofSetter built).grows grown
      refine ⟨by simp [own.mode_eq], fun _ => ?_, by simp [own.mode_eq], by simp [own.mode_eq],
        by simp [own.mode_eq]⟩
      exact ⟨m.context.extension, own.operator_eq, _, declared, ⟨id, made, built, grown⟩, marked⟩
  | @injection declared extension id made walked sole reached built grown =>
    have own := (Operation.own_ofInjection built).grows grown
    refine ⟨by simp [own.mode_eq], by simp [own.mode_eq], fun _ => ?_, by simp [own.mode_eq],
      by simp [own.mode_eq]⟩
    exact ⟨extension, own.operator_eq, declared, walked, ⟨id, made, built, grown⟩, sole⟩
  | @method m id made declared marked reached built grown =>
    have own := (Operation.own_ofMethod built).grows grown
    refine ⟨by simp [own.mode_eq], by simp [own.mode_eq], by simp [own.mode_eq], fun _ _ => ?_,
      by simp [own.mode_eq, own.parent_eq]⟩
    exact ⟨m.context.extension, own.operator_eq, _, declared, ⟨id, made, built, grown⟩, marked⟩
  | @nested r made asked parent operator mode grown =>
    have nested : op.parent = some r.operation.id := grown.parent_eq.trans parent
    have requested : Requested events b op :=
      (posed r asked).requested linked asked (by rw [grown.same, operator]) nested
    rw [← grown.mode_eq] at mode
    have other : ∀ m : AccessMode, m ≠ .invoke → m ≠ .construct → op.mode ≠ m := by
      rintro m hi hc rfl
      exact mode.elim hi hc
    exact ⟨fun h => absurd h (other _ (by simp) (by simp)),
      fun h => absurd h (other _ (by simp) (by simp)),
      fun h => absurd h (other _ (by simp) (by simp)), fun _ own => by simp [nested] at own,
      fun _ => .inr requested⟩

end Licences

end Scan

namespace Attempt

/-- What a scan came to know, and what it had told so far. -/
structure Account (P : Platform) where
  catalog : Catalog
  events : List (ScanEvent P)

def after : List (Attempt P) → Bean P → Bean P
  | [], b => b
  | a :: rest, b => after rest (a.bean b)

/-- How much of what it knows in the end the scan has told by then. -/
def account (a : Attempt P) (b : Bean P) (events : List (ScanEvent P)) : Account P :=
  ⟨(a.run b).2.catalog, events⟩

def accounts : List (Attempt P) → Bean P → List (Account P)
  | [], _ => []
  | a :: rest, b => a.account b (a.run b).2.transcript.toList :: accounts rest (a.bean b)

inductive Shows (a : Attempt P) (b : Bean P) : List (ScanEvent P) → Bean P → Prop
  | meanwhile {events rest : List (ScanEvent P)} {bean : Ghost (Bean P)}
      (cut : (a.run b).2.transcript.toList = events ++ .stood bean :: rest) :
      Shows a b events bean.value
  | afterwards : Shows a b (a.run b).2.transcript.toList (a.bean b)

def Account.Entitles (k : Account P) (b : Bean P) (op : Operation P) : Prop :=
  ∃ f : ScanFrame P, f.installer = b.installer ∧ k.catalog.model? b.type = some f.model ∧
    Scan.Origin f b.descriptor k.catalog k.events op ∧
      ∀ r, .bindingRequested r ∈ k.events → Scan.Posed b r

def Account.Licenses (k : Account P) (b : Bean P) (op : Operation P) : Prop :=
  ∃ model, (∀ w, Catalog.modelFor w b.descriptor k.catalog = (.ok model, k.catalog)) ∧
    Scan.Licensed model k.catalog k.events b op

section Entitlement

variable {a : Attempt P} {b bean : Bean P} {events : List (ScanEvent P)} {k : Account P}

theorem Shows.grown (shows : a.Shows b events bean) (linked : b.Linked) :
    b.Extends bean ∧ bean.Linked := by
  apply (linked_observed [a] linked).1
  cases shows with
  | @meanwhile _ _ bean cut =>
    have seen : bean.value ∈ (a.run b).2.seen :=
      List.mem_filterMap.mpr ⟨.stood bean, by simp [cut], rfl⟩
    simp [observed, seen]
  | afterwards => simp [observed]

theorem upright_run (a : Attempt P) (b : Bean P) : Scan.Upright b (a.run b).2 :=
  Ends.state (Scan.Upright b) (Scan.ends_scanBean_upright _ rfl rfl)

/-- The scan was entitled to what it made itself. -/
theorem Shows.entitles (shows : a.Shows b events bean) (linked : b.Linked) {id : Nat}
    {op : Operation P} (new : b.operations.size ≤ id) (ho : bean.operation? id = some op) :
    (a.account b events).Entitles bean op := by
  have grown := (shows.grown linked).1
  have founded : (∃ f : ScanFrame P, f.installer = b.installer ∧
      (a.run b).2.catalog.model? b.type = some f.model ∧
      Scan.Founded f b.descriptor b.operations.size (a.run b).2.catalog events bean) ∨
      bean = b := by
    rcases a.upright_run b with ⟨f, installer, known, warranted⟩ | ⟨same, silent⟩
    · cases shows with
      | meanwhile cut => exact .inl ⟨f, installer, known, warranted.seen _ _ _ cut⟩
      | afterwards => exact .inl ⟨f, installer, known, warranted.founded⟩
    · cases shows with
      | meanwhile cut => simp [silent] at cut
      | afterwards => exact .inr same
  rcases founded with ⟨f, installer, known, founded⟩ | rfl
  · refine ⟨f, installer.trans grown.installer.symm, ?_, ?_, founded.posed⟩
    · rw [Bean.type, grown.descriptor]
      exact known
    · rw [grown.descriptor]
      exact founded.entitled id op new ho
  · exact absurd (Bean.lt_of_operation? ho) (Nat.not_lt.mpr new)

theorem Account.Entitles.mono {later : Bean P} {op op' : Operation P} (h : k.Entitles bean op)
    (grown : bean.Extends later) (grows : op.Grows op') : k.Entitles later op' := by
  obtain ⟨f, installer, known, origin, posed⟩ := h
  refine ⟨f, installer.trans grown.installer.symm, ?_, ?_,
    fun r asked => (posed r asked).mono grown⟩
  · rw [Bean.type, grown.descriptor]
    exact known
  · rw [grown.descriptor]
    exact origin.mono (.refl _) (List.prefix_refl _) grows

theorem Account.Entitles.licenses {op : Operation P} (h : k.Entitles bean op)
    (linked : bean.Linked) : k.Licenses bean op := by
  obtain ⟨f, installer, known, origin, posed⟩ := h
  exact ⟨f.model, Catalog.modelFor_of_known known, origin.licensed installer linked posed⟩

theorem linked_after (attempts : List (Attempt P)) (linked : b.Linked) :
    b.Extends (after attempts b) ∧ (after attempts b).Linked := by
  induction attempts generalizing b with
  | nil => exact ⟨.refl b, linked⟩
  | cons a rest ih =>
    obtain ⟨grown, linked'⟩ := (Shows.afterwards (a := a)).grown linked
    obtain ⟨grown', linked''⟩ := ih linked'
    exact ⟨grown.trans grown', linked''⟩

/-- Each operation is owed to the scan that made it. -/
theorem entitled_after (attempts : List (Attempt P)) (linked : b.Linked) {id : Nat}
    {op : Operation P} (new : b.operations.size ≤ id)
    (ho : (after attempts b).operation? id = some op) :
    ∃ k ∈ accounts attempts b, k.Entitles (after attempts b) op := by
  induction attempts generalizing b with
  | nil => exact absurd (Bean.lt_of_operation? ho) (Nat.not_lt.mpr new)
  | cons a rest ih =>
    have shown : a.Shows b _ (a.bean b) := .afterwards
    have linked' := (shown.grown linked).2
    rcases Nat.lt_or_ge id (a.bean b).operations.size with made | later
    · obtain ⟨first, hf⟩ := Bean.exists_operation? made
      obtain ⟨grown, -⟩ := linked_after rest linked'
      obtain ⟨op', ho', grows⟩ := grown.operations id first hf
      obtain rfl : op' = op := Option.some.inj (ho'.symm.trans ho)
      exact ⟨_, List.mem_cons_self, (shown.entitles linked new hf).mono grown grows⟩
    · obtain ⟨k, hk, entitles⟩ := ih linked' later ho
      exact ⟨k, List.mem_cons_of_mem _ hk, entitles⟩

/-- Whenever a bean can be looked at that started as a new one, each of its operations is owed to
the scan that shows it or to an earlier one. -/
theorem entitled_shown (earlier : List (Attempt P)) {c : ClassDescriptor P} {source : Source P}
    {installer : Party} (shows : a.Shows (after earlier (.fresh c source installer)) events bean)
    {op : Operation P} (ho : op ∈ bean.operations) :
    ∃ k ∈ accounts earlier (.fresh c source installer) ++
        [a.account (after earlier (.fresh c source installer)) events],
      k.Entitles bean op := by
  have empty : (Bean.fresh c source installer).Linked := .of_empty rfl
  obtain ⟨-, linked⟩ := linked_after earlier empty
  obtain ⟨id, found⟩ := Array.getElem?_of_mem ho
  rcases Nat.lt_or_ge id (after earlier (.fresh c source installer)).operations.size with
    made | new
  · obtain ⟨first, hf⟩ := Bean.exists_operation? made
    obtain ⟨k, hk, entitles⟩ := entitled_after earlier empty (Nat.zero_le id) hf
    have grown := (shows.grown linked).1
    obtain ⟨op', ho', grows⟩ := grown.operations id first hf
    obtain rfl : op' = op := Option.some.inj (ho'.symm.trans found)
    exact ⟨k, List.mem_append_left _ hk, entitles.mono grown grows⟩
  · exact ⟨_, List.mem_append_right _ (List.mem_singleton.mpr rfl),
      shows.entitles linked new found⟩

end Entitlement

/-- Whenever the bean can be looked at during the call or after it, each of its operations has what
it needs by the account of this scan or of an earlier one. -/
def AllLicensed (earlier : List (Attempt P)) (a : Attempt P) (b : Bean P) : Prop :=
  ∀ events bean, a.Shows (after earlier b) events bean → ∀ op ∈ bean.operations,
    ∃ k ∈ accounts earlier b ++ [a.account (after earlier b) events], k.Licenses bean op

/-- No operation without a marker that grants it, or a request for it, whatever handlers do. -/
theorem allLicensed_scan (earlier : List (Attempt P)) (a : Attempt P) (c : ClassDescriptor P)
    (source : Source P) (installer : Party) :
    AllLicensed earlier a (.fresh c source installer) := by
  intro events bean shows op ho
  obtain ⟨k, hk, entitles⟩ := entitled_shown earlier shows ho
  have linked := (linked_after earlier (b := .fresh c source installer) (.of_empty rfl)).2
  exact ⟨k, hk, entitles.licenses (shows.grown linked).2⟩

end Attempt

end Injector
