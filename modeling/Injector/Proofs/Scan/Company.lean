import Mathlib.Data.List.Forall2
import Mathlib.Logic.Function.Basic
import Injector.Proofs.Scan.Twins

/-!
# The contributors of twins

They are activated at the same moments, they are shown the same, and so they do the same; what each
of them remembers may differ.
-/

set_option autoImplicit false

namespace Injector

variable {P : Platform}

/-- For each extension, which memories of its handlers are alike. -/
abbrev Sight (P : Platform) := Identity → P.Memory → P.Memory → Prop

/-- The contributors differ at most in how their handlers keep what they know. -/
structure Contributor.Alike (V : Usage P) (sight : Sight P) (c c' : Contributor P) : Prop where
  key : c'.key = c.key
  context : c'.context = c.context
  handler : c.handler.Matches V (sight c.key.type.identity) c'.handler
  memory : sight c.key.type.identity c.handler.memory c'.handler.memory

namespace Scan

def Company (V : Usage P) (sight : Sight P) (cs cs' : List (Contributor P)) : Prop :=
  List.Forall₂ (Contributor.Alike V sight) cs cs'

def Alongside (V : Usage P) (b : Builder P) (s s' : Scan P) : Prop :=
  ∃ sight cs cs', Company V sight cs cs' ∧ Twins V b cs cs' s s'

def Attended (V : Usage P) (b : Builder P) (c c' : Contributor P) (s s' : Scan P) : Prop :=
  ∃ sight cs cs', Company V sight cs cs' ∧ c.Alike V sight c' ∧ Twins V b cs cs' s s'

namespace Company

variable {V : Usage P} {sight : Sight P} {cs cs' : List (Contributor P)} {key : ExtensionKey}

theorem find? (h : Company V sight cs cs') (key : ExtensionKey) :
    (∃ c c', cs.find? (·.key == key) = some c ∧ cs'.find? (·.key == key) = some c' ∧
      c.Alike V sight c') ∨
      cs.find? (·.key == key) = none ∧ cs'.find? (·.key == key) = none := by
  induction h with
  | nil => exact .inr ⟨rfl, rfl⟩
  | @cons c c' rest rest' alike _ ih =>
    rw [List.find?_cons, List.find?_cons, alike.key]
    cases c.key == key with
    | true => exact .inl ⟨c, c', rfl, rfl, alike⟩
    | false => exact ih

/-- Where an extension has no contributor yet, nothing depends on what its handlers know. -/
theorem update (h : Company V sight cs cs') (new : cs.find? (·.key == key) = none)
    (sees : P.Memory → P.Memory → Prop) :
    Company V (Function.update sight key.type.identity sees) cs cs' := by
  induction h with
  | nil => exact .nil
  | @cons c c' rest rest' alike _ ih =>
    rw [List.find?_cons] at new
    split at new
    next => cases new
    next other =>
      have ne : c.key.type.identity ≠ key.type.identity := by
        intro same
        rw [show (c.key == key) = true from TypeKey.beq_iff.mpr same] at other
        cases other
      refine .cons ⟨alike.key, alike.context, ?_, ?_⟩ (ih new)
      · rw [Function.update_of_ne ne]
        exact alike.handler
      · rw [Function.update_of_ne ne]
        exact alike.memory

theorem remember (h : Company V sight cs cs') {c c' : Contributor P} (alike : c.Alike V sight c')
    {memory memory' : P.Memory} (sees : sight c.key.type.identity memory memory') :
    Company V sight (Scan.remember c memory cs) (Scan.remember c' memory' cs') := by
  induction h with
  | nil => exact .nil
  | @cons o o' rest rest' other _ ih =>
    refine .cons ?_ ih
    dsimp only
    rw [other.key, alike.key]
    split
    next own =>
      have same : o.key.type.identity = c.key.type.identity := TypeKey.beq_iff.mp own
      rw [← same] at sees
      exact ⟨rfl, other.context, other.handler.remember memory memory', sees⟩
    next => exact ⟨other.key, other.context, other.handler, other.memory⟩

theorem snoc (h : Company V sight cs cs') {c c' : Contributor P} (alike : c.Alike V sight c') :
    Company V sight (cs ++ [c]) (cs' ++ [c']) := List.rel_append h (.cons alike .nil)

end Company

section Steps

variable {α : Type} {V : Usage P} {b : Builder P} {sight : Sight P} {f f' : ScanFrame P}
  {s s' : Scan P} {cs cs' : List (Contributor P)} {good : α → Prop} {step step' : ScanM P α}
  {key : ExtensionKey} {c c' : Contributor P}

theorem Attended.alongside (h : Attended V b c c' s s') : Alongside V b s s' := by
  obtain ⟨sight, cs, cs', company, -, hs⟩ := h
  exact ⟨sight, cs, cs', company, hs⟩

theorem Attended.context (h : Attended V b c c' s s') : c'.context = c.context := by
  obtain ⟨sight, cs, cs', -, alike, -⟩ := h
  exact alike.context

/-- A step that does not touch contributors. -/
theorem Paired.alongside
    (h : ∀ cs cs', Paired Eq (Twins V b cs cs') good step step') :
    Paired Eq (Alongside V b) good step step' := by
  rintro s s' ⟨sight, cs, cs', company, hs⟩
  apply (h cs cs' s s' hs).mono
  · exact fun _ _ _ _ ⟨same, ha, ht⟩ => ⟨same, ha, sight, cs, cs', company, ht⟩
  · exact fun _ _ ht => ⟨sight, cs, cs', company, ht⟩

/-- A note of what a contributor is shown. -/
theorem together_record (event : ScanEvent P) (hs : Attended V b c c' s s') :
    Together Eq (Scan.record event) (Scan.record event) s s'
      (fun _ _ => Attended V b c c') (Alongside V b) := by
  obtain ⟨sight, cs, cs', company, alike, hs⟩ := hs
  apply (paired_record event s s' hs).mono
  · exact fun _ _ _ _ ht => ⟨sight, cs, cs', company, alike, ht.2.2⟩
  · exact fun _ _ ht => ⟨sight, cs, cs', company, ht⟩

theorem together_install (frames : f.Twins V b f') (regular : b.Regular V)
    (hk : V.extensions key) (hs : Twins V b cs cs' s s') :
    Together Eq (install f key) (install f' key) s s'
      (fun e e' t t' => e.Alike V e' ∧ Twins V b cs cs' t t') (Twins V b cs cs') := by
  unfold install
  rw [together_get, frames.make, frames.make']
  rcases hs.left.obtain_alike regular hs.right hk s.world s'.world with
    ⟨e, e', later, later', u, u', run, run', alike, left, right⟩ | ⟨run, run'⟩
  · rw [run, run']
    exact ⟨alike, { hs with left, right }⟩
  · rw [run, run']
    exact together_throw rfl hs

/-- Both get the handler they brought along, or each gets a fresh one. -/
theorem together_takeHandler (fullAccess : Bool) {e e' : Extension P} (alike : e.Alike V e')
    (hs : Twins V b cs cs' s s') :
    Together Eq (takeHandler fullAccess e) (takeHandler fullAccess e') s s'
      (fun taken taken' t t' => (taken.1.Alike V taken'.1 ∧ taken.2 = taken'.2) ∧
        Twins V b cs cs' t t') (Twins V b cs cs') := by
  have fresh := alike s.world s'.world
  have preset := hs.preset
  unfold takeHandler
  rw [together_get]
  cases fullAccess with
  | false => exact ⟨⟨fresh, rfl⟩, hs.setWorld _ _⟩
  | true =>
    generalize given : s.preset = p at preset
    generalize given' : s'.preset = p' at preset
    cases preset with
    | some own => exact ⟨⟨own, rfl⟩, { hs with preset := .none }⟩
    | none => exact ⟨⟨fresh, rfl⟩, { hs with preset := .none }⟩

/-- How a callback ends is the same, whatever became of the worlds. -/
theorem together_settle {call call' : Call P} {w w' : P.World} (result : Except Error Unit)
    (hs : Twins V b cs cs' s s') {next next' : ScanM P α} {ok : α → α → Scan P → Scan P → Prop}
    {failed : Scan P → Scan P → Prop} (hf : ∀ t t', Twins V b cs cs' t t' → failed t t')
    (h : ∀ t t', Twins V b cs cs' t t' → Together Eq next next' t t' ok failed) :
    Together Eq (close call w >>= fun _ => settle result >>= fun _ => next)
      (close call' w' >>= fun _ => settle result >>= fun _ => next') s s' ok failed := by
  apply ((paired_settle result _ _ (hs.close call call' w w')).imp_failed hf).bind
  rintro _ _ t t' ⟨-, -, ht⟩
  exact h t t' ht

/-- An extension that takes part from now on takes part in both. -/
theorem together_start (frames : f.Twins V b f') (regular : b.Regular V) (hk : V.extensions key)
    (company : Company V sight cs cs') (new : cs.find? (·.key == key) = none)
    (hs : Twins V b cs cs' s s') :
    Together Eq (start f key) (start f' key) s s' (Attended V b)
      (Alongside V b) := by
  have kept : ∀ t t', Twins V b cs cs' t t' → Alongside V b t t' :=
    fun t t' ht => ⟨sight, cs, cs', company, ht⟩
  unfold start
  rw [frames.installer, frames.beanType]
  apply ((together_install frames regular hk hs).imp_failed kept).bind
  rintro e e' t t' ⟨alike, ht⟩
  apply ((together_takeHandler _ alike ht).imp_failed kept).bind
  rintro ⟨handler, given⟩ ⟨handler', given'⟩ t t' ⟨⟨⟨sees, same, memory⟩, rfl⟩, ht⟩
  apply ((paired_record _ t t' ht).imp_failed kept).bind
  rintro _ _ t t' ⟨-, -, ht⟩
  rw [together_get]
  have outcome := same.onStart ⟨f.beanType, key, f.installer, f.installer == .extension key⟩
    handler.memory handler'.memory memory t.world t'.world
  generalize handler.onStart _ _ _ = ended at outcome ⊢
  generalize handler'.onStart _ _ _ = ended' at outcome ⊢
  obtain ⟨result, left, w⟩ := ended
  obtain ⟨_, left', w'⟩ := ended'
  obtain ⟨rfl, sees'⟩ := outcome
  have joined : Contributor.Alike V (Function.update sight key.type.identity sees)
      ⟨key, { handler with memory := left },
        ⟨f.beanType, key, f.installer, f.installer == .extension key⟩⟩
      ⟨key, { handler' with memory := left' },
        ⟨f.beanType, key, f.installer, f.installer == .extension key⟩⟩ := by
    refine ⟨rfl, rfl, ?_, ?_⟩
    · rw [Function.update_self]
      exact same.remember left left'
    · rw [Function.update_self]
      exact sees'
  apply together_settle result ht kept
  intro t t' ht
  exact ⟨_, _, _, (company.update new sees).snoc joined, joined, ht.join _ _⟩

theorem together_activate (frames : f.Twins V b f') (regular : b.Regular V)
    (hk : V.extensions key) (hs : Alongside V b s s') :
    Together Eq (activate f key) (activate f' key) s s' (Attended V b)
      (Alongside V b) := by
  obtain ⟨sight, cs, cs', company, hs⟩ := hs
  unfold activate
  rw [together_get, hs.contributors, hs.contributors']
  rcases company.find? key with ⟨c, c', found, found', alike⟩ | ⟨new, new'⟩
  · rw [found, found']
    exact ⟨sight, cs, cs', company, alike, hs⟩
  · rw [new, new']
    exact together_start frames regular hk company new hs

/-- The contributors ask for the same, get the same replies, and come to the same end. -/
theorem together_converse {Q : Type} {R : Q → Type} {allowed : Q → Prop} {shown : ScanEvent P}
    {callback callback' : P.Memory → P.World → Dialog Q R (Outcome P)}
    {answer : (question : Q) → StateM (Scan P) (R question)}
    (answers : ∀ question, allowed question → Local (Bean.MarkedWithin V.markers) (answer question))
    (mirrors : ∀ sees, c.handler.Matches V sees c'.handler → ∀ m m', sees m m' → ∀ w w',
      Dialog.Mirrors allowed (fun _ => Eq)
        (Outcome.Alike sees) (callback m w) (callback' m' w'))
    (hs : Attended V b c c' s s') :
    Together Eq (converse c shown callback answer) (converse c' shown callback' answer) s s'
      (fun _ _ => Alongside V b) (Alongside V b) := by
  obtain ⟨sight, cs, cs', company, alike, hs⟩ := hs
  have answered : ∀ question, allowed question → ∀ t t', Twins V b cs cs' t t' →
      (answerSeen answer question t).1 = (answerSeen answer question t').1 ∧
        Twins V b cs cs' (answerSeen answer question t).2 (answerSeen answer question t').2 := by
    intro question may t t' ht
    obtain ⟨reply, kept⟩ := ht.local (answers question may)
    exact ⟨reply, kept.observe⟩
  obtain ⟨outcome, held⟩ := (mirrors _ alike.handler _ _ alike.memory s.world s'.world).run
    answered hs.observe
  unfold converse
  show Together Eq (get >>= fun s => liftM observe >>= fun _ => liftM _ >>= fun outcome => _)
    (get >>= fun s => liftM observe >>= fun _ => liftM _ >>= fun outcome => _) s s' _ _
  rw [together_get, together_state, together_state]
  generalize Dialog.run (answerSeen answer) (callback c.handler.memory s.world) (observe s).2 =
    ended at outcome held ⊢
  generalize Dialog.run (answerSeen answer) (callback' c'.handler.memory s'.world) (observe s').2 =
    ended' at outcome held ⊢
  obtain ⟨⟨result, left, w⟩, t⟩ := ended
  obtain ⟨⟨_, left', w'⟩, t'⟩ := ended'
  obtain ⟨rfl, sees⟩ := outcome
  have kept : ∀ s s', Twins V b (remember c left cs) (remember c' left' cs') s s' →
      Alongside V b s s' := fun s s' hs => ⟨sight, _, _, company.remember alike sees, hs⟩
  exact (paired_settle result _ _
    ((held.close (.made c shown s (result, left, w)) (.made c' shown s' (result, left', w')) w
      w').remember c c' left left')).mono
    (fun _ _ t t' ht => kept t t' ht.2.2) kept

/-- The scan is over for both. -/
theorem together_finish (company : Company V sight cs cs') {now now' : List (Contributor P)}
    (hs : Twins V b now now' s s') :
    Together Eq (finish cs) (finish cs') s s' (fun _ _ => Twins V b now now')
      (Twins V b now now') := by
  induction company generalizing s s' with
  | nil => exact hs
  | @cons c c' rest rest' alike _ ih =>
    unfold finish
    rw [alike.context]
    apply (paired_record _ s s' hs).bind
    rintro _ _ t t' ⟨-, -, ht⟩
    rw [together_get]
    have outcome := alike.handler.onEnd c.context _ _ alike.memory t.world t'.world
    generalize c.handler.onEnd _ _ _ = ended at outcome ⊢
    generalize c'.handler.onEnd _ _ _ = ended' at outcome ⊢
    obtain ⟨result, left, w⟩ := ended
    obtain ⟨_, left', w'⟩ := ended'
    obtain ⟨rfl, -⟩ := outcome
    apply together_settle result ht fun _ _ h => h
    exact fun t t' ht => ih ht

end Steps

end Scan

end Injector
