import Injector.Scan.Basic
import Injector.Proofs.Class.Interfaces

/-!
# Which methods are matched

The walk over the methods keeps sets of what it has seen; what it keeps is read off the list it
walks alone: a method stands if nothing before it overrides it.
-/

set_option autoImplicit false

namespace Injector

variable {P : Platform}

namespace DeclaredMethod

def isPublic (m : DeclaredMethod P) : Bool := m.method.visibility == .anyone

def Leads (kind : DeclaredMethod P → Bool) (hidden : List Signature)
    (earlier : List (DeclaredMethod P)) (m : DeclaredMethod P) : Prop :=
  kind m ∧ m.signature ∉ hidden ∧ ∀ e ∈ earlier, kind e → e.signature ≠ m.signature

instance (kind : DeclaredMethod P → Bool) (hidden : List Signature)
    (earlier : List (DeclaredMethod P)) (m : DeclaredMethod P) :
    Decidable (Leads kind hidden earlier m) := inferInstanceAs (Decidable (_ ∧ _))

/-- A method that is not public and that nothing overrides: not one seen publicly, unless it is
private, and not an earlier one that reaches it. -/
def Stands (hidden : List Signature) (earlier : List (DeclaredMethod P))
    (m : DeclaredMethod P) : Prop :=
  (m.method.visibility = .subclasses ∧ m.signature ∉ hidden ∧
    ∀ e ∈ earlier, e.method.visibility = .subclasses → e.signature ≠ m.signature) ∨
  (m.method.visibility = .package ∧ m.signature ∉ hidden ∧
    (∀ e ∈ earlier, e.method.visibility = .subclasses → e.signature ≠ m.signature) ∧
    ∀ e ∈ earlier, e.method.visibility = .package → e.owner.package = m.owner.package →
      e.signature ≠ m.signature) ∨
  m.method.visibility = .declarer

instance (hidden : List Signature) (earlier : List (DeclaredMethod P)) (m : DeclaredMethod P) :
    Decidable (Stands hidden earlier m) := inferInstanceAs (Decidable (_ ∨ _))

/-- A set of signatures holds what was hidden from the start and every method of the kind so far,
whether or not it was kept. -/
def Records (kind : DeclaredMethod P → Bool) (hidden : List Signature)
    (earlier : List (DeclaredMethod P)) (seen : List Signature) : Prop :=
  ∀ σ, σ ∈ seen ↔ σ ∈ hidden ∨ ∃ e ∈ earlier, kind e ∧ e.signature = σ

section Records

variable {kind : DeclaredMethod P → Bool} {hidden seen : List Signature}
  {earlier : List (DeclaredMethod P)} {m : DeclaredMethod P}

theorem Records.of_not_kind (h : Records kind hidden earlier seen) (other : ¬ kind m) :
    Records kind hidden (earlier ++ [m]) seen := by
  intro σ
  simp [h σ, or_and_right, exists_or, other]

theorem Records.of_mem (h : Records kind hidden earlier seen) (old : m.signature ∈ seen) :
    Records kind hidden (earlier ++ [m]) seen := by
  intro σ
  have : m.signature = σ → σ ∈ seen := fun e => e ▸ old
  grind [h σ]

theorem Records.cons (h : Records kind hidden earlier seen) (new : kind m) :
    Records kind hidden (earlier ++ [m]) (m.signature :: seen) := by
  intro σ
  grind [h σ]

theorem Records.leads_iff (h : Records kind hidden earlier seen) (ofKind : kind m) :
    Leads kind hidden earlier m ↔ m.signature ∉ seen := by
  rw [h m.signature, Leads]
  grind

theorem firsts_eq_standing (h : Records kind hidden earlier seen)
    (list : List (DeclaredMethod P)) :
    firsts seen (list.filter kind) = standing (Leads kind hidden) earlier list := by
  induction list generalizing seen earlier with
  | nil => rfl
  | cons m rest ih =>
    rw [standing]
    by_cases ofKind : kind m
    · rw [List.filter_cons_of_pos ofKind, firsts]
      by_cases old : m.signature ∈ seen
      · rw [if_pos (List.elem_iff.mpr old), if_neg (fun leads => (h.leads_iff ofKind).mp leads old),
          ih (h.of_mem old)]
      · rw [if_neg (mt List.elem_iff.mp old), if_pos ((h.leads_iff ofKind).mpr old),
          ih (h.cons ofKind)]
    · rw [List.filter_cons_of_neg ofKind, if_neg (fun leads => ofKind leads.1),
        ih (h.of_not_kind ofKind)]

end Records

theorem mem_map_signature_firsts {seen : List Signature} {list : List (DeclaredMethod P)}
    {σ : Signature} :
    σ ∈ (firsts seen list).map (·.signature) ↔ σ ∉ seen ∧ σ ∈ list.map (·.signature) := by
  induction list generalizing seen with
  | nil => simp [firsts]
  | cons m rest ih =>
    rw [firsts]
    split
    · rw [ih]
      grind
    · rw [List.map_cons, List.mem_cons, ih]
      grind

/-- The sets kept while the methods that are not public are walked. What is hidden is not
recorded, and neither is a package method that a protected one hides. -/
structure Reserves (hidden : List Signature) (earlier : List (DeclaredMethod P))
    (guarded : List Signature) (packaged : List (String × Signature)) : Prop where
  guarded_iff : ∀ σ ∉ hidden, σ ∈ guarded ↔
    ∃ e ∈ earlier, e.method.visibility = .subclasses ∧ e.signature = σ
  packaged_iff : ∀ package, ∀ σ ∉ hidden, σ ∉ guarded → ((package, σ) ∈ packaged ↔
    ∃ e ∈ earlier, e.method.visibility = .package ∧ e.owner.package = package ∧ e.signature = σ)

section Reserves

variable {hidden guarded : List Signature} {packaged : List (String × Signature)}
  {earlier : List (DeclaredMethod P)} {m : DeclaredMethod P}

theorem Reserves.stands_iff_of_subclasses (h : Reserves hidden earlier guarded packaged)
    (visible : m.method.visibility = .subclasses) :
    Stands hidden earlier m ↔ m.signature ∉ hidden ∧ m.signature ∉ guarded := by
  simp only [Stands, visible]
  grind [h.guarded_iff m.signature]

theorem Reserves.stands_iff_of_package (h : Reserves hidden earlier guarded packaged)
    (visible : m.method.visibility = .package) :
    Stands hidden earlier m ↔ m.signature ∉ hidden ∧ m.signature ∉ guarded ∧
      (m.owner.package, m.signature) ∉ packaged := by
  simp only [Stands, visible]
  grind [h.guarded_iff m.signature, h.packaged_iff m.owner.package m.signature]

theorem Reserves.of_not_stands (h : Reserves hidden earlier guarded packaged)
    (hides : ¬ Stands hidden earlier m) : Reserves hidden (earlier ++ [m]) guarded packaged where
  guarded_iff σ free := by grind [Stands, h.guarded_iff σ free]
  packaged_iff package σ free unguarded := by
    grind [Stands, h.guarded_iff σ free, h.packaged_iff package σ free unguarded]

theorem Reserves.of_declarer (h : Reserves hidden earlier guarded packaged)
    (own : m.method.visibility = .declarer) :
    Reserves hidden (earlier ++ [m]) guarded packaged where
  guarded_iff σ free := by grind [h.guarded_iff σ free]
  packaged_iff package σ free unguarded := by grind [h.packaged_iff package σ free unguarded]

theorem Reserves.guard (h : Reserves hidden earlier guarded packaged)
    (visible : m.method.visibility = .subclasses) :
    Reserves hidden (earlier ++ [m]) (m.signature :: guarded) packaged where
  guarded_iff σ free := by grind [h.guarded_iff σ free]
  packaged_iff package σ free unguarded := by
    grind [h.packaged_iff package σ free (fun old => unguarded (.tail _ old))]

theorem Reserves.enclose (h : Reserves hidden earlier guarded packaged)
    (visible : m.method.visibility = .package) :
    Reserves hidden (earlier ++ [m]) guarded
      ((m.owner.package, m.signature) :: packaged) where
  guarded_iff σ free := by grind [h.guarded_iff σ free]
  packaged_iff package σ free unguarded := by grind [h.packaged_iff package σ free unguarded]

theorem unhidden_eq_standing (h : Reserves hidden earlier guarded packaged)
    (list : List (DeclaredMethod P)) :
    unhidden hidden guarded packaged list = standing (Stands hidden) earlier list := by
  induction list generalizing guarded packaged earlier with
  | nil => rfl
  | cons m rest ih =>
    rw [unhidden, standing]
    split
    next visible =>
      have hides : ¬ Stands hidden earlier m := by simp [Stands, visible]
      rw [if_neg hides, ih (h.of_not_stands hides)]
    next visible =>
      have stands : Stands hidden earlier m := by simp [Stands, visible]
      rw [if_pos stands, ih (h.of_declarer visible)]
    next visible =>
      have decided : (hidden.contains m.signature || guarded.contains m.signature) = true ↔
          ¬ Stands hidden earlier m := by
        rw [h.stands_iff_of_subclasses visible]
        grind
      by_cases stands : Stands hidden earlier m
      · rw [if_pos stands, if_neg (fun hides => decided.mp hides stands), ih (h.guard visible)]
      · rw [if_neg stands, if_pos (decided.mpr stands), ih (h.of_not_stands stands)]
    next visible =>
      have decided : (hidden.contains m.signature || guarded.contains m.signature ||
          packaged.contains (m.owner.package, m.signature)) = true ↔
          ¬ Stands hidden earlier m := by
        rw [h.stands_iff_of_package visible]
        grind
      by_cases stands : Stands hidden earlier m
      · rw [if_pos stands, if_neg (fun hides => decided.mp hides stands), ih (h.enclose visible)]
      · rw [if_neg stands, if_pos (decided.mpr stands), ih (h.of_not_stands stands)]

end Reserves

end DeclaredMethod

namespace ClassDescriptor

/-- The methods of the hierarchy that belong to the class: those of the class itself, and what is
not static of its superclasses. By level, the class first. -/
def eligibleMethods (c : ClassDescriptor P) : List (DeclaredMethod P) :=
  c.levels.zipIdx.flatMap fun (level, depth) =>
    level.declaredMethods.filter fun m => !m.method.isStatic || depth == 0

def interfaceMethods (c : ClassDescriptor P) : List (DeclaredMethod P) :=
  c.allInterfaces.flatMap declaredMethods

theorem classMethods_eq_eligibleMethods (c : ClassDescriptor P) :
    c.classMethods = c.eligibleMethods := by
  have above : ∀ (levels : List (ClassDescriptor P)) (depth : Nat),
      ((levels.zipIdx (depth + 1)).flatMap fun (level, depth) =>
        level.declaredMethods.filter fun m => !m.method.isStatic || depth == 0) =
      levels.flatMap fun level => level.declaredMethods.filter (!·.method.isStatic) := by
    intro levels
    induction levels with
    | nil => intro depth; rfl
    | cons level rest ih => intro depth; simp [ih]
  rw [classMethods, inheritedMethods, eligibleMethods, levels_eq, List.zipIdx_cons,
    List.flatMap_cons, above]
  refine congrArg (· ++ _) (List.filter_eq_self.mpr ?_).symm
  simp

def publicWalk (c : ClassDescriptor P) : List (DeclaredMethod P) :=
  standing (DeclaredMethod.Leads DeclaredMethod.isPublic []) [] c.eligibleMethods

def defaultWalk (c : ClassDescriptor P) : List (DeclaredMethod P) :=
  standing (DeclaredMethod.Leads DeclaredMethod.isOffered
    ((c.eligibleMethods.filter (·.isPublic)).map (·.signature))) [] c.interfaceMethods

def reservedWalk (c : ClassDescriptor P) : List (DeclaredMethod P) :=
  standing (DeclaredMethod.Stands ((c.publicWalk ++ c.defaultWalk).map (·.signature))) []
    c.eligibleMethods

theorem publicMethods_eq_publicWalk (c : ClassDescriptor P) :
    c.publicMethods = c.publicWalk := by
  have start : DeclaredMethod.Records (P := P) DeclaredMethod.isPublic [] [] [] := by
    intro σ
    simp
  rw [publicMethods, classMethods_eq_eligibleMethods]
  exact DeclaredMethod.firsts_eq_standing start c.eligibleMethods

theorem offeredMethods_eq_defaultWalk (c : ClassDescriptor P) :
    c.offeredMethods = c.defaultWalk := by
  have start : DeclaredMethod.Records (P := P) DeclaredMethod.isOffered
      ((c.eligibleMethods.filter (·.isPublic)).map (·.signature)) []
      (c.publicMethods.map (·.signature)) := by
    intro σ
    rw [publicMethods, classMethods_eq_eligibleMethods, DeclaredMethod.mem_map_signature_firsts]
    simp [DeclaredMethod.isPublic]
  exact DeclaredMethod.firsts_eq_standing start c.interfaceMethods

theorem reservedMethods_eq_reservedWalk (c : ClassDescriptor P) :
    c.reservedMethods = c.reservedWalk := by
  have start : DeclaredMethod.Reserves (P := P)
      ((c.publicWalk ++ c.defaultWalk).map (·.signature)) [] [] [] := by
    constructor <;> simp
  rw [reservedMethods, publicMethods_eq_publicWalk, offeredMethods_eq_defaultWalk,
    classMethods_eq_eligibleMethods]
  exact DeclaredMethod.unhidden_eq_standing start c.eligibleMethods

/-- A scan is handed, in this order, the public methods that nothing overrides, the default
methods of the interfaces that nothing overrides, and what else nothing hides. -/
theorem methodWalk_exact (c : ClassDescriptor P) :
    c.methodWalk = c.publicWalk ++ c.defaultWalk ++ c.reservedWalk ∧
      ∀ f, Scan.scanMembers f c = (do
        c.fieldWalk.forM (Scan.matchField f)
        (c.publicWalk ++ c.defaultWalk ++ c.reservedWalk).forM (Scan.matchMethod f)
        Scan.drain f) := by
  have walk : c.methodWalk = c.publicWalk ++ c.defaultWalk ++ c.reservedWalk := by
    rw [methodWalk, publicMethods_eq_publicWalk, offeredMethods_eq_defaultWalk,
      reservedMethods_eq_reservedWalk]
  exact ⟨walk, fun f => by rw [Scan.scanMembers, walk]⟩

end ClassDescriptor

end Injector
