import Mathlib.Data.List.Basic
import Injector.Text.TypeName

/-!
# What the parts of a type name are

Shortening keeps its delimiters and puts the last segment of each path in the place of the path; the
deployable unit and the package are the outer segments of the path that the name begins with.
-/

set_option autoImplicit false

namespace Injector.TypeName

def delimiters : List Char := ['<', '>', ',', ' ', '(', ')', '[', ']', '&']

def separator : List Char := [':', ':']

def segments : List Char → List (List Char)
  | [] => [[]]
  | ':' :: ':' :: rest => [] :: segments rest
  | c :: rest => (segments rest).modifyHead (c :: ·)

def lastSegment (path : List Char) : List Char := (segments path).getLastD []

/-- The parts of a path that is cut at every separator, each taken as early as it can be. -/
structure Cut (path : List Char) (parts : List (List Char)) : Prop where
  joined : separator.intercalate parts = path
  whole : ∀ part ∈ parts, ¬ separator <:+: part
  leftmost : ∀ part ∈ parts.dropLast, part.getLast? ≠ some ':'

section Segments

variable {c : Char} {path rest : List Char}

theorem separator_infix_cons (apart : ∀ more, c = ':' → rest = ':' :: more → False) :
    separator <:+: c :: rest ↔ separator <:+: rest := by
  rw [List.infix_cons_iff, or_iff_right]
  rintro ⟨more, split⟩
  obtain ⟨rfl, rfl⟩ := List.cons.inj split
  exact apart more rfl rfl

theorem exists_segments (path : List Char) :
    ∃ first others, segments path = first :: others := by
  fun_induction segments path with
  | case1 => exact ⟨_, _, rfl⟩
  | case2 => exact ⟨_, _, rfl⟩
  | case3 c rest _ ih =>
    obtain ⟨first, others, cut⟩ := ih
    exact ⟨c :: first, others, by rw [cut, List.modifyHead_cons]⟩

theorem segments_ne_nil (path : List Char) : segments path ≠ [] := by
  obtain ⟨first, others, cut⟩ := exists_segments path
  rw [cut]
  exact List.cons_ne_nil first others

theorem intercalate_segments (path : List Char) : separator.intercalate (segments path) = path := by
  fun_induction segments path with
  | case1 => rfl
  | case2 rest ih =>
    rw [List.intercalate_cons_of_ne_nil (segments_ne_nil rest), ih]
    rfl
  | case3 c rest _ ih =>
    obtain ⟨first, others, cut⟩ := exists_segments rest
    rw [cut] at ih ⊢
    rw [List.modifyHead_cons, List.intercalate_cons_cons_left, ih]

theorem not_separator_infix_segments (path : List Char) :
    ∀ part ∈ segments path, ¬ separator <:+: part := by
  fun_induction segments path with
  | case1 => simp [separator]
  | case2 rest ih => exact List.forall_mem_cons.mpr ⟨by simp [separator], ih⟩
  | case3 c rest apart ih =>
    obtain ⟨first, others, cut⟩ := exists_segments rest
    rw [cut, List.forall_mem_cons] at ih
    rw [cut, List.modifyHead_cons, List.forall_mem_cons]
    refine ⟨?_, ih.2⟩
    rw [separator_infix_cons]
    · exact ih.1
    · rintro more rfl rfl
      have joined := intercalate_segments rest
      rw [cut, List.intercalate_cons_cons_left] at joined
      exact apart _ rfl joined.symm

/-- A first segment that is empty has a separator behind it. -/
theorem exists_of_segments_nil {others : List (List Char)} (more : others ≠ [])
    (cut : segments path = [] :: others) : ∃ rest, path = ':' :: ':' :: rest := by
  unfold segments at cut
  split at cut
  next => exact absurd (List.cons.inj cut).2.symm more
  next => exact ⟨_, rfl⟩
  next c rest _ =>
    obtain ⟨first, others', cut'⟩ := exists_segments rest
    rw [cut', List.modifyHead_cons] at cut
    cases cut

theorem getLast?_segments (path : List Char) :
    ∀ part ∈ (segments path).dropLast, part.getLast? ≠ some ':' := by
  fun_induction segments path with
  | case1 => simp
  | case2 rest ih =>
    rw [List.dropLast_cons_of_ne_nil (segments_ne_nil rest), List.forall_mem_cons]
    exact ⟨by simp, ih⟩
  | case3 c rest apart ih =>
    obtain ⟨first, others, cut⟩ := exists_segments rest
    rw [cut] at ih ⊢
    rw [List.modifyHead_cons]
    by_cases more : others = []
    · simp [more]
    rw [List.dropLast_cons_of_ne_nil more, List.forall_mem_cons] at ih ⊢
    refine ⟨?_, ih.2⟩
    cases first with
    | nil =>
      -- The separator would have begun with this colon.
      intro colon
      obtain ⟨beyond, rfl⟩ := exists_of_segments_nil more cut
      exact apart _ (Option.some.inj colon) rfl
    | cons d first => exact ih.1

theorem cut_segments (path : List Char) : Cut path (segments path) :=
  ⟨intercalate_segments path, not_separator_infix_segments path, getLast?_segments path⟩

theorem lastSegment_mem (path : List Char) : lastSegment path ∈ segments path := by
  have last := List.getLast?_eq_some_getLast (segments_ne_nil path)
  rw [lastSegment, List.getLastD_eq_getLast?, last]
  exact List.getLast_mem (segments_ne_nil path)

theorem subset_intercalate {part : List Char} {parts : List (List Char)} (h : part ∈ parts) :
    part ⊆ separator.intercalate parts := by
  induction parts with
  | nil => cases h
  | cons first others ih =>
    by_cases more : others = []
    · subst more
      rw [List.mem_singleton.mp h, List.intercalate_singleton]
      exact List.Subset.refl first
    rw [List.intercalate_cons_of_ne_nil more, List.append_assoc]
    rcases List.mem_cons.mp h with rfl | h
    · exact List.subset_append_left _ _
    · exact List.Subset.trans (ih h) fun c at_ => by simp [at_]

end Segments

section Shortening

variable {c d : Char} {run segment cs rest : List Char}

theorem isDelimiter_eq (c : Char) : isDelimiter c = delimiters.contains c := by
  simp [isDelimiter, delimiters, Bool.or_assoc, Bool.beq_eq_decide_eq]

theorem ne_colon (delimits : isDelimiter d = true) : d ≠ ':' := by
  rintro rfl
  cases delimits

def Free (run : List Char) : Prop := ∀ c ∈ run, isDelimiter c = false

theorem free_cons : Free (c :: run) ↔ isDelimiter c = false ∧ Free run := List.forall_mem_cons

theorem Free.filter_eq (free : Free run) : run.filter isDelimiter = [] := by
  rw [List.filter_eq_nil_iff]
  intro c at_
  rw [free c at_]
  exact Bool.false_ne_true

theorem Free.lastSegment (free : Free run) : Free (lastSegment run) := by
  intro c at_
  have inside := subset_intercalate (lastSegment_mem run) at_
  rw [intercalate_segments] at inside
  exact free c inside

/-- A name is a run without delimiters, or such a run, a delimiter and a name. -/
@[elab_as_elim]
theorem run_induction {motive : List Char → Prop} (single : ∀ run, Free run → motive run)
    (more : ∀ run d rest, Free run → isDelimiter d = true → motive rest → motive (run ++ d :: rest))
    (cs : List Char) : motive cs := by
  have free : Free [] := List.forall_mem_nil _
  suffices general : ∀ run, Free run → motive (run ++ cs) from general [] free
  induction cs with
  | nil =>
    intro run begun
    rw [List.append_nil]
    exact single run begun
  | cons c cs ih =>
    intro run begun
    cases delimits : isDelimiter c with
    | true => exact more run c cs begun delimits (ih [] free)
    | false =>
      rw [List.append_cons]
      exact ih (run ++ [c]) (List.forall_mem_append.mpr ⟨begun, by simpa using delimits⟩)

theorem shortenFrom_run (free : Free run) :
    shortenFrom segment run = ((segments run).modifyHead (segment ++ ·)).getLastD [] := by
  fun_induction shortenFrom segment run with
  | case1 segment => simp [segments]
  | case2 segment rest ih =>
    rw [free_cons, free_cons] at free
    obtain ⟨first, others, cut⟩ := exists_segments rest
    rw [ih free.2.2, segments, cut]
    simp
  | case3 segment c rest _ delimits _ =>
    have kept := free c List.mem_cons_self
    rw [delimits] at kept
    cases kept
  | case4 segment c rest apart _ ih =>
    rw [ih (free_cons.mp free).2, segments, List.modifyHead_modifyHead]
    · congr 2
      funext path
      simp
    · exact apart

theorem shortenFrom_delimiter (delimits : isDelimiter d = true) :
    shortenFrom segment (d :: rest) = segment ++ d :: shortenFrom [] rest := by
  rw [shortenFrom, if_pos delimits]
  exact fun _ colon => absurd colon (ne_colon delimits)

theorem shortenFrom_append (free : Free run) (delimits : isDelimiter d = true) :
    shortenFrom segment (run ++ d :: rest) =
      shortenFrom segment run ++ d :: shortenFrom [] rest := by
  fun_induction shortenFrom segment run with
  | case1 segment => exact shortenFrom_delimiter delimits
  | case2 segment more ih =>
    rw [free_cons, free_cons] at free
    rw [← ih free.2.2, List.cons_append, List.cons_append, shortenFrom]
  | case3 segment c more _ ends _ =>
    have kept := free c List.mem_cons_self
    rw [ends] at kept
    cases kept
  | case4 segment c more apart plain ih =>
    rw [← ih (free_cons.mp free).2, List.cons_append, shortenFrom, if_neg plain]
    -- No separator comes about, for the delimiter behind the run is no colon.
    rintro beyond rfl split
    cases more with
    | nil => exact ne_colon delimits (List.cons.inj split).1
    | cons e more =>
      obtain ⟨rfl, -⟩ := List.cons.inj split
      exact apart more rfl rfl

theorem shortenChars_run (free : Free run) : shortenChars run = lastSegment run := by
  obtain ⟨first, others, cut⟩ := exists_segments run
  rw [shortenChars, shortenFrom_run free, lastSegment, cut]
  simp

theorem shortenChars_append (free : Free run) (delimits : isDelimiter d = true) :
    shortenChars (run ++ d :: rest) = lastSegment run ++ d :: shortenChars rest := by
  rw [shortenChars, shortenFrom_append free delimits]
  exact congrArg (· ++ d :: shortenChars rest) (shortenChars_run free)

theorem filter_shortenChars (cs : List Char) :
    (shortenChars cs).filter isDelimiter = cs.filter isDelimiter := by
  induction cs using run_induction with
  | single run free => rw [shortenChars_run free, free.filter_eq, free.lastSegment.filter_eq]
  | more run d rest free delimits ih =>
    rw [shortenChars_append free delimits, List.filter_append, List.filter_append, free.filter_eq,
      free.lastSegment.filter_eq, List.filter_cons_of_pos delimits,
      List.filter_cons_of_pos delimits, ih]

theorem splitOnP_shortenChars (cs : List Char) :
    (shortenChars cs).splitOnP isDelimiter = (cs.splitOnP isDelimiter).map lastSegment := by
  induction cs using run_induction with
  | single run free =>
    rw [shortenChars_run free, List.splitOnP_eq_singleton free,
      List.splitOnP_eq_singleton free.lastSegment, List.map_singleton]
  | more run d rest free delimits ih =>
    rw [shortenChars_append free delimits,
      List.splitOnP_append_cons_of_forall_mem free d delimits,
      List.splitOnP_append_cons_of_forall_mem free.lastSegment d delimits, List.map_cons, ih]

theorem separator_infix_append {xs ys : List Char} (other : d ≠ ':')
    (h : separator <:+: xs ++ d :: ys) : separator <:+: xs ∨ separator <:+: ys := by
  rcases List.infix_append_iff.mp h with within | within | ⟨left, right, split, ends, begins⟩
  · exact .inl within
  · exact .inr ((separator_infix_cons fun _ colon => absurd colon other).mp within)
  · cases right with
    | nil =>
      rw [List.append_nil] at split
      exact .inl (split ▸ ends.isInfix)
    | cons c right =>
      obtain ⟨more, same⟩ := begins
      obtain ⟨rfl, -⟩ := List.cons.inj same
      have colon : c ∈ separator := split ▸ List.mem_append_right left List.mem_cons_self
      exact absurd (List.eq_of_mem_replicate (n := 2) colon) other

theorem not_separator_infix_shortenChars (cs : List Char) : ¬ separator <:+: shortenChars cs := by
  induction cs using run_induction with
  | single run free =>
    rw [shortenChars_run free]
    exact not_separator_infix_segments run _ (lastSegment_mem run)
  | more run d rest free delimits ih =>
    rw [shortenChars_append free delimits]
    intro inside
    rcases separator_infix_append (ne_colon delimits) inside with inside | inside
    · exact not_separator_infix_segments run _ (lastSegment_mem run) inside
    · exact ih inside

/-- Without a separator there is nothing to drop. -/
theorem shortenFrom_eq_append (whole : ¬ separator <:+: cs) :
    shortenFrom segment cs = segment ++ cs := by
  fun_induction shortenFrom segment cs with
  | case1 segment => rw [List.append_nil]
  | case2 segment rest _ => exact absurd ⟨[], rest, rfl⟩ whole
  | case3 segment c rest apart _ ih =>
    rw [separator_infix_cons apart] at whole
    rw [ih whole, List.nil_append]
  | case4 segment c rest apart _ ih =>
    rw [separator_infix_cons apart] at whole
    rw [ih whole, List.append_assoc, List.singleton_append]

structure Shortens (name : String) : Prop where
  delimiters : (shorten name).toList.filter (delimiters.contains ·) =
    name.toList.filter (delimiters.contains ·)
  runs : (shorten name).toList.splitOnP (TypeName.delimiters.contains ·) =
    (name.toList.splitOnP (TypeName.delimiters.contains ·)).map lastSegment
  whole : ¬ separator <:+: (shorten name).toList
  stable : shorten (shorten name) = shorten name

theorem toList_shorten (name : String) : (shorten name).toList = shortenChars name.toList :=
  String.toList_ofList

theorem shortens (name : String) : Shortens name := by
  have delimits : (delimiters.contains ·) = isDelimiter := funext fun c => (isDelimiter_eq c).symm
  have whole := not_separator_infix_shortenChars name.toList
  constructor
  case delimiters =>
    rw [toList_shorten, delimits]
    exact filter_shortenChars name.toList
  case runs =>
    rw [toList_shorten, delimits]
    exact splitOnP_shortenChars name.toList
  case whole =>
    rw [toList_shorten]
    exact whole
  case stable =>
    rw [shorten, toList_shorten, shortenChars, shortenFrom_eq_append whole]
    rfl

example : shorten "core::Option<(&app::Wheel, i32)>" = "Option<(&Wheel, i32)>" := by decide

end Shortening

section Paths

variable {segment rest path : List Char} {parts : List (List Char)}

theorem beforeFirstSeparator_of_plain (plain : ':' ∉ segment) :
    beforeFirstSeparator segment = none := by
  induction segment with
  | nil => rfl
  | cons c segment ih =>
    rw [List.mem_cons, not_or] at plain
    rw [beforeFirstSeparator, ih plain.2, Option.map_none]
    exact fun _ colon => absurd colon.symm plain.1

theorem beforeFirstSeparator_append (plain : ':' ∉ segment) :
    beforeFirstSeparator (segment ++ (separator ++ rest)) = some segment := by
  induction segment with
  | nil => rfl
  | cons c segment ih =>
    rw [List.mem_cons, not_or] at plain
    rw [List.cons_append, beforeFirstSeparator, ih plain.2, Option.map_some]
    exact fun _ colon => absurd colon.symm plain.1

theorem beforeLastSeparator_of_plain (plain : ':' ∉ segment) :
    beforeLastSeparator segment = none := by
  induction segment with
  | nil => rfl
  | cons c segment ih =>
    rw [List.mem_cons, not_or] at plain
    rw [beforeLastSeparator, ih plain.2]
    exact if_neg fun both => plain.1 both.1.symm

theorem beforeLastSeparator_append (path : List Char) (plain : ':' ∉ segment) :
    beforeLastSeparator (path ++ (separator ++ segment)) = some path := by
  induction path with
  | nil =>
    have colon : beforeLastSeparator (':' :: segment) = none := by
      rw [beforeLastSeparator, beforeLastSeparator_of_plain plain]
      exact if_neg fun both => plain (List.mem_of_mem_head? both.2)
    show beforeLastSeparator (':' :: ':' :: segment) = some []
    rw [beforeLastSeparator, colon]
    exact if_pos ⟨rfl, rfl⟩
  | cons c path ih => rw [List.cons_append, beforeLastSeparator, ih]

theorem forall_mem_intercalate {p : Char → Prop} (between : ∀ c ∈ separator, p c)
    (each : ∀ part ∈ parts, ∀ c ∈ part, p c) : ∀ c ∈ separator.intercalate parts, p c := by
  induction parts with
  | nil => exact List.forall_mem_nil _
  | cons first others ih =>
    rw [List.forall_mem_cons] at each
    by_cases more : others = []
    · subst more
      rw [List.intercalate_singleton]
      exact each.1
    · rw [List.intercalate_cons_of_ne_nil more, List.forall_mem_append, List.forall_mem_append]
      exact ⟨⟨each.1, between⟩, ih each.2⟩

/-- The arguments of a type, if there are any, begin where its path ends. -/
theorem outerPath_append {arguments : List Char} (plain : ∀ c ∈ path, c ≠ '<')
    (opened : ∀ c, arguments.head? = some c → c = '<') : outerPath (path ++ arguments) = path := by
  rw [outerPath, List.takeWhile_append_of_pos fun c at_ => bne_iff_ne.mpr (plain c at_)]
  cases arguments with
  | nil => rw [List.takeWhile_nil, List.append_nil]
  | cons c arguments =>
    rw [opened c rfl, List.takeWhile_cons_of_neg (by decide), List.append_nil]

end Paths

def Plain (segment : String) : Prop := ∀ c ∈ segment.toList, c ≠ ':' ∧ c ∉ delimiters

theorem Plain.colon_notMem {segment : String} (plain : Plain segment) : ':' ∉ segment.toList :=
  fun at_ => (plain ':' at_).1 rfl

structure Locates (path : List String) (name : String) : Prop where
  unit : 1 < path.length → path.head? = some (moduleOf name)
  package : packageOf name = "::".intercalate path.dropLast
  alone : path.length = 1 → moduleOf name = "" ∧ packageOf name = ""

theorem outerPath_intercalate {path : List String} {arguments : String}
    (plain : ∀ segment ∈ path, Plain segment)
    (opened : ∀ c, arguments.toList.head? = some c → c = '<') :
    outerPath ("::".intercalate path ++ arguments).toList = ("::".intercalate path).toList := by
  rw [String.toList_append]
  apply outerPath_append _ opened
  rw [String.toList_intercalate]
  refine forall_mem_intercalate (p := (· ≠ '<')) (by simp [separator]) ?_
  intro part at_ c inside
  obtain ⟨segment, listed, rfl⟩ := List.mem_map.mp at_
  rintro rfl
  exact (plain segment listed '<' inside).2 (by decide)

theorem locates {path : List String} {arguments : String} (nonempty : path ≠ [])
    (plain : ∀ segment ∈ path, Plain segment)
    (opened : ∀ c, arguments.toList.head? = some c → c = '<') :
    Locates path ("::".intercalate path ++ arguments) := by
  have outer := outerPath_intercalate plain opened
  have alone : ∀ segment, path = [segment] →
      moduleOf ("::".intercalate path ++ arguments) = "" ∧
        packageOf ("::".intercalate path ++ arguments) = "" := by
    rintro segment rfl
    have colon := (plain segment List.mem_cons_self).colon_notMem
    rw [moduleOf, packageOf, outer, String.intercalate_singleton,
      beforeFirstSeparator_of_plain colon, beforeLastSeparator_of_plain colon]
    exact ⟨rfl, rfl⟩
  constructor
  case unit =>
    intro long
    match path, long with
    | first :: second :: others, _ =>
      have colon := (plain first List.mem_cons_self).colon_notMem
      rw [moduleOf, outer, String.intercalate_cons_cons, String.append_assoc, String.toList_append,
        String.toList_append]
      show _ = some (String.ofList ((beforeFirstSeparator (_ ++ (separator ++ _))).getD []))
      rw [beforeFirstSeparator_append colon, Option.getD_some, String.ofList_toList]
      rfl
  case package =>
    obtain ⟨init, last, rfl⟩ := (List.eq_nil_or_concat' path).resolve_left nonempty
    rw [List.dropLast_concat]
    by_cases single : init = []
    · subst single
      exact (alone last rfl).2
    · have colon := (plain last (by simp)).colon_notMem
      rw [packageOf, outer, String.intercalate_append_of_ne_nil single (List.cons_ne_nil _ _),
        String.intercalate_singleton, String.append_assoc, String.toList_append,
        String.toList_append]
      show String.ofList ((beforeLastSeparator (_ ++ (separator ++ _))).getD []) = _
      rw [beforeLastSeparator_append _ colon, Option.getD_some, String.ofList_toList]
  case alone =>
    intro single
    obtain ⟨segment, only⟩ := List.length_eq_one_iff.mp single
    exact alone segment only

/-- Names are shortened path by path, and tell the unit and the package of their type. -/
theorem shortens_and_locates :
    (∀ path : List Char, Cut path (segments path)) ∧ (∀ name : String, Shortens name) ∧
      ∀ (path : List String) (arguments : String), path ≠ [] →
        (∀ segment ∈ path, Plain segment) →
        (∀ c, arguments.toList.head? = some c → c = '<') →
          Locates path ("::".intercalate path ++ arguments) :=
  ⟨cut_segments, shortens, fun _ _ nonempty plain opened => locates nonempty plain opened⟩

theorem shortens_and_locates_wheel :
    (∀ segment ∈ ["app", "parts", "Wheel"], Plain segment) ∧
      Locates ["app", "parts", "Wheel"] "app::parts::Wheel<app::Rim>" := by
  have plain : ∀ segment ∈ ["app", "parts", "Wheel"], Plain segment := by
    simp [Plain, delimiters]
  have written : "::".intercalate ["app", "parts", "Wheel"] ++ "<app::Rim>" =
      "app::parts::Wheel<app::Rim>" := by decide
  have located := shortens_and_locates.2.2 ["app", "parts", "Wheel"] "<app::Rim>"
    (List.cons_ne_nil _ _) plain fun c first => by
      cases first
      rfl
  rw [written] at located
  exact ⟨plain, located⟩

end Injector.TypeName
