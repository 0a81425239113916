import Mathlib.Algebra.Group.Nat.Even
import RecordSql.Proofs.Text.Pieces

/-!
Splitting at top level. A place in a text is at top level when the quotes before it are even in number and no
parenthesis outside of them is open. Splitting undoes joining, and cuts just where a separator is at top
level.
-/
namespace RecordSql.Text

def outsideQuotes : Bool → List Char → List Char
  | _, [] => []
  | quoted, c :: cs =>
    if c = '\'' then outsideQuotes (!quoted) cs
    else if quoted then outsideQuotes quoted cs
    else c :: outsideQuotes quoted cs

/-- How many parentheses are open after a text before which `depth` are. Closing one too many is ignored. -/
def openParens (depth : Nat) (cs : List Char) : Nat :=
  cs.foldl (fun depth c => if c = '(' then depth + 1 else if c = ')' then depth - 1 else depth) depth

/-- After this text neither a quote nor a parenthesis is open. -/
structure AtTop (before : List Char) : Prop where
  quotes : Even (before.count '\'')
  parens : openParens 0 (outsideQuotes false before) = 0

instance (before : List Char) : Decidable (AtTop before) :=
  decidable_of_iff (Even (before.count '\'') ∧ openParens 0 (outsideQuotes false before) = 0)
    ⟨fun ⟨quotes, parens⟩ => ⟨quotes, parens⟩, fun ⟨quotes, parens⟩ => ⟨quotes, parens⟩⟩

structure TopLevelPart (sep : Char) (part : List Char) : Prop where
  trimmed : trim part = part
  closed : AtTop part
  whole : ∀ before after, part = before ++ sep :: after → ¬ AtTop before

def separatorCount (sep : Char) (cs : List Char) : Nat :=
  (List.range cs.length).countP fun i => cs[i]? = some sep ∧ AtTop (cs.take i)

theorem quoted_foldl_after (here : Nesting) (cs : List Char) :
    (cs.foldl Nesting.after here).quoted = true ↔ (here.quoted = true ↔ Even (cs.count '\'')) := by
  induction cs generalizing here with
  | nil => simp
  | cons c cs ih =>
    rw [List.foldl_cons, ih]
    by_cases quote : c = '\''
    · subst quote
      rw [List.count_cons_self, Nat.even_add_one]
      simp only [Nesting.after, if_true, Bool.not_eq_true', ← Bool.not_eq_true]
      tauto
    · rw [List.count_cons_of_ne quote]
      have kept : (here.after c).quoted = here.quoted := by
        simp only [Nesting.after, quote, if_false]
        split_ifs <;> rfl
      rw [kept]

theorem depth_foldl_after (here : Nesting) (cs : List Char) :
    (cs.foldl Nesting.after here).depth = openParens here.depth (outsideQuotes here.quoted cs) := by
  induction cs generalizing here with
  | nil => rfl
  | cons c cs ih =>
    rw [List.foldl_cons, ih]
    by_cases quote : c = '\''
    · simp [Nesting.after, outsideQuotes, quote]
    · cases quoted : here.quoted with
      | true => simp [Nesting.after, outsideQuotes, quote, quoted]
      | false =>
        simp only [Nesting.after, outsideQuotes, openParens, quote, quoted, if_false, List.foldl_cons,
          Bool.false_eq_true]
        split_ifs <;> simp_all

theorem isTop_foldl_after {cs : List Char} : (cs.foldl Nesting.after {}).isTop = true ↔ AtTop cs := by
  rw [Nesting.isTop, Bool.and_eq_true, Bool.not_eq_true', ← Bool.not_eq_true, quoted_foldl_after, beq_iff_eq,
    depth_foldl_after]
  constructor
  · rintro ⟨quotes, parens⟩
    exact ⟨by simpa using quotes, parens⟩
  · rintro ⟨quotes, parens⟩
    exact ⟨by simpa using quotes, parens⟩

theorem topLevelPart_iff {sep : Char} (separator : isNestingMark sep = false) {part : List Char} :
    TopLevelPart sep part ↔ trim part = part ∧ AtTop part ∧ unbroken sep {} part = true := by
  have whole : unbroken sep {} part = true ↔
      ∀ before after, part = before ++ sep :: after → ¬ AtTop before := by
    simp only [unbroken_iff separator, ← Bool.not_eq_true, isTop_foldl_after]
  rw [whole]
  constructor
  · rintro ⟨trimmed, closed, whole⟩
    exact ⟨trimmed, closed, whole⟩
  · rintro ⟨trimmed, closed, whole⟩
    exact ⟨trimmed, closed, whole⟩

theorem TopLevelPart.isPart {sep : Char} (separator : isNestingMark sep = false) {part : List Char}
    (valid : TopLevelPart sep part) : IsPart sep part where
  whole := ((topLevelPart_iff separator).mp valid).2.2
  closed := by
    have top := isTop_foldl_after.mpr valid.closed
    simp only [Nesting.isTop, Bool.and_eq_true, Bool.not_eq_true', beq_iff_eq] at top
    generalize part.foldl Nesting.after {} = here at top
    obtain ⟨depth, quoted⟩ := here
    obtain ⟨rfl, rfl⟩ := top
    rfl

theorem intercalate_extendFirst (sep c : Char) {pieces : List (List Char)} (some : pieces ≠ []) :
    [sep].intercalate (extendFirst c pieces) = c :: [sep].intercalate pieces := by
  cases pieces with
  | nil => exact absurd rfl some
  | cons piece pieces =>
    rw [extendFirst, intercalate_eq_flatMap, intercalate_eq_flatMap, List.cons_append]

theorem intercalate_nil_cons (sep : Char) {pieces : List (List Char)} (some : pieces ≠ []) :
    [sep].intercalate ([] :: pieces) = sep :: [sep].intercalate pieces := by
  cases pieces with
  | nil => exact absurd rfl some
  | cons piece pieces => simp [intercalate_eq_flatMap]

theorem length_extendFirst (c : Char) {pieces : List (List Char)} (some : pieces ≠ []) :
    (extendFirst c pieces).length = pieces.length := by
  cases pieces with
  | nil => exact absurd rfl some
  | cons piece pieces => rfl

theorem intercalate_topLevelPieces (sep : Char) (here : Nesting) (cs : List Char) :
    [sep].intercalate (topLevelPieces sep here cs) = cs := by
  induction cs generalizing here with
  | nil => rfl
  | cons c cs ih =>
    rw [topLevelPieces]
    split
    · rename_i separates
      simp only [separatesAt, Bool.and_eq_true, beq_iff_eq] at separates
      rw [intercalate_nil_cons sep (topLevelPieces_ne_nil _ _ _), ih, separates.1.1]
    · rw [intercalate_extendFirst sep c (topLevelPieces_ne_nil _ _ _), ih]

def cutsAt (sep : Char) (here : Nesting) (cs : List Char) (index : Nat) : Bool :=
  cs[index]? == some sep && ((cs.take index).foldl Nesting.after here).isTop

theorem length_topLevelPieces {sep : Char} (separator : isNestingMark sep = false) (here : Nesting)
    (cs : List Char) :
    (topLevelPieces sep here cs).length = (List.range cs.length).countP (cutsAt sep here cs) + 1 := by
  induction cs generalizing here with
  | nil => rfl
  | cons c cs ih =>
    have first : cutsAt sep here (c :: cs) 0 = separatesAt sep here c := by
      by_cases same : c = sep
      · subst same
        simp [cutsAt, separatesAt, separator]
      · simp [cutsAt, separatesAt, beq_eq_false_iff_ne.mpr same]
    have later : cutsAt sep here (c :: cs) ∘ Nat.succ = cutsAt sep (here.after c) cs := rfl
    rw [List.length_cons, List.range_succ_eq_map, List.countP_cons, List.countP_map, later, first,
      topLevelPieces]
    by_cases separates : separatesAt sep here c = true
    · have unmarked : isNestingMark c = false := by
        simp only [separatesAt, Bool.and_eq_true, Bool.not_eq_true'] at separates
        exact separates.1.2
      rw [if_pos separates, if_pos separates, List.length_cons, ih, Nesting.after_of_unmarked unmarked]
    · rw [if_neg separates, if_neg separates, length_extendFirst c (topLevelPieces_ne_nil _ _ _), ih]

theorem separatorCount_eq (sep : Char) (cs : List Char) :
    separatorCount sep cs = (List.range cs.length).countP (cutsAt sep {} cs) := by
  refine List.countP_congr fun index _ => ?_
  simp [cutsAt, isTop_foldl_after]

/-- For a separator that is neither a quote nor a parenthesis, trimmed parts that leave nothing open and have
no separator at top level are what splitting makes of them when they are joined. Any text is cut without
failure into one piece more than it has separators at top level; the pieces joined are the text, and
trimmed they are what splitting makes of it. -/
theorem top_level_split_exact {sep : Char} (separator : sep ≠ '\'' ∧ sep ≠ '(' ∧ sep ≠ ')') :
    (∀ parts, parts ≠ [] → (∀ part ∈ parts, TopLevelPart sep part) →
      splitTopLevel sep ([sep].intercalate parts) = parts) ∧
    ∀ cs, ∃ pieces, cutTopLevel? sep cs = some pieces ∧ splitTopLevel sep cs = pieces.map trim ∧
      pieces.length = separatorCount sep cs + 1 ∧ [sep].intercalate pieces = cs := by
  have unmarked : isNestingMark sep = false := by
    simp [isNestingMark, separator]
  constructor
  · intro parts present valid
    obtain ⟨first, rest, rfl⟩ := List.exists_cons_of_ne_nil present
    obtain ⟨part, others⟩ := List.forall_mem_cons.mp valid
    have joined : [sep].intercalate (first :: rest) = first ++ rest.flatMap (sep :: ·) := by
      simpa using intercalate_eq_flatMap sep [] first rest
    rw [joined, splitTopLevel_eq, topLevelPieces_join unmarked (part.isPart unmarked)
      fun other member => (others other member).isPart unmarked]
    exact (List.map_congr_left fun part member => (valid part member).trimmed).trans (List.map_id' _)
  · intro cs
    refine ⟨_, cutTopLevel?_eq sep cs, splitTopLevel_eq sep cs, ?_, intercalate_topLevelPieces sep {} cs⟩
    rw [length_topLevelPieces unmarked, separatorCount_eq]

def dottedParts : List (List Char) :=
  ["posts:p".toList, "title = 'a·(b'".toList, "lower(a · b)".toList, [], "é)".toList]

theorem top_level_split_exact_dotted :
    ('·' ≠ '\'' ∧ '·' ≠ '(' ∧ '·' ≠ ')') ∧ dottedParts ≠ [] ∧ (∀ part ∈ dottedParts, TopLevelPart '·' part) ∧
      splitTopLevel '·' "posts:p·title = 'a·(b'·lower(a · b)··é)".toList = dottedParts ∧
      ∃ pieces, cutTopLevel? '·' "('·)·'·)·".toList = some pieces ∧ pieces.length = 2 := by
  have separator : '·' ≠ '\'' ∧ '·' ≠ '(' ∧ '·' ≠ ')' := by decide
  have valid : ∀ part ∈ dottedParts, TopLevelPart '·' part := by
    simp only [topLevelPart_iff (by decide : isNestingMark '·' = false)]
    decide +kernel
  obtain ⟨undone, cut⟩ := top_level_split_exact separator
  obtain ⟨pieces, found, -, length, -⟩ := cut "('·)·'·)·".toList
  exact ⟨separator, by decide, valid, undone dottedParts (by decide) valid, pieces, found,
    length.trans (by decide +kernel)⟩

end RecordSql.Text
