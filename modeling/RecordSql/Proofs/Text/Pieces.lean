import Mathlib.Data.List.Basic
import Mathlib.Data.List.TakeWhile
import RecordSql.Text.Split

namespace RecordSql.Text

section

variable {p : Char → Bool} {word rest : List Char}

theorem takeWhile_append_of_stop (inside : ∀ c ∈ word, p c = true) (stop : ∀ c ∈ rest.head?, p c = false) :
    (word ++ rest).takeWhile p = word := by
  rw [List.takeWhile_append_of_pos inside]
  cases rest with
  | nil => simp
  | cons c rest => simp [stop c rfl]

theorem dropWhile_append_of_stop (inside : ∀ c ∈ word, p c = true) (stop : ∀ c ∈ rest.head?, p c = false) :
    (word ++ rest).dropWhile p = rest := by
  rw [List.dropWhile_append_of_pos inside]
  cases rest with
  | nil => rfl
  | cons c rest => simp [stop c rfl]

end

theorem trimStart_of_head {cs : List Char} (filled : ∀ c ∈ cs.head?, isBlank c = false) :
    trimStart cs = cs := by
  cases cs with
  | nil => rfl
  | cons c cs => simp [trimStart, filled c rfl]

theorem trimEnd_of_getLast {cs : List Char} (filled : ∀ c ∈ cs.getLast?, isBlank c = false) :
    trimEnd cs = cs := by
  have start : trimStart cs.reverse = cs.reverse := trimStart_of_head (by simpa using filled)
  rw [trimEnd, ← trimStart, start, List.reverse_reverse]

theorem head_of_trimStart {cs : List Char} (same : trimStart cs = cs) : ∀ c ∈ cs.head?, isBlank c = false := by
  intro c first
  have kept := List.head?_dropWhile_not isBlank cs
  rw [← trimStart, same, first] at kept
  simpa using kept

theorem trim_eq_self_iff {cs : List Char} :
    trim cs = cs ↔ (∀ c ∈ cs.head?, isBlank c = false) ∧ ∀ c ∈ cs.getLast?, isBlank c = false := by
  constructor
  · -- trimming only shortens, so a text that it keeps is kept at either end
    intro trimmed
    have suffix : trimStart cs <:+ cs := List.dropWhile_suffix _
    have shorter : (trimEnd (trimStart cs)).length ≤ (trimStart cs).length := by
      have reversed : ((trimStart cs).reverse.dropWhile isBlank).length ≤ (trimStart cs).reverse.length :=
        (List.dropWhile_suffix _).length_le
      simpa [trimEnd] using reversed
    have start : trimStart cs = cs := suffix.eq_of_length_le (by rwa [← trim, trimmed] at shorter)
    have ends : trimStart cs.reverse = cs.reverse := by
      rw [trim, start, trimEnd] at trimmed
      simpa [trimStart] using congrArg List.reverse trimmed
    exact ⟨head_of_trimStart start, by simpa using head_of_trimStart ends⟩
  · rintro ⟨first, last⟩
    rw [trim, trimStart_of_head first, trimEnd_of_getLast last]

theorem trim_of_no_blank {cs : List Char} (filled : ∀ c ∈ cs, isBlank c = false) : trim cs = cs :=
  trim_eq_self_iff.mpr ⟨fun c first => filled c (List.mem_of_mem_head? first),
    fun c last => filled c (List.mem_of_mem_getLast? last)⟩

theorem trim_blank_cons (cs : List Char) : trim (' ' :: cs) = trim cs := rfl

structure Trimmed (cs : List Char) : Prop where
  filled : cs ≠ []
  trimmed : trim cs = cs

namespace Trimmed

variable {first second : List Char}

theorem append (start : Trimmed first) (gap : List Char) (last : Trimmed second) :
    Trimmed (first ++ (gap ++ second)) where
  filled := by simp [start.filled]
  trimmed := by
    obtain ⟨head, -⟩ := trim_eq_self_iff.mp start.trimmed
    obtain ⟨-, tail⟩ := trim_eq_self_iff.mp last.trimmed
    rw [trim_eq_self_iff, List.head?_append_of_ne_nil _ start.filled, ← List.append_assoc,
      List.getLast?_append_of_ne_nil _ last.filled]
    exact ⟨head, tail⟩

theorem flatMap (gap : List Char) {rest : List (List Char)} (start : Trimmed first)
    (all : ∀ cs ∈ rest, Trimmed cs) : Trimmed (first ++ rest.flatMap (gap ++ ·)) := by
  induction rest generalizing first with
  | nil => simpa using start
  | cons second rest ih =>
    obtain ⟨next, all⟩ := List.forall_mem_cons.mp all
    simpa using ih (start.append gap next) all

end Trimmed

section

variable {word : List Char}

theorem nextWord_of_no_blank (solid : ∀ c ∈ word, isBlank c = false) : nextWord word = (word, []) := by
  have start : trimStart word = word := trimStart_of_head fun c first => solid c (List.mem_of_mem_head? first)
  have inside : ∀ c ∈ word, (!isBlank c) = true := fun c member => by simp [solid c member]
  have all : word.takeWhile (fun c => !isBlank c) = word := List.takeWhile_eq_self_iff.mpr inside
  have none : word.dropWhile (fun c => !isBlank c) = [] := List.dropWhile_eq_nil_iff.mpr inside
  rw [nextWord, start, all, none]
  rfl

theorem nextWord_append (filled : word ≠ []) (solid : ∀ c ∈ word, isBlank c = false) (rest : List Char) :
    nextWord (word ++ ' ' :: rest) = (word, trim rest) := by
  have start : trimStart (word ++ ' ' :: rest) = word ++ ' ' :: rest := by
    apply trimStart_of_head
    intro c first
    rw [List.head?_append_of_ne_nil _ filled] at first
    exact solid c (List.mem_of_mem_head? first)
  have inside : ∀ c ∈ word, (!isBlank c) = true := fun c member => by simp [solid c member]
  have stop : ∀ c ∈ (' ' :: rest).head?, (!isBlank c) = false := by
    intro c first
    cases first
    rfl
  rw [nextWord, start, takeWhile_append_of_stop inside stop, dropWhile_append_of_stop inside stop, trim_blank_cons]

end

theorem splitOnce_append {sep : Char} {before : List Char} (absent : sep ∉ before) (after : List Char) :
    splitOnce sep (before ++ sep :: after) = some (before, after) := by
  induction before with
  | nil => simp [splitOnce]
  | cons c before ih =>
    simp only [List.mem_cons, not_or] at absent
    simp [splitOnce, Ne.symm absent.1, ih absent.2]

theorem splitOnce_eq_none {sep : Char} {cs : List Char} (absent : sep ∉ cs) : splitOnce sep cs = none := by
  induction cs with
  | nil => rfl
  | cons c cs ih =>
    simp only [List.mem_cons, not_or] at absent
    simp [splitOnce, Ne.symm absent.1, ih absent.2]

theorem eq_of_splitOnce {sep : Char} {cs before after : List Char}
    (cut : splitOnce sep cs = some (before, after)) : cs = before ++ sep :: after := by
  induction cs generalizing before with
  | nil => cases cut
  | cons c cs ih =>
    rw [splitOnce] at cut
    split at cut
    · rename_i same
      cases cut
      rw [same, List.nil_append]
    · obtain ⟨⟨start, rest⟩, found, same⟩ := Option.map_eq_some_iff.mp cut
      cases same
      rw [ih found, List.cons_append]

theorem Nesting.after_of_unmarked {c : Char} (unmarked : isNestingMark c = false) {here : Nesting} :
    here.after c = here := by
  simp only [isNestingMark, Bool.or_eq_false_iff, beq_eq_false_iff_ne] at unmarked
  simp [Nesting.after, unmarked.1.1, unmarked.1.2, unmarked.2]

/-- No character separates in a text that begins where it is nested so. -/
def unbroken (sep : Char) : Nesting → List Char → Bool
  | _, [] => true
  | here, c :: cs => !separatesAt sep here c && unbroken sep (here.after c) cs

theorem unbroken_append (sep : Char) (here : Nesting) (cs rest : List Char) :
    unbroken sep here (cs ++ rest) =
      (unbroken sep here cs && unbroken sep (cs.foldl Nesting.after here) rest) := by
  induction cs generalizing here with
  | nil => simp [unbroken]
  | cons c cs ih => simp [unbroken, ih, Bool.and_assoc]

theorem unbroken_iff {sep : Char} (separator : isNestingMark sep = false) {here : Nesting} {cs : List Char} :
    unbroken sep here cs = true ↔
      ∀ before after, cs = before ++ sep :: after → (before.foldl Nesting.after here).isTop = false := by
  constructor
  · rintro whole before after rfl
    simp only [unbroken_append, unbroken, separatesAt, separator, Bool.and_eq_true] at whole
    simpa using whole.2.1
  · intro inside
    induction cs generalizing here with
    | nil => rfl
    | cons c cs ih =>
      have rest : unbroken sep (here.after c) cs = true :=
        ih fun before after same => inside (c :: before) after (by rw [same, List.cons_append])
      have first : separatesAt sep here c = false := by
        by_cases same : c = sep
        · subst same
          simpa [separatesAt] using fun _ => inside [] cs rfl
        · simp [separatesAt, same]
      simp [unbroken, first, rest]

theorem topLevelPieces_append {sep : Char} {here : Nesting} {cs : List Char}
    (whole : unbroken sep here cs = true) (rest : List Char) :
    topLevelPieces sep here (cs ++ rest) =
      cs.foldr extendFirst (topLevelPieces sep (cs.foldl Nesting.after here) rest) := by
  induction cs generalizing here with
  | nil => rfl
  | cons c cs ih =>
    simp only [unbroken, Bool.and_eq_true, Bool.not_eq_true'] at whole
    simp [topLevelPieces, whole.1, ih whole.2]

/-- A text with no separator outside quotes and parentheses, which leaves none of these open. -/
structure IsPart (sep : Char) (cs : List Char) : Prop where
  whole : unbroken sep {} cs = true
  closed : cs.foldl Nesting.after {} = {}

namespace IsPart

variable {sep : Char} {cs ds : List Char}

theorem append (first : IsPart sep cs) (second : IsPart sep ds) : IsPart sep (cs ++ ds) where
  whole := by rw [unbroken_append, first.whole, first.closed, second.whole, Bool.and_self]
  closed := by rw [List.foldl_append, first.closed, second.closed]

theorem unbroken_of_plain (plain : ∀ c ∈ cs, isNestingMark c = false ∧ c ≠ sep) (here : Nesting) :
    unbroken sep here cs = true ∧ cs.foldl Nesting.after here = here := by
  induction cs with
  | nil => exact ⟨rfl, rfl⟩
  | cons c cs ih =>
    obtain ⟨⟨unmarked, other⟩, plain⟩ := List.forall_mem_cons.mp plain
    simpa [unbroken, separatesAt, other, Nesting.after_of_unmarked unmarked] using ih plain

theorem of_plain (plain : ∀ c ∈ cs, isNestingMark c = false ∧ c ≠ sep) : IsPart sep cs :=
  ⟨(unbroken_of_plain plain {}).1, (unbroken_of_plain plain {}).2⟩

theorem blank : IsPart ',' [' '] := ⟨rfl, rfl⟩

theorem parenthesised (plain : ∀ c ∈ cs, isNestingMark c = false ∧ c ≠ sep) :
    IsPart sep ('(' :: cs ++ [')']) := by
  obtain ⟨whole, closed⟩ := unbroken_of_plain plain (Nesting.after {} '(')
  constructor
  · rw [List.cons_append, unbroken, unbroken_append, whole, closed]
    simp [unbroken, separatesAt, isNestingMark]
  · rw [List.cons_append, List.foldl_cons, List.foldl_append, closed]
    rfl

end IsPart

theorem topLevelPieces_join {sep : Char} (separator : isNestingMark sep = false) {first : List Char}
    {rest : List (List Char)} (part : IsPart sep first) (parts : ∀ cs ∈ rest, IsPart sep cs) :
    topLevelPieces sep {} (first ++ rest.flatMap (sep :: ·)) = first :: rest := by
  induction rest generalizing first with
  | nil =>
    rw [List.flatMap_nil, topLevelPieces_append part.whole, topLevelPieces, extendFirst_foldr, List.append_nil]
  | cons second rest ih =>
    obtain ⟨next, parts⟩ := List.forall_mem_cons.mp parts
    have cut : separatesAt sep {} sep = true := by simp [separatesAt, separator, Nesting.isTop]
    rw [List.flatMap_cons, topLevelPieces_append part.whole, part.closed, List.cons_append, topLevelPieces,
      if_pos cut, ih next parts, extendFirst_foldr, List.append_nil]

theorem intercalate_eq_flatMap (sep : Char) (gap first : List Char) (rest : List (List Char)) :
    (sep :: gap).intercalate (first :: rest) = first ++ (rest.map (gap ++ ·)).flatMap (sep :: ·) := by
  induction rest generalizing first with
  | nil => simp [List.intercalate]
  | cons second rest ih =>
    have tail := ih second
    simp only [List.intercalate, List.intersperse_cons_cons, List.flatten_cons] at tail ⊢
    rw [tail]
    simp

end RecordSql.Text
