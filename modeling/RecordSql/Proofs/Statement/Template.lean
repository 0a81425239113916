import Mathlib.Order.Basic
import RecordSql.Statement.Sql

/-!
Templates: texts with gaps for the numbers of parameters. A text that depends on the numbers has at most one
template, and the template of a text is put together from those of its parts.
-/
namespace RecordSql

/-- A text with gaps, each of them for the number of a parameter. -/
inductive Template where
  | plain (text : String)
  | gap (text : String) (ordinal : Nat) (rest : Template)

namespace Template

def ordinals : Template → List Nat
  | .plain _ => []
  | .gap _ ordinal rest => ordinal :: rest.ordinals

def fill (number : Nat → Nat) : Template → String
  | .plain text => text
  | .gap text ordinal rest => text ++ (Expr.param (number ordinal)).sql ++ rest.fill number

def digits (n : Nat) : List Char := (toString n).toList

theorem toList_fill_gap (number : Nat → Nat) (text : String) (ordinal : Nat) (rest : Template) :
    ((gap text ordinal rest).fill number).toList =
      text.toList ++ '$' :: (digits (number ordinal) ++ (rest.fill number).toList) := by
  rw [fill, Expr.sql, String.toList_append, String.toList_append, String.toList_append, List.append_assoc]
  rfl

theorem digits_one : digits 1 = ['1'] := by decide +kernel

theorem digits_two : digits 2 = ['2'] := by decide +kernel

section

variable {n m : Nat} {lead : List Char} {rest other : (Nat → Nat) → List Char}

theorem not_fixed (c : Char) (tail : (Nat → Nat) → List Char)
    (same : ∀ number, digits (number n) ++ rest number = c :: tail number) : False := by
  have one := same fun _ => 1
  have two := same fun _ => 2
  simp only [digits_one, digits_two, List.cons_append, List.nil_append, List.cons.injEq] at one two
  exact absurd (one.1.trans two.1.symm) (by decide)

theorem lead_eq_nil (same : ∀ number, '$' :: (digits (number n) ++ rest number) =
    lead ++ '$' :: (digits (number m) ++ other number)) : lead = [] := by
  match lead with
  | [] => rfl
  | [c] => exact (not_fixed '$' _ fun number => (List.cons.inj (same number)).2).elim
  | c :: d :: lead => exact (not_fixed d _ fun number => (List.cons.inj (same number)).2).elim

theorem ordinal_eq (same : ∀ number, digits (number n) ++ rest number =
    digits (number m) ++ other number) : n = m := by
  by_contra differ
  have apart := same fun ordinal => if ordinal = n then 1 else 2
  simp only [if_true, if_neg (Ne.symm differ), digits_one, digits_two, List.cons_append,
    List.cons.injEq] at apart
  exact absurd apart.1 (by decide)

/-- The first gaps of two templates for one text are the same. -/
theorem gap_eq {one two : List Char} (same : ∀ number, one ++ '$' :: (digits (number n) ++ rest number) =
    two ++ '$' :: (digits (number m) ++ other number)) :
    one = two ∧ n = m ∧ ∀ number, rest number = other number := by
  have texts : one = two := by
    rcases List.append_eq_append_iff.mp (same id) with ⟨lead, rfl, _⟩ | ⟨lead, rfl, _⟩
    · simp only [List.append_assoc, List.append_cancel_left_eq] at same
      rw [lead_eq_nil same, List.append_nil]
    · simp only [List.append_assoc, List.append_cancel_left_eq] at same
      rw [lead_eq_nil fun number => (same number).symm, List.append_nil]
  subst texts
  simp only [List.append_cancel_left_eq, List.cons.injEq, true_and] at same
  have ordinals := ordinal_eq same
  subst ordinals
  exact ⟨rfl, rfl, fun number => List.append_cancel_left (same number)⟩

end

theorem not_fixed_of_gap (text : String) (ordinal : Nat) (rest : Template) (fixed : String) :
    ¬ ∀ number, (gap text ordinal rest).fill number = fixed := by
  intro same
  have one := congrArg String.toList (same fun _ => 1)
  have two := congrArg String.toList (same fun _ => 2)
  rw [← two, toList_fill_gap, toList_fill_gap, digits_one, digits_two] at one
  have heads := (List.cons.inj (List.append_cancel_left one)).2
  exact absurd (List.cons.inj heads).1 (by decide)

theorem eq_of_fill_eq {one other : Template} (same : ∀ number, one.fill number = other.fill number) :
    one = other := by
  induction one generalizing other with
  | plain text =>
    cases other with
    | plain other => exact congrArg Template.plain (same id)
    | gap other ordinal rest =>
      exact absurd (fun number => (same number).symm) (not_fixed_of_gap other ordinal rest text)
  | gap text ordinal rest ih =>
    cases other with
    | plain other =>
      exact absurd same (not_fixed_of_gap text ordinal rest other)
    | gap other ordinal' rest' =>
      have chars (number : Nat → Nat) := congrArg String.toList (same number)
      simp only [toList_fill_gap] at chars
      obtain ⟨texts, rfl, rests⟩ := gap_eq chars
      rw [String.toList_inj.mp texts, ih fun number => String.toList_inj.mp (rests number)]

def after (lead : String) : Template → Template
  | .plain text => .plain (lead ++ text)
  | .gap text ordinal rest => .gap (lead ++ text) ordinal rest

def append : Template → Template → Template
  | .plain text, other => other.after text
  | .gap text ordinal rest, other => .gap text ordinal (rest.append other)

theorem ordinals_append (one other : Template) :
    (one.append other).ordinals = one.ordinals ++ other.ordinals := by
  induction one with
  | plain text => cases other <;> rfl
  | gap text ordinal rest ih => simp [append, ordinals, ih]

theorem fill_append (number : Nat → Nat) (one other : Template) :
    (one.append other).fill number = one.fill number ++ other.fill number := by
  induction one with
  | plain text => cases other <;> simp [append, after, fill, String.append_assoc]
  | gap text ordinal rest ih => simp [append, fill, ih, String.append_assoc]

end Template

/-- A text that depends on the numbers of parameters has a template, with these parameters in its gaps. -/
def Prints (written : (Nat → Nat) → String) (ordinals : List Nat) : Prop :=
  ∃ template : Template, template.ordinals = ordinals ∧ ∀ number, written number = template.fill number

section

variable {written later : (Nat → Nat) → String} {ordinals more : List Nat}

theorem prints_text (text : String) : Prints (fun _ => text) [] := ⟨.plain text, rfl, fun _ => rfl⟩

theorem prints_param (ordinal : Nat) : Prints (fun number => (Expr.param (number ordinal)).sql) [ordinal] :=
  ⟨.gap "" ordinal (.plain ""), rfl, fun number => by simp [Template.fill]⟩

theorem Prints.append (first : Prints written ordinals) (rest : Prints later more) :
    Prints (fun number => written number ++ later number) (ordinals ++ more) := by
  obtain ⟨one, oneOrdinals, oneFills⟩ := first
  obtain ⟨other, otherOrdinals, otherFills⟩ := rest
  refine ⟨one.append other, ?_, fun number => ?_⟩
  · rw [Template.ordinals_append, oneOrdinals, otherOrdinals]
  · dsimp only
    rw [Template.fill_append, oneFills, otherFills]

theorem Prints.before (first : Prints written ordinals) (text : String) :
    Prints (fun number => written number ++ text) ordinals := by
  simpa using first.append (prints_text text)

theorem Prints.behind (rest : Prints later more) (text : String) :
    Prints (fun number => text ++ later number) more := by
  simpa using (prints_text text).append rest

theorem prints_optional {α : Type} (part : Option α) {text : (Nat → Nat) → α → String}
    {listed : α → List Nat} (each : ∀ value, Prints (fun number => text number value) (listed value)) :
    Prints (fun number => (part.map (text number)).getD "") ((part.map listed).getD []) := by
  cases part with
  | none => exact prints_text ""
  | some value => exact each value

variable {α : Type} {text : (Nat → Nat) → α → String} {listed : α → List Nat}
  (each : ∀ item, Prints (fun number => text number item) (listed item))
include each

theorem prints_join (items : List α) :
    Prints (fun number => String.join (items.map (text number))) (items.flatMap listed) := by
  induction items with
  | nil => exact prints_text ""
  | cons item items ih => simpa using (each item).append ih

theorem prints_commaList (items : List α) :
    Prints (fun number => commaList (items.map (text number))) (items.flatMap listed) := by
  induction items with
  | nil => exact prints_text ""
  | cons item items ih =>
    cases items with
    | nil => simpa [commaList] using each item
    | cons next items =>
      simpa [commaList, String.append_assoc] using ((each item).before ", ").append ih

end

end RecordSql
