import RecordSql.Proofs.Statement.Identifier

namespace RecordSql

/-- A word of small letters, digits, underscores and dollar signs that does not start with a digit or a
dollar sign, and is not reserved. -/
structure PlainWord (name : String) : Prop where
  spelled : ∃ c word, name.toList = c :: word ∧ ('a' ≤ c ∧ c ≤ 'z' ∨ c = '_') ∧
    ∀ d ∈ word, 'a' ≤ d ∧ d ≤ 'z' ∨ '0' ≤ d ∧ d ≤ '9' ∨ d = '_' ∨ d = '$'
  free : name ∉ reservedWords

/-- Every quote in the text is doubled. -/
inductive QuotesDoubled : List Char → Prop
  | nil : QuotesDoubled []
  | plain {c : Char} {cs : List Char} : c ≠ '"' → QuotesDoubled cs → QuotesDoubled (c :: cs)
  | quote {cs : List Char} : QuotesDoubled cs → QuotesDoubled ('"' :: '"' :: cs)

theorem isLower_iff {c : Char} : c.isLower = true ↔ 'a' ≤ c ∧ c ≤ 'z' := by
  have bounds : c.isLower = (decide ('a' ≤ c) && decide (c ≤ 'z')) := rfl
  rw [bounds, Bool.and_eq_true, decide_eq_true_eq, decide_eq_true_eq]

theorem isDigit_iff {c : Char} : c.isDigit = true ↔ '0' ≤ c ∧ c ≤ '9' := by
  have bounds : c.isDigit = (decide ('0' ≤ c) && decide (c ≤ '9')) := rfl
  rw [bounds, Bool.and_eq_true, decide_eq_true_eq, decide_eq_true_eq]

theorem isBareStart_iff {c : Char} : isBareStart c = true ↔ 'a' ≤ c ∧ c ≤ 'z' ∨ c = '_' := by
  simp only [isBareStart, Bool.or_eq_true, isLower_iff, beq_iff_eq]

theorem isBareRest_iff {c : Char} :
    isBareRest c = true ↔ 'a' ≤ c ∧ c ≤ 'z' ∨ '0' ≤ c ∧ c ≤ '9' ∨ c = '_' ∨ c = '$' := by
  simp only [isBareRest, Bool.or_eq_true, isLower_iff, isDigit_iff, beq_iff_eq, or_assoc]

theorem isBareName_iff {name : String} : isBareName name = true ↔ PlainWord name := by
  unfold isBareName
  rw [Bool.and_eq_true, Bool.not_eq_true', ← Bool.not_eq_true, List.contains_iff_mem]
  cases characters : name.toList with
  | nil =>
    constructor
    · rintro ⟨started, -⟩
      cases started
    · rintro ⟨⟨c, word, same, -⟩, -⟩
      rw [characters] at same
      cases same
  | cons c word =>
    simp only [Bool.and_eq_true, List.all_eq_true, isBareStart_iff, isBareRest_iff]
    constructor
    · rintro ⟨⟨start, inside⟩, free⟩
      exact ⟨⟨c, word, characters, start, inside⟩, free⟩
    · rintro ⟨⟨c', word', same, start, inside⟩, free⟩
      cases characters.symm.trans same
      exact ⟨⟨start, inside⟩, free⟩

theorem quotesDoubled_doubleQuotes (cs : List Char) : QuotesDoubled (doubleQuotes cs) := by
  induction cs with
  | nil => exact .nil
  | cons c cs ih =>
    unfold doubleQuotes
    split
    · exact .quote ih
    · rename_i other
      exact .plain other ih

theorem identifierSql_append_inj {name other : String} {rest rest' : List Char} (ends : EndsName rest)
    (ends' : EndsName rest') (same : (identifierSql name).toList ++ rest = (identifierSql other).toList ++ rest') :
    name = other ∧ rest = rest' := by
  have first := readIdentifier?_identifierSql name ends
  rw [same, readIdentifier?_identifierSql other ends'] at first
  cases first
  exact ⟨rfl, rfl⟩

theorem endsName_nil : EndsName [] := by simp [EndsName]

theorem identifierSql_injective : Function.Injective identifierSql := by
  intro name other same
  exact (identifierSql_append_inj endsName_nil endsName_nil (by rw [same])).1

def EndsPath (rest : List Char) : Prop := EndsName rest ∧ rest.head? ≠ some '.'

theorem endsName_dot (rest : List Char) : EndsName ('.' :: rest) := by
  intro c next
  cases next
  decide

theorem qualified_none (name : String) (rest : List Char) :
    (qualifierSql none ++ identifierSql name).toList ++ rest = (identifierSql name).toList ++ rest := by
  simp [qualifierSql]

theorem qualified_some (qualifier name : String) (rest : List Char) :
    (qualifierSql (some qualifier) ++ identifierSql name).toList ++ rest =
      (identifierSql qualifier).toList ++ '.' :: ((identifierSql name).toList ++ rest) := by
  simp [qualifierSql]

theorem qualified_append_inj {qualifier qualifier' : Option String} {name name' : String}
    {rest rest' : List Char} (ends : EndsPath rest) (ends' : EndsPath rest')
    (same : (qualifierSql qualifier ++ identifierSql name).toList ++ rest =
      (qualifierSql qualifier' ++ identifierSql name').toList ++ rest') :
    qualifier = qualifier' ∧ name = name' ∧ rest = rest' := by
  cases qualifier with
  | none =>
    cases qualifier' with
    | none =>
      rw [qualified_none, qualified_none] at same
      obtain ⟨names, rests⟩ := identifierSql_append_inj ends.1 ends'.1 same
      exact ⟨rfl, names, rests⟩
    | some q' =>
      -- the name would be the other's qualifier, and the dot after that would end it
      rw [qualified_none, qualified_some] at same
      have dot := (identifierSql_append_inj ends.1 (endsName_dot _) same).2
      exact absurd (by rw [dot]; rfl) ends.2
  | some q =>
    cases qualifier' with
    | none =>
      rw [qualified_some, qualified_none] at same
      have dot := (identifierSql_append_inj (endsName_dot _) ends'.1 same).2
      exact absurd (by rw [← dot]; rfl) ends'.2
    | some q' =>
      rw [qualified_some, qualified_some] at same
      obtain ⟨rfl, after⟩ := identifierSql_append_inj (endsName_dot _) (endsName_dot _) same
      obtain ⟨names, rests⟩ := identifierSql_append_inj ends.1 ends'.1 (List.cons.inj after).2
      exact ⟨rfl, names, rests⟩

theorem endsPath_nil : EndsPath [] := ⟨endsName_nil, by simp⟩

theorem ColumnRef.sql_injective : Function.Injective ColumnRef.sql := by
  rintro ⟨qualifier, name⟩ ⟨qualifier', name'⟩ same
  obtain ⟨rfl, rfl, -⟩ := qualified_append_inj endsPath_nil endsPath_nil (congrArg (·.toList ++ []) same)
  rfl

def aliasSql (aliasName : Option String) : String := (aliasName.map fun a => " AS " ++ identifierSql a).getD ""

theorem endsPath_aliasSql (aliasName : Option String) : EndsPath (aliasSql aliasName).toList := by
  cases aliasName with
  | none => exact endsPath_nil
  | some a =>
    have blank : (aliasSql (some a)).toList = ' ' :: ("AS ".toList ++ (identifierSql a).toList) := by
      simp [aliasSql]
    rw [blank]
    refine ⟨fun c next => ?_, by simp⟩
    cases next
    decide

theorem aliasSql_injective : Function.Injective aliasSql := by
  intro one other same
  cases one with
  | none =>
    cases other with
    | none => rfl
    | some a => simpa [aliasSql] using congrArg String.toList same
  | some a =>
    cases other with
    | none => simpa [aliasSql] using congrArg String.toList same
    | some b =>
      have named : identifierSql a = identifierSql b :=
        String.toList_injective (by simpa [aliasSql] using congrArg String.toList same)
      rw [identifierSql_injective named]

theorem TableRef.sql_injective : Function.Injective TableRef.sql := by
  rintro ⟨space, name, aliasName⟩ ⟨space', name', aliasName'⟩ same
  have texts : (qualifierSql space ++ identifierSql name).toList ++ (aliasSql aliasName).toList =
      (qualifierSql space' ++ identifierSql name').toList ++ (aliasSql aliasName').toList := by
    rw [← String.toList_append, ← String.toList_append]
    exact congrArg String.toList same
  obtain ⟨rfl, rfl, rests⟩ := qualified_append_inj (endsPath_aliasSql _) (endsPath_aliasSql _) texts
  rw [aliasSql_injective (String.toList_injective rests)]

/-- A name is written as it is, a plain word, or in quotes with every quote in it doubled. A reader of the
longest bare word, or of what stands before the first quote that is not doubled, gets the name back and
leaves nothing. So no two references to columns, and no two to tables, have the same text. -/
theorem names_never_break_out :
    (∀ name, PlainWord name ∧ identifierSql name = name ∨
      ∃ inner, QuotesDoubled inner ∧ identifierSql name = "\"" ++ String.ofList inner ++ "\"") ∧
    (∀ name, readIdentifier? (identifierSql name).toList = some (name, [])) ∧
    Function.Injective ColumnRef.sql ∧ Function.Injective TableRef.sql := by
  refine ⟨fun name => ?_, fun name => ?_, ColumnRef.sql_injective, TableRef.sql_injective⟩
  · unfold identifierSql
    split
    · rename_i bare
      exact .inl ⟨isBareName_iff.mp bare, rfl⟩
    · refine .inr ⟨doubleQuotes name.toList, quotesDoubled_doubleQuotes _, ?_⟩
      exact String.toList_injective (by simp)
  · simpa using readIdentifier?_identifierSql name endsName_nil

example : (TableRef.mk none "t\" AS \"u" none).sql = "\"t\"\" AS \"\"u\"" := by decide +kernel

end RecordSql
