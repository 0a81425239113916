import RecordSql.Proofs.Text.Number
import RecordSql.Statement.Sql

namespace RecordSql

/-- What stands in quotes, up to the first quote that is not doubled, and what follows that quote. -/
def readQuoted? : List Char → Option (List Char × List Char)
  | [] => none
  | '"' :: '"' :: cs => (readQuoted? cs).map (Prod.map ('"' :: ·) id)
  | c :: cs => if c = '"' then some ([], cs) else (readQuoted? cs).map (Prod.map (c :: ·) id)

/-- The identifier at the start of a text, quoted or else the longest bare word, and what follows it. -/
def readIdentifier? : List Char → Option (String × List Char)
  | [] => none
  | c :: cs =>
    if c = '"' then (readQuoted? cs).map (Prod.map String.ofList id)
    else if isBareStart c then
      some (String.ofList (c :: cs.takeWhile isBareRest), cs.dropWhile isBareRest)
    else none

def EndsName (rest : List Char) : Prop := ∀ c ∈ rest.head?, c ≠ '"' ∧ isBareRest c = false

theorem readQuoted?_doubleQuotes (name : List Char) {rest : List Char} (ends : ∀ c ∈ rest.head?, c ≠ '"') :
    readQuoted? (doubleQuotes name ++ '"' :: rest) = some (name, rest) := by
  induction name with
  | nil =>
    cases rest with
    | nil => rfl
    | cons c rest => simp [doubleQuotes, readQuoted?, ends c rfl]
  | cons c name ih =>
    by_cases quote : c = '"'
    · subst quote
      simp [doubleQuotes, readQuoted?, ih]
    · simp [doubleQuotes, readQuoted?, quote, ih]

theorem readIdentifier?_bare {c : Char} {word rest : List Char} (start : isBareStart c = true)
    (inside : ∀ d ∈ word, isBareRest d = true) (stop : ∀ d ∈ rest.head?, isBareRest d = false) :
    readIdentifier? (c :: word ++ rest) = some (String.ofList (c :: word), rest) := by
  have unquoted : c ≠ '"' := by
    rintro rfl
    cases start
  rw [List.cons_append, readIdentifier?, if_neg unquoted, if_pos start, Text.takeWhile_append_of_stop inside stop,
    Text.dropWhile_append_of_stop inside stop]

theorem readIdentifier?_identifierSql (name : String) {rest : List Char} (ends : EndsName rest) :
    readIdentifier? ((identifierSql name).toList ++ rest) = some (name, rest) := by
  unfold identifierSql
  split
  · rename_i bare
    unfold isBareName at bare
    cases characters : name.toList with
    | nil => simp [characters] at bare
    | cons c word =>
      simp only [characters, Bool.and_eq_true, List.all_eq_true] at bare
      rw [readIdentifier?_bare bare.1.1 bare.1.2 fun d next => (ends d next).2, ← characters,
        String.ofList_toList]
  · have quoted := readQuoted?_doubleQuotes name.toList fun c next => (ends c next).1
    simp [readIdentifier?, quoted]

end RecordSql
