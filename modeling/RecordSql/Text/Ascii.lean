namespace RecordSql.Text

def lowerChars (cs : List Char) : List Char := cs.map Char.toLower

def lower (s : String) : String := String.ofList (lowerChars s.toList)

def equalIgnoringCase (a b : String) : Bool := lower a == lower b

/-- What follows `head` at the start of the text, the case of ASCII letters ignored. -/
def dropHead? : List Char → List Char → Option (List Char)
  | [], cs => some cs
  | _ :: _, [] => none
  | h :: head, c :: cs => if h.toLower = c.toLower then dropHead? head cs else none

def afterHead? (head s : String) : Option String :=
  (dropHead? head.toList s.toList).map String.ofList

theorem dropHead?_eq_some_iff (head cs rest : List Char) :
    dropHead? head cs = some rest ↔
      ∃ start, cs = start ++ rest ∧ lowerChars start = lowerChars head := by
  induction head generalizing cs with
  | nil => simp [dropHead?, lowerChars, eq_comm]
  | cons h head ih =>
    cases cs with
    | nil => simp [dropHead?, lowerChars]
    | cons c cs =>
      simp only [dropHead?]
      constructor
      · intro found
        split at found
        · obtain ⟨start, split, same⟩ := (ih cs).mp found
          exact ⟨c :: start, by simp [split], by simp_all [lowerChars]⟩
        · simp at found
      · rintro ⟨start, split, same⟩
        cases start with
        | nil => simp [lowerChars] at same
        | cons d start =>
          simp only [List.cons_append, List.cons.injEq] at split
          simp only [lowerChars, List.map_cons, List.cons.injEq] at same
          rw [if_pos (by rw [split.1, same.1])]
          exact (ih cs).mpr ⟨start, split.2, same.2⟩

end RecordSql.Text
