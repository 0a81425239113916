import RecordSql.Proofs.Text.Pieces
import RecordSql.Text.Number

namespace RecordSql.Text

theorem toNat_of_isDigit {c : Char} (digit : c.isDigit = true) : 48 ≤ c.toNat ∧ c.toNat ≤ 57 := by
  simp only [Char.isDigit, Bool.and_eq_true, decide_eq_true_eq, UInt32.le_iff_toNat_le] at digit
  exact digit

theorem isBlank_of_isDigit {c : Char} (digit : c.isDigit = true) : isBlank c = false := by
  obtain ⟨least, largest⟩ := toNat_of_isDigit digit
  simp only [isBlank, Bool.or_eq_false_iff, Bool.and_eq_false_iff, decide_eq_false_iff_not, beq_eq_false_iff_ne]
  omega

theorem isDigit_of_mem_toDigits {n : Nat} {c : Char} (member : c ∈ Nat.toDigits 10 n) : c.isDigit = true :=
  Nat.isDigit_of_mem_toDigits (by decide) (by decide) member

theorem digitsValue_eq (digits : List Char) : digitsValue digits = Nat.ofDigitChars 10 digits 0 := by
  simp only [Nat.ofDigitChars, digitsValue, Nat.mul_comm 10]

theorem digitsValue_toDigits (n : Nat) : digitsValue (Nat.toDigits 10 n) = n := by
  rw [digitsValue_eq, Nat.ofDigitChars_toDigits (by decide) (by decide)]

/-- The digits of a number, after a sign or none. -/
inductive Numeral : List Char → Int → Prop
  | unsigned {digits : List Char} : digits ≠ [] → (∀ c ∈ digits, c.isDigit = true) →
      Numeral digits (Nat.ofDigitChars 10 digits 0)
  | positive {digits : List Char} : digits ≠ [] → (∀ c ∈ digits, c.isDigit = true) →
      Numeral ('+' :: digits) (Nat.ofDigitChars 10 digits 0)
  | negative {digits : List Char} : digits ≠ [] → (∀ c ∈ digits, c.isDigit = true) →
      Numeral ('-' :: digits) (-(Nat.ofDigitChars 10 digits 0))

theorem readDigits?_eq_some {digits : List Char} {n : Nat} : readDigits? digits = some n ↔
    digits ≠ [] ∧ (∀ c ∈ digits, c.isDigit = true) ∧ Nat.ofDigitChars 10 digits 0 = n := by
  simp [readDigits?, digitsValue_eq, and_assoc]

theorem readInt?_eq_some {least largest value : Int} {cs : List Char} :
    readInt? least largest cs = some value ↔ Numeral cs value ∧ least ≤ value ∧ value ≤ largest := by
  unfold readInt?
  simp only [Option.filter_eq_some_iff, Bool.and_eq_true, decide_eq_true_eq]
  refine and_congr_left fun _ => ?_
  split
  · simp only [Option.map_eq_some_iff, Option.bind_eq_bind, Option.bind_eq_some_iff, Option.pure_def,
      Option.some.injEq, readDigits?_eq_some]
    constructor
    · rintro ⟨_, ⟨n, ⟨present, digits, rfl⟩, rfl⟩, rfl⟩
      exact .negative present digits
    · intro numeral
      cases numeral with
      | unsigned _ digits => exact absurd (digits '-' List.mem_cons_self) (by decide)
      | negative present digits => exact ⟨_, ⟨_, ⟨present, digits, rfl⟩, rfl⟩, rfl⟩
  · simp only [Option.map_eq_some_iff, readDigits?_eq_some]
    constructor
    · rintro ⟨n, ⟨present, digits, rfl⟩, rfl⟩
      exact .positive present digits
    · intro numeral
      cases numeral with
      | unsigned _ digits => exact absurd (digits '+' List.mem_cons_self) (by decide)
      | positive present digits => exact ⟨_, ⟨present, digits, rfl⟩, rfl⟩
  · rename_i noMinus noPlus
    simp only [Option.map_eq_some_iff, readDigits?_eq_some]
    constructor
    · rintro ⟨n, ⟨present, digits, rfl⟩, rfl⟩
      exact .unsigned present digits
    · intro numeral
      cases numeral with
      | unsigned present digits => exact ⟨_, ⟨present, digits, rfl⟩, rfl⟩
      | @positive digits _ _ => exact absurd rfl (noPlus digits)
      | @negative digits _ _ => exact absurd rfl (noMinus digits)

theorem toList_toString_neg (n : Nat) : (toString (Int.negSucc n)).toList = '-' :: Nat.toDigits 10 (n + 1) := by
  simp [toString, Int.repr]

theorem numeral_toString (value : Int) : Numeral (toString value).toList value := by
  have digits (n : Nat) : Nat.toDigits 10 n ≠ [] ∧ ∀ c ∈ Nat.toDigits 10 n, c.isDigit = true :=
    ⟨Nat.toDigits_ne_nil, fun _ => isDigit_of_mem_toDigits⟩
  have back (n : Nat) : Nat.ofDigitChars 10 (Nat.toDigits 10 n) 0 = n :=
    Nat.ofDigitChars_toDigits (by decide) (by decide)
  cases value with
  | ofNat n =>
    have numeral := Numeral.unsigned (digits n).1 (digits n).2
    rw [back] at numeral
    exact (Nat.toList_repr : (toString (Int.ofNat n)).toList = _) ▸ numeral
  | negSucc n =>
    have numeral := Numeral.negative (digits (n + 1)).1 (digits (n + 1)).2
    rw [back] at numeral
    rw [toList_toString_neg]
    exact numeral

theorem Numeral.no_blank {cs : List Char} {value : Int} (numeral : Numeral cs value) :
    ∀ c ∈ cs, isBlank c = false := by
  cases numeral with
  | unsigned _ digits => exact fun c member => isBlank_of_isDigit (digits c member)
  | _ _ digits =>
    rw [List.forall_mem_cons]
    exact ⟨by decide, fun c member => isBlank_of_isDigit (digits c member)⟩

end RecordSql.Text
