import RecordSql.Proofs.Text.Number
import RecordSql.Typing.Assignment

/-!
Signatures of structural types. The text of such a type says where it ends, so two of them that begin a text
alike are the same type, however deep their parts are nested.
-/
namespace RecordSql

theorem Scalar.name_append_inj {kind other : Scalar} {rest rest' : List Char}
    (same : kind.name.toList ++ rest = other.name.toList ++ rest') : kind = other ∧ rest = rest' := by
  cases kind <;> cases other <;> simp_all [Scalar.name]

theorem Scalar.name_eq_cons (kind : Scalar) :
    ∃ c cs, kind.name.toList = c :: cs ∧ c ≠ '[' ∧ c ≠ 'm' ∧ c ≠ '?' := by
  cases kind <;> exact ⟨_, _, rfl, by decide⟩

theorem Text.toDigits_append_inj {m n : Nat} {rest rest' : List Char}
    (same : Nat.toDigits 10 m ++ ']' :: rest = Nat.toDigits 10 n ++ ']' :: rest') : m = n ∧ rest = rest' := by
  have digit (n : Nat) : ∀ c ∈ Nat.toDigits 10 n, c.isDigit = true := fun _ => isDigit_of_mem_toDigits
  have stop (rest : List Char) : ∀ c ∈ (']' :: rest).head?, c.isDigit = false := by
    intro c first
    cases first
    rfl
  have digits := congrArg (List.takeWhile Char.isDigit) same
  rw [takeWhile_append_of_stop (digit m) (stop rest), takeWhile_append_of_stop (digit n) (stop rest')] at digits
  constructor
  · rw [← digitsValue_toDigits m, digits, digitsValue_toDigits]
  · rw [digits] at same
    exact (List.cons.inj (List.append_cancel_left same)).2

theorem signature_of_findRule? {column : Column} {signature : String} {direction : Direction} {rule : AssignRule}
    (found : findRule? column signature direction = some rule) : rule.signature = signature := by
  have fits := List.find?_some found
  simp only [Bool.and_eq_true, beq_iff_eq] at fits
  exact fits.1.1.2

namespace HostType

def array (length : Nat) (elem : HostType) : HostType := { shape := .array length elem }

def map (key value : HostType) : HostType := { shape := .map key value }

def optional (inner : HostType) : HostType := { shape := .optional inner }

/-- Types that are built of scalars by arrays, sequences, maps and optional types, and have neither names nor
traits. -/
inductive Structural : HostType → Prop
  | scalar (kind : Scalar) : Structural (.scalar kind)
  | array (length : Nat) {elem : HostType} : Structural elem → Structural (.array length elem)
  | seq {elem : HostType} : Structural elem → Structural (.seq elem)
  | map {key value : HostType} : Structural key → Structural value → Structural (.map key value)
  | optional {inner : HostType} : Structural inner → Structural (.optional inner)

theorem signature_scalar (kind : Scalar) : (scalar kind).signature = kind.name := rfl

theorem chars_array (length : Nat) (elem : HostType) : (array length elem).signature.toList =
    '[' :: (elem.signature.toList ++ ';' :: ' ' :: (Nat.toDigits 10 length ++ [']'])) := by
  have text : (array length elem).signature = "[" ++ elem.signature ++ "; " ++ toString length ++ "]" := rfl
  simp [text]

theorem chars_seq (elem : HostType) : (seq elem).signature.toList = '[' :: (elem.signature.toList ++ [']']) := by
  have text : (seq elem).signature = "[" ++ elem.signature ++ "]" := rfl
  simp [text]

theorem chars_map (key value : HostType) : (map key value).signature.toList =
    'm' :: 'a' :: 'p' :: '<' :: (key.signature.toList ++ ',' :: ' ' :: (value.signature.toList ++ ['>'])) := by
  have text : (map key value).signature = "map<" ++ key.signature ++ ", " ++ value.signature ++ ">" := rfl
  simp [text]

theorem chars_optional (inner : HostType) : (optional inner).signature.toList = '?' :: inner.signature.toList := by
  have text : (optional inner).signature = "?" ++ inner.signature := rfl
  simp [text]

namespace Structural

variable {type : HostType} {cs rest : List Char}

theorem eq_scalar (structural : type.Structural) {c : Char} (other : c ≠ '[' ∧ c ≠ 'm' ∧ c ≠ '?')
    (starts : type.signature.toList ++ rest = c :: cs) : ∃ kind, type = .scalar kind := by
  cases structural with
  | scalar kind => exact ⟨kind, rfl⟩
  | _ =>
    simp only [chars_array, chars_seq, chars_map, chars_optional, List.cons_append, List.cons.injEq] at starts
    simp [← starts.1] at other

theorem ne_scalar {kind : Scalar} {c : Char} (mark : c = '[' ∨ c = 'm' ∨ c = '?') :
    (HostType.scalar kind).signature.toList ++ rest ≠ c :: cs := by
  obtain ⟨d, word, spelled, apart⟩ := kind.name_eq_cons
  rw [signature_scalar, spelled]
  intro starts
  rw [(List.cons.inj starts).1] at apart
  tauto

theorem of_bracket (structural : type.Structural) (starts : type.signature.toList ++ rest = '[' :: cs) :
    ∃ elem, elem.Structural ∧ (type = .seq elem ∧ cs = elem.signature.toList ++ ']' :: rest ∨
      ∃ length, type = .array length elem ∧
        cs = elem.signature.toList ++ ';' :: ' ' :: (Nat.toDigits 10 length ++ ']' :: rest)) := by
  cases structural with
  | scalar kind => exact absurd starts (ne_scalar (.inl rfl))
  | @array length elem inner =>
    rw [chars_array] at starts
    exact ⟨elem, inner, .inr ⟨length, rfl, by simpa using (List.cons.inj starts).2.symm⟩⟩
  | @seq elem inner =>
    rw [chars_seq] at starts
    exact ⟨elem, inner, .inl ⟨rfl, by simpa using (List.cons.inj starts).2.symm⟩⟩
  | _ => simp [chars_map, chars_optional] at starts

theorem of_map (structural : type.Structural) (starts : type.signature.toList ++ rest = 'm' :: cs) :
    ∃ key value, key.Structural ∧ value.Structural ∧ type = .map key value ∧
      cs = 'a' :: 'p' :: '<' :: (key.signature.toList ++ ',' :: ' ' :: (value.signature.toList ++ '>' :: rest)) := by
  cases structural with
  | scalar kind => exact absurd starts (ne_scalar (.inr (.inl rfl)))
  | @map key value first second =>
    rw [chars_map] at starts
    exact ⟨key, value, first, second, rfl, by simpa using (List.cons.inj starts).2.symm⟩
  | _ => simp [chars_array, chars_seq, chars_optional] at starts

theorem of_optional (structural : type.Structural) (starts : type.signature.toList ++ rest = '?' :: cs) :
    ∃ inner, inner.Structural ∧ type = .optional inner ∧ cs = inner.signature.toList ++ rest := by
  cases structural with
  | scalar kind => exact absurd starts (ne_scalar (.inr (.inr rfl)))
  | @optional inner required =>
    rw [chars_optional] at starts
    exact ⟨inner, required, rfl, (List.cons.inj starts).2.symm⟩
  | _ => simp [chars_array, chars_seq, chars_map] at starts

/-- The text of a type says where it ends. The induction is on the first type, and what the second one is
made of is told from how its text starts. -/
theorem signature_append_inj {one other : HostType} (structural : one.Structural) (structural' : other.Structural)
    {rest rest' : List Char} (same : one.signature.toList ++ rest = other.signature.toList ++ rest') :
    one = other ∧ rest = rest' := by
  induction structural generalizing other rest rest' with
  | scalar kind =>
    obtain ⟨c, word, spelled, apart⟩ := kind.name_eq_cons
    obtain ⟨kind', rfl⟩ := structural'.eq_scalar apart (by rw [← same, signature_scalar, spelled]; rfl)
    obtain ⟨rfl, rests⟩ := Scalar.name_append_inj same
    exact ⟨rfl, rests⟩
  | @array length elem _ ih =>
    rw [chars_array] at same
    -- after the element the text goes on with a semicolon, so the other type is no sequence
    obtain ⟨elem', inner', ⟨rfl, after⟩ | ⟨length', rfl, after⟩⟩ := structural'.of_bracket same.symm
    · have goesOn := (ih inner' (by simpa using after)).2
      cases goesOn
    · obtain ⟨rfl, goesOn⟩ := ih inner' (by simpa using after)
      obtain ⟨rfl, rests⟩ := Text.toDigits_append_inj (by simpa using goesOn)
      exact ⟨rfl, rests⟩
  | @seq elem _ ih =>
    rw [chars_seq] at same
    obtain ⟨elem', inner', ⟨rfl, after⟩ | ⟨length', rfl, after⟩⟩ := structural'.of_bracket same.symm
    · obtain ⟨rfl, goesOn⟩ := ih inner' (by simpa using after)
      exact ⟨rfl, (List.cons.inj goesOn).2⟩
    · have goesOn := (ih inner' (by simpa using after)).2
      cases goesOn
  | @map key value _ _ ih ih' =>
    rw [chars_map] at same
    obtain ⟨key', value', first', second', rfl, after⟩ := structural'.of_map same.symm
    obtain ⟨rfl, goesOn⟩ := ih first' (by simpa using after)
    obtain ⟨rfl, rests⟩ := ih' second' (by simpa using goesOn)
    exact ⟨rfl, (List.cons.inj rests).2⟩
  | @optional inner _ ih =>
    rw [chars_optional] at same
    obtain ⟨inner', required', rfl, after⟩ := structural'.of_optional same.symm
    obtain ⟨rfl, rests⟩ := ih required' after
    exact ⟨rfl, rests⟩

end Structural

/-- Structural types with the same signature are the same type. So the rules that are looked up by signature
never confuse two of them: one rule is found for one type. -/
theorem signatures_tell_apart {one other : HostType} (structural : one.Structural)
    (structural' : other.Structural) :
    (one.signature = other.signature → one = other) ∧
    ∀ column column' direction direction' rule, findRule? column one.signature direction = some rule →
      findRule? column' other.signature direction' = some rule → one = other := by
  have apart (same : one.signature = other.signature) : one = other :=
    (structural.signature_append_inj structural' (congrArg (·.toList ++ []) same)).1
  refine ⟨apart, fun column column' direction direction' rule found found' => apart ?_⟩
  rw [← signature_of_findRule? found, signature_of_findRule? found']

def numberPair : HostType := array 2 (scalar .f64)

theorem signatures_tell_apart_numberPair :
    (array 2 numberPair).Structural ∧ (seq numberPair).Structural ∧
      (array 2 numberPair).signature = "[[f64; 2]; 2]" ∧ (seq numberPair).signature = "[[f64; 2]]" ∧
      (array 2 numberPair).signature ≠ (seq numberPair).signature := by
  have pair : numberPair.Structural := .array 2 (.scalar .f64)
  refine ⟨.array 2 pair, .seq pair, by decide, by decide, ?_⟩
  intro same
  have equal := (signatures_tell_apart (.array 2 pair) (.seq pair)).1 same
  cases equal

end HostType

end RecordSql
