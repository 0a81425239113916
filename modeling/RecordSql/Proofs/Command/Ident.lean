import RecordSql.Command.Ident
import RecordSql.Proofs.Text.Number

namespace RecordSql

theorem ofList_ne_empty_of_ident {cs : List Char} (ident : isIdentChars cs = true) :
    String.ofList cs ≠ "" := by
  cases cs with
  | nil => cases ident
  | cons c cs => simp [← String.toList_inj]

theorem readQualified?_eq_some {cs : List Char} {qualifier : Option String} {name : String}
    (read : readQualified? cs = some (qualifier, name)) :
    name ≠ "" ∧ ∀ given, qualifier = some given → given ≠ "" := by
  unfold readQualified? at read
  split at read
  · split at read
    · rename_i idents
      cases read
      obtain ⟨before, after⟩ := Bool.and_eq_true_iff.mp idents
      refine ⟨ofList_ne_empty_of_ident after, ?_⟩
      intro given same
      cases same
      exact ofList_ne_empty_of_ident before
    · cases read
  · split at read
    · rename_i ident
      cases read
      exact ⟨ofList_ne_empty_of_ident ident, by simp⟩
    · cases read

theorem RelationRef.key_ne_empty {text : String} {ref : RelationRef}
    (read : RelationRef.parse? text = some ref) : ref.key ≠ "" := by
  unfold RelationRef.parse? at read
  dsimp only at read
  split at read
  · split at read
    · rename_i ident
      obtain ⟨found, _, rfl⟩ := Option.map_eq_some_iff.mp read
      exact ofList_ne_empty_of_ident ident
    · cases read
  · obtain ⟨⟨qualifier, name⟩, found, rfl⟩ := Option.map_eq_some_iff.mp read
    exact (readQualified?_eq_some found).1

theorem isIdentRest_of_ident {cs : List Char} (ident : isIdentChars cs = true) :
    ∀ c ∈ cs, isIdentRest c = true := by
  cases cs with
  | nil => cases ident
  | cons c cs =>
    simp only [isIdentChars, Bool.and_eq_true, List.all_eq_true] at ident
    refine List.forall_mem_cons.mpr ⟨?_, ident.2⟩
    have start := ident.1
    simp only [isIdentStart, isIdentRest, Char.isAlphanum, Bool.or_eq_true] at start ⊢
    tauto

theorem not_mem_of_ident {cs : List Char} (ident : isIdentChars cs = true) {c : Char}
    (other : isIdentRest c = false) : c ∉ cs := by
  intro member
  simp [isIdentRest_of_ident ident c member] at other

theorem toNat_of_isUpper {c : Char} (upper : c.isUpper = true) : 65 ≤ c.toNat ∧ c.toNat ≤ 90 := by
  have bounds : 'A'.val ≤ c.val ∧ c.val ≤ 'Z'.val := of_decide_eq_true upper
  exact ⟨UInt32.le_iff_toNat_le.mp bounds.1, UInt32.le_iff_toNat_le.mp bounds.2⟩

theorem toNat_of_isLower {c : Char} (lower : c.isLower = true) : 97 ≤ c.toNat ∧ c.toNat ≤ 122 := by
  obtain ⟨least, largest⟩ := Bool.and_eq_true_iff.mp lower
  exact ⟨UInt32.le_iff_toNat_le.mp (of_decide_eq_true least), UInt32.le_iff_toNat_le.mp (of_decide_eq_true largest)⟩

theorem isIdentRest_iff {c : Char} : isIdentRest c = true ↔
    ((c.isUpper = true ∨ c.isLower = true) ∨ c.isDigit = true) ∨ c = '_' ∨ c = '$' := by
  have letters : c.isAlphanum = ((c.isUpper || c.isLower) || c.isDigit) := rfl
  simp only [isIdentRest, letters, Bool.or_eq_true, beq_iff_eq, or_assoc]

theorem toNat_of_isIdentRest {c : Char} (inside : isIdentRest c = true) :
    c.toNat = 36 ∨ (48 ≤ c.toNat ∧ c.toNat ≤ 57) ∨ (65 ≤ c.toNat ∧ c.toNat ≤ 90) ∨ c.toNat = 95 ∨
      (97 ≤ c.toNat ∧ c.toNat ≤ 122) := by
  rcases isIdentRest_iff.mp inside with ((upper | lower) | digit) | rfl | rfl
  · exact .inr (.inr (.inl (toNat_of_isUpper upper)))
  · exact .inr (.inr (.inr (.inr (toNat_of_isLower lower))))
  · exact .inr (.inl (Text.toNat_of_isDigit digit))
  · decide
  · decide

theorem isBlank_of_isIdentRest {c : Char} (inside : isIdentRest c = true) : Text.isBlank c = false := by
  have value := toNat_of_isIdentRest inside
  simp only [Text.isBlank, Bool.or_eq_false_iff, Bool.and_eq_false_iff, decide_eq_false_iff_not, beq_eq_false_iff_ne]
  omega

def IsQualified (qualifier : Option String) (name : String) : Prop :=
  (∀ given ∈ qualifier, isIdent given = true) ∧ isIdent name = true

theorem readQualified?_text {qualifier : Option String} {name : String} (valid : IsQualified qualifier name) :
    readQualified? (qualifierText qualifier ++ name).toList = some (qualifier, name) := by
  obtain ⟨idents, ident⟩ := valid
  unfold isIdent at ident idents
  cases qualifier with
  | none =>
    have bare : Text.splitOnce '.' name.toList = none := Text.splitOnce_eq_none (not_mem_of_ident ident (by decide))
    simp [readQualified?, qualifierText, bare, ident]
  | some given =>
    have before := idents given rfl
    have cut := Text.splitOnce_append (not_mem_of_ident before (c := '.') (by decide)) name.toList
    simp [readQualified?, qualifierText, cut, before, ident]

theorem qualified_chars {qualifier : Option String} {name : String} (valid : IsQualified qualifier name) :
    ∀ c ∈ (qualifierText qualifier ++ name).toList, isIdentRest c = true ∨ c = '.' := by
  intro c member
  obtain ⟨idents, ident⟩ := valid
  cases qualifier with
  | none => exact .inl (isIdentRest_of_ident ident c (by simpa [qualifierText] using member))
  | some given =>
    simp only [qualifierText, Option.map_some, Option.getD_some, String.toList_append, List.mem_append] at member
    rcases member with (inside | dot) | inside
    · exact .inl (isIdentRest_of_ident (idents given rfl) c inside)
    · exact .inr (by simpa using dot)
    · exact .inl (isIdentRest_of_ident ident c inside)

namespace ColumnRef

def Valid (column : ColumnRef) : Prop := IsQualified column.qualifier column.name

theorem text_chars {column : ColumnRef} (valid : column.Valid) :
    ∀ c ∈ column.text.toList, isIdentRest c = true ∨ c = '.' := qualified_chars valid

theorem no_blank_text {column : ColumnRef} (valid : column.Valid) :
    ∀ c ∈ column.text.toList, Text.isBlank c = false := by
  intro c member
  rcases text_chars valid c member with inside | rfl
  · exact isBlank_of_isIdentRest inside
  · decide

theorem ofChars?_text {column : ColumnRef} (valid : column.Valid) : ofChars? column.text.toList = some column := by
  rw [ofChars?, Text.trim_of_no_blank (no_blank_text valid), text, readQualified?_text valid]
  rfl

end ColumnRef

namespace RelationRef

def Valid (ref : RelationRef) : Prop :=
  IsQualified ref.qualifier ref.name ∧ ∀ given ∈ ref.aliasName, isIdent given = true

theorem text_chars {ref : RelationRef} (valid : ref.Valid) :
    ∀ c ∈ ref.text.toList, isIdentRest c = true ∨ c = '.' ∨ c = ':' := by
  intro c member
  rw [text, String.toList_append, List.mem_append] at member
  rcases member with path | given
  · rcases qualified_chars valid.1 c path with inside | dot
    · exact .inl inside
    · exact .inr (.inl dot)
  · cases known : ref.aliasName with
    | none => simp [known] at given
    | some named =>
      have parts : c = ':' ∨ c ∈ named.toList := by simpa [known] using given
      rcases parts with colon | inside
      · exact .inr (.inr colon)
      · exact .inl (isIdentRest_of_ident (valid.2 named known) c inside)

theorem no_blank_text {ref : RelationRef} (valid : ref.Valid) :
    ∀ c ∈ ref.text.toList, Text.isBlank c = false := by
  intro c member
  rcases text_chars valid c member with inside | rfl | rfl
  · exact isBlank_of_isIdentRest inside
  · decide
  · decide

theorem parse?_text {ref : RelationRef} (valid : ref.Valid) : parse? ref.text = some ref := by
  have path := readQualified?_text valid.1
  have colonless : ':' ∉ (qualifierText ref.qualifier ++ ref.name).toList := by
    intro member
    rcases qualified_chars valid.1 _ member with inside | dot
    · cases inside
    · cases dot
  unfold parse?
  rw [Text.trim_of_no_blank (no_blank_text valid)]
  obtain ⟨qualifier, name, given⟩ := ref
  cases given with
  | none =>
    have whole := Text.splitOnce_eq_none colonless
    simp only [text, Option.map_none, Option.getD_none, String.append_empty]
    rw [whole, path]
    rfl
  | some given =>
    have ident : isIdentChars given.toList = true := valid.2 given rfl
    have cut := Text.splitOnce_append colonless given.toList
    have characters : (text ⟨qualifier, name, some given⟩).toList =
        (qualifierText qualifier ++ name).toList ++ ':' :: given.toList := by
      simp [text]
    dsimp only at cut path ⊢
    rw [characters, cut]
    simp only [ident, path]
    simp

end RelationRef

end RecordSql
