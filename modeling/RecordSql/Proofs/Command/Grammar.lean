import RecordSql.Proofs.Command.Ident

namespace RecordSql

/-- `[qualifier.]name`, where both parts are identifiers. -/
inductive QualifiedText : String → Prop
  | bare {name : String} : isIdent name = true → QualifiedText name
  | qualified {qualifier name : String} : isIdent qualifier = true → isIdent name = true →
    QualifiedText (qualifier ++ "." ++ name)

/-- `[qualifier.]name[:alias]`, where all parts are identifiers. -/
inductive RelationText : String → Prop
  | plain {path : String} : QualifiedText path → RelationText path
  | named {path given : String} : QualifiedText path → isIdent given = true → RelationText (path ++ ":" ++ given)

theorem isIdent_ofList {cs : List Char} : isIdent (String.ofList cs) = isIdentChars cs := by
  rw [isIdent, String.toList_ofList]

theorem qualifiedText_iff {path : String} : QualifiedText path ↔
    ∃ qualifier name, IsQualified qualifier name ∧ qualifierText qualifier ++ name = path := by
  constructor
  · intro spelled
    cases spelled with
    | bare ident => exact ⟨none, _, ⟨by simp, ident⟩, by simp [qualifierText]⟩
    | qualified before after => exact ⟨some _, _, ⟨by simpa using before, after⟩, rfl⟩
  · rintro ⟨qualifier, name, ⟨idents, ident⟩, rfl⟩
    cases qualifier with
    | none => simpa [qualifierText] using QualifiedText.bare ident
    | some qualifier => exact .qualified (idents qualifier rfl) ident

theorem readQualified?_iff {cs : List Char} {qualifier : Option String} {name : String} :
    readQualified? cs = some (qualifier, name) ↔
      IsQualified qualifier name ∧ (qualifierText qualifier ++ name).toList = cs := by
  constructor
  · intro read
    unfold readQualified? at read
    split at read
    · rename_i before after cut
      split at read
      · rename_i idents
        cases read
        rw [Bool.and_eq_true] at idents
        rw [Text.eq_of_splitOnce cut]
        exact ⟨⟨by simpa [isIdent_ofList] using idents.1, isIdent_ofList.trans idents.2⟩,
          by simp [qualifierText]⟩
      · cases read
    · split at read
      · rename_i ident
        cases read
        exact ⟨⟨by simp, isIdent_ofList.trans ident⟩, by simp [qualifierText]⟩
      · cases read
  · rintro ⟨valid, rfl⟩
    exact readQualified?_text valid

namespace ColumnRef

theorem parse?_iff {text : String} {column : ColumnRef} :
    parse? text = some column ↔ column.Valid ∧ column.text = Text.trimmed text := by
  obtain ⟨qualifier, name⟩ := column
  have whole : (qualifierText qualifier ++ name).toList = Text.trim text.toList ↔
      qualifierText qualifier ++ name = Text.trimmed text := by
    rw [Text.trimmed, ← String.toList_inj, String.toList_ofList]
  unfold parse? ofChars? Valid ColumnRef.text
  rw [← whole, ← readQualified?_iff, Option.map_eq_some_iff]
  constructor
  · rintro ⟨read, found, same⟩
    cases same
    exact found
  · intro found
    exact ⟨_, found, rfl⟩

theorem qualifiedText_iff_valid {text : String} :
    QualifiedText text ↔ ∃ column : ColumnRef, column.Valid ∧ column.text = text := by
  rw [qualifiedText_iff]
  constructor
  · rintro ⟨qualifier, name, valid, same⟩
    exact ⟨⟨qualifier, name⟩, valid, same⟩
  · rintro ⟨column, valid, same⟩
    exact ⟨column.qualifier, column.name, valid, same⟩

end ColumnRef

namespace RelationRef

theorem valid_of_parse? {text : String} {ref : RelationRef} (read : parse? text = some ref) :
    ref.Valid ∧ ref.text = Text.trimmed text := by
  have whole : ref.text = Text.trimmed text ↔ ref.text.toList = Text.trim text.toList := by
    rw [Text.trimmed, ← String.toList_inj, String.toList_ofList]
  rw [whole]
  unfold parse? at read
  dsimp only at read
  split at read
  · rename_i path given cut
    split at read
    · rename_i ident
      obtain ⟨⟨qualifier, name⟩, found, rfl⟩ := Option.map_eq_some_iff.mp read
      obtain ⟨valid, same⟩ := readQualified?_iff.mp found
      refine ⟨⟨valid, by simpa [isIdent_ofList] using ident⟩, ?_⟩
      rw [Text.eq_of_splitOnce cut, ← same]
      simp [RelationRef.text]
    · cases read
  · obtain ⟨⟨qualifier, name⟩, found, rfl⟩ := Option.map_eq_some_iff.mp read
    obtain ⟨valid, same⟩ := readQualified?_iff.mp found
    refine ⟨⟨valid, by simp⟩, ?_⟩
    rw [← same]
    simp [RelationRef.text]

theorem parse?_iff {text : String} {ref : RelationRef} :
    parse? text = some ref ↔ ref.Valid ∧ ref.text = Text.trimmed text := by
  constructor
  · exact valid_of_parse?
  · rintro ⟨valid, written⟩
    have kept : Text.trim ref.text.toList = Text.trim text.toList := by
      rw [Text.trim_of_no_blank (no_blank_text valid), written, Text.trimmed, String.toList_ofList]
    have same : parse? text = parse? ref.text := by
      unfold parse?
      rw [kept]
    rw [same, parse?_text valid]

theorem relationText_iff_valid {text : String} :
    RelationText text ↔ ∃ ref : RelationRef, ref.Valid ∧ ref.text = text := by
  constructor
  · intro spelled
    cases spelled with
    | plain path =>
      obtain ⟨qualifier, name, valid, rfl⟩ := qualifiedText_iff.mp path
      exact ⟨⟨qualifier, name, none⟩, ⟨valid, by simp⟩, by simp [RelationRef.text]⟩
    | @named _ given path ident =>
      obtain ⟨qualifier, name, valid, rfl⟩ := qualifiedText_iff.mp path
      exact ⟨⟨qualifier, name, some given⟩, ⟨valid, by simpa using ident⟩,
        by simp [RelationRef.text, String.append_assoc]⟩
  · rintro ⟨⟨qualifier, name, given⟩, ⟨valid, ident⟩, rfl⟩
    have path : QualifiedText (qualifierText qualifier ++ name) := qualifiedText_iff.mpr ⟨_, _, valid, rfl⟩
    cases given with
    | none => simpa [RelationRef.text] using RelationText.plain path
    | some given => simpa [RelationRef.text, String.append_assoc] using RelationText.named path (ident given rfl)

end RelationRef

/-- A relation is read from a text just where, blanks around it aside, it is `[qualifier.]name[:alias]` with
an identifier for each part that is there. What is read has identifiers for its parts and is written as that
text, and whatever has them is read back from what it is written as. Columns are read so from
`[qualifier.]name`. -/
theorem identifiers_read_as_written :
    ((∀ text, (RelationRef.parse? text).isSome = true ↔ RelationText (Text.trimmed text)) ∧
      (∀ text ref, RelationRef.parse? text = some ref ↔ ref.Valid ∧ ref.text = Text.trimmed text) ∧
      ∀ ref : RelationRef, ref.Valid → RelationRef.parse? ref.text = some ref) ∧
    (∀ text, (ColumnRef.parse? text).isSome = true ↔ QualifiedText (Text.trimmed text)) ∧
      (∀ text column, ColumnRef.parse? text = some column ↔
        column.Valid ∧ column.text = Text.trimmed text) ∧
      ∀ column : ColumnRef, column.Valid → ColumnRef.parse? column.text = some column := by
  refine ⟨⟨fun text => ?_, fun _ _ => RelationRef.parse?_iff, fun _ => RelationRef.parse?_text⟩,
    fun text => ?_, fun _ _ => ColumnRef.parse?_iff, fun _ => ColumnRef.ofChars?_text⟩
  · simp only [Option.isSome_iff_exists, RelationRef.parse?_iff, RelationRef.relationText_iff_valid]
  · simp only [Option.isSome_iff_exists, ColumnRef.parse?_iff, ColumnRef.qualifiedText_iff_valid]

theorem identifiers_read_as_written_appUsers :
    let users : RelationRef := ⟨some "app", "users", some "u"⟩
    let email : ColumnRef := ⟨some "u", "e_mail$1"⟩
    users.Valid ∧ email.Valid ∧
      RelationRef.parse? users.text = some users ∧ RelationRef.parse? "\t app.users:u\n" = some users ∧
      ¬ RelationText "a.b.c" ∧ ColumnRef.parse? email.text = some email := by
  intro users email
  obtain ⟨⟨accepted, exact, back⟩, -, -, columnBack⟩ := identifiers_read_as_written
  have valid : users.Valid := ⟨⟨by decide, by decide⟩, by decide⟩
  have columnValid : email.Valid := ⟨by decide, by decide⟩
  refine ⟨valid, columnValid, back users valid, (exact _ users).mpr ⟨valid, by decide⟩, ?_,
    columnBack email columnValid⟩
  intro spelled
  exact absurd ((accepted "a.b.c").mpr spelled) (by decide)

end RecordSql
