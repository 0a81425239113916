import RecordSql.Annotation.Record
import RecordSql.Proofs.Outcome

namespace RecordSql

/-- The names of a chain of fields that ends with the given one. The chain begins among the fields,
and goes on among the members of the record, or the optional record, that its last field holds. -/
inductive FieldPath (fields : List HostField) : List String → HostField → Prop
  | first {field : HostField} : field ∈ fields → FieldPath fields [field.name] field
  | member {path : List String} {record field : HostField} {members : List HostField} :
    FieldPath fields path record → record.nestedFields? = some members → field ∈ members →
      FieldPath fields (path ++ [field.name]) field

def Resolves (fields : List HostField) (path : List String) (type : HostType) : Prop :=
  ∃ field, FieldPath fields path field ∧ field.type = type

def Reached (fields : List HostField) (path : List String) (members : List HostField) : Prop :=
  ∀ member ∈ members, FieldPath fields (path ++ [member.name]) member

theorem reached_nil (fields : List HostField) : Reached fields [] fields := fun _ => .first

theorem FieldPath.reached {fields members : List HostField} {path : List String} {record : HostField}
    (leads : FieldPath fields path record) (nested : record.nestedFields? = some members) :
    Reached fields path members := fun _ => leads.member nested

namespace HostType

variable {type : HostType} {members : List HostField}

theorem shape_of_recordFields (plain : type.recordFields? = some members) :
    type.shape = .record members := by
  unfold recordFields? at plain
  split at plain
  · rename_i fields shape
    split at plain
    · cases plain
    · rw [shape, Option.some.inj plain]
  · cases plain

end HostType

theorem recordFields_of_recordElem {type record : HostType} {optional : Bool}
    (found : recordElem? type = some (optional, record)) : ∃ members, record.recordFields? = some members := by
  rw [← Option.isSome_iff_exists]
  unfold recordElem? at found
  split at found
  · cases found
    assumption
  · split at found
    · split at found
      · cases found
        assumption
      · cases found
    · cases found

theorem recordElem_of_iteratedElem {signature : CallSignature} {elem : Bool × HostType}
    (found : iteratedElem? signature = some elem) : ∃ type, recordElem? type = some elem := by
  unfold iteratedElem? at found
  split at found
  · split at found
    · exact ⟨_, found⟩
    · cases found
  · cases found

theorem RecordShape.recordFields_of_ofField {field : HostField} {shape : RecordShape} {record : HostType}
    (found : RecordShape.ofField field = .ok (shape, record)) :
    ∃ members, record.recordFields? = some members := by
  unfold RecordShape.ofField at found
  split at found <;> try cases found
  all_goals
    split at found <;> try cases found
    rename_i elem
  all_goals first
    | exact recordFields_of_recordElem elem
    | exact recordFields_of_recordElem (recordElem_of_iteratedElem elem).choose_spec

theorem FieldRole.nested_of_within {naming : ColumnNaming} {start inner : String} {field : HostField}
    (role : FieldRole.ofField naming start field = .ok (.within inner)) :
    ∃ members, field.nestedFields? = some members := by
  rw [← Option.isSome_iff_exists]
  unfold FieldRole.ofField at role
  obtain ⟨tag, _, role⟩ := bind_eq_ok.mp role
  dsimp only at role
  split at role
  · rename_i embedded
    simp only [Bool.and_eq_true] at embedded
    exact embedded.1.2
  · split at role
    · unfold FieldRole.ofTag at role
      split at role
      · cases role
      · split at role
        · split at role
          · assumption
          · cases role
        · split at role <;> cases role
    · cases pure_eq_ok.mp role

/-- Wherever members are laid out, the paths of their columns lead to fields of the columns' types. -/
theorem resolves_of_boundFields (naming : ColumnNaming) (fields : List HostField) :
    (∀ (path : List String) (start : String) (members : List HostField) (leaves : List BoundField),
      Reached fields path members → boundFields naming path start members = .ok leaves →
        ∀ leaf ∈ leaves, Resolves fields leaf.path leaf.type) ∧
    (∀ (path : List String) (start : String) (member : HostField) (leaves : List BoundField),
      FieldPath fields (path ++ [member.name]) member →
        boundFieldsOf naming path start member = .ok leaves →
          ∀ leaf ∈ leaves, Resolves fields leaf.path leaf.type) ∧
    (∀ (path : List String) (start : String) (type : HostType) (members : List HostField)
      (leaves : List BoundField), type.required.recordFields? = some members →
        Reached fields path members → boundFieldsWithin naming path start type = .ok leaves →
          ∀ leaf ∈ leaves, Resolves fields leaf.path leaf.type) := by
  apply boundFields.mutual_induct
    (fun path start members => ∀ leaves, Reached fields path members →
      boundFields naming path start members = .ok leaves →
        ∀ leaf ∈ leaves, Resolves fields leaf.path leaf.type)
    (fun path start member => ∀ leaves, FieldPath fields (path ++ [member.name]) member →
      boundFieldsOf naming path start member = .ok leaves →
        ∀ leaf ∈ leaves, Resolves fields leaf.path leaf.type)
    (fun path start type => ∀ members leaves, type.required.recordFields? = some members →
      Reached fields path members → boundFieldsWithin naming path start type = .ok leaves →
        ∀ leaf ∈ leaves, Resolves fields leaf.path leaf.type)
  -- an optional record, a record, and what is neither
  case case1 =>
    intro path start inner _ _ _ _ ih members leaves nested reached laid
    cases HostType.shape_of_recordFields nested
    exact ih leaves reached laid
  case case2 =>
    intro path start inner _ _ ih members leaves nested reached laid
    cases HostType.shape_of_recordFields nested
    exact ih leaves reached laid
  case case3 =>
    intro type path start notOptional notRecord members leaves nested reached laid
    rw [boundFieldsWithin] at laid
    · cases laid
      simp
    · exact notOptional
    · exact notRecord
  -- a member is skipped, laid out in place or bound
  case case4 =>
    intro path start name tag type embedded ih leaves leads laid
    rw [boundFieldsOf] at laid
    obtain ⟨role, known, laid⟩ := bind_eq_ok.mp laid
    cases role with
    | skipped =>
      cases pure_eq_ok.mp laid
      simp
    | within inner =>
      obtain ⟨members, nested⟩ := FieldRole.nested_of_within known
      exact ih inner members leaves nested (leads.reached nested) laid
    | bound column options =>
      cases pure_eq_ok.mp laid
      intro leaf isLeaf
      cases List.mem_singleton.mp isLeaf
      exact ⟨_, leads, rfl⟩
  case case5 =>
    intro path start leaves reached laid
    cases laid
    simp
  case case6 =>
    intro path start member members ihHere ihLater leaves reached laid
    simp only [boundFields, bind_eq_ok, pure_eq_ok] at laid
    obtain ⟨here, hereLaid, later, laterLaid, rfl⟩ := laid
    obtain ⟨leads, reached⟩ := List.forall_mem_cons.mp reached
    intro leaf isLeaf
    rcases List.mem_append.mp isLeaf with isHere | isLater
    · exact ihHere here leads hereLaid leaf isHere
    · exact ihLater later reached laterLaid leaf isLater

theorem BoundField.resolves_of_ofRecord {naming : ColumnNaming} {record : HostType}
    {members : List HostField} {leaves : List BoundField} (plain : record.recordFields? = some members)
    (bound : BoundField.ofRecord naming record = .ok leaves) :
    ∀ leaf ∈ leaves, Resolves members leaf.path leaf.type :=
  (resolves_of_boundFields naming members).1 [] "" members leaves (reached_nil members)
    (by rwa [ofRecord, plain] at bound)

end RecordSql
