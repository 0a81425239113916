import RecordSql.Proofs.Check.Bindings

namespace RecordSql

structure Pairing.MadeFor (pairing : Pairing) (field : BoundField) : Prop where
  path_eq : pairing.path = field.path
  signature_eq : pairing.signature = field.type.signature
  column_eq : pairing.column = field.column.name

instance (pairing : Pairing) (field : BoundField) : Decidable (pairing.MadeFor field) :=
  decidable_of_iff (pairing.path = field.path ∧ pairing.signature = field.type.signature ∧
      pairing.column = field.column.name)
    ⟨fun ⟨path, signature, column⟩ => ⟨path, signature, column⟩,
      fun ⟨path, signature, column⟩ => ⟨path, signature, column⟩⟩

namespace Scope

variable {scope : Scope} {field : BoundField} {pairing : Pairing} {fields : List BoundField}
  {pairings : List Pairing}

theorem madeFor_of_pair {key : String} {column : Column} {direction : Direction}
    (named : column.name = field.column.name)
    (paired : scope.pair field key column direction = .ok pairing) : pairing.MadeFor field := by
  obtain ⟨adapter, _, rfl⟩ := pair_eq_ok.mp paired
  exact ⟨rfl, rfl, named⟩

theorem madeFor_of_readPairing (read : scope.readPairing field = .ok pairing) :
    pairing.MadeFor field := by
  obtain ⟨⟨relation, column⟩, found, paired⟩ := bind_eq_ok.mp read
  exact madeFor_of_pair (Relation.name_of_column? (column_eq_ok found).1) paired

theorem madeFor_of_writePairing (written : scope.writePairing field = .ok pairing) :
    pairing.MadeFor field := by
  obtain ⟨column, found, paired⟩ := bind_eq_ok.mp written
  exact madeFor_of_pair (Relation.hasColumn_of_ownColumn found).2 paired

theorem madeFor_of_fillsByName (fills : scope.FillsByName pairing field) : pairing.MadeFor field := by
  obtain ⟨column, has, paired⟩ := fills
  exact madeFor_of_pair (Relation.name_of_column? has) paired

theorem madeFor_readPairings (read : scope.readPairings fields = .ok pairings) :
    List.Forall₂ Pairing.MadeFor pairings (fields.filter fun field => !field.options.writeOnly) :=
  (mapM_eq_ok.mp read).flip.imp fun _ _ single => madeFor_of_readPairing single

theorem madeFor_returnAll (returned : scope.returnAll fields = .ok pairings) :
    List.Forall₂ Pairing.MadeFor pairings (fields.filter fun field =>
      !field.options.writeOnly && (scope.target.column? field.column.name).isSome) := by
  have related := forall₂_filter_isSome (mapM_eq_ok.mp returned)
  simp only [Option.isSome_map, List.filter_filter] at related
  simp only [Bool.and_comm (!_)]
  refine related.flip.imp fun pairing field single => ?_
  obtain ⟨⟨_, column⟩, found, paired⟩ := single
  obtain ⟨_, has, same⟩ := Option.map_eq_some_iff.mp found
  cases same
  exact madeFor_of_fillsByName ⟨column, has, paired⟩

theorem madeFor_returnColumns {listed : List ColumnRef}
    (returned : listed.mapM (scope.returnColumn fields) = .ok pairings) :
    List.Forall₂ Pairing.MadeFor pairings (listed.filterMap fun ref =>
      fields.find? fun field => field.column.name == ref.name) := by
  have related := (mapM_eq_ok.mp returned).imp fun ref pairing single =>
    find?_of_returnColumn single
  exact (forall₂_filterMap related).flip.imp fun _ _ fills => madeFor_of_fillsByName fills

end Scope

namespace Command

def outputFields (command : Command) (target : Relation) : List BoundField :=
  match command.result with
  | some result => result.fields.filter fun field => !field.options.writeOnly
  | none =>
    if command.kind = .select then
      command.record.fields.filter fun field => !field.options.writeOnly
    else match command.returning with
      | none => []
      | some .all => command.record.fields.filter fun field =>
          !field.options.writeOnly && (target.column? field.column.name).isSome
      | some (.columns listed) => listed.filterMap fun ref =>
          command.record.fields.find? fun field => field.column.name == ref.name

/-- A return list names the column of the field, and the field is the first of the record that has
it. -/
structure ReturnsTo (command : Command) (field : BoundField) : Prop where
  result_eq : command.result = none
  kind_ne : command.kind ≠ .select
  first : ∃ listed, command.returning = some (.columns listed) ∧ ∃ ref ∈ listed,
    (command.record.fields.find? fun other => other.column.name == ref.name) = some field

/-- Of the write-only fields, those are filled to which a list of columns is returned. -/
theorem mem_outputFields_iff {command : Command} {target : Relation} {field : BoundField}
    (writeOnly : field.options.writeOnly = true) :
    field ∈ command.outputFields target ↔ command.ReturnsTo field := by
  unfold outputFields
  constructor
  · intro member
    split at member
    · simp [writeOnly] at member
    · rename_i result
      split at member
      · simp [writeOnly] at member
      · rename_i kind
        split at member
        · cases member
        · simp [writeOnly] at member
        · rename_i listed returning
          obtain ⟨ref, inside, first⟩ := List.mem_filterMap.mp member
          exact ⟨result, kind, listed, returning, ref, inside, first⟩
  · rintro ⟨result, kind, listed, returning, ref, inside, first⟩
    simp only [result, if_neg kind, returning]
    exact List.mem_filterMap.mpr ⟨ref, inside, first⟩

theorem isForced_iff {command : Command} {name : String} : command.isForced name = true ↔
    ∃ list, command.force = some list ∧ (list = .all ∨ ∃ ref ∈ list.listed, ref.name = name) := by
  unfold isForced
  cases command.force with
  | none => simp
  | some list => cases list <;> simp [ColumnList.isAll, ColumnList.listed]

theorem forced_of_mem_inputFields {command : Command} {target : Relation} {field : BoundField}
    (member : field ∈ command.inputFields target) (readOnly : field.options.readOnly = true) :
    command.isForced field.column.name = true := by
  have sent := List.of_mem_filter member
  simp only [isInput, mayWrite, readOnly, Bool.not_true, Bool.false_or, Bool.and_eq_true] at sent
  exact sent.1

namespace Fits

variable {database : Database} {command : Command} {checked : CheckedCommand} {scope : Scope}
  {first : RelationSet} {known : LiteralTypes} (fits : Fits database command checked scope first known)
include fits

theorem writeRecord_of_writes (writes : command.kind.writesRecord = true) :
    scope.writeRecord command = .ok ⟨checked.inputs, checked.writes⟩ := by
  have sends := fits.sends_fills.1
  generalize checked.inputs = inputs at sends
  generalize checked.writes = targets at sends
  cases sends with
  | record _ written => exact written
  | filter kind => simp [kind, CommandKind.writesRecord] at writes
  | nothing kind => rcases kind with kind | kind <;> simp [kind, CommandKind.writesRecord] at writes

theorem inputs_madeFor (writes : command.kind.writesRecord = true) :
    List.Forall₂ Pairing.MadeFor checked.inputs (command.inputFields scope.target) :=
  (Scope.inputs_writeRecord (fits.writeRecord_of_writes writes)).flip.imp fun _ _ written =>
    Scope.madeFor_of_writePairing written

theorem outputs_madeFor :
    List.Forall₂ Pairing.MadeFor checked.outputs (command.outputFields scope.target) := by
  have fills := fits.sends_fills.2
  generalize checked.outputs = outputs at fills
  unfold outputFields
  cases fills with
  | result present read =>
    simp only [present]
    exact Scope.madeFor_readPairings read
  | record absent kind read =>
    simp only [absent, if_pos kind]
    exact Scope.madeFor_readPairings read
  | @returned columns outputs absent kind returning paired =>
    simp only [absent, if_neg kind, returning]
    cases columns with
    | all => exact Scope.madeFor_returnAll paired
    | columns listed => exact Scope.madeFor_returnColumns paired
  | nothing absent kind returning =>
    simp only [absent, if_neg kind, returning]
    exact .nil

end Fits

end Command

end RecordSql
