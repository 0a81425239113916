import RecordSql.Proofs.Statement.Parameters

namespace RecordSql

def RowLimit.fields : RowLimit → List FieldRef
  | literal _ => []
  | field ref => [ref]

def Block.fields : Block → List FieldRef
  | limit value | offset value => value.fields
  | rowsAffected ref | errorHandler ref => [ref]
  | _ => []

def Command.fieldRefs (command : Command) : List FieldRef :=
  command.whereFields ++ (command.limit.map RowLimit.fields).getD [] ++
    (command.offset.map RowLimit.fields).getD [] ++ command.rowsAffected.toList ++
      command.errorHandler.toList

def BindsRecord (fields : List HostField) (name : String) (typeName : Option TypeName)
    (shape : RecordShape) (leaves : List BoundField) : Prop :=
  ∃ field ∈ fields, field.name = name ∧ ∃ record members,
    RecordShape.ofField field = .ok (shape, record) ∧ record.name = typeName ∧
      record.recordFields? = some members ∧ ∀ leaf ∈ leaves, Resolves members leaf.path leaf.type

variable {naming : ColumnNaming} {name : String} {fields : List HostField} {field : HostField}
  {command : Command}

theorem resolves_ofField (member : field ∈ fields) :
    Resolves fields (FieldRef.ofField field).path (FieldRef.ofField field).type :=
  ⟨field, .first member, rfl⟩

theorem RowLimit.resolves_of_ofField {limit : RowLimit} (member : field ∈ fields)
    (read : RowLimit.ofField field = .ok limit) :
    ∀ ref ∈ limit.fields, Resolves fields ref.path ref.type := by
  intro ref isField
  unfold RowLimit.ofField at read
  split at read
  · unfold RowLimit.read at read
    obtain ⟨text, _, read⟩ := bind_eq_ok.mp read
    split at read
    · cases pure_eq_ok.mp read
      cases isField
    · cases read
  · cases read
    cases List.mem_singleton.mp isField
    exact resolves_ofField member

theorem Block.resolves_of_read {block : Block} (member : field ∈ fields)
    (read : Block.read naming field block.slot = .ok block) :
    ∀ ref ∈ block.fields, Resolves fields ref.path ref.type := by
  cases block with
  | limit value | offset value =>
    obtain ⟨_, limitRead, same⟩ := bind_eq_ok.mp read
    cases pure_eq_ok.mp same
    exact RowLimit.resolves_of_ofField member limitRead
  | rowsAffected ref | errorHandler ref =>
    simp only [Block.read, Block.slot] at read
    split at read <;> cases read
    intro ref isField
    cases List.mem_singleton.mp isField
    exact resolves_ofField member
  | _ => simp [Block.fields]

theorem bindsRecord_of_ofField {shape : RecordShape} {record : HostType} {leaves : List BoundField}
    (member : field ∈ fields) (found : RecordShape.ofField field = .ok (shape, record))
    (bound : BoundField.ofRecord naming record = .ok leaves) :
    BindsRecord fields field.name record.name shape leaves := by
  obtain ⟨members, plain⟩ := RecordShape.recordFields_of_ofField found
  exact ⟨field, member, rfl, record, members, found, rfl, plain,
    BoundField.resolves_of_ofRecord plain bound⟩

theorem RecordBinding.bindsRecord_of_read {binding : RecordBinding} (member : field ∈ fields)
    (read : RecordBinding.read naming field = .ok binding) :
    BindsRecord fields binding.field binding.typeName binding.shape binding.fields := by
  unfold RecordBinding.read at read
  dsimp only at read
  split at read
  · simp only [bind_eq_ok, pure_eq_ok] at read
    obtain ⟨_, _, _, found, _, bound, rfl⟩ := read
    exact bindsRecord_of_ofField member found bound
  · simp only [bind_eq_ok, throw_ne_ok, false_and, exists_false] at read

theorem ResultBinding.bindsRecord_of_read {binding : ResultBinding} (member : field ∈ fields)
    (read : ResultBinding.read naming field = .ok binding) :
    BindsRecord fields binding.field binding.typeName binding.shape binding.fields := by
  simp only [ResultBinding.read, bind_eq_ok, pure_eq_ok] at read
  obtain ⟨_, found, _, bound, rfl⟩ := read
  exact bindsRecord_of_ofField member found bound

namespace Command

namespace ReadFrom

variable (facts : ReadFrom naming name fields command)
include facts

theorem whereField_resolves : ∀ ref ∈ command.whereFields, Resolves fields ref.path ref.type := by
  intro ref isField
  obtain ⟨leaf, isLeaf, ofLeaf⟩ := List.mem_flatMap.mp isField
  exact Leaf.resolves_of_readFrom (facts.leaf_read leaf isLeaf) ref ofLeaf

theorem block_resolves (block : Block) (held : command.Holds block) :
    ∀ ref ∈ block.fields, Resolves fields ref.path ref.type := by
  obtain ⟨field, _, source⟩ := facts.source block held
  exact Block.resolves_of_read source.member source.read

theorem fieldRef_resolves : ∀ ref ∈ command.fieldRefs, Resolves fields ref.path ref.type := by
  intro ref isField
  simp only [fieldRefs, List.mem_append, Option.mem_toList] at isField
  rcases isField with (((inWhere | inLimit) | inOffset) | rows) | handler
  · exact facts.whereField_resolves ref inWhere
  · cases present : command.limit with
    | none => simp [present] at inLimit
    | some limit =>
      rw [present] at inLimit
      exact facts.block_resolves (.limit limit) present ref inLimit
  · cases present : command.offset with
    | none => simp [present] at inOffset
    | some limit =>
      rw [present] at inOffset
      exact facts.block_resolves (.offset limit) present ref inOffset
  · exact facts.block_resolves (.rowsAffected ref) rows ref List.mem_cons_self
  · exact facts.block_resolves (.errorHandler ref) handler ref List.mem_cons_self

theorem record_binds : BindsRecord fields command.record.field command.record.typeName
    command.record.shape command.record.fields := by
  obtain ⟨field, member, read⟩ := facts.record
  exact RecordBinding.bindsRecord_of_read member read

theorem result_binds {binding : ResultBinding} (present : command.result = some binding) :
    BindsRecord fields binding.field binding.typeName binding.shape binding.fields := by
  obtain ⟨field, _, source⟩ := facts.source (.result binding) present
  obtain ⟨_, read, same⟩ := bind_eq_ok.mp source.read
  cases pure_eq_ok.mp same
  exact ResultBinding.bindsRecord_of_read source.member read

end ReadFrom

/-- Among the sources of a command only fields of its where block are taken as they are. -/
theorem whereField_of_argSource {inputs : List Pairing} {field signature : String}
    (isArg : .predicate field signature ∈ command.argSources inputs) :
    ∃ ref ∈ command.whereFields, field = ref.key ∧ signature = ref.type.signature := by
  have ofWhere (isSource : .predicate field signature ∈ command.whereSources) :
      ∃ ref ∈ command.whereFields, field = ref.key ∧ signature = ref.type.signature := by
    obtain ⟨ref, isField, same⟩ := List.mem_map.mp isSource
    cases same
    exact ⟨ref, isField, rfl, rfl⟩
  have notInput : .predicate field signature ∉ inputs.map Pairing.source := by
    simp [Pairing.source]
  have notLimit (limit? : Option RowLimit) (source : String → ArgSource)
      (other : ∀ key, source key ≠ .predicate field signature) :
      .predicate field signature ∉ (limit?.map (RowLimit.sources source)).getD [] := by
    rcases limit? with _ | _ | ref <;> simp [RowLimit.sources, (other _).symm]
  unfold argSources at isArg
  cases kind : command.kind <;> simp only [kind, List.mem_append] at isArg
  case select =>
    rcases isArg with (inWhere | inLimit) | inOffset
    · exact ofWhere inWhere
    · exact absurd inLimit (notLimit command.limit _ (by simp))
    · exact absurd inOffset (notLimit command.offset _ (by simp))
  case insert => exact absurd isArg notInput
  case update => exact ofWhere (isArg.resolve_left notInput)
  case delete => exact ofWhere isArg
  case filter => cases isArg

/-- Whatever a command refers to is a field that its path leads to, from the fields of the command or,
for a column of a record, from the members of the record. What a statement takes from its where block
is told by such a path and the signature of the field's type. -/
theorem paths_resolve (read : Command.read naming name fields = .ok command) :
    (∀ ref ∈ command.fieldRefs, Resolves fields ref.path ref.type) ∧
    BindsRecord fields command.record.field command.record.typeName command.record.shape
      command.record.fields ∧
    (∀ result, command.result = some result →
      BindsRecord fields result.field result.typeName result.shape result.fields) ∧
    ∀ database checked bound, Accepted naming name fields database command checked bound →
      ∀ field signature, .predicate field signature ∈ bound.args →
        ∃ ref ∈ command.whereFields, field = ".".intercalate ref.path ∧
          signature = ref.type.signature := by
  have facts := readFrom_of_read read
  refine ⟨facts.fieldRef_resolves, facts.record_binds, fun _ => facts.result_binds, ?_⟩
  intro database checked bound accepted field signature isArg
  obtain ⟨build, ran, collects⟩ := accepted.collects
  have args : bound.args = command.argSources checked.inputs := by
    simpa [ran] using (collects []).1
  exact whereField_of_argSource (args ▸ isArg)

def selectSome : List HostField :=
  [taggedField "Users" "rel" "users:u"
     (HostType.seq (recordOf
       [taggedField "Name" "sql" "name" HostType.text,
        { name := "Contact"
          type := { shape := .optional (recordOf [taggedField "Email" "sql" "email" HostType.text]) }
          embedded := true }])),
   { name := "Where"
     type := recordOf
       [taggedField "Active" "sql" "active" (HostType.scalar .bool),
        { name := "Old"
          type := { shape := .optional (recordOf
            [taggedField "Span" "sql" "u.id isbetween"
              (recordOf [taggedField "Last" "sql" "y" (HostType.scalar .i32),
                taggedField "First" "sql" "x" (HostType.scalar .i32)])]) } }] },
   { name := "Limit", type := HostType.scalar .i64 }]

theorem paths_resolve_selectSome :
    ∃ command checked bound, Accepted .tagged "SelectUsers" selectSome blog command checked bound ∧
      command.fieldRefs.map FieldRef.path = [["Where", "Active"], ["Where", "Old", "Span", "First"],
        ["Where", "Old", "Span", "Last"], ["Limit"]] ∧
      command.record.fields.map BoundField.path = [["Name"], ["Contact", "Email"]] ∧
      (∀ ref ∈ command.fieldRefs, Resolves selectSome ref.path ref.type) ∧
      BindsRecord selectSome "Users" none command.record.shape command.record.fields ∧
      ∃ ref ∈ command.whereFields, "Where.Old.Span.First" = ".".intercalate ref.path ∧
        "i32" = ref.type.signature := by
  obtain ⟨command, checked, bound, accepted, facts⟩ := exists_accepted
    (fun (command, _, bound) => command.fieldRefs.map FieldRef.path == [["Where", "Active"],
        ["Where", "Old", "Span", "First"], ["Where", "Old", "Span", "Last"], ["Limit"]] &&
      command.record.fields.map BoundField.path == [["Name"], ["Contact", "Email"]] &&
      command.record.field == "Users" && command.record.typeName == none &&
      bound.args.contains (.predicate "Where.Old.Span.First" "i32"))
    (show (accepted? .tagged "SelectUsers" selectSome blog).any _ = true by decide +kernel)
  simp only [Bool.and_eq_true, beq_iff_eq, List.contains_iff_mem] at facts
  obtain ⟨⟨⟨⟨paths, leaves⟩, field⟩, typeName⟩, isArg⟩ := facts
  obtain ⟨resolve, binds, _, told⟩ := paths_resolve accepted.read
  rw [field, typeName] at binds
  exact ⟨command, checked, bound, accepted, paths, leaves, resolve, binds,
    told blog checked bound accepted _ _ isArg⟩

end Command

end RecordSql
