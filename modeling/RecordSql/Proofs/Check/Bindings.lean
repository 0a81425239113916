import RecordSql.Proofs.Check.Joins
import RecordSql.Proofs.Check.Names

namespace RecordSql

namespace Pairing

/-- The pairing has the column that the field names, in the relation that it names if it names one. -/
structure Follows (pairing : Pairing) (field : BoundField) : Prop where
  path_eq : pairing.path = field.path
  column_eq : pairing.column = field.column.name
  relation_eq : ∀ key ∈ field.column.qualifier, pairing.relation = key

instance (pairing : Pairing) (field : BoundField) : Decidable (pairing.Follows field) :=
  decidable_of_iff (pairing.path = field.path ∧ pairing.column = field.column.name ∧
      ∀ key ∈ field.column.qualifier, pairing.relation = key)
    ⟨fun ⟨path, column, relation⟩ => ⟨path, column, relation⟩,
      fun ⟨path, column, relation⟩ => ⟨path, column, relation⟩⟩

structure Certified (catalog : Catalog) (relations : RelationSet) (direction : Direction)
    (pairing : Pairing) (field : BoundField) : Prop where
  path_eq : pairing.path = field.path
  column : ∃ relation column, relations.get? pairing.relation = some relation ∧
    relation.column? pairing.column = some column ∧
    assignAdapter? catalog column field direction = some pairing.adapter

end Pairing

namespace Command

/-- A read-only field may be written only if it is forced. -/
def mayWrite (command : Command) (field : BoundField) : Bool :=
  !field.options.readOnly || command.isForced field.column.name

def isInput (command : Command) (target : Relation) (field : BoundField) : Bool :=
  command.mayWrite field && !(target.column? field.column.name).any command.isDefaulted

def inputFields (command : Command) (target : Relation) : List BoundField :=
  command.record.fields.filter (command.isInput target)

theorem mayWrite_of_writable {command : Command} {field : BoundField}
    (writable : field.options.readOnly = true → command.isForced field.column.name = true) :
    command.mayWrite field = true := by
  cases readOnly : field.options.readOnly with
  | false => simp [mayWrite, readOnly]
  | true => simp [mayWrite, writable readOnly]

end Command

namespace Scope

variable {scope : Scope} {field : BoundField} {relation : Relation} {column : Column}
  {direction : Direction} {pairing : Pairing}

theorem pair_eq_ok {key : String} : scope.pair field key column direction = .ok pairing ↔
    ∃ adapter, assignAdapter? scope.catalog column field direction = some adapter ∧
      pairing = ⟨field.path, field.type.signature, key, column.name, column.type.oid,
        column.type.name, column.notNull, adapter⟩ := by
  unfold pair
  cases assignAdapter? scope.catalog column field direction with
  | none => simp
  | some adapter => simp [eq_comm]

theorem certified_of_pair {name : String}
    (loaded : scope.relations.get? relation.key = some relation)
    (found : relation.column? name = some column)
    (paired : scope.pair field relation.key column direction = .ok pairing) :
    pairing.Certified scope.catalog scope.relations direction field := by
  obtain ⟨adapter, assigned, rfl⟩ := pair_eq_ok.mp paired
  have named := Relation.name_of_column? found
  exact ⟨rfl, relation, column, loaded, by rwa [named], assigned⟩

theorem get?_of_column (distinct : scope.relations.keys.Nodup) {ref : ColumnRef}
    (found : scope.column true ref = .ok (relation, column)) :
    scope.relations.get? relation.key = some relation := by
  obtain ⟨_, named, unnamed⟩ := column_eq_ok found
  refine RelationSet.get?_of_mem distinct ?_
  cases qualifier : ref.qualifier with
  | none => simpa using unnamed qualifier
  | some key => exact (RelationSet.get?_eq_some (named key qualifier)).1

theorem follows_of_readPairing (read : scope.readPairing field = .ok pairing) :
    pairing.Follows field := by
  obtain ⟨⟨relation, column⟩, found, paired⟩ := bind_eq_ok.mp read
  obtain ⟨has, named, _⟩ := column_eq_ok found
  obtain ⟨adapter, _, rfl⟩ := pair_eq_ok.mp paired
  refine ⟨rfl, Relation.name_of_column? has, ?_⟩
  intro key qualified
  exact (RelationSet.get?_eq_some (named key qualified)).2

theorem certified_of_readPairing (distinct : scope.relations.keys.Nodup)
    (read : scope.readPairing field = .ok pairing) :
    pairing.Certified scope.catalog scope.relations .read field := by
  obtain ⟨⟨relation, column⟩, found, paired⟩ := bind_eq_ok.mp read
  exact certified_of_pair (get?_of_column distinct found) (column_eq_ok found).1 paired

theorem follows_of_writePairing (written : scope.writePairing field = .ok pairing) :
    pairing.Follows field ∧ pairing.relation = scope.target.key := by
  obtain ⟨column, found, paired⟩ := bind_eq_ok.mp written
  obtain ⟨own, has⟩ := Relation.ownColumn_eq_ok found
  obtain ⟨adapter, _, rfl⟩ := pair_eq_ok.mp paired
  refine ⟨⟨rfl, Relation.name_of_column? has, ?_⟩, rfl⟩
  intro key qualified
  exact (own key qualified).symm

theorem certified_of_writePairing (headed : scope.Headed)
    (written : scope.writePairing field = .ok pairing) :
    pairing.Certified scope.catalog scope.relations .write field := by
  obtain ⟨column, found, paired⟩ := bind_eq_ok.mp written
  exact certified_of_pair (get?_target headed) (Relation.ownColumn_eq_ok found).2 paired

/-- The field is filled from the column of the target that has the name of its column. What relation
the field names is not looked at. -/
def FillsByName (scope : Scope) (pairing : Pairing) (field : BoundField) : Prop :=
  ∃ column, scope.target.column? field.column.name = some column ∧
    scope.pair field scope.target.key column .read = .ok pairing

theorem eq_of_fillsByName (fills : scope.FillsByName pairing field) : pairing.path = field.path ∧
    pairing.column = field.column.name ∧ pairing.relation = scope.target.key := by
  obtain ⟨column, has, paired⟩ := fills
  obtain ⟨adapter, _, rfl⟩ := pair_eq_ok.mp paired
  exact ⟨rfl, Relation.name_of_column? has, rfl⟩

theorem certified_of_fillsByName (headed : scope.Headed) (fills : scope.FillsByName pairing field) :
    pairing.Certified scope.catalog scope.relations .read field := by
  obtain ⟨column, has, paired⟩ := fills
  exact certified_of_pair (get?_target headed) has paired

theorem fillsByName_of_returnAll {fields : List BoundField} {pairings : List Pairing}
    (returned : scope.returnAll fields = .ok pairings) (member : pairing ∈ pairings) :
    ∃ field ∈ fields, scope.FillsByName pairing field := by
  obtain ⟨⟨field, column⟩, found, paired⟩ := step_of_mem_mapM returned member
  obtain ⟨other, inside, same⟩ := List.mem_filterMap.mp found
  obtain ⟨_, has, same⟩ := Option.map_eq_some_iff.mp same
  cases same
  exact ⟨field, List.mem_of_mem_filter inside, column, has, paired⟩

theorem find?_of_returnColumn {fields : List BoundField} {ref : ColumnRef}
    (returned : scope.returnColumn fields ref = .ok pairing) :
    ∃ field, (fields.find? fun field => field.column.name == ref.name) = some field ∧
      scope.FillsByName pairing field := by
  obtain ⟨column, found, returned⟩ := bind_eq_ok.mp returned
  obtain ⟨_, has⟩ := Relation.ownColumn_eq_ok found
  rw [Relation.name_of_column? has] at returned
  split at returned
  · rename_i field first
    have named : field.column.name = ref.name := by simpa using List.find?_some first
    exact ⟨field, first, column, by rwa [named], returned⟩
  · cases returned

theorem fillsByName_of_returnColumn {fields : List BoundField} {ref : ColumnRef}
    (returned : scope.returnColumn fields ref = .ok pairing) :
    ∃ field ∈ fields, scope.FillsByName pairing field := by
  obtain ⟨field, first, fills⟩ := find?_of_returnColumn returned
  exact ⟨field, List.mem_of_find?_eq_some first, fills⟩

theorem fillsByName_of_returnPairings {fields : List BoundField} {columns : ColumnList}
    {pairings : List Pairing} (returned : scope.returnPairings fields columns = .ok pairings)
    (member : pairing ∈ pairings) : ∃ field ∈ fields, scope.FillsByName pairing field := by
  cases columns with
  | all => exact fillsByName_of_returnAll returned member
  | columns listed =>
    obtain ⟨ref, _, single⟩ := step_of_mem_mapM returned member
    exact fillsByName_of_returnColumn single

inductive AddsWrite (scope : Scope) (command : Command) (before : Writing) (field : BoundField) :
    Writing → Prop
  | skipped : field.options.readOnly = true → command.isForced field.column.name = false →
    AddsWrite scope command before field before
  | default {column : Column} :
    (field.options.readOnly = true → command.isForced field.column.name = true) →
    scope.targetColumn field.column = .ok column → before.hasColumn column.name = false →
    command.isDefaulted column = true →
    AddsWrite scope command before field
      { before with writes := before.writes ++ [⟨column.name, .default⟩] }
  | input {column : Column} {pairing : Pairing} :
    (field.options.readOnly = true → command.isForced field.column.name = true) →
    scope.targetColumn field.column = .ok column → before.hasColumn column.name = false →
    command.isDefaulted column = false →
    scope.pair field scope.target.key column .write = .ok pairing →
    AddsWrite scope command before field
      { inputs := before.inputs ++ [pairing]
        writes := before.writes ++ [⟨column.name, .input before.inputs.length⟩] }

theorem addsWrite_of_addWrite {command : Command} {before after : Writing}
    (added : scope.addWrite command before field = .ok after) :
    scope.AddsWrite command before field after := by
  unfold addWrite at added
  split at added
  · rename_i skipped
    cases pure_eq_ok.mp added
    simp only [Bool.and_eq_true, Bool.not_eq_true'] at skipped
    exact .skipped skipped.1 skipped.2
  · rename_i kept
    have writable : field.options.readOnly = true → command.isForced field.column.name = true := by
      simpa using kept
    obtain ⟨column, found, added⟩ := bind_eq_ok.mp added
    obtain ⟨free, added⟩ := guard_eq_ok.mp added
    split at added
    · rename_i defaulted
      cases pure_eq_ok.mp added
      exact .default writable found (by simpa using free) defaulted
    · rename_i given
      obtain ⟨pairing, paired, added⟩ := bind_eq_ok.mp added
      cases pure_eq_ok.mp added
      exact .input writable found (by simpa using free) (by simpa using given) paired

/-- What the writing holds of the fields seen so far: a write of the column of each that may be
written, and an input for each that is one. -/
structure Reads (scope : Scope) (command : Command) (seen : List BoundField) (writing : Writing) :
    Prop where
  columns : writing.writes.map WriteTarget.column =
    (seen.filter command.mayWrite).map fun field => field.column.name
  inputs : List.Forall₂ (fun field pairing => scope.writePairing field = .ok pairing)
    (seen.filter (command.isInput scope.target)) writing.inputs

theorem reads_addWrite {command : Command} {seen : List BoundField} {before after : Writing}
    (reads : scope.Reads command seen before)
    (added : scope.addWrite command before field = .ok after) :
    scope.Reads command (seen ++ [field]) after := by
  obtain ⟨columns, inputs⟩ := reads
  cases addsWrite_of_addWrite added with
  | skipped readOnly notForced =>
    have refused : command.mayWrite field = false := by simp [Command.mayWrite, readOnly, notForced]
    have unsent : command.isInput scope.target field = false := by simp [Command.isInput, refused]
    constructor
    · simpa [refused] using columns
    · simpa [unsent] using inputs
  | @default column writable found _ defaulted =>
    obtain ⟨_, has⟩ := Relation.ownColumn_eq_ok found
    have named := Relation.name_of_column? has
    have unsent : command.isInput scope.target field = false := by
      simp [Command.isInput, has, defaulted]
    constructor
    · simp [Command.mayWrite_of_writable writable, columns, named]
    · simpa [unsent] using inputs
  | @input column pairing writable found _ given paired =>
    obtain ⟨_, has⟩ := Relation.ownColumn_eq_ok found
    have named := Relation.name_of_column? has
    have allowed := Command.mayWrite_of_writable writable
    have sent : command.isInput scope.target field = true := by
      simp [Command.isInput, has, given, allowed]
    constructor
    · simp [allowed, columns, named]
    · rw [List.filter_append, List.filter_singleton, sent]
      exact List.rel_append inputs (.cons (bind_eq_ok.mpr ⟨column, found, paired⟩) .nil)

theorem reads_foldlM {command : Command} {fields : List BoundField} {writing : Writing}
    (folded : fields.foldlM (scope.addWrite command) {} = .ok writing) :
    scope.Reads command fields writing :=
  foldlM_prefix_induction folded ⟨rfl, .nil⟩ fun _ _ _ _ _ reads added => reads_addWrite reads added

theorem inputs_addDefaults (writing : Writing) (listed : List ColumnRef) :
    (listed.foldl addDefault writing).inputs = writing.inputs := by
  induction listed generalizing writing with
  | nil => rfl
  | cons ref refs ih =>
    rw [List.foldl_cons, ih]
    unfold addDefault
    split <;> rfl

theorem inputs_writeRecord {command : Command} {writing : Writing}
    (written : scope.writeRecord command = .ok writing) :
    List.Forall₂ (fun field pairing => scope.writePairing field = .ok pairing)
      (command.inputFields scope.target) writing.inputs := by
  obtain ⟨read, folded, written⟩ := bind_eq_ok.mp written
  cases pure_eq_ok.mp written
  rw [inputs_addDefaults]
  exact (reads_foldlM folded).inputs

def SendsFrom (scope : Scope) (fields : List BoundField) (inputs : List Pairing) : Prop :=
  ∀ pairing ∈ inputs, ∃ field ∈ fields, scope.writePairing field = .ok pairing

theorem sendsFrom_writeRecord {command : Command} {writing : Writing}
    (written : scope.writeRecord command = .ok writing) :
    scope.SendsFrom command.record.fields writing.inputs := by
  intro pairing member
  obtain ⟨field, sent, paired⟩ := exists_left_of_forall₂ (inputs_writeRecord written) member
  exact ⟨field, List.mem_of_mem_filter sent, paired⟩

end Scope

namespace Command

def filledFields (command : Command) : List BoundField :=
  match command.result with
  | some result => result.fields
  | none => command.record.fields

inductive Sends (command : Command) (scope : Scope) : List Pairing → List WriteTarget → Prop
  | record {writing : Writing} : command.kind.writesRecord = true →
    scope.writeRecord command = .ok writing → Sends command scope writing.inputs writing.writes
  | filter {inputs : List Pairing} : command.kind = .filter →
    command.record.fields.mapM scope.writePairing = .ok inputs → Sends command scope inputs []
  | nothing : command.kind = .select ∨ command.kind = .delete → Sends command scope [] []

/-- Where the outputs of a command come from. A result record comes first, then the record of a
select, then a return list. -/
inductive Fills (command : Command) (scope : Scope) : List Pairing → Prop
  | result {result : ResultBinding} {outputs : List Pairing} : command.result = some result →
    scope.readPairings result.fields = .ok outputs → Fills command scope outputs
  | record {outputs : List Pairing} : command.result = none → command.kind = .select →
    scope.readPairings command.record.fields = .ok outputs → Fills command scope outputs
  | returned {columns : ColumnList} {outputs : List Pairing} : command.result = none →
    command.kind ≠ .select → command.returning = some columns →
    scope.returnPairings command.record.fields columns = .ok outputs → Fills command scope outputs
  | nothing : command.result = none → command.kind ≠ .select → command.returning = none →
    Fills command scope []

theorem sends_of_bindRecord {command : Command} {scope : Scope} {returned : List Pairing}
    {bindings : Bindings} (bound : scope.bindRecord command returned = .ok bindings) :
    command.Sends scope bindings.inputs bindings.writes ∧
      (command.kind = .select ∧ scope.readPairings command.record.fields = .ok bindings.outputs ∨
        command.kind ≠ .select ∧ bindings.outputs = returned) := by
  unfold Scope.bindRecord at bound
  cases kind : command.kind with
  | select =>
    rw [kind] at bound
    obtain ⟨outputs, read, bound⟩ := bind_eq_ok.mp bound
    cases pure_eq_ok.mp bound
    exact ⟨.nothing (.inl kind), .inl ⟨rfl, read⟩⟩
  | insert | update =>
    rw [kind] at bound
    obtain ⟨writing, written, bound⟩ := bind_eq_ok.mp bound
    cases pure_eq_ok.mp bound
    exact ⟨.record (by rw [kind]; rfl) written, .inr ⟨by simp, rfl⟩⟩
  | filter =>
    rw [kind] at bound
    obtain ⟨inputs, written, bound⟩ := bind_eq_ok.mp bound
    cases pure_eq_ok.mp bound
    exact ⟨.filter kind written, .inr ⟨by simp, rfl⟩⟩
  | delete =>
    rw [kind] at bound
    cases pure_eq_ok.mp bound
    exact ⟨.nothing (.inr kind), .inr ⟨by simp, rfl⟩⟩

namespace Fits

variable {database : Database} {command : Command} {checked : CheckedCommand} {scope : Scope}
  {first : RelationSet} {known : LiteralTypes} (fits : Fits database command checked scope first known)
include fits

theorem sends_fills :
    command.Sends scope checked.inputs checked.writes ∧ command.Fills scope checked.outputs := by
  obtain ⟨returned, returning, bound⟩ := fits.bindings
  obtain ⟨bindings, record, bound⟩ := bind_eq_ok.mp bound
  obtain ⟨sends, outputs⟩ := sends_of_bindRecord record
  cases result : command.result with
  | some result =>
    simp only [result] at bound
    obtain ⟨read, paired, bound⟩ := bind_eq_ok.mp bound
    obtain ⟨inputs, filled, writes⟩ := Bindings.mk.inj (pure_eq_ok.mp bound)
    rw [← inputs, ← writes, ← filled]
    exact ⟨sends, .result result paired⟩
  | none =>
    simp only [result] at bound
    have same : bindings = ⟨checked.inputs, checked.outputs, checked.writes⟩ := pure_eq_ok.mp bound
    subst same
    refine ⟨sends, ?_⟩
    rcases outputs with ⟨select, read⟩ | ⟨other, outputs⟩
    · exact .record result select read
    · rw [show checked.outputs = returned from outputs]
      rcases returning with ⟨absent, rfl⟩ | ⟨columns, present, paired⟩
      · exact .nothing result other absent
      · exact .returned result other present paired

theorem input_written : scope.SendsFrom command.record.fields checked.inputs := by
  have sends := fits.sends_fills.1
  generalize checked.inputs = inputs at sends
  generalize checked.writes = writes at sends
  cases sends with
  | record _ written => exact Scope.sendsFrom_writeRecord written
  | filter _ written =>
    intro pairing member
    exact step_of_mem_mapM written member
  | nothing => simp [Scope.SendsFrom]

theorem output_filled : ∀ pairing ∈ checked.outputs, ∃ field ∈ command.filledFields,
    scope.readPairing field = .ok pairing ∨
      command.result = none ∧ command.kind ≠ .select ∧ command.returning.isSome = true ∧
        scope.FillsByName pairing field := by
  have fills := fits.sends_fills.2
  generalize checked.outputs = outputs at fills
  intro pairing member
  unfold filledFields
  cases fills with
  | result result read =>
    obtain ⟨field, inside, single⟩ := step_of_mem_mapM read member
    rw [result]
    exact ⟨field, List.mem_of_mem_filter inside, .inl single⟩
  | record result kind read =>
    obtain ⟨field, inside, single⟩ := step_of_mem_mapM read member
    rw [result]
    exact ⟨field, List.mem_of_mem_filter inside, .inl single⟩
  | returned result kind returning paired =>
    obtain ⟨field, inside, filled⟩ := Scope.fillsByName_of_returnPairings paired member
    rw [result]
    exact ⟨field, inside, .inr ⟨rfl, kind, by rw [returning]; rfl, filled⟩⟩
  | nothing => cases member

theorem input_certified : ∀ pairing ∈ checked.inputs, ∃ field ∈ command.record.fields,
    pairing.Certified database.catalog checked.relations .write field := by
  intro pairing member
  obtain ⟨field, inside, written⟩ := fits.input_written pairing member
  rw [← fits.catalog_eq, fits.relations_eq]
  exact ⟨field, inside, Scope.certified_of_writePairing fits.headed written⟩

theorem output_certified : ∀ pairing ∈ checked.outputs, ∃ field ∈ command.filledFields,
    pairing.Certified database.catalog checked.relations .read field := by
  intro pairing member
  obtain ⟨field, inside, filled⟩ := fits.output_filled pairing member
  rw [← fits.catalog_eq, fits.relations_eq]
  refine ⟨field, inside, ?_⟩
  rcases filled with read | ⟨_, _, _, byName⟩
  · exact Scope.certified_of_readPairing fits.nodup_scope_keys read
  · exact Scope.certified_of_fillsByName fits.headed byName

end Fits

end Command

end RecordSql
