import RecordSql.Proofs.Check.Access

namespace RecordSql

def WriteTarget.index? (write : WriteTarget) : Option Nat :=
  match write.value with
  | .input index => some index
  | .default => none

structure Writing.Sound (target : Relation) (writing : Writing) : Prop where
  numbered : writing.writes.filterMap WriteTarget.index? = List.range writing.inputs.length
  columns : ∀ write ∈ writing.writes, target.HasColumn write.column

/-- No column is written twice, the inputs are written in order, each to its own column, and just the
columns that are to get their default do. -/
structure Writing.Arranged (command : Command) (target : Relation) (writing : Writing) : Prop where
  distinct : (writing.writes.map WriteTarget.column).Nodup
  given : writing.writes.filter (fun write => write.value != .default) =
    writing.inputs.zipIdx.map fun (pairing, index) => ⟨pairing.column, .input index⟩
  column : ∀ write ∈ writing.writes, ∃ column, target.column? write.column = some column ∧
    (write.value = .default ↔ command.isDefaulted column = true)

namespace Writing

variable {scope : Scope} {command : Command} {target : Relation} {before after : Writing}
  {name : String} {column : Column}

theorem not_mem_of_free (free : before.hasColumn name = false) :
    name ∉ before.writes.map WriteTarget.column := by
  intro member
  obtain ⟨write, inside, rfl⟩ := List.mem_map.mp member
  have taken : before.hasColumn write.column = true :=
    List.any_eq_true.mpr ⟨write, inside, beq_self_eq_true _⟩
  exact Bool.false_ne_true (free.symm.trans taken)

theorem arranged_empty : Arranged command target {} :=
  ⟨List.nodup_nil, rfl, by simp⟩

theorem arranged_add {inputs : List Pairing} {value : WriteValue}
    (arranged : before.Arranged command target) (has : target.column? name = some column)
    (free : before.hasColumn name = false)
    (valued : value = .default ↔ command.isDefaulted column = true)
    (given : (before.writes ++ [(⟨name, value⟩ : WriteTarget)]).filter
        (fun write => write.value != .default) =
      inputs.zipIdx.map fun (pairing, index) => ⟨pairing.column, .input index⟩) :
    Arranged command target ⟨inputs, before.writes ++ [⟨name, value⟩]⟩ := by
  constructor
  case distinct =>
    rw [List.map_append]
    apply arranged.distinct.append (List.nodup_singleton _)
    simpa using not_mem_of_free free
  case given => exact given
  case column =>
    intro write member
    rcases List.mem_append.mp member with earlier | last
    · exact arranged.column write earlier
    · cases List.mem_singleton.mp last
      exact ⟨column, has, valued⟩

theorem arranged_default (arranged : before.Arranged command target)
    (has : target.column? name = some column) (free : before.hasColumn name = false)
    (defaulted : command.isDefaulted column = true) :
    Arranged command target { before with writes := before.writes ++ [⟨name, .default⟩] } := by
  apply arranged_add arranged has free
  · simp [defaulted]
  · simpa using arranged.given

theorem arranged_input {pairing : Pairing} (arranged : before.Arranged command target)
    (has : target.column? pairing.column = some column)
    (free : before.hasColumn pairing.column = false)
    (given : command.isDefaulted column = false) :
    Arranged command target
      { inputs := before.inputs ++ [pairing]
        writes := before.writes ++ [⟨pairing.column, .input before.inputs.length⟩] } := by
  apply arranged_add arranged has free
  · simp [given]
  · simp [arranged.given, List.zipIdx_append]

theorem arranged_addWrite {field : BoundField} (arranged : before.Arranged command scope.target)
    (added : scope.addWrite command before field = .ok after) :
    after.Arranged command scope.target := by
  cases Scope.addsWrite_of_addWrite added with
  | skipped => exact arranged
  | @default column _ found free defaulted =>
    obtain ⟨_, has⟩ := Relation.ownColumn_eq_ok found
    have named := Relation.name_of_column? has
    exact arranged_default arranged (by rwa [named]) free defaulted
  | @input column pairing _ found free given paired =>
    obtain ⟨_, has⟩ := Relation.ownColumn_eq_ok found
    have named := Relation.name_of_column? has
    obtain ⟨adapter, _, rfl⟩ := Scope.pair_eq_ok.mp paired
    exact arranged_input arranged (by rwa [named]) free given

theorem arranged_foldlM {fields : List BoundField}
    (folded : fields.foldlM (scope.addWrite command) {} = .ok after) :
    after.Arranged command scope.target :=
  foldlM_induction folded arranged_empty fun _ _ _ _ arranged added =>
    arranged_addWrite arranged added

theorem arranged_addDefaults {listed : List ColumnRef} (arranged : before.Arranged command target)
    (defaulted : ∀ ref ∈ listed, ∃ column, target.column? ref.name = some column ∧
      command.isDefaulted column = true) :
    (listed.foldl Scope.addDefault before).Arranged command target := by
  induction listed generalizing before with
  | nil => exact arranged
  | cons ref refs ih =>
    obtain ⟨⟨column, has, now⟩, later⟩ := List.forall_mem_cons.mp defaulted
    refine ih ?_ later
    unfold Scope.addDefault
    split
    · exact arranged
    · rename_i free
      exact arranged_default arranged has (by simpa using free) now

theorem hasColumn_addDefault (writing : Writing) (ref : ColumnRef) (name : String) :
    (Scope.addDefault writing ref).hasColumn name = (writing.hasColumn name || ref.name == name) := by
  unfold Scope.addDefault
  split
  · rename_i taken
    by_cases same : ref.name = name
    · rw [← same, taken, Bool.true_or]
    · rw [beq_eq_false_iff_ne.mpr same, Bool.or_false]
  · simp [hasColumn]

theorem hasColumn_addDefaults (writing : Writing) (listed : List ColumnRef) (name : String) :
    (listed.foldl Scope.addDefault writing).hasColumn name =
      (writing.hasColumn name || listed.any fun ref => ref.name == name) := by
  induction listed generalizing writing with
  | nil => simp
  | cons ref refs ih =>
    rw [List.foldl_cons, ih, hasColumn_addDefault, List.any_cons, Bool.or_assoc]

theorem filterMap_index?_filter (writes : List WriteTarget) :
    (writes.filter fun write => write.value != .default).filterMap WriteTarget.index? =
      writes.filterMap WriteTarget.index? := by
  rw [List.filterMap_filter]
  refine List.filterMap_congr fun write _ => ?_
  cases value : write.value <;> simp [WriteTarget.index?, value]

theorem Arranged.sound (arranged : before.Arranged command target) : before.Sound target := by
  constructor
  · rw [← filterMap_index?_filter, arranged.given, List.filterMap_map]
    have indices : (WriteTarget.index? ∘ fun (pairing, index) => ⟨pairing.column, .input index⟩) =
        some ∘ (Prod.snd : Pairing × Nat → Nat) := rfl
    rw [indices, ← List.filterMap_map, List.filterMap_some, List.zipIdx_map_snd, List.range_eq_range']
  · intro write member
    obtain ⟨column, has, _⟩ := arranged.column write member
    exact Relation.hasColumn_of_column? has

theorem Arranged.paired (arranged : before.Arranged command target) {write : WriteTarget} {index : Nat}
    (member : write ∈ before.writes) (value : write.value = .input index) :
    ∃ pairing, before.inputs[index]? = some pairing ∧ pairing.column = write.column := by
  have given : write ∈ before.writes.filter fun write => write.value != .default :=
    List.mem_filter.mpr ⟨member, by simp [value]⟩
  rw [arranged.given] at given
  obtain ⟨⟨pairing, place⟩, inside, rfl⟩ := List.mem_map.mp given
  cases value
  exact ⟨pairing, List.mem_zipIdx_iff_getElem?.mp inside, rfl⟩

end Writing

namespace Scope

variable {scope : Scope}

theorem checkOnConflict_eq_ok {block : OnConflictBlock}
    (passed : scope.checkOnConflict block = .ok ()) :
    (∀ target, block.target = some target → scope.checkConflictTarget target = .ok ()) ∧
      ∀ columns, block.action = .update columns → scope.checkListed columns.listed = .ok () := by
  unfold checkOnConflict at passed
  dsimp only at passed
  split at passed
  · rename_i target present
    obtain ⟨_, targetPassed, rest⟩ := bind_eq_ok.mp passed
    constructor
    · intro other same
      rw [present] at same
      cases same
      exact targetPassed
    · intro columns same
      rw [same] at rest
      exact rest
  · rename_i absent
    constructor
    · simp [absent]
    · intro columns same
      rw [same] at passed
      exact passed

theorem hasColumn_of_checkListed {columns : List ColumnRef}
    (passed : scope.checkListed columns = .ok ()) :
    ∀ ref ∈ columns, scope.target.HasColumn ref.name := by
  intro ref member
  obtain ⟨_, each, _⟩ := bind_eq_ok.mp passed
  obtain ⟨column, _, own⟩ := step_of_mapM_mem each member
  exact (Relation.hasColumn_of_ownColumn own).1

end Scope

namespace Command.Fits

variable {database : Database} {command : Command} {checked : CheckedCommand} {scope : Scope}
  {first : RelationSet} {known : LiteralTypes} (fits : Fits database command checked scope first known)
include fits

theorem column_of_default {ref : ColumnRef}
    (member : ref ∈ (command.defaults.map ColumnList.listed).getD []) :
    ∃ column, scope.target.column? ref.name = some column ∧ column.hasDefault = true ∧
      command.isDefaulted column = true := by
  cases present : command.defaults with
  | none => simp [present] at member
  | some columns =>
    rw [present] at member
    obtain ⟨_, passed, _⟩ := bind_eq_ok.mp (fits.defaults columns present)
    obtain ⟨_, _, tested⟩ := step_of_mapM_mem passed member
    obtain ⟨column, found, tested⟩ := bind_eq_ok.mp tested
    obtain ⟨_, has⟩ := Relation.ownColumn_eq_ok found
    refine ⟨column, has, (ite_throw_right.mp tested).1, ?_⟩
    cases columns with
    | all => simp [ColumnList.listed] at member
    | columns listed =>
      have inside : ref ∈ listed := member
      simpa [Command.isDefaulted, present, Relation.name_of_column? has] using ⟨ref, inside, rfl⟩

theorem hasDefault_of_isDefaulted {name : String} {column : Column}
    (has : scope.target.column? name = some column) (defaulted : command.isDefaulted column = true) :
    column.hasDefault = true := by
  obtain ⟨columns, present, defaulted⟩ := Option.any_eq_true _ _ |>.mp defaulted
  cases columns with
  | all => exact defaulted
  | columns listed =>
    obtain ⟨ref, inside, named⟩ := List.any_eq_true.mp defaulted
    have listedDefault : ref ∈ (command.defaults.map ColumnList.listed).getD [] := by
      simpa [present, ColumnList.listed] using inside
    obtain ⟨other, found, hasDefault, _⟩ := fits.column_of_default listedDefault
    have same : ref.name = name := by
      rw [beq_iff_eq.mp named, Relation.name_of_column? has]
    rw [same, has] at found
    cases found
    exact hasDefault

theorem arranged_of_writeRecord {writing : Writing}
    (written : scope.writeRecord command = .ok writing) : writing.Arranged command scope.target := by
  obtain ⟨read, folded, written⟩ := bind_eq_ok.mp written
  cases pure_eq_ok.mp written
  refine Writing.arranged_addDefaults (Writing.arranged_foldlM folded) fun ref member => ?_
  obtain ⟨column, has, _, defaulted⟩ := fits.column_of_default member
  exact ⟨column, has, defaulted⟩

theorem writing_arranged (writes : command.kind.writesRecord = true) :
    Writing.Arranged command scope.target ⟨checked.inputs, checked.writes⟩ :=
  fits.arranged_of_writeRecord (fits.writeRecord_of_writes writes)

theorem nodup_written_columns (writes : command.kind.writesRecord = true) :
    ((command.record.fields.filter command.mayWrite).map fun field => field.column.name).Nodup := by
  obtain ⟨read, folded, _⟩ := bind_eq_ok.mp (fits.writeRecord_of_writes writes)
  rw [← (Scope.reads_foldlM folded).columns]
  exact (Writing.arranged_foldlM folded).distinct

/-- A listed default is written, just once. -/
theorem count_listed_default (writes : command.kind.writesRecord = true) {ref : ColumnRef}
    (member : ref ∈ (command.defaults.map ColumnList.listed).getD []) :
    checked.writes.count ⟨ref.name, .default⟩ = 1 := by
  have arranged := fits.writing_arranged writes
  obtain ⟨read, _, written⟩ := bind_eq_ok.mp (fits.writeRecord_of_writes writes)
  have reached : Writing.hasColumn ⟨checked.inputs, checked.writes⟩ ref.name = true := by
    rw [← pure_eq_ok.mp written, Writing.hasColumn_addDefaults, Bool.or_eq_true]
    exact .inr (List.any_eq_true.mpr ⟨ref, member, beq_self_eq_true _⟩)
  obtain ⟨write, inside, named⟩ := List.any_eq_true.mp reached
  obtain ⟨column, has, value⟩ := arranged.column write inside
  obtain ⟨other, found, _, defaulted⟩ := fits.column_of_default member
  rw [beq_iff_eq.mp named, found] at has
  cases has
  have same : write = ⟨ref.name, .default⟩ := by
    rw [← beq_iff_eq.mp named, ← value.mpr defaulted]
  exact List.count_eq_one_of_mem arranged.distinct.of_map (same ▸ inside)

theorem writing_sound (writes : command.kind.writesRecord = true) :
    Writing.Sound scope.target ⟨checked.inputs, checked.writes⟩ :=
  (fits.writing_arranged writes).sound

end Command.Fits

end RecordSql
