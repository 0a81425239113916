import RecordSql.Proofs.Check.Writing
import RecordSql.Proofs.Statement.References

namespace RecordSql

/-- The list of writes of a command with a target: each column once, with the inputs in order. -/
structure CheckedCommand.ListsWrites (checked : CheckedCommand) (command : Command)
    (target : Relation) : Prop where
  distinct : (checked.writes.map WriteTarget.column).Nodup
  exist : ∀ write ∈ checked.writes, target.HasColumn write.column
  numbered : checked.writes.filterMap WriteTarget.index? = List.range checked.inputs.length
  paired : ∀ write ∈ checked.writes, ∀ index, write.value = .input index →
    ∃ pairing, checked.inputs[index]? = some pairing ∧ pairing.column = write.column
  defaults : ∀ write ∈ checked.writes, write.value = .default →
    ∃ column, target.column? write.column = some column ∧ column.hasDefault = true
  listed : ∀ ref ∈ (command.defaults.map ColumnList.listed).getD [],
    checked.writes.count ⟨ref.name, .default⟩ = 1

theorem Command.Fits.listsWrites {database : Database} {command : Command} {checked : CheckedCommand}
    {scope : Scope} {first : RelationSet} {known : LiteralTypes}
    (fits : Command.Fits database command checked scope first known)
    (writes : command.kind.writesRecord = true) : checked.ListsWrites command scope.target := by
  have arranged := fits.writing_arranged writes
  have sound := arranged.sound
  constructor
  case distinct => exact arranged.distinct
  case exist => exact sound.columns
  case numbered => exact sound.numbered
  case paired =>
    intro write member index value
    exact arranged.paired member value
  case defaults =>
    intro write member value
    obtain ⟨column, has, defaulted⟩ := arranged.column write member
    exact ⟨column, has, fits.hasDefault_of_isDefaulted has (defaulted.mp value)⟩
  case listed =>
    intro ref member
    exact fits.count_listed_default writes member

/-- The writes of an insert or update that was checked are listed in order, each column once. The
check fails where two fields that may be written have one column. -/
theorem writes_listed {database : Database} {command : Command}
    (writes : command.kind.writesRecord = true) :
    (∀ checked, (command.check database).Returns checked →
        ∃ target, checked.target? = some target ∧ checked.ListsWrites command target) ∧
      ∀ first second, [first, second].Sublist command.record.fields →
        command.mayWrite first = true → command.mayWrite second = true →
        first.column.name = second.column.name →
        ∀ before, ∃ failure, ((command.check database).outcome before).1 = .error failure := by
  constructor
  · intro checked check
    obtain ⟨scope, loaded, known, fits⟩ := Command.fits_of_check check
    exact ⟨scope.target, fits.target?_eq, fits.listsWrites writes⟩
  · intro first second both firstMay secondMay same
    apply Task.fails_of_not_returns
    intro checked check
    obtain ⟨scope, loaded, known, fits⟩ := Command.fits_of_check check
    have distinct := fits.nodup_written_columns writes
    have kept := (both.filter command.mayWrite).map fun field => field.column.name
    rw [List.filter_cons_of_pos firstMay, List.filter_cons_of_pos secondMay, List.filter_nil] at kept
    have apart := List.pairwise_iff_forall_sublist.mp distinct kept
    exact apart same

def registerUser : List HostField :=
  [taggedField "User" "rel" "users"
     (recordOf [taggedField "Id" "sql" "id,ro" (HostType.scalar .i32),
       taggedField "Name" "sql" "name" HostType.text,
       taggedField "Email" "sql" "email" HostType.text]),
   taggedField "_" "sql" "id, active" Directive.default.hostType]

def registerTwice : List HostField :=
  [taggedField "User" "rel" "users"
     (recordOf [taggedField "Name" "sql" "name" HostType.text,
       taggedField "Alias" "sql" "name" HostType.text])]

theorem exists_registerTwice : ∃ command first second,
    Command.read .tagged "InsertUser" registerTwice = .ok command ∧
      command.kind.writesRecord = true ∧ command.record.fields = [first, second] ∧
      command.mayWrite first = true ∧ command.mayWrite second = true ∧
      first.column.name = second.column.name := by
  obtain ⟨command, read, facts⟩ := exists_read
    (fun command => command.kind.writesRecord &&
      command.record.fields.map (fun field => (field.column.name, command.mayWrite field)) ==
        [("name", true), ("name", true)])
    (show (Command.read .tagged "InsertUser" registerTwice).toOption.any _ = true by decide +kernel)
  simp only [Bool.and_eq_true, beq_iff_eq, List.map_eq_cons_iff, List.map_eq_nil_iff, Prod.mk.injEq]
    at facts
  obtain ⟨writes, first, _, fields, ⟨firstName, firstMay⟩, second, _, rfl, ⟨secondName, secondMay⟩, rfl⟩ :=
    facts
  exact ⟨command, first, second, read, writes, fields, firstMay, secondMay,
    firstName.trans secondName.symm⟩

theorem writes_listed_registerUser :
    (∃ (command : Command) (checked : CheckedCommand) (target : Relation),
        (command.check blog).Returns checked ∧
        command.kind.writesRecord = true ∧ checked.target? = some target ∧
        checked.writes = [⟨"name", .input 0⟩, ⟨"email", .input 1⟩, ⟨"id", .default⟩,
          ⟨"active", .default⟩] ∧ checked.ListsWrites command target) ∧
      ∃ command, Command.read .tagged "InsertUser" registerTwice = .ok command ∧
        ∀ before, ∃ failure, ((command.check blog).outcome before).1 = .error failure := by
  constructor
  · obtain ⟨command, checked, bound, accepted, facts⟩ := exists_accepted
      (fun (command, checked, _) => command.kind.writesRecord &&
        checked.writes == [⟨"name", .input 0⟩, ⟨"email", .input 1⟩, ⟨"id", .default⟩,
          ⟨"active", .default⟩])
      (show (accepted? .tagged "InsertUser" registerUser blog).any _ = true by decide +kernel)
    simp only [Bool.and_eq_true, beq_iff_eq] at facts
    obtain ⟨writes, list⟩ := facts
    obtain ⟨target, found, lists⟩ := (writes_listed writes).1 checked accepted.check
    exact ⟨command, checked, target, accepted.check, writes, found, list, lists⟩
  · obtain ⟨command, first, second, read, writes, fields, firstMay, secondMay, same⟩ :=
      exists_registerTwice
    refine ⟨command, read, ?_⟩
    apply (writes_listed writes).2 first second _ firstMay secondMay same
    rw [fields]

/-- The columns that an on-conflict block sets, given its target and the writes of its insert. -/
structure OnConflictBlock.Sets (block : OnConflictBlock) (target : ConflictTarget)
    (relation : Relation) (writes : List WriteTarget) (columns : List String) : Prop where
  /-- Nothing is set just where all columns are to be, and those with a value are of the target. -/
  empty : columns = [] ↔ block.action = .update .all ∧
    ∀ write ∈ writes, write.value ≠ .default → write.column ∈ relation.conflictColumns target
  distinct : columns.Nodup ↔
    ∀ refs, block.action = .update (.columns refs) → (refs.map ColumnRef.name).Nodup
  listed : ∀ refs, block.action = .update (.columns refs) → columns = refs.map ColumnRef.name
  all : block.action = .update .all → columns.Sublist (writes.map WriteTarget.column) ∧
    ∀ name, name ∈ columns ↔
      (∃ index, ⟨name, .input index⟩ ∈ writes) ∧ name ∉ relation.conflictColumns target

theorem Lowering.Responds.sets {lowering : Lowering} {block : OnConflictBlock}
    {target : ConflictTarget} {columns : List String}
    (responds : lowering.Responds block (lowering.target.conflictColumns target) (.update columns))
    (distinct : (lowering.checked.writes.map WriteTarget.column).Nodup)
    (nonempty : ∀ refs, block.action = .update (.columns refs) → refs ≠ []) :
    block.Sets target lowering.target lowering.checked.writes columns := by
  cases responds with
  | @listed refs _ action =>
    have same {other : List ColumnRef} (also : block.action = .update (.columns other)) :
        refs = other := by
      rw [action] at also
      cases also
      rfl
    have notAll : block.action ≠ .update .all := by simp [action]
    constructor
    case empty =>
      have filled := nonempty refs action
      exact iff_of_false (by simpa using filled) fun ⟨every, _⟩ => notAll every
    case distinct =>
      constructor
      · intro once other also
        rwa [← same also]
      · intro once
        exact once refs action
    case listed =>
      intro other also
      rw [same also]
    case all =>
      intro every
      exact absurd every notAll
  | all action =>
    have notListed (refs : List ColumnRef) : block.action ≠ .update (.columns refs) := by
      simp [action]
    have sublist := lowering.updatableColumns_sublist (lowering.target.conflictColumns target)
    constructor
    case empty => rw [Lowering.updatableColumns_eq_nil, and_iff_right action]
    case distinct =>
      exact iff_of_true (distinct.sublist sublist) fun refs also => absurd also (notListed refs)
    case listed =>
      intro refs also
      exact absurd also (notListed refs)
    case all =>
      intro _
      exact ⟨sublist, fun _ => Lowering.mem_updatableColumns⟩

/-- An insert that updates in a conflict sets the columns that it lists, or all columns that it writes
with a value and that are no part of its conflict target. That may be none, and a list may name a
column twice. -/
theorem conflict_sets_columns {naming : ColumnNaming} {name : String} {fields : List HostField}
    {database : Database} {command : Command} {checked : CheckedCommand} {bound : BoundStatement}
    (accepted : Accepted naming name fields database command checked bound) {conflict : OnConflict}
    {columns : List String} (present : bound.statement.conflict? = some conflict)
    (update : conflict.response = .update columns) :
    ∃ block target relation, command.onConflict = some block ∧ block.target = some target ∧
      checked.target? = some relation ∧ block.Sets target relation checked.writes columns := by
  obtain ⟨scope, first, known, lowering, facts⟩ := accepted.agrees
  obtain ⟨build, builds, ran⟩ := facts.builds
  have statement : (build.run []).1 = bound.statement := by rw [ran]
  rw [← statement] at present
  obtain ⟨kind, block, declared, found⟩ := Lowering.onConflict_of_builds builds present
  obtain ⟨keyColumns, detects, responds⟩ := Lowering.detects_responds_of_onConflict found
  rw [update] at responds
  obtain ⟨target, targeted⟩ := responds.target_of_update
  rw [targeted] at detects
  rw [detects.keyColumns_eq] at responds
  rw [facts.command_eq] at kind declared
  have writes : command.kind.writesRecord = true := by simp [kind, CommandKind.writesRecord]
  have distinct := (facts.fits.writing_arranged writes).distinct
  have nonempty : ∀ refs, block.action = .update (.columns refs) → refs ≠ [] := by
    intro refs action
    exact (Command.readFrom_of_read accepted.read).update_ne_nil declared action
  refine ⟨block, target, scope.target, declared, targeted, facts.fits.target?_eq, ?_⟩
  have sets := responds.sets (by rwa [facts.checked_eq]) nonempty
  rwa [facts.target_eq, facts.checked_eq] at sets

def replacePost : List HostField :=
  [taggedField "Post" "rel" "posts"
     (recordOf [taggedField "Id" "sql" "id" (HostType.scalar .i32),
       taggedField "User" "sql" "user_id" (HostType.scalar .i32),
       taggedField "Title" "sql" "title" HostType.text,
       taggedField "Slug" "sql" "slug" HostType.text,
       taggedField "Published" "sql" "published" (HostType.scalar .bool)]),
   taggedField "_" "sql" "id" Directive.default.hostType,
   { name := "OnConflict"
     type := recordOf [taggedField "_" "sql" "posts_user_slug_key" Directive.index.hostType,
       taggedField "_" "sql" "*" Directive.update.hostType] }]

theorem conflict_sets_columns_replacePost :
    ∃ command checked bound, Accepted .tagged "InsertPost" replacePost blog command checked bound ∧
      ∃ conflict, bound.statement.conflict? = some conflict ∧
        conflict.response = .update ["title", "published"] ∧
        ∃ block target relation, command.onConflict = some block ∧ block.target = some target ∧
          checked.target? = some relation ∧
          block.Sets target relation checked.writes ["title", "published"] := by
  obtain ⟨command, checked, bound, accepted, facts⟩ := exists_accepted
    (fun (_, _, bound) => bound.statement.conflict?.any fun conflict =>
      conflict.response == .update ["title", "published"])
    (show (accepted? .tagged "InsertPost" replacePost blog).any _ = true by decide +kernel)
  obtain ⟨conflict, present, update⟩ := (Option.any_eq_true _ _).mp facts
  rw [beq_iff_eq] at update
  exact ⟨command, checked, bound, accepted, conflict, present, update,
    conflict_sets_columns accepted present update⟩

def upsertUser (columns : String) (fields : List HostField) : List HostField :=
  [taggedField "User" "rel" "users" (recordOf fields),
   { name := "OnConflict"
     type := recordOf [taggedField "_" "sql" "email" Directive.column.hostType,
       taggedField "_" "sql" columns Directive.update.hostType] }]

def emailField : HostField := taggedField "Email" "sql" "email" HostType.text

def nameField : HostField := taggedField "Name" "sql" "name" HostType.text

/-- An insert that writes the conflict target only is left with nothing to update, and one that lists
a column twice sets it twice. -/
theorem conflict_sets_none_or_twice :
    (∃ command checked bound,
        Accepted .tagged "InsertUser" (upsertUser "*" [emailField]) blog command checked bound ∧
        bound.statement.conflict? = some ⟨some (.columns ["email"]), .update []⟩) ∧
      ∃ command checked bound,
        Accepted .tagged "InsertUser" (upsertUser "name, name" [emailField, nameField]) blog command
          checked bound ∧
        bound.statement.conflict? = some ⟨some (.columns ["email"]), .update ["name", "name"]⟩ := by
  constructor
  · obtain ⟨command, checked, bound, accepted, facts⟩ := exists_accepted
      (fun (_, _, bound) => bound.statement.conflict? ==
        some ⟨some (.columns ["email"]), .update []⟩)
      (show (accepted? .tagged "InsertUser" (upsertUser "*" [emailField]) blog).any _ = true by
        decide +kernel)
    exact ⟨command, checked, bound, accepted, beq_iff_eq.mp facts⟩
  · obtain ⟨command, checked, bound, accepted, facts⟩ := exists_accepted
      (fun (_, _, bound) => bound.statement.conflict? ==
        some ⟨some (.columns ["email"]), .update ["name", "name"]⟩)
      (show (accepted? .tagged "InsertUser" (upsertUser "name, name" [emailField, nameField])
        blog).any _ = true by decide +kernel)
    exact ⟨command, checked, bound, accepted, beq_iff_eq.mp facts⟩

end RecordSql
