import RecordSql.Memory.Database
import RecordSql.Proofs.Annotation.Predicate
import RecordSql.Proofs.Annotation.Reading
import RecordSql.Proofs.Check.Joins
import RecordSql.Proofs.Statement.Condition
import RecordSql.Statement.Parts

namespace RecordSql

/-- The fields make a command that fits the database and has a statement. -/
structure Accepted (naming : ColumnNaming) (name : String) (fields : List HostField)
    (database : Database) (command : Command) (checked : CheckedCommand) (bound : BoundStatement) :
    Prop where
  read : Command.read naming name fields = .ok command
  check : (command.check database).Returns checked
  lower : checked.lower = .ok (.statement bound)

structure AcceptedAfter (before : Transcript) (naming : ColumnNaming) (name : String)
    (fields : List HostField) (database : Database) (command : Command) (checked : CheckedCommand)
    (bound : BoundStatement) : Prop
    extends Accepted naming name fields database command checked bound where
  ran : ((command.check database).outcome before).1 = .ok checked

def accepted? (naming : ColumnNaming) (name : String) (fields : List HostField)
    (database : Database) : Option (Command × CheckedCommand × BoundStatement) :=
  match Command.read naming name fields with
  | .error _ => none
  | .ok command => match ((command.check database).outcome {}).1 with
    | .error _ => none
    | .ok checked => match checked.lower with
      | .ok (.statement bound) => some (command, checked, bound)
      | _ => none

theorem accepted_of_accepted? {naming : ColumnNaming} {name : String} {fields : List HostField}
    {database : Database} {command : Command} {checked : CheckedCommand} {bound : BoundStatement}
    (found : accepted? naming name fields database = some (command, checked, bound)) :
    AcceptedAfter {} naming name fields database command checked bound := by
  unfold accepted? at found
  split at found
  · cases found
  · rename_i read
    split at found
    · cases found
    · rename_i outcome
      split at found
      · rename_i lower
        cases found
        exact ⟨⟨read, ⟨{}, outcome⟩, lower⟩, outcome⟩
      · cases found

theorem exists_acceptedAfter {naming : ColumnNaming} {name : String} {fields : List HostField}
    {database : Database} (test : Command × CheckedCommand × BoundStatement → Bool)
    (passed : (accepted? naming name fields database).any test = true) :
    ∃ command checked bound, AcceptedAfter {} naming name fields database command checked bound ∧
      test (command, checked, bound) = true := by
  obtain ⟨⟨command, checked, bound⟩, found, passes⟩ := (Option.any_eq_true _ _).mp passed
  exact ⟨command, checked, bound, accepted_of_accepted? found, passes⟩

theorem exists_accepted {naming : ColumnNaming} {name : String} {fields : List HostField}
    {database : Database} (test : Command × CheckedCommand × BoundStatement → Bool)
    (passed : (accepted? naming name fields database).any test = true) :
    ∃ command checked bound, Accepted naming name fields database command checked bound ∧
      test (command, checked, bound) = true := by
  obtain ⟨command, checked, bound, accepted, passes⟩ := exists_acceptedAfter test passed
  exact ⟨command, checked, bound, accepted.toAccepted, passes⟩

theorem exists_read {naming : ColumnNaming} {name : String} {fields : List HostField}
    (test : Command → Bool) (passed : (Command.read naming name fields).toOption.any test = true) :
    ∃ command, Command.read naming name fields = .ok command ∧ test command = true :=
  exists_ok_of_any test passed

def blog : Database where
  server := ({ tables := [MemoryTable.users, MemoryTable.posts] } : MemoryDatabase).server
  catalog := Standard.catalog

def taggedField (name tag text : String) (type : HostType) : HostField :=
  { name, tag := Tag.ofList [(tag, text)], type }

def recordOf (fields : List HostField) : HostType := { shape := .record fields }

def renameAuthors : List HostField :=
  [taggedField "User" "rel" "users:u"
     (recordOf [taggedField "Nickname" "sql" "nickname" { shape := .optional HostType.text }]),
   { name := "From"
     type := recordOf [taggedField "_" "sql" "posts:p, p.user_id = u.id, or p.title = u.name"
       Directive.join.hostType] },
   { name := "Where", type := recordOf [taggedField "Title" "sql" "p.title" HostType.text] }]

theorem accepted_renameAuthors (test : Command × CheckedCommand × BoundStatement → Bool)
    (passed : (accepted? .tagged "UpdateUser" renameAuthors blog).any test = true) :
    ∃ command checked bound, Accepted .tagged "UpdateUser" renameAuthors blog command checked bound ∧
      test (command, checked, bound) = true :=
  exists_accepted test passed

theorem renameAuthors_accepted :
    ∃ command checked bound block first rest,
      Accepted .tagged "UpdateUser" renameAuthors blog command checked bound ∧
      command.kind = .update ∧ command.whereBlock = some block ∧ command.joinItems = first :: rest ∧
      bound.statement.changesRows = true := by
  obtain ⟨command, checked, bound, accepted, facts⟩ := accepted_renameAuthors
    (fun (command, _, bound) => command.kind == .update && command.whereBlock.isSome &&
      !command.joinItems.isEmpty && bound.statement.changesRows)
    (by decide +kernel)
  simp only [Bool.and_eq_true, beq_iff_eq, Option.isSome_iff_exists, Bool.not_eq_true',
    List.isEmpty_eq_false_iff] at facts
  obtain ⟨⟨⟨kind, block, present⟩, joins⟩, changes⟩ := facts
  obtain ⟨first, rest, items⟩ := List.exists_cons_of_ne_nil joins
  exact ⟨command, checked, bound, block, first, rest, accepted, kind, present, items, changes⟩

namespace Lowering

theorem column_name (lowering : Lowering) (key : String) (ref : ColumnRef) :
    (lowering.column key ref).name = ref.name := by
  unfold Lowering.column
  split <;> rfl

/-- A joined relation is a second one. -/
theorem qualifies_of_mem_joinItems {lowering : Lowering} {database : Database} {command : Command}
    {checked : CheckedCommand} {scope : Scope} {first : RelationSet} {known : LiteralTypes}
    {item : JoinItem} (fits : Command.Fits database command checked scope first known)
    (same : lowering.checked = checked) (joined : item ∈ command.joinItems) :
    lowering.qualifies = true := by
  have present := List.length_pos_of_mem joined
  have size := fits.size_eq
  have several : 1 < checked.relations.size := by omega
  simp [qualifies, same, several]

inductive Builds (lowering : Lowering) : Binding Statement → Prop
  | select : lowering.command.kind = .select → Builds lowering (.select <$> lowering.select)
  | insert {conflict : Option OnConflict} : lowering.command.kind = .insert →
    lowering.conflictOf = .ok conflict → Builds lowering (.insert <$> lowering.insert conflict)
  | update : lowering.command.kind = .update → Builds lowering (.update <$> lowering.update)
  | delete : lowering.command.kind = .delete → Builds lowering (.delete <$> lowering.delete)

theorem eq_of_bound {lowering : Lowering} {build : Binding Statement} {bound : BoundStatement}
    (same : lowering.bound build = .statement bound) :
    build.run [] = (bound.statement, bound.args) := by
  cases same
  rfl

structure Gives (lowering : Lowering) (checked : CheckedCommand) (bound : BoundStatement) : Prop where
  checked_eq : lowering.checked = checked
  target_eq : checked.target? = some lowering.target
  builds : ∃ build, lowering.Builds build ∧ build.run [] = (bound.statement, bound.args)

theorem gives_of_lower {checked : CheckedCommand} {bound : BoundStatement}
    (lower : checked.lower = .ok (.statement bound)) : ∃ lowering, Gives lowering checked bound := by
  unfold CheckedCommand.lower at lower
  split at lower
  · cases lower
  · rename_i target found
    dsimp only at lower
    split at lower
    case h_1 => cases lower
    case h_2 kind =>
      split at lower
      · cases lower
      · exact ⟨⟨checked, target⟩, rfl, found, _, .select kind, eq_of_bound (Except.ok.inj lower)⟩
    case h_3 kind =>
      obtain ⟨conflict, conflictOf, lower⟩ := bind_eq_ok.mp lower
      exact ⟨⟨checked, target⟩, rfl, found, _, .insert kind conflictOf,
        eq_of_bound (pure_eq_ok.mp lower)⟩
    case h_4 kind =>
      split at lower
      · cases lower
      · exact ⟨⟨checked, target⟩, rfl, found, _, .update kind, eq_of_bound (Except.ok.inj lower)⟩
    case h_5 kind =>
      exact ⟨⟨checked, target⟩, rfl, found, _, .delete kind, eq_of_bound (Except.ok.inj lower)⟩

namespace Gives

variable {lowering : Lowering} {database : Database} {command : Command} {checked : CheckedCommand}
  {bound : BoundStatement} {scope : Scope} {first : RelationSet} {known : LiteralTypes}
  (gives : Gives lowering checked bound)
  (fits : Command.Fits database command checked scope first known)
include gives fits

theorem command_eq : lowering.command = command := by
  rw [Lowering.command, gives.checked_eq, fits.command_eq]

theorem scope_target_eq : lowering.target = scope.target :=
  Option.some.inj (gives.target_eq.symm.trans fits.target?_eq)

end Gives

theorem kind_of_filter {checked : CheckedCommand} {map : FilterMap}
    (lower : checked.lower = .ok (.filter map)) : checked.command.kind = .filter := by
  unfold CheckedCommand.lower at lower
  split at lower
  · cases lower
  · dsimp only at lower
    split at lower
    case h_1 kind => exact kind
    case h_3 =>
      obtain ⟨_, _, lower⟩ := bind_eq_ok.mp lower
      cases pure_eq_ok.mp lower
    case h_2 | h_4 => split at lower <;> cases lower
    case h_5 => cases lower

end Lowering

namespace Accepted

variable {naming : ColumnNaming} {name : String} {fields : List HostField} {database : Database}
  {command : Command} {checked : CheckedCommand} {bound : BoundStatement}
  (accepted : Accepted naming name fields database command checked bound)
include accepted

theorem lowering : ∃ lowering, Lowering.Gives lowering checked bound ∧ lowering.command = command := by
  obtain ⟨scope, loaded, known, fits⟩ := Command.fits_of_check accepted.check
  obtain ⟨lowering, gives⟩ := Lowering.gives_of_lower accepted.lower
  exact ⟨lowering, gives, gives.command_eq fits⟩

theorem where_readFrom {block : WhereBlock} (present : command.whereBlock = some block) :
    block.entries ≠ [] ∧ ∀ entry ∈ block.entries, entry.ReadFrom fields := by
  obtain ⟨field, member, _, read⟩ := (Command.readFrom_of_read accepted.read).whereBlock_read present
  exact WhereBlock.readFrom_of_read member read

theorem leaf_readFrom : ∀ leaf ∈ command.whereLeaves, leaf.ReadFrom fields :=
  (Command.readFrom_of_read accepted.read).leaf_read

theorem join_readFrom : ∀ item ∈ command.joinItems, item.ReadFrom := by
  intro item member
  obtain ⟨_, _, _, read⟩ := (Command.readFrom_of_read accepted.read).joinItem_read member
  exact JoinItem.readFrom_of_read read

end Accepted

namespace Lowering

variable {lowering : Lowering} {statement : Statement} {args : List ArgSource}

theorem sourceParts_of_builds {build : Binding Statement} (builds : lowering.Builds build)
    (ran : build.run [] = (statement, args))
    (writes : lowering.command.kind = .update ∨ lowering.command.kind = .delete) :
    ∃ before source joins, lowering.sourceParts.run before =
      ((source, joins, statement.filter), args) := by
  cases builds with
  | select kind => simp [kind] at writes
  | insert kind => simp [kind] at writes
  | update =>
    simp only [update, Binding.run_map, Binding.run_bind, Binding.run_pure] at ran
    cases ran
    exact ⟨_, _, _, rfl⟩
  | delete =>
    simp only [delete, Binding.run_map, Binding.run_bind, Binding.run_pure] at ran
    cases ran
    exact ⟨_, _, _, rfl⟩

theorem filter_of_joins {first : JoinItem} {rest : List JoinItem} {before : List ArgSource}
    {source : Option TableRef} {joins : List Join} {filter : Option Condition}
    (items : lowering.command.joinItems = first :: rest)
    (ran : lowering.sourceParts.run before = ((source, joins, filter), args)) :
    ∃ middle, filter = combine ((lowering.joinConditions first).run before).1
        (lowering.filter.run middle).1 ∧
      (lowering.filter.run middle).2 = args := by
  simp only [sourceParts, items, Binding.run_bind, Binding.run_pure] at ran
  cases ran
  exact ⟨_, rfl, rfl⟩

theorem filter_of_no_joins {before : List ArgSource} {source : Option TableRef}
    {joins : List Join} {filter : Option Condition} (items : lowering.command.joinItems = [])
    (ran : lowering.sourceParts.run before = ((source, joins, filter), args)) :
    lowering.filter.run before = (filter, args) := by
  simp only [sourceParts, items, Binding.run_bind, Binding.run_pure] at ran
  cases ran
  rfl

theorem filter_run {block : WhereBlock} (present : lowering.command.whereBlock = some block)
    (filled : block.entries ≠ []) (before : List ArgSource) :
    lowering.filter.run before = (some ((lowering.clausesOf block.entries).run before).1,
      ((lowering.clausesOf block.entries).run before).2) := by
  have clauses : ((lowering.clausesOf block.entries).run before).1.isEmpty = false := by
    rw [isEmpty_clausesOf]
    simpa using filled
  simp only [filter, present, condition_eq_clausesOf, Binding.run_bind, Binding.run_pure, clauses,
    Bool.false_eq_true, if_false]

end Lowering

end RecordSql
