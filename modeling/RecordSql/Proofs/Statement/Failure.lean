import RecordSql.Proofs.Check.Uniqueness
import RecordSql.Proofs.Statement.Writes

namespace RecordSql

namespace Lowering

variable {lowering : Lowering} {failure : BuildError}

theorem conflictKey_eq_error {target : Option ConflictTarget}
    (identified : ∀ found, target = some found → lowering.target.Identifies found) :
    lowering.conflictKey target = .error failure ↔ ∃ name index, target = some (.index name) ∧
      lowering.target.index? name = some index ∧ 0 ∈ index.key ∧ failure = .expressionIndex name := by
  cases target with
  | none => simp [conflictKey]
  | some target =>
    cases identified target rfl with
    | columns => simp [conflictKey]
    | constraint found => simp [conflictKey, found]
    | @index name index found =>
      constructor
      · intro failed
        simp only [conflictKey, found] at failed
        split at failed
        · rename_i expression
          cases failed
          exact ⟨name, index, rfl, found, Index.hasExpression_iff.mp expression, rfl⟩
        · cases failed
      · rintro ⟨_, other, same, also, inKey, rfl⟩
        cases same
        cases found.symm.trans also
        simp [conflictKey, found, Index.hasExpression_iff.mpr inKey]

theorem onConflict_eq_error {block : OnConflictBlock}
    (targeted : ∀ columns, block.action = .update columns → ∃ target, block.target = some target) :
    lowering.onConflict block = .error failure ↔
      lowering.conflictKey block.target = .error failure := by
  rw [onConflict, bind_eq_error]
  constructor
  · rintro (keyless | ⟨⟨key, keyColumns⟩, _, failed⟩)
    · exact keyless
    · dsimp only at failed
      split at failed
      · cases failed
      · rename_i columns action
        obtain ⟨target, present⟩ := targeted columns action
        simp only [present, Option.isNone_some, Bool.false_eq_true, if_false] at failed
        cases columns <;> cases failed
  · exact Or.inl

theorem conflictOf_eq_error : lowering.conflictOf = .error failure ↔
    ∃ block, lowering.command.onConflict = some block ∧ lowering.onConflict block = .error failure := by
  unfold conflictOf
  cases lowering.command.onConflict with
  | none => simp
  | some block => cases clause : lowering.onConflict block <;> simp [clause, Except.map]

end Lowering

/-- Why a command that was checked has no statement: a select reads nothing, an update writes nothing,
or an insert detects conflicts by an index that has an expression in its key. -/
inductive CheckedCommand.HasNoStatement (checked : CheckedCommand) (command : Command)
    (target : Relation) : BuildError → Prop
  | unread : command.kind = .select → checked.outputs = [] →
    HasNoStatement checked command target (.noReadableColumns command.name)
  | unwritten : command.kind = .update → checked.writes = [] →
    HasNoStatement checked command target (.noWritableColumns command.name)
  | expression {block : OnConflictBlock} {name : String} {index : Index} :
    command.kind = .insert → command.onConflict = some block → block.target = some (.index name) →
    target.index? name = some index → 0 ∈ index.key →
    HasNoStatement checked command target (.expressionIndex name)

theorem Command.Fits.conflictOf_eq_error {naming : ColumnNaming} {name : String}
    {fields : List HostField} {database : Database} {command : Command} {checked : CheckedCommand}
    {scope : Scope} {first : RelationSet} {known : LiteralTypes} {failure : BuildError}
    (fits : Fits database command checked scope first known)
    (read : ReadFrom naming name fields command) (kind : command.kind = .insert) :
    (⟨checked, scope.target⟩ : Lowering).conflictOf = .error failure ↔
      checked.HasNoStatement command scope.target failure := by
  rw [Lowering.conflictOf_eq_error, Lowering.command, fits.command_eq]
  have keyless {block : OnConflictBlock} (declared : command.onConflict = some block) :
      (⟨checked, scope.target⟩ : Lowering).onConflict block = .error failure ↔
        ∃ name index, block.target = some (.index name) ∧ scope.target.index? name = some index ∧
          0 ∈ index.key ∧ failure = .expressionIndex name := by
    have passed := (Scope.checkOnConflict_eq_ok (fits.onConflict block declared)).1
    rw [Lowering.onConflict_eq_error fun _ => read.target_of_update declared]
    exact Lowering.conflictKey_eq_error fun target targeted =>
      Scope.identifies_of_checkConflictTarget (passed target targeted)
  constructor
  · rintro ⟨block, declared, failed⟩
    obtain ⟨name, index, targeted, found, inKey, rfl⟩ := (keyless declared).mp failed
    exact .expression kind declared targeted found inKey
  · intro reason
    cases reason with
    | unread other => cases kind.symm.trans other
    | unwritten other => cases kind.symm.trans other
    | @expression block name index _ declared targeted found inKey =>
      exact ⟨block, declared, (keyless declared).mpr ⟨name, index, targeted, found, inKey, rfl⟩⟩

/-- A command that was read and checked has no statement just for one of three reasons. -/
theorem no_statement_iff {naming : ColumnNaming} {name : String} {fields : List HostField}
    {database : Database} {command : Command} {checked : CheckedCommand}
    (read : Command.read naming name fields = .ok command)
    (check : (command.check database).Returns checked) :
    ∃ target, checked.target? = some target ∧
      ∀ failure, checked.lower = .error failure ↔ checked.HasNoStatement command target failure := by
  obtain ⟨scope, first, known, fits⟩ := Command.fits_of_check check
  refine ⟨scope.target, fits.target?_eq, fun failure => ?_⟩
  have readFrom := Command.readFrom_of_read read
  constructor
  · intro failed
    simp only [CheckedCommand.lower, fits.target?_eq, fits.command_eq] at failed
    split at failed
    case h_1 => cases failed
    case h_2 kind =>
      split at failed
      · rename_i empty
        cases failed
        exact .unread kind (List.isEmpty_iff.mp empty)
      · cases failed
    case h_3 kind =>
      rcases bind_eq_error.mp failed with keyless | ⟨_, _, built⟩
      · exact (fits.conflictOf_eq_error readFrom kind).mp keyless
      · cases built
    case h_4 kind =>
      split at failed
      · rename_i empty
        cases failed
        exact .unwritten kind (List.isEmpty_iff.mp empty)
      · cases failed
    case h_5 => cases failed
  · intro reason
    simp only [CheckedCommand.lower, fits.target?_eq, fits.command_eq]
    cases reason with
    | unread kind empty => simp [kind, empty]
    | unwritten kind empty => simp [kind, empty]
    | expression kind declared targeted found inKey =>
      simp only [kind]
      rw [bind_eq_error]
      exact .inl ((fits.conflictOf_eq_error readFrom kind).mpr
        (.expression kind declared targeted found inKey))

def caselessBlog : Database where
  server :=
    ({ tables := [{ MemoryTable.users with
        indexes := [{ name := "users_lower_name_key", key := [none], unique := true }] }] } :
      MemoryDatabase).server
  catalog := Standard.catalog

def addCaseless : List HostField :=
  [taggedField "User" "rel" "users" (recordOf [emailField, nameField]),
   { name := "OnConflict"
     type := recordOf [taggedField "_" "sql" "users_lower_name_key" Directive.index.hostType,
       { name := "_", type := Directive.ignore.hostType }] }]

theorem no_statement_addCaseless :
    ∃ command checked target, Command.read .tagged "InsertUser" addCaseless = .ok command ∧
      (command.check caselessBlog).Returns checked ∧ checked.target? = some target ∧
      checked.lower = .error (.expressionIndex "users_lower_name_key") ∧
      checked.HasNoStatement command target (.expressionIndex "users_lower_name_key") := by
  obtain ⟨command, read, facts⟩ := exists_read
    (fun command => ((command.check caselessBlog).outcome {}).1.toOption.any fun checked =>
      failure? checked.lower == some (.expressionIndex "users_lower_name_key"))
    (show (Command.read .tagged "InsertUser" addCaseless).toOption.any _ = true by decide +kernel)
  cases outcome : ((command.check caselessBlog).outcome {}).1 with
  | error failure => simp [outcome, Except.toOption] at facts
  | ok checked =>
    simp only [outcome, Except.toOption, Option.any_some, beq_iff_eq, failure?_eq_some] at facts
    have check : (command.check caselessBlog).Returns checked := ⟨{}, outcome⟩
    obtain ⟨target, present, reasons⟩ := no_statement_iff read check
    exact ⟨command, checked, target, read, check, present, facts, (reasons _).mp facts⟩

end RecordSql
