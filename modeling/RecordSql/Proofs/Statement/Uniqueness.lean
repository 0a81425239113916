import RecordSql.Proofs.Check.Uniqueness
import RecordSql.Proofs.Statement.Writes

namespace RecordSql

/-- The relation has something unique of which a conflict is detected by the key. -/
def Relation.Backs (relation : Relation) : ConflictKey → Prop
  | .columns names => relation.UniqueOver names
  | .constraint name => relation.KeyConstraint name

theorem Lowering.Detects.isSome_eq {lowering : Lowering} {target : Option ConflictTarget}
    {key : Option ConflictKey} {keyColumns : List String}
    (detects : lowering.Detects target key keyColumns) : key.isSome = target.isSome := by
  cases detects <;> rfl

theorem Lowering.Detects.backed {lowering : Lowering} {target : Option ConflictTarget}
    {key : ConflictKey} {keyColumns : List String}
    (detects : lowering.Detects target (some key) keyColumns)
    (identified : ∀ found, target = some found → lowering.target.Identifies found) :
    lowering.target.Backs key := by
  cases detects with
  | columns =>
    cases identified _ rfl with
    | columns _ unique => exact unique
  | @index name index found plain =>
    cases identified _ rfl with
    | index other isUnique =>
      cases Option.some.inj (found.symm.trans other)
      exact Relation.uniqueOver_keyColumns found isUnique plain
  | @constraint name constraint found =>
    cases identified _ rfl with
    | constraint other isKey => exact Relation.keyConstraint_of_constraint? other isKey

namespace Accepted

variable {naming : ColumnNaming} {name : String} {fields : List HostField} {database : Database}
  {command : Command} {checked : CheckedCommand} {bound : BoundStatement}

/-- An insert with a conflict target detects conflicts by columns that a unique index without expressions
is made up of, or by a constraint that is a primary key or unique. The index may have been named, or its
columns, in any order and more than once. -/
theorem conflict_key_backed (accepted : Accepted naming name fields database command checked bound)
    {conflict : OnConflict} (present : bound.statement.conflict? = some conflict) :
    ∃ block relation, command.onConflict = some block ∧ checked.target? = some relation ∧
      conflict.key.isSome = block.target.isSome ∧
      ∀ key, conflict.key = some key → relation.Backs key := by
  obtain ⟨scope, first, known, lowering, facts⟩ := accepted.agrees
  obtain ⟨build, builds, ran⟩ := facts.builds
  have statement : (build.run []).1 = bound.statement := by rw [ran]
  rw [← statement] at present
  obtain ⟨_, block, declared, found⟩ := Lowering.onConflict_of_builds builds present
  obtain ⟨keyColumns, detects, _⟩ := Lowering.detects_responds_of_onConflict found
  rw [facts.command_eq] at declared
  have passed := (Scope.checkOnConflict_eq_ok (facts.fits.onConflict block declared)).1
  refine ⟨block, scope.target, declared, facts.fits.target?_eq, detects.isSome_eq, ?_⟩
  intro key keyed
  rw [keyed] at detects
  rw [← facts.target_eq]
  apply detects.backed
  intro target targeted
  rw [facts.target_eq]
  exact Scope.identifies_of_checkConflictTarget (passed target targeted)

theorem conflict_key_backed_replacePost :
    ∃ command checked bound, Accepted .tagged "InsertPost" replacePost blog command checked bound ∧
      ∃ conflict, bound.statement.conflict? = some conflict ∧
        conflict.key = some (.columns ["user_id", "slug"]) ∧
        ∃ block relation, command.onConflict = some block ∧ checked.target? = some relation ∧
          block.target.isSome = true ∧ relation.UniqueOver ["user_id", "slug"] := by
  obtain ⟨command, checked, bound, accepted, facts⟩ := exists_accepted
    (fun (_, _, bound) => bound.statement.conflict?.any fun conflict =>
      conflict.key == some (.columns ["user_id", "slug"]))
    (show (accepted? .tagged "InsertPost" replacePost blog).any _ = true by decide +kernel)
  obtain ⟨conflict, present, keyed⟩ := (Option.any_eq_true _ _).mp facts
  rw [beq_iff_eq] at keyed
  obtain ⟨block, relation, declared, target, targeted, backed⟩ := conflict_key_backed accepted present
  rw [keyed, Option.isSome_some] at targeted
  exact ⟨command, checked, bound, accepted, conflict, present, keyed, block, relation, declared, target,
    targeted.symm, backed _ keyed⟩

end Accepted

end RecordSql
