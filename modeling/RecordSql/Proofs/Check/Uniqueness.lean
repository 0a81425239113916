import RecordSql.Check.Command
import RecordSql.Proofs.Outcome
import RecordSql.Proofs.Relation.UniqueIndex

namespace RecordSql

theorem ConstraintKind.isKey_iff {kind : ConstraintKind} :
    kind.isKey = true ↔ kind = .primaryKey ∨ kind = .unique := by
  simp only [isKey, Bool.or_eq_true, beq_iff_eq]

namespace Relation

/-- The key of a unique index, which has no expressions, is made up of just the columns of these names. -/
def UniqueOver (relation : Relation) (names : List String) : Prop :=
  ∃ index ∈ relation.indexes, (index.unique = true ∨ index.primary = true) ∧ 0 ∉ index.key ∧
    ∀ name, name ∈ relation.keyColumns index.key ↔ name ∈ names

variable {relation : Relation}

theorem uniqueOver_iff {names : List String} :
    relation.UniqueOver names ↔ (relation.uniqueIndexFor? names).isSome = true := by
  simp only [UniqueOver, uniqueIndexFor?, List.find?_isSome, Bool.and_eq_true, Bool.not_eq_true',
    ← Bool.not_eq_true, Index.isUnique_iff, Index.hasExpression_iff, beq_iff_eq, orderedNames_eq_iff, and_assoc]

theorem uniqueOver_keyColumns {name : String} {index : Index}
    (found : relation.index? name = some index) (isUnique : index.isUnique = true)
    (plain : index.hasExpression = false) : relation.UniqueOver (relation.keyColumns index.key) := by
  refine ⟨index, List.mem_of_find?_eq_some found, Index.isUnique_iff.mp isUnique, ?_, fun _ => .rfl⟩
  rw [← Index.hasExpression_iff, plain]
  exact Bool.false_ne_true

def KeyConstraint (relation : Relation) (name : String) : Prop :=
  ∃ constraint ∈ relation.constraints, constraint.name = name ∧
    (constraint.kind = .primaryKey ∨ constraint.kind = .unique)

theorem keyConstraint_of_constraint? {name : String} {constraint : Constraint}
    (found : relation.constraint? name = some constraint) (isKey : constraint.kind.isKey = true) :
    relation.KeyConstraint name := by
  have named := List.find?_some found
  rw [beq_iff_eq] at named
  exact ⟨constraint, List.mem_of_find?_eq_some found, named, ConstraintKind.isKey_iff.mp isKey⟩

/-- The relation has what the conflict target names, and it is unique. That of an index may still be
unique in an expression. -/
inductive Identifies (relation : Relation) : ConflictTarget → Prop
  | columns {refs : List ColumnRef} :
    (∀ ref ∈ refs, ∃ column, relation.ownColumn ref = .ok column) →
    relation.UniqueOver (refs.map ColumnRef.name) → Identifies relation (.columns refs)
  | index {name : String} {index : Index} : relation.index? name = some index →
    index.isUnique = true → Identifies relation (.index name)
  | constraint {name : String} {constraint : Constraint} :
    relation.constraint? name = some constraint → constraint.kind.isKey = true →
    Identifies relation (.constraint name)

end Relation

theorem Scope.identifies_of_checkConflictTarget {scope : Scope} {target : ConflictTarget}
    (passed : scope.checkConflictTarget target = .ok ()) : scope.target.Identifies target := by
  cases target with
  | columns refs =>
    obtain ⟨columns, each, passed⟩ := bind_eq_ok.mp passed
    have indexed := (ite_throw_left.mp passed).1
    refine .columns ?_ (Relation.uniqueOver_iff.mpr ?_)
    · intro ref member
      obtain ⟨column, _, own⟩ := step_of_mapM_mem each member
      exact ⟨column, own⟩
    · simpa [Option.isSome_iff_ne_none] using indexed
  | index name =>
    simp only [checkConflictTarget] at passed
    split at passed
    · rename_i index found
      split at passed
      · rename_i isUnique
        exact .index found isUnique
      · cases passed
    · cases passed
  | constraint name =>
    simp only [checkConflictTarget] at passed
    split at passed
    · rename_i constraint found
      split at passed
      · rename_i isKey
        exact .constraint found isKey
      · cases passed
    · cases passed

end RecordSql
