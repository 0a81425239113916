import RecordSql.Check.Scope
import RecordSql.Proofs.Outcome

namespace RecordSql

namespace Relation

variable {relation : Relation} {name : String} {ref : ColumnRef} {column : Column}

def HasColumn (relation : Relation) (name : String) : Prop := (relation.column? name).isSome = true

theorem name_of_column? (found : relation.column? name = some column) : column.name = name := by
  simpa using List.find?_some found

theorem hasColumn_of_column? (found : relation.column? name = some column) :
    relation.HasColumn name := by
  rw [HasColumn, found]
  rfl

theorem hasColumn_of_mem (member : column ∈ relation.columns) : relation.HasColumn column.name := by
  rw [HasColumn, column?, List.find?_isSome]
  exact ⟨column, member, by simp⟩

theorem hasColumn_of_keyColumns {key : List Int} (member : name ∈ relation.keyColumns key) :
    relation.HasColumn name := by
  obtain ⟨column, found, rfl⟩ := List.mem_map.mp member
  obtain ⟨ordinal, _, at_⟩ := List.mem_filterMap.mp found
  exact hasColumn_of_mem (List.mem_of_find?_eq_some at_)

theorem column_eq_ok : relation.column name = .ok column ↔ relation.column? name = some column := by
  unfold Relation.column
  cases relation.column? name <;> simp

theorem ownColumn_eq_ok (found : relation.ownColumn ref = .ok column) :
    (∀ qualifier, ref.qualifier = some qualifier → qualifier = relation.key) ∧
      relation.column? ref.name = some column := by
  unfold ownColumn at found
  split at found
  · rename_i qualifier named
    split at found
    · rename_i same
      refine ⟨?_, column_eq_ok.mp found⟩
      intro other otherNamed
      rw [named] at otherNamed
      cases otherNamed
      exact same
    · cases found
  · rename_i unnamed
    exact ⟨by simp [unnamed], column_eq_ok.mp found⟩

theorem hasColumn_of_ownColumn (found : relation.ownColumn ref = .ok column) :
    relation.HasColumn ref.name ∧ column.name = ref.name := by
  obtain ⟨_, present⟩ := ownColumn_eq_ok found
  exact ⟨hasColumn_of_column? present, name_of_column? present⟩

end Relation

namespace Scope

variable {scope : Scope} {ref : ColumnRef} {relation : Relation} {column : Column}

theorem relation_eq_ok {key : String} :
    scope.relation key = .ok relation ↔ scope.relations.get? key = some relation := by
  unfold Scope.relation
  cases scope.relations.get? key <;> simp

theorem findColumn?_eq_some {name : String} {relations : List Relation}
    (found : findColumn? name relations = some (relation, column)) :
    relation ∈ relations ∧ relation.column? name = some column := by
  obtain ⟨other, member, has⟩ := List.exists_of_findSome?_eq_some found
  simp only [Option.map_eq_some_iff] at has
  obtain ⟨_, present, same⟩ := has
  cases same
  exact ⟨member, present⟩

theorem column_eq_ok {everywhere : Bool} (found : scope.column everywhere ref = .ok (relation, column)) :
    relation.column? ref.name = some column ∧
      (∀ qualifier, ref.qualifier = some qualifier →
        scope.relations.get? qualifier = some relation) ∧
      (ref.qualifier = none →
        relation ∈ (if everywhere then scope.relations.relations else [scope.target])) := by
  unfold Scope.column at found
  split at found
  · rename_i qualifier named
    obtain ⟨owner, owned, found⟩ := bind_eq_ok.mp found
    obtain ⟨present, has, same⟩ := bind_eq_ok.mp found
    cases pure_eq_ok.mp same
    refine ⟨Relation.column_eq_ok.mp has, ?_, by simp [named]⟩
    intro other otherNamed
    rw [named] at otherNamed
    cases otherNamed
    exact relation_eq_ok.mp owned
  · rename_i unnamed
    split at found
    · rename_i pair searched
      cases found
      obtain ⟨member, has⟩ := findColumn?_eq_some searched
      exact ⟨has, by simp [unnamed], fun _ => member⟩
    · cases found

end Scope

end RecordSql
