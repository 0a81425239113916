import RecordSql.Proofs.Check.Writing
import RecordSql.Proofs.Statement.Lowering

namespace RecordSql

def Relation.conflictColumns (relation : Relation) : ConflictTarget → List String
  | .columns refs => refs.map ColumnRef.name
  | .index name =>
    ((relation.index? name).map fun index => relation.keyColumns index.key).getD []
  | .constraint name =>
    ((relation.constraint? name).map fun constraint => relation.keyColumns constraint.key).getD []

namespace Lowering

variable {lowering : Lowering}

/-- How a conflict with a target is detected, and the columns of the target. A constraint goes by its
name, and an index by its columns. -/
inductive Detects (lowering : Lowering) :
    Option ConflictTarget → Option ConflictKey → List String → Prop
  | any : Detects lowering none none []
  | columns {refs : List ColumnRef} :
    Detects lowering (some (.columns refs)) (some (.columns (refs.map ColumnRef.name)))
      (refs.map ColumnRef.name)
  | index {name : String} {index : Index} : lowering.target.index? name = some index →
    index.hasExpression = false →
    Detects lowering (some (.index name)) (some (.columns (lowering.target.keyColumns index.key)))
      (lowering.target.keyColumns index.key)
  | constraint {name : String} {constraint : Constraint} :
    lowering.target.constraint? name = some constraint →
    Detects lowering (some (.constraint name)) (some (.constraint name))
      (lowering.target.keyColumns constraint.key)

theorem detects_of_conflictKey {target : Option ConflictTarget} {key : Option ConflictKey}
    {keyColumns : List String} (found : lowering.conflictKey target = .ok (key, keyColumns)) :
    lowering.Detects target key keyColumns := by
  unfold conflictKey at found
  split at found
  · cases found
    exact .any
  · cases found
    exact .columns
  · split at found
    · cases found
    · rename_i index present
      split at found
      · cases found
      · rename_i plain
        cases found
        exact .index present (by simpa using plain)
  · split at found
    · cases found
    · rename_i constraint present
      cases found
      exact .constraint present

theorem Detects.keyColumns_eq {target : ConflictTarget} {key : Option ConflictKey}
    {keyColumns : List String} (detects : lowering.Detects (some target) key keyColumns) :
    keyColumns = lowering.target.conflictColumns target := by
  cases detects with
  | columns => rfl
  | index present => simp [Relation.conflictColumns, present]
  | constraint present => simp [Relation.conflictColumns, present]

/-- What is done in a conflict. Only a block with a target may update. -/
inductive Responds (lowering : Lowering) (block : OnConflictBlock) (keyColumns : List String) :
    ConflictResponse → Prop
  | nothing : block.action = .ignore → Responds lowering block keyColumns .nothing
  | all {target : ConflictTarget} : block.action = .update .all → block.target = some target →
    Responds lowering block keyColumns (.update (lowering.updatableColumns keyColumns))
  | listed {refs : List ColumnRef} {target : ConflictTarget} :
    block.action = .update (.columns refs) → block.target = some target →
    Responds lowering block keyColumns (.update (refs.map ColumnRef.name))

theorem Responds.target_of_update {block : OnConflictBlock} {keyColumns columns : List String}
    (responds : lowering.Responds block keyColumns (.update columns)) :
    ∃ target, block.target = some target := by
  cases responds with
  | all _ present => exact ⟨_, present⟩
  | listed _ present => exact ⟨_, present⟩

theorem detects_responds_of_onConflict {block : OnConflictBlock} {conflict : OnConflict}
    (found : lowering.onConflict block = .ok conflict) :
    ∃ keyColumns, lowering.Detects block.target conflict.key keyColumns ∧
      lowering.Responds block keyColumns conflict.response := by
  obtain ⟨⟨key, keyColumns⟩, keyFound, found⟩ := bind_eq_ok.mp found
  have detects := detects_of_conflictKey keyFound
  dsimp only at found
  split at found
  · rename_i action
    cases pure_eq_ok.mp found
    exact ⟨keyColumns, detects, .nothing action⟩
  · rename_i columns action
    obtain ⟨targeted, found⟩ := guard_eq_ok.mp found
    obtain ⟨target, present⟩ := Option.ne_none_iff_exists'.mp (by simpa using targeted)
    split at found
    · cases pure_eq_ok.mp found
      exact ⟨keyColumns, detects, .all action present⟩
    · cases pure_eq_ok.mp found
      exact ⟨keyColumns, detects, .listed action present⟩

theorem onConflict_of_conflictOf {conflict : OnConflict}
    (found : lowering.conflictOf = .ok (some conflict)) :
    ∃ block, lowering.command.onConflict = some block ∧ lowering.onConflict block = .ok conflict := by
  unfold conflictOf at found
  split at found
  · cases found
  · rename_i block declared
    obtain ⟨clause, clauseFound, same⟩ := map_eq_ok.mp found
    cases same
    exact ⟨block, declared, clauseFound⟩

theorem onConflict_of_builds {build : Binding Statement} (builds : lowering.Builds build)
    {conflict : OnConflict} (present : (build.run []).1.conflict? = some conflict) :
    lowering.command.kind = .insert ∧ ∃ block, lowering.command.onConflict = some block ∧
      lowering.onConflict block = .ok conflict := by
  cases builds with
  | select => cases present
  | update => cases present
  | delete => cases present
  | @insert held kind found =>
    have same : held = some conflict := present
    rw [same] at found
    exact ⟨kind, onConflict_of_conflictOf found⟩

theorem mem_updatableColumns {name : String} {keyColumns : List String} :
    name ∈ lowering.updatableColumns keyColumns ↔
      (∃ index, ⟨name, .input index⟩ ∈ lowering.checked.writes) ∧ name ∉ keyColumns := by
  simp only [updatableColumns, List.mem_filter, List.mem_map, bne_iff_ne, List.contains_eq_mem,
    Bool.not_eq_true', decide_eq_false_iff_not, and_congr_left_iff]
  intro _
  constructor
  · rintro ⟨⟨column, value⟩, ⟨member, given⟩, rfl⟩
    cases value with
    | input index => exact ⟨index, member⟩
    | default => exact absurd rfl given
  · rintro ⟨index, member⟩
    exact ⟨⟨name, .input index⟩, ⟨member, by simp⟩, rfl⟩

theorem updatableColumns_sublist (keyColumns : List String) :
    (lowering.updatableColumns keyColumns).Sublist
      (lowering.checked.writes.map WriteTarget.column) :=
  List.filter_sublist.trans (List.filter_sublist.map WriteTarget.column)

theorem updatableColumns_eq_nil {keyColumns : List String} :
    lowering.updatableColumns keyColumns = [] ↔ ∀ write ∈ lowering.checked.writes,
      write.value ≠ .default → write.column ∈ keyColumns := by
  simp only [updatableColumns, List.filter_eq_nil_iff, List.forall_mem_map, List.mem_filter,
    and_imp, bne_iff_ne, List.contains_eq_mem, Bool.not_eq_true', decide_eq_false_iff_not,
    Decidable.not_not]

variable {scope : Scope} {block : OnConflictBlock}

theorem Detects.names (same : lowering.target = scope.target) {target : Option ConflictTarget}
    {keyColumns names : List String}
    (passed : ∀ found, target = some found → scope.checkConflictTarget found = .ok ())
    (detects : lowering.Detects target (some (.columns names)) keyColumns) :
    ∀ name ∈ names, lowering.target.HasColumn name := by
  cases detects with
  | columns =>
    intro name member
    obtain ⟨ref, listed, rfl⟩ := List.mem_map.mp member
    obtain ⟨_, each, _⟩ := bind_eq_ok.mp (passed _ rfl)
    obtain ⟨column, _, own⟩ := step_of_mapM_mem each listed
    rw [same]
    exact (Relation.hasColumn_of_ownColumn own).1
  | index =>
    intro name member
    exact Relation.hasColumn_of_keyColumns member

theorem Responds.names (same : lowering.target = scope.target) {keyColumns names : List String}
    (passed : ∀ columns, block.action = .update columns → scope.checkListed columns.listed = .ok ())
    (written : ∀ write ∈ lowering.checked.writes, lowering.target.HasColumn write.column)
    (responds : lowering.Responds block keyColumns (.update names)) :
    ∀ name ∈ names, lowering.target.HasColumn name := by
  cases responds with
  | all =>
    intro name member
    obtain ⟨⟨index, inside⟩, _⟩ := mem_updatableColumns.mp member
    exact written _ inside
  | listed action =>
    intro name member
    obtain ⟨ref, inside, rfl⟩ := List.mem_map.mp member
    rw [same]
    exact Scope.hasColumn_of_checkListed (passed _ action) ref inside

theorem names_of_onConflict (same : lowering.target = scope.target) {conflict : OnConflict}
    (passed : scope.checkOnConflict block = .ok ())
    (written : ∀ write ∈ lowering.checked.writes, lowering.target.HasColumn write.column)
    (found : lowering.onConflict block = .ok conflict) :
    ∀ name ∈ conflict.names, lowering.target.HasColumn name := by
  obtain ⟨targetPassed, listedPassed⟩ := Scope.checkOnConflict_eq_ok passed
  obtain ⟨keyColumns, detects, responds⟩ := detects_responds_of_onConflict found
  intro name member
  rcases List.mem_append.mp member with keyed | updated
  · split at keyed
    · rename_i names sameKey
      rw [sameKey] at detects
      exact detects.names same targetPassed name keyed
    · cases keyed
  · split at updated
    · rename_i names sameResponse
      rw [sameResponse] at responds
      exact responds.names same listedPassed written name updated
    · cases updated

end Lowering

end RecordSql
