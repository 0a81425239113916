import RecordSql.Proofs.Statement.Lowering

namespace RecordSql

namespace Lowering

variable {lowering : Lowering} {test : Test}

/-- The test is what the leaf becomes. Only its parameters depend on what was collected before. -/
def Renders (lowering : Lowering) (leaf : Leaf) (test : Test) : Prop :=
  ∃ before, ((lowering.leaf leaf).run before).1 = test

inductive TestSource (lowering : Lowering) (test : Test) : Prop
  | leaf (leaf : Leaf) : leaf ∈ lowering.command.whereLeaves → lowering.Renders leaf test →
    TestSource lowering test
  | join (item : JoinItem) (condition : JoinCondition) (before : List ArgSource) :
    item ∈ lowering.command.joinItems → condition ∈ item.conditions →
    ((lowering.columnTest item.relation.key condition.test).run before).1 = test →
    TestSource lowering test

theorem renders_filter (before : List ArgSource) :
    List.Forall₂ lowering.Renders lowering.command.whereLeaves
      (filterTests (lowering.filter.run before).1) := by
  unfold filter
  cases present : lowering.command.whereBlock with
  | none =>
    have leaves : lowering.command.whereLeaves = [] := by
      simp [Command.whereLeaves, Command.whereEntries, present, Entry.leavesOf]
    rw [leaves]
    exact .nil
  | some block =>
    have leaves : lowering.command.whereLeaves = Entry.leavesOf block.entries := by
      simp [Command.whereLeaves, Command.whereEntries, present]
    simp only [condition_eq_clausesOf, Binding.run_bind, Binding.run_pure, filterTests_of_clauses,
      tests_run_clausesOf, leaves]
    exact Binding.forall₂_mapM _ before

theorem source_of_filter {before : List ArgSource}
    (member : test ∈ filterTests (lowering.filter.run before).1) : lowering.TestSource test := by
  obtain ⟨leaf, inside, rendered⟩ := exists_left_of_forall₂ (renders_filter before) member
  exact .leaf leaf inside rendered

theorem source_of_joinConditions {item : JoinItem} {before : List ArgSource}
    (joined : item ∈ lowering.command.joinItems)
    (member : test ∈ Condition.tests ((lowering.joinConditions item).run before).1) :
    lowering.TestSource test := by
  rw [Condition.tests_eq_flatMap] at member
  obtain ⟨clause, inside, only⟩ := List.mem_flatMap.mp member
  obtain ⟨condition, listed, start, rfl⟩ :=
    exists_left_of_forall₂ (Binding.forall₂_mapM item.conditions before) inside
  exact .join item condition start joined listed (List.mem_singleton.mp only).symm

theorem source_of_joins {items : List JoinItem} {before : List ArgSource}
    (joined : items ⊆ lowering.command.joinItems)
    (member : test ∈ ((items.mapM lowering.join).run before).1.flatMap
      fun join => filterTests join.on) : lowering.TestSource test := by
  obtain ⟨join, inside, tested⟩ := List.mem_flatMap.mp member
  obtain ⟨item, listed, start, rfl⟩ :=
    exists_left_of_forall₂ (Binding.forall₂_mapM items before) inside
  simp only [Lowering.join, Binding.run_bind, Binding.run_pure, filterTests_of_clauses] at tested
  exact source_of_joinConditions (joined listed) tested

theorem renders_sourceParts (before : List ArgSource) : ∃ leading written,
    filterTests (lowering.sourceParts.run before).1.2.2 = leading ++ written ∧
      List.Forall₂ lowering.Renders lowering.command.whereLeaves written := by
  unfold sourceParts
  cases items : lowering.command.joinItems with
  | nil => exact ⟨[], _, rfl, renders_filter before⟩
  | cons first rest =>
    simp only [Binding.run_bind, Binding.run_pure, tests_combine]
    exact ⟨_, _, rfl, renders_filter _⟩

theorem source_of_sourceParts {before : List ArgSource}
    (member : test ∈ ((lowering.sourceParts.run before).1.2.1.flatMap
        fun join => filterTests join.on) ++
      filterTests (lowering.sourceParts.run before).1.2.2) : lowering.TestSource test := by
  unfold sourceParts at member
  cases items : lowering.command.joinItems with
  | nil =>
    simp only [items] at member
    exact source_of_filter member
  | cons first rest =>
    simp only [items, Binding.run_bind, Binding.run_pure, tests_combine, List.mem_append] at member
    rcases member with joins | leading | user
    · exact source_of_joins (by simp [items]) joins
    · exact source_of_joinConditions (by simp [items]) leading
    · exact source_of_filter user

theorem source_of_builds {build : Binding Statement} (builds : lowering.Builds build)
    (member : test ∈ (build.run []).1.tests) : lowering.TestSource test := by
  cases builds with
  | insert => cases member
  | update => exact source_of_sourceParts member
  | delete => exact source_of_sourceParts member
  | select =>
    rcases List.mem_append.mp member with joins | user
    · exact source_of_joins (List.Subset.refl _) joins
    · exact source_of_filter user

/-- The condition of a statement ends with the tests of the leaves of the where block. -/
theorem renders_of_builds {build : Binding Statement} (builds : lowering.Builds build)
    (kind : lowering.command.kind ≠ .insert) : ∃ leading written,
      filterTests (build.run []).1.filter = leading ++ written ∧
        List.Forall₂ lowering.Renders lowering.command.whereLeaves written := by
  cases builds with
  | insert insert => exact absurd insert kind
  | update => exact renders_sourceParts _
  | delete => exact renders_sourceParts _
  | select => exact ⟨[], _, rfl, renders_filter _⟩

end Lowering

end RecordSql
