import RecordSql.Proofs.Check.References
import RecordSql.Proofs.Statement.Lowering

namespace RecordSql

namespace CheckedCommand

variable (checked : CheckedCommand)

def outputUses : List ColumnUse := checked.outputs.map Pairing.use

def returnUses : List ColumnUse :=
  if checked.command.returning.isNone && checked.command.result.isNone then []
  else checked.outputUses

/-- The columns of the joins of a write. The conditions of the first join come last. -/
def sourceUses : List ColumnUse :=
  match checked.command.joinItems with
  | [] => []
  | first :: rest => rest.flatMap (JoinItem.uses checked.command.target) ++
      first.uses checked.command.target

def orderUses : List ColumnUse :=
  (checked.command.orderBy.getD []).map fun item => ⟨checked.command.target, item.column⟩

def columnUses : List ColumnUse :=
  match checked.command.kind with
  | .select => checked.outputUses ++
      checked.command.joinItems.flatMap (JoinItem.uses checked.command.target) ++
      checked.command.whereUses ++ checked.orderUses
  | .insert => checked.returnUses
  | .update | .delete => checked.sourceUses ++ checked.command.whereUses ++ checked.returnUses
  | .filter => []

end CheckedCommand

theorem Condition.columns_eq_flatMap (clauses : Condition) : Condition.columns clauses =
    clauses.flatMap fun clause => clause.tests.flatMap Test.columns := by
  rw [Condition.columns, Condition.tests_eq_flatMap, List.flatMap_assoc]

theorem filterColumns_eq_tests (filter : Option Condition) :
    filterColumns filter = (filterTests filter).flatMap Test.columns := by
  cases filter <;> rfl

theorem Expr.columns_apply (func : Option String) (arg : Expr) :
    (Expr.apply func arg).columns = arg.columns := by
  cases func <;> rfl

namespace Lowering

variable (lowering : Lowering)

def resolve (use : ColumnUse) : ColumnRef := lowering.column use.home use.ref

theorem columns_operand (operand : Operand) (before : List ArgSource) :
    ((lowering.operand operand).run before).1.columns =
      (operand.uses lowering.target.key).map lowering.resolve := by
  cases operand <;> rfl

theorem columns_fieldTest (test : FieldTest) (before : List ArgSource) :
    ((lowering.fieldTest test).run before).1.columns =
      [lowering.resolve ⟨lowering.target.key, test.column.column⟩] := by
  have param : ((Binding.field test.field).run before).1.columns = [] := rfl
  simp only [fieldTest, Binding.run_bind, Binding.run_pure, Test.columns, Expr.columns_apply]
  split <;> simp only [Expr.columns_apply, param, Expr.columns, List.append_nil] <;> rfl

theorem columns_columnTest (key : String) (test : ColumnTest) (before : List ArgSource) :
    ((lowering.columnTest key test).run before).1.columns =
      (test.uses lowering.target.key key).map lowering.resolve := by
  unfold columnTest ColumnTest.uses ColumnTest.right?
  cases test.condition with
  | test op =>
    simp only [Binding.run_pure, Test.columns, Expr.columns_apply, Expr.columns]
    rfl
  | compare op quantifier right =>
    have rightColumns := lowering.columns_operand right before
    simp only [Binding.run_bind, Binding.run_pure, Test.columns, Expr.columns_apply, Expr.columns,
      rightColumns]
    rfl

theorem columns_betweenTest (test : BetweenTest) (before : List ArgSource) :
    ((lowering.betweenTest test).run before).1.columns =
      (Leaf.uses lowering.target.key (.between test)).map lowering.resolve := by
  have low := lowering.columns_operand test.low before
  have high := lowering.columns_operand test.high ((lowering.operand test.low).run before).2
  simp only [betweenTest, Binding.run_bind, Binding.run_pure, Test.columns, low, high, Leaf.uses,
    List.map_append, List.map_cons]
  rfl

theorem columns_leaf (leaf : Leaf) (before : List ArgSource) :
    ((lowering.leaf leaf).run before).1.columns =
      (leaf.uses lowering.target.key).map lowering.resolve := by
  cases leaf with
  | field test => exact lowering.columns_fieldTest test before
  | column test => exact lowering.columns_columnTest lowering.target.key test before
  | between test => exact lowering.columns_betweenTest test before

theorem columns_clausesOf (entries : List Entry) (before : List ArgSource) :
    Condition.columns ((lowering.clausesOf entries).run before).1 =
      ((Entry.leavesOf entries).flatMap (Leaf.uses lowering.target.key)).map lowering.resolve := by
  rw [Condition.columns, tests_run_clausesOf, List.map_flatMap]
  exact Binding.flatMap_mapM (fun leaf _ => lowering.columns_leaf leaf) before

theorem columns_filter (keyed : lowering.target.key = lowering.command.target)
    (before : List ArgSource) :
    filterColumns (lowering.filter.run before).1 = lowering.command.whereUses.map lowering.resolve := by
  unfold filter
  cases present : lowering.command.whereBlock with
  | none =>
    rw [Binding.run_pure]
    simp [Command.whereUses, Command.whereLeaves, Command.whereEntries, present, Entry.leavesOf,
      filterColumns]
  | some block =>
    have clauses := lowering.columns_clausesOf block.entries before
    have uses : lowering.command.whereUses =
        (Entry.leavesOf block.entries).flatMap (Leaf.uses lowering.target.key) := by
      simp [Command.whereUses, Command.whereLeaves, Command.whereEntries, present, keyed]
    rw [uses, ← clauses]
    simp only [condition_eq_clausesOf, Binding.run_bind, Binding.run_pure]
    cases ((lowering.clausesOf block.entries).run before).1 <;> rfl

theorem columns_joinConditions (keyed : lowering.target.key = lowering.command.target)
    (item : JoinItem) (before : List ArgSource) :
    Condition.columns ((lowering.joinConditions item).run before).1 =
      (item.uses lowering.command.target).map lowering.resolve := by
  rw [Condition.columns_eq_flatMap, JoinItem.uses, List.map_flatMap, ← keyed]
  refine Binding.flatMap_mapM (fun condition _ start => ?_) before
  have test := lowering.columns_columnTest item.relation.key condition.test start
  simp only [joinClause, Binding.run_bind, Binding.run_pure, Clause.tests, List.flatMap_cons,
    List.flatMap_nil, List.append_nil]
  exact test

theorem columns_join (keyed : lowering.target.key = lowering.command.target) (item : JoinItem)
    (before : List ArgSource) : ((lowering.join item).run before).1.columns =
      (item.uses lowering.command.target).map lowering.resolve := by
  rw [← lowering.columns_joinConditions keyed item before]
  simp only [join, Binding.run_bind, Binding.run_pure, Join.columns]
  cases ((lowering.joinConditions item).run before).1 <;> rfl

theorem columns_joins (keyed : lowering.target.key = lowering.command.target)
    (items : List JoinItem) (before : List ArgSource) :
    ((items.mapM lowering.join).run before).1.flatMap Join.columns =
      (items.flatMap (JoinItem.uses lowering.command.target)).map lowering.resolve := by
  rw [List.map_flatMap]
  exact Binding.flatMap_mapM (fun item _ => lowering.columns_join keyed item) before

theorem columns_combine (leading : Condition) (user : Option Condition) :
    filterColumns (combine leading user) = Condition.columns leading ++ filterColumns user := by
  rw [filterColumns_eq_tests, tests_combine, List.flatMap_append, ← filterColumns_eq_tests]
  rfl

theorem columns_sourceParts (keyed : lowering.target.key = lowering.command.target)
    (before : List ArgSource) :
    (lowering.sourceParts.run before).1.2.1.flatMap Join.columns ++
        filterColumns (lowering.sourceParts.run before).1.2.2 =
      (lowering.checked.sourceUses ++ lowering.command.whereUses).map lowering.resolve := by
  unfold sourceParts CheckedCommand.sourceUses
  cases items : lowering.command.joinItems with
  | nil =>
    have joinItems : lowering.checked.command.joinItems = [] := items
    simp only [joinItems, Binding.run_bind, Binding.run_pure, lowering.columns_filter keyed,
      List.flatMap_nil, List.nil_append]
  | cons first rest =>
    have joinItems : lowering.checked.command.joinItems = first :: rest := items
    simp only [joinItems, Binding.run_bind, Binding.run_pure, columns_combine,
      lowering.columns_joins keyed, lowering.columns_joinConditions keyed,
      lowering.columns_filter keyed, List.map_append, List.append_assoc]
    rfl

theorem columns_rowLimit (source : String → ArgSource) (limit : RowLimit)
    (before : List ArgSource) : ((rowLimit source limit).run before).1.columns = [] := by
  cases limit <;> rfl

theorem columns_limit (before : List ArgSource) :
    ((lowering.limit.run before).1.map Expr.columns).getD [] = [] := by
  unfold limit
  cases lowering.command.limit with
  | none =>
    rw [Binding.run_pure]
    split <;> rfl
  | some limit => exact columns_rowLimit .limit limit before

theorem columns_offset (before : List ArgSource) :
    ((lowering.offset.run before).1.map Expr.columns).getD [] = [] := by
  unfold offset
  cases lowering.command.offset with
  | none => rfl
  | some offset => exact columns_rowLimit .offset offset before

theorem columns_writeValue (value : WriteValue) (before : List ArgSource) :
    ((lowering.writeValue value).run before).1.columns = [] := by
  cases value with
  | default => rfl
  | input index =>
    simp only [writeValue]
    split <;> rfl

theorem pairingColumn_eq (pairing : Pairing) :
    pairingColumn lowering.qualifies pairing = lowering.resolve pairing.use := by
  unfold pairingColumn resolve column
  cases lowering.qualifies <;> rfl

theorem outputs_eq : lowering.checked.outputs.map (pairingColumn lowering.qualifies) =
    lowering.checked.outputUses.map lowering.resolve := by
  rw [CheckedCommand.outputUses, List.map_map]
  exact List.map_congr_left fun pairing _ => lowering.pairingColumn_eq pairing

theorem returning_eq_outputs (single : lowering.command.kind = .insert → lowering.qualifies = false) :
    lowering.returning =
      if lowering.command.returning.isNone && lowering.command.result.isNone then []
      else lowering.checked.outputs.map (pairingColumn lowering.qualifies) := by
  have qualify : (lowering.qualifies && lowering.command.kind != .insert) = lowering.qualifies := by
    by_cases kind : lowering.command.kind = .insert
    · simp [single kind]
    · simp [kind]
  simp only [returning, qualify]

theorem returning_eq (single : lowering.command.kind = .insert → lowering.qualifies = false) :
    lowering.returning = lowering.checked.returnUses.map lowering.resolve := by
  rw [lowering.returning_eq_outputs single, outputs_eq, CheckedCommand.returnUses]
  change (if (lowering.checked.command.returning.isNone &&
    lowering.checked.command.result.isNone) = true then _ else _) = _
  split <;> rfl

theorem columnRefs_select (keyed : lowering.target.key = lowering.command.target)
    (before : List ArgSource) : (lowering.select.run before).1.columnRefs =
      (lowering.checked.outputUses ++
        lowering.command.joinItems.flatMap (JoinItem.uses lowering.command.target) ++
        lowering.command.whereUses ++ lowering.checked.orderUses).map lowering.resolve := by
  have order : ((lowering.command.orderBy.getD []).map fun item =>
      ({ item with column := lowering.targetColumn item.column } : OrderItem)).map OrderItem.column =
        lowering.checked.orderUses.map lowering.resolve := by
    rw [CheckedCommand.orderUses, List.map_map, List.map_map]
    refine List.map_congr_left fun item _ => ?_
    simp only [Function.comp_apply, targetColumn, resolve, keyed]
    rfl
  simp only [select, Binding.run_bind, Binding.run_pure, Select.columnRefs, lowering.outputs_eq,
    lowering.columns_joins keyed, lowering.columns_filter keyed, order, columns_limit,
    columns_offset, List.append_nil, List.map_append]

theorem columnRefs_insert (single : lowering.command.kind = .insert → lowering.qualifies = false)
    (conflict : Option OnConflict) (before : List ArgSource) :
    ((lowering.insert conflict).run before).1.columnRefs =
      lowering.checked.returnUses.map lowering.resolve := by
  have values := Binding.flatMap_mapM_nil (f := Expr.columns)
    (fun write (_ : write ∈ lowering.checked.writes) => lowering.columns_writeValue write.value)
    before
  simp only [insert, Binding.run_bind, Binding.run_pure, Insert.columnRefs,
    lowering.returning_eq single, values, List.nil_append]

theorem columns_assignment (write : WriteTarget) (before : List ArgSource) :
    ((lowering.assignment write).run before).1.2.columns = [] := by
  have value := lowering.columns_writeValue write.value before
  simpa only [assignment, Binding.run_bind, Binding.run_pure] using value

theorem columnRefs_update (keyed : lowering.target.key = lowering.command.target)
    (single : lowering.command.kind = .insert → lowering.qualifies = false)
    (before : List ArgSource) : (lowering.update.run before).1.columnRefs =
      (lowering.checked.sourceUses ++ lowering.command.whereUses ++
        lowering.checked.returnUses).map lowering.resolve := by
  have values := Binding.flatMap_mapM_nil (f := fun assigned : String × Expr => assigned.2.columns)
    (fun write (_ : write ∈ lowering.checked.writes) => lowering.columns_assignment write) before
  have parts := lowering.columns_sourceParts keyed
    ((lowering.checked.writes.mapM lowering.assignment).run before).2
  simp only [update, Binding.run_bind, Binding.run_pure, Update.columnRefs, values,
    List.nil_append, lowering.returning_eq single, parts, ← List.map_append]

theorem columnRefs_delete (keyed : lowering.target.key = lowering.command.target)
    (single : lowering.command.kind = .insert → lowering.qualifies = false)
    (before : List ArgSource) : (lowering.delete.run before).1.columnRefs =
      (lowering.checked.sourceUses ++ lowering.command.whereUses ++
        lowering.checked.returnUses).map lowering.resolve := by
  have parts := lowering.columns_sourceParts keyed before
  simp only [delete, Binding.run_bind, Binding.run_pure, Delete.columnRefs,
    lowering.returning_eq single, parts, ← List.map_append]

theorem keys_joins (items : List JoinItem) (before : List ArgSource) :
    ((items.mapM lowering.join).run before).1.map (fun join => join.table.key) =
      items.map fun item => item.relation.key :=
  Binding.map_mapM (fun _ _ _ => rfl) before

theorem item_of_join (keyed : lowering.target.key = lowering.command.target) {items : List JoinItem}
    {before : List ArgSource} {index : Nat} {join : Join}
    (found : ((items.mapM lowering.join).run before).1[index]? = some join) :
    ∃ item, items[index]? = some item ∧ join.table.key = item.relation.key ∧
      join.columns = (item.uses lowering.command.target).map lowering.resolve := by
  obtain ⟨item, atIndex, start, rfl⟩ :=
    getElem?_left_of_forall₂ (Binding.forall₂_mapM items before) found
  exact ⟨item, atIndex, rfl, lowering.columns_join keyed item start⟩

theorem keys_sourceParts (before : List ArgSource) :
    ((lowering.sourceParts.run before).1.1.toList ++
        (lowering.sourceParts.run before).1.2.1.map Join.table).map TableRef.key =
      lowering.command.joinItems.map fun item => item.relation.key := by
  unfold sourceParts
  cases lowering.command.joinItems with
  | nil => rfl
  | cons first rest =>
    have keys := lowering.keys_joins rest ((lowering.joinConditions first).run before).2
    simp only [Binding.run_bind, Binding.run_pure, Option.toList_some, List.singleton_append,
      List.map_cons, List.map_map, ← keys]
    rfl

theorem keys_of_builds {build : Binding Statement} (builds : lowering.Builds build)
    (alone : lowering.command.kind = .insert → lowering.command.joinItems = []) :
    (build.run []).1.tables.map TableRef.key = lowering.command.target ::
      lowering.command.joinItems.map fun item => item.relation.key := by
  cases builds with
  | select =>
    have keys := lowering.keys_joins lowering.command.joinItems []
    rw [← keys]
    simp only [select, Binding.run_map, Binding.run_bind, Binding.run_pure, Statement.tables,
      List.map_cons, List.map_map]
    rfl
  | insert kind =>
    rw [alone kind]
    rfl
  | update =>
    have keys := lowering.keys_sourceParts
      ((lowering.checked.writes.mapM lowering.assignment).run []).2
    rw [← keys]
    rfl
  | delete =>
    have keys := lowering.keys_sourceParts []
    rw [← keys]
    rfl

theorem columns_of_assignments (before : List ArgSource) :
    ((lowering.checked.writes.mapM lowering.assignment).run before).1.map Prod.fst =
      lowering.checked.writes.map WriteTarget.column :=
  Binding.map_mapM (fun _ _ _ => rfl) before

theorem columnRefs_of_builds {build : Binding Statement} (builds : lowering.Builds build)
    (keyed : lowering.target.key = lowering.command.target)
    (single : lowering.command.kind = .insert → lowering.qualifies = false) :
    (build.run []).1.columnRefs = lowering.checked.columnUses.map lowering.resolve := by
  unfold CheckedCommand.columnUses
  cases builds with
  | select kind =>
    rw [show lowering.checked.command.kind = .select from kind]
    exact lowering.columnRefs_select keyed []
  | insert kind =>
    rw [show lowering.checked.command.kind = .insert from kind]
    exact lowering.columnRefs_insert single _ []
  | update kind =>
    rw [show lowering.checked.command.kind = .update from kind]
    exact lowering.columnRefs_update keyed single []
  | delete kind =>
    rw [show lowering.checked.command.kind = .delete from kind]
    exact lowering.columnRefs_delete keyed single []

end Lowering

end RecordSql
