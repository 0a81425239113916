import RecordSql.Proofs.Statement.Parameters

/-!
The condition of a where block as a recursion over its entries. The walk with open groups builds what the
recursion says, with nothing left open, and numbers the parameters of the leaves from left to right.
-/
namespace RecordSql.Lowering

variable (lowering : Lowering)

def operandAfter (bound : Nat) : Operand → Expr
  | .column ref => .column (lowering.targetColumn ref)
  | .field _ => .param (bound + 1)
  | .literal text => .literal text

/-- The function of a column is applied to its single value too. In a range the parameter of the low bound
stands before that of the high one. -/
def testAfter (bound : Nat) : Leaf → Test
  | .field test =>
    .compare (Expr.apply test.column.func (.column (lowering.targetColumn test.column.column))) test.op
      test.effectiveQuantifier
      (if test.effectiveQuantifier.isSome then .param (bound + 1)
        else Expr.apply test.column.func (.param (bound + 1)))
  | .column ⟨left, .test op⟩ =>
    .unary (Expr.apply left.func (.column (lowering.targetColumn left.column))) op
  | .column ⟨left, .compare op quantifier right⟩ =>
    .compare (Expr.apply left.func (.column (lowering.targetColumn left.column))) op
      (quantifier <|> op.impliedQuantifier?) (lowering.operandAfter bound right)
  | .between test =>
    .between (.column (lowering.targetColumn test.column)) test.op
      (lowering.operandAfter bound test.low)
      (lowering.operandAfter (bound + test.low.fields.length) test.high)

mutual
def clauseAfter (bound : Nat) : Entry → Clause
  | .leaf connector leaf => .test connector (lowering.testAfter bound leaf)
  | .group connector _ entries => .group connector (conditionAfter bound entries)

/-- The parameters of an entry follow those of the entries before it. -/
def conditionAfter (bound : Nat) : List Entry → Condition
  | [] => []
  | entry :: entries =>
    clauseAfter bound entry ::
      conditionAfter (bound + (entry.leaves.flatMap Leaf.fields).length) entries
end

theorem run_operand (operand : Operand) (before : List ArgSource) :
    (lowering.operand operand).run before =
      (lowering.operandAfter before.length operand, before ++ operand.fields.map FieldRef.source) := by
  cases operand with
  | field ref => rfl
  | column | literal =>
    simp only [Lowering.operand, Binding.run_pure, operandAfter, Operand.fields, List.map_nil,
      List.append_nil]

theorem run_leaf (leaf : Leaf) (before : List ArgSource) :
    (lowering.leaf leaf).run before =
      (lowering.testAfter before.length leaf, before ++ leaf.fields.map FieldRef.source) := by
  cases leaf with
  | field test => rfl
  | column test =>
    obtain ⟨left, condition⟩ := test
    cases condition with
    | test op =>
      simp only [Leaf.fields, ColumnTest.right?, Option.map_none, Option.getD_none, List.map_nil,
        List.append_nil]
      rfl
    | compare op quantifier right =>
      simp only [leaf, columnTest, Binding.run_bind, run_operand, Binding.run_pure]
      rfl
  | between test =>
    simp only [leaf, betweenTest, Binding.run_bind, run_operand, Binding.run_pure]
    simp [testAfter, Leaf.fields]

mutual
theorem run_clauseOf (entry : Entry) (before : List ArgSource) :
    (lowering.clauseOf entry).run before = (lowering.clauseAfter before.length entry,
      before ++ (entry.leaves.flatMap Leaf.fields).map FieldRef.source) := by
  cases entry with
  | leaf connector leaf =>
    simp only [clauseOf, Binding.run_bind, run_leaf, Binding.run_pure]
    simp [clauseAfter, Entry.leaves]
  | group connector name entries =>
    simp only [clauseOf, Binding.run_bind, run_clausesOf entries, Binding.run_pure]
    simp [clauseAfter, Entry.leaves]

theorem run_clausesOf (entries : List Entry) (before : List ArgSource) :
    (lowering.clausesOf entries).run before = (lowering.conditionAfter before.length entries,
      before ++ ((Entry.leavesOf entries).flatMap Leaf.fields).map FieldRef.source) := by
  cases entries with
  | nil =>
    rw [clausesOf, Binding.run_pure, Entry.leavesOf, List.flatMap_nil, List.map_nil, List.append_nil]
    rfl
  | cons entry entries =>
    simp only [clausesOf, Binding.run_bind, run_clauseOf entry, run_clausesOf entries, Binding.run_pure]
    simp [conditionAfter, Entry.leavesOf]
end

theorem run_walk (entries : List Entry) (before : List ArgSource) :
    ((walkEvents entries).foldlM lowering.event [(.and, [])]).run before =
      ([(.and, lowering.conditionAfter before.length entries)],
        before ++ ((Entry.leavesOf entries).flatMap Leaf.fields).map FieldRef.source) := by
  rw [walkEvents_eq_preorder, foldlM_event, Binding.run_map, run_clausesOf]
  rfl

theorem params_conditionAfter (entries : List Entry) (before : List ArgSource) :
    Condition.params (lowering.conditionAfter before.length entries) =
      List.range' (before.length + 1) ((Entry.leavesOf entries).flatMap Leaf.fields).length := by
  have numbered := (lowering.collects_clausesOf entries before).2
  rw [run_clausesOf] at numbered
  simpa using numbered

theorem isEmpty_conditionAfter (bound : Nat) (entries : List Entry) :
    (lowering.conditionAfter bound entries).isEmpty = entries.isEmpty := by
  cases entries <;> rfl

/-- The walk over any entries ends with just the condition that the recursion gives. Its parameters count
on from the sources that were there, and the sources of its fields are added to them. The condition of the
where block is this one, unless the block has no entries. -/
theorem condition_follows_entries (before : List ArgSource) :
    (∀ entries, ((walkEvents entries).foldlM lowering.event [(.and, [])]).run before =
        ([(.and, lowering.conditionAfter before.length entries)],
          before ++ ((Entry.leavesOf entries).flatMap Leaf.fields).map FieldRef.source) ∧
      Condition.params (lowering.conditionAfter before.length entries) =
        List.range' (before.length + 1) ((Entry.leavesOf entries).flatMap Leaf.fields).length) ∧
    lowering.filter.run before =
      (lowering.command.whereBlock.bind fun block =>
          if block.entries.isEmpty then none
          else some (lowering.conditionAfter before.length block.entries),
        before ++ lowering.command.whereSources) := by
  refine ⟨fun entries => ⟨lowering.run_walk entries before,
    lowering.params_conditionAfter entries before⟩, ?_⟩
  unfold Command.whereSources Command.whereFields Command.whereLeaves Command.whereEntries
  cases present : lowering.command.whereBlock with
  | none =>
    simp only [filter, present, Binding.run_pure, Option.bind_none, Option.map_none, Option.getD_none,
      Entry.leavesOf, List.flatMap_nil, List.map_nil, List.append_nil]
  | some block =>
    simp only [filter, present, condition_eq_clausesOf, Binding.run_bind, Binding.run_pure,
      run_clausesOf, isEmpty_conditionAfter, Option.bind_some, Option.map_some, Option.getD_some]

end RecordSql.Lowering
