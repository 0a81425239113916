import RecordSql.Proofs.Check.Writing
import RecordSql.Proofs.Statement.Lowering

/-!
Parameters and their sources. The sources are collected in the order in which the parameters are
written, so that the parameters of a statement count its sources.
-/
namespace RecordSql

def FieldRef.source (field : FieldRef) : ArgSource := .predicate field.key field.type.signature

def Pairing.source (pairing : Pairing) : ArgSource := .input pairing.field pairing.adapter

def RowLimit.sources (source : String → ArgSource) : RowLimit → List ArgSource
  | literal _ => []
  | field ref => [source ref.key]

namespace Command

def whereSources (command : Command) : List ArgSource := command.whereFields.map FieldRef.source

def argSources (command : Command) (inputs : List Pairing) : List ArgSource :=
  match command.kind with
  | .select => command.whereSources ++
      (command.limit.map (RowLimit.sources .limit)).getD [] ++
      (command.offset.map (RowLimit.sources .offset)).getD []
  | .insert => inputs.map Pairing.source
  | .update => inputs.map Pairing.source ++ command.whereSources
  | .delete => command.whereSources
  | .filter => []

end Command

namespace Binding

variable {α β : Type}

/-- The binding collects the sources. The parameters of its value are those that lead, and after
them those of the sources. -/
def Collects (binding : Binding α) (lead : List Nat) (params : α → List Nat)
    (sources : List ArgSource) : Prop :=
  ∀ before, (binding.run before).2 = before ++ sources ∧
    params (binding.run before).1 = lead ++ List.range' (before.length + 1) sources.length

theorem collects_pure {value : α} {lead : List Nat} {params : α → List Nat}
    (same : params value = lead) : (pure value : Binding α).Collects lead params [] := by
  intro before
  rw [run_pure, same]
  simp

/-- What comes next is led by the parameters so far, and its sources are collected after theirs. -/
theorem Collects.bind {first : Binding α} {next : α → Binding β} {lead : List Nat}
    {params : α → List Nat} {final : β → List Nat} {sources more : List ArgSource}
    (start : first.Collects lead params sources)
    (rest : ∀ before, (next (first.run before).1).Collects (params (first.run before).1) final more) :
    (first >>= next).Collects lead final (sources ++ more) := by
  intro before
  obtain ⟨collected, numbered⟩ := start before
  obtain ⟨collectedAfter, numberedAfter⟩ := rest before (first.run before).2
  rw [run_bind]
  constructor
  · rw [collectedAfter, collected, List.append_assoc]
  · calc
      final ((next (first.run before).1).run (first.run before).2).1
          = params (first.run before).1 ++
              List.range' ((first.run before).2.length + 1) more.length := numberedAfter
      _ = lead ++ List.range' (before.length + 1) sources.length ++
              List.range' (before.length + sources.length + 1) more.length := by
        rw [numbered, collected, List.length_append]
      _ = lead ++ List.range' (before.length + 1) (sources ++ more).length := by
        have next : before.length + sources.length + 1 = before.length + 1 + sources.length := by
          omega
        rw [List.append_assoc, next, List.range'_append_1, List.length_append]

theorem Collects.map {binding : Binding α} {f : α → β} {lead : List Nat} {params : α → List Nat}
    {final : β → List Nat} {sources : List ArgSource}
    (collects : binding.Collects lead params sources) (same : ∀ value, final (f value) = params value) :
    (f <$> binding).Collects lead final sources := by
  intro before
  rw [run_map, same]
  exact collects before

theorem Collects.after {binding : Binding α} {params : α → List Nat} {sources : List ArgSource}
    (collects : binding.Collects [] params sources) (lead : List Nat) :
    binding.Collects lead (fun value => lead ++ params value) sources := by
  intro before
  obtain ⟨collected, numbered⟩ := collects before
  exact ⟨collected, by simp only [numbered, List.nil_append]⟩

theorem collects_param (source : ArgSource) : (param source).Collects [] Expr.params [source] := by
  intro before
  exact ⟨rfl, rfl⟩

theorem collects_mapM {step : α → Binding β} {params : β → List Nat}
    {sources : α → List ArgSource} {items : List α}
    (each : ∀ item ∈ items, (step item).Collects [] params (sources item)) :
    (items.mapM step).Collects [] (fun values => values.flatMap params) (items.flatMap sources) := by
  induction items with
  | nil => exact collects_pure rfl
  | cons item items ih =>
    obtain ⟨now, later⟩ := List.forall_mem_cons.mp each
    rw [List.mapM_cons, List.flatMap_cons]
    refine now.bind fun before => ?_
    generalize ((step item).run before).1 = value
    simp only [bind_pure_comp]
    exact ((ih later).after (params value)).map fun values => List.flatMap_cons

end Binding

theorem Expr.params_apply (func : Option String) (arg : Expr) :
    (Expr.apply func arg).params = arg.params := by
  cases func <;> rfl

mutual
theorem Clause.params_eq_tests (clause : Clause) : clause.params = clause.tests.flatMap Test.params := by
  cases clause with
  | test connector test => simp [Clause.params, Clause.tests]
  | group connector clauses =>
    simpa [Clause.params, Clause.tests] using Condition.params_eq_tests clauses

theorem Condition.params_eq_tests (clauses : Condition) :
    Condition.params clauses = (Condition.tests clauses).flatMap Test.params := by
  cases clauses with
  | nil => rfl
  | cons clause clauses =>
    rw [Condition.params, Condition.tests, List.flatMap_append, Clause.params_eq_tests clause,
      Condition.params_eq_tests clauses]
end

theorem Condition.params_eq_flatMap (clauses : Condition) :
    Condition.params clauses = clauses.flatMap Clause.params := by
  induction clauses with
  | nil => rfl
  | cons clause clauses ih => rw [Condition.params, ih, List.flatMap_cons]

def filterParams (filter : Option Condition) : List Nat := (filter.map Condition.params).getD []

theorem filterParams_eq_tests (filter : Option Condition) :
    filterParams filter = (filterTests filter).flatMap Test.params := by
  cases filter with
  | none => rfl
  | some clauses => exact Condition.params_eq_tests clauses

namespace Lowering

variable (lowering : Lowering)

theorem collects_operand (operand : Operand) :
    (lowering.operand operand).Collects [] Expr.params (operand.fields.map FieldRef.source) := by
  cases operand with
  | column ref => exact Binding.collects_pure rfl
  | field source => exact Binding.collects_param _
  | literal text => exact Binding.collects_pure rfl

theorem collects_fieldTest (test : FieldTest) :
    (lowering.fieldTest test).Collects [] Test.params [test.field.source] := by
  simp only [fieldTest, bind_pure_comp]
  refine (Binding.collects_param _).map fun param => ?_
  split <;> simp [Test.params, Expr.params_apply, Expr.params]

theorem collects_columnTest (key : String) (test : ColumnTest) :
    (lowering.columnTest key test).Collects [] Test.params
      (((test.right?.map Operand.fields).getD []).map FieldRef.source) := by
  unfold columnTest
  cases condition : test.condition with
  | test op =>
    simp only [ColumnTest.right?, condition]
    exact Binding.collects_pure (by simp [Test.params, Expr.params_apply, Expr.params])
  | compare op quantifier right =>
    simp only [ColumnTest.right?, condition, bind_pure_comp]
    refine (lowering.collects_operand right).map fun value => ?_
    simp [Test.params, Expr.params_apply, Expr.params]

theorem collects_betweenTest (test : BetweenTest) :
    (lowering.betweenTest test).Collects [] Test.params
      ((test.low.fields ++ test.high.fields).map FieldRef.source) := by
  rw [List.map_append]
  refine (lowering.collects_operand test.low).bind fun before => ?_
  generalize ((lowering.operand test.low).run before).1 = low
  simp only [bind_pure_comp]
  refine ((lowering.collects_operand test.high).after low.params).map fun high => ?_
  simp [Test.params, Expr.params]

theorem collects_leaf (leaf : Leaf) :
    (lowering.leaf leaf).Collects [] Test.params (leaf.fields.map FieldRef.source) := by
  cases leaf with
  | field test => exact lowering.collects_fieldTest test
  | column test => exact lowering.collects_columnTest lowering.target.key test
  | between test => exact lowering.collects_betweenTest test

theorem collects_clausesOf (entries : List Entry) :
    (lowering.clausesOf entries).Collects [] Condition.params
      (((Entry.leavesOf entries).flatMap Leaf.fields).map FieldRef.source) := by
  have leaves := Binding.collects_mapM fun leaf (_ : leaf ∈ Entry.leavesOf entries) =>
    lowering.collects_leaf leaf
  rw [← tests_clausesOf, ← List.map_flatMap] at leaves
  intro before
  rw [Condition.params_eq_tests]
  exact leaves before

theorem collects_filter :
    lowering.filter.Collects [] filterParams lowering.command.whereSources := by
  unfold filter
  cases present : lowering.command.whereBlock with
  | none =>
    simp only [Command.whereSources, Command.whereFields, Command.whereLeaves, Command.whereEntries,
      present]
    exact Binding.collects_pure rfl
  | some block =>
    simp only [Command.whereSources, Command.whereFields, Command.whereLeaves, Command.whereEntries,
      present, condition_eq_clausesOf, bind_pure_comp]
    refine (lowering.collects_clausesOf block.entries).map fun clauses => ?_
    cases clauses <;> rfl

theorem collects_joinConditions (item : JoinItem) (facts : item.ReadFrom) :
    (lowering.joinConditions item).Collects [] Condition.params [] := by
  have each : ∀ condition ∈ item.conditions,
      (lowering.joinClause item.relation.key condition).Collects [] Clause.params [] := by
    intro condition member
    have test := lowering.collects_columnTest item.relation.key condition.test
    rw [facts.fields condition member] at test
    simp only [joinClause, bind_pure_comp]
    exact test.map fun _ => rfl
  have all := Binding.collects_mapM each
  have none : item.conditions.flatMap (fun _ => ([] : List ArgSource)) = [] := by simp
  rw [none] at all
  intro before
  rw [Condition.params_eq_flatMap]
  exact all before

theorem collects_join (item : JoinItem) (facts : item.ReadFrom) :
    (lowering.join item).Collects [] Join.params [] := by
  simp only [join, bind_pure_comp]
  refine (lowering.collects_joinConditions item facts).map fun clauses => ?_
  cases clauses <;> rfl

theorem collects_joins (items : List JoinItem) (facts : ∀ item ∈ items, item.ReadFrom) :
    (items.mapM lowering.join).Collects [] (fun joins => joins.flatMap Join.params) [] := by
  have all := Binding.collects_mapM fun item member => lowering.collects_join item (facts item member)
  have none : items.flatMap (fun _ => ([] : List ArgSource)) = [] := by simp
  rwa [none] at all

theorem params_combine (leading : Condition) (user : Option Condition) :
    filterParams (combine leading user) = Condition.params leading ++ filterParams user := by
  rw [filterParams_eq_tests, tests_combine, List.flatMap_append, ← filterParams_eq_tests,
    Condition.params_eq_tests]

def partsParams (parts : Option TableRef × List Join × Option Condition) : List Nat :=
  parts.2.1.flatMap Join.params ++ filterParams parts.2.2

theorem collects_sourceParts (facts : ∀ item ∈ lowering.command.joinItems, item.ReadFrom) :
    lowering.sourceParts.Collects [] partsParams lowering.command.whereSources := by
  unfold sourceParts
  cases items : lowering.command.joinItems with
  | nil =>
    simp only [bind_pure_comp]
    exact lowering.collects_filter.map fun filter => rfl
  | cons first rest =>
    rw [items] at facts
    obtain ⟨firstFacts, restFacts⟩ := List.forall_mem_cons.mp facts
    have leads := lowering.collects_joinConditions first firstFacts
    refine leads.bind fun before => ?_
    have none := (leads before).2
    rw [none]
    generalize ((lowering.joinConditions first).run before).1 = leading at none
    refine (lowering.collects_joins rest restFacts).bind fun middle => ?_
    generalize ((rest.mapM lowering.join).run middle).1 = joins
    simp only [bind_pure_comp]
    refine (lowering.collects_filter.after (joins.flatMap Join.params)).map fun filter => ?_
    simp [partsParams, params_combine, none]

theorem collects_rowLimit (source : String → ArgSource) (limit : RowLimit) :
    (rowLimit source limit).Collects [] Expr.params (limit.sources source) := by
  cases limit with
  | literal value => exact Binding.collects_pure rfl
  | field ref => exact Binding.collects_param _

def partParams (part : Option Expr) : List Nat := (part.map Expr.params).getD []

theorem collects_limit : lowering.limit.Collects [] partParams
    ((lowering.command.limit.map (RowLimit.sources .limit)).getD []) := by
  unfold limit
  cases lowering.command.limit with
  | none =>
    refine Binding.collects_pure ?_
    split <;> rfl
  | some limit =>
    simp only [bind_pure_comp]
    exact (collects_rowLimit .limit limit).map fun _ => rfl

theorem collects_offset : lowering.offset.Collects [] partParams
    ((lowering.command.offset.map (RowLimit.sources .offset)).getD []) := by
  unfold offset
  cases lowering.command.offset with
  | none => exact Binding.collects_pure rfl
  | some offset =>
    simp only [bind_pure_comp]
    exact (collects_rowLimit .offset offset).map fun _ => rfl

def writeSources (inputs : List Pairing) (write : WriteTarget) : List ArgSource :=
  match write.value with
  | .default => []
  | .input index => (inputs[index]?.map Pairing.source).toList

theorem collects_writeValue (write : WriteTarget) :
    (lowering.writeValue write.value).Collects [] Expr.params
      (writeSources lowering.checked.inputs write) := by
  unfold writeSources
  cases write.value with
  | default => exact Binding.collects_pure rfl
  | input index =>
    simp only [writeValue]
    cases lowering.checked.inputs[index]? with
    | none => exact Binding.collects_pure rfl
    | some pairing => exact Binding.collects_param _

theorem collects_assignment (write : WriteTarget) :
    (lowering.assignment write).Collects [] (fun assigned => assigned.2.params)
      (writeSources lowering.checked.inputs write) := by
  simp only [assignment, bind_pure_comp]
  exact (lowering.collects_writeValue write).map fun _ => rfl

theorem filterMap_getElem?_range (inputs : List Pairing) (count : Nat) :
    (List.range count).filterMap (inputs[·]?) = inputs.take count := by
  induction count with
  | zero => simp
  | succ count ih =>
    rw [List.range_succ, List.filterMap_append, ih, List.take_add_one]
    cases last : inputs[count]? <;> simp [last]

theorem flatMap_writeSources (inputs : List Pairing) (writes : List WriteTarget) :
    writes.flatMap (writeSources inputs) =
      ((writes.filterMap WriteTarget.index?).filterMap (inputs[·]?)).map Pairing.source := by
  induction writes with
  | nil => rfl
  | cons write writes ih =>
    rw [List.flatMap_cons, ih]
    rcases write with ⟨column, index | default⟩
    · cases present : inputs[index]? <;> simp [writeSources, WriteTarget.index?, present]
    · simp [writeSources, WriteTarget.index?, List.filterMap_cons]

theorem sources_of_numbered {inputs : List Pairing} {writes : List WriteTarget}
    (numbered : writes.filterMap WriteTarget.index? = List.range inputs.length) :
    writes.flatMap (writeSources inputs) = inputs.map Pairing.source := by
  calc
    writes.flatMap (writeSources inputs)
        = ((writes.filterMap WriteTarget.index?).filterMap (inputs[·]?)).map Pairing.source :=
      flatMap_writeSources inputs writes
    _ = ((List.range inputs.length).filterMap (inputs[·]?)).map Pairing.source := by rw [numbered]
    _ = inputs.map Pairing.source := by
      rw [filterMap_getElem?_range inputs inputs.length, List.take_length]

theorem collects_select (facts : ∀ item ∈ lowering.command.joinItems, item.ReadFrom) :
    lowering.select.Collects [] Select.params (lowering.command.whereSources ++
      (lowering.command.limit.map (RowLimit.sources .limit)).getD [] ++
      (lowering.command.offset.map (RowLimit.sources .offset)).getD []) := by
  rw [List.append_assoc, ← List.nil_append (lowering.command.whereSources ++ _)]
  refine (lowering.collects_joins _ facts).bind fun before => ?_
  generalize ((lowering.command.joinItems.mapM lowering.join).run before).1 = joins
  refine (lowering.collects_filter.after (joins.flatMap Join.params)).bind fun before => ?_
  generalize (lowering.filter.run before).1 = filter
  refine (lowering.collects_limit.after
    (joins.flatMap Join.params ++ filterParams filter)).bind fun before => ?_
  generalize (lowering.limit.run before).1 = limit
  simp only [bind_pure_comp]
  exact (lowering.collects_offset.after
    (joins.flatMap Join.params ++ filterParams filter ++ partParams limit)).map fun offset => rfl

theorem collects_insert (conflict : Option OnConflict)
    (numbered : lowering.checked.writes.filterMap WriteTarget.index? =
      List.range lowering.checked.inputs.length) :
    (lowering.insert conflict).Collects [] Insert.params
      (lowering.checked.inputs.map Pairing.source) := by
  have values := Binding.collects_mapM fun write (_ : write ∈ lowering.checked.writes) =>
    lowering.collects_writeValue write
  rw [sources_of_numbered numbered] at values
  simp only [insert, bind_pure_comp]
  exact values.map fun values => rfl

theorem collects_update (facts : ∀ item ∈ lowering.command.joinItems, item.ReadFrom)
    (numbered : lowering.checked.writes.filterMap WriteTarget.index? =
      List.range lowering.checked.inputs.length) :
    lowering.update.Collects [] Update.params
      (lowering.checked.inputs.map Pairing.source ++ lowering.command.whereSources) := by
  have assignments := Binding.collects_mapM fun write (_ : write ∈ lowering.checked.writes) =>
    lowering.collects_assignment write
  rw [sources_of_numbered numbered] at assignments
  refine assignments.bind fun before => ?_
  generalize ((lowering.checked.writes.mapM lowering.assignment).run before).1 = set
  simp only [bind_pure_comp]
  refine ((lowering.collects_sourceParts facts).after _).map fun parts => ?_
  simp [Update.params, partsParams, filterParams]

theorem collects_delete (facts : ∀ item ∈ lowering.command.joinItems, item.ReadFrom) :
    lowering.delete.Collects [] Delete.params lowering.command.whereSources := by
  simp only [delete, bind_pure_comp]
  exact (lowering.collects_sourceParts facts).map fun parts => rfl

end Lowering

theorem foldl_max_range' (count : Nat) : (List.range' 1 count).foldl max 0 = count := by
  induction count with
  | zero => rfl
  | succ count ih =>
    rw [List.range'_1_concat, List.foldl_append, ih]
    simp only [List.foldl_cons, List.foldl_nil]
    omega

namespace Accepted

variable {naming : ColumnNaming} {name : String} {fields : List HostField} {database : Database}
  {command : Command} {checked : CheckedCommand} {bound : BoundStatement}

theorem collects (accepted : Accepted naming name fields database command checked bound) :
    ∃ build : Binding Statement, build.run [] = (bound.statement, bound.args) ∧
      build.Collects [] Statement.params (command.argSources checked.inputs) := by
  obtain ⟨scope, loaded, known, fits⟩ := Command.fits_of_check accepted.check
  obtain ⟨lowering, gives, same⟩ := accepted.lowering
  obtain ⟨build, builds, ran⟩ := gives.builds
  refine ⟨build, ran, ?_⟩
  have facts := accepted.join_readFrom
  have sound := fits.writing_sound
  rw [← same] at facts sound ⊢
  rw [← gives.checked_eq] at sound ⊢
  cases builds with
  | select kind =>
    rw [Command.argSources, kind]
    exact (lowering.collects_select facts).map fun _ => rfl
  | insert kind =>
    rw [Command.argSources, kind]
    exact (lowering.collects_insert _ (sound (by rw [kind]; rfl)).numbered).map fun _ => rfl
  | update kind =>
    rw [Command.argSources, kind]
    exact (lowering.collects_update facts (sound (by rw [kind]; rfl)).numbered).map fun _ => rfl
  | delete kind =>
    rw [Command.argSources, kind]
    exact (lowering.collects_delete facts).map fun _ => rfl

/-- The parameters of a statement count its arguments from one, and the arguments are those of the
written inputs, of the where block in the order of its leaves, and of the limits. The first bound of
a range is the one called `x`, wherever it is declared. -/
theorem params_eq_range (accepted : Accepted naming name fields database command checked bound) :
    bound.statement.params = List.range' 1 bound.args.length ∧
      bound.statement.maxParam = bound.args.length ∧
      bound.args = command.argSources checked.inputs ∧
      ∀ test, .between test ∈ command.whereLeaves → ∃ path low high,
        low.boundOf? path = some ("x", test.low) ∧ high.boundOf? path = some ("y", test.high) ∧
        ∃ name text members, (members = [low, high] ∨ members = [high, low]) ∧
          BetweenTest.read path name text members = .ok test := by
  obtain ⟨build, ran, collects⟩ := accepted.collects
  obtain ⟨sources, params⟩ := collects []
  rw [ran, List.nil_append] at sources params
  rw [← sources] at params
  refine ⟨params, ?_, sources, ?_⟩
  · rw [Statement.maxParam, params]
    exact foldl_max_range' bound.args.length
  · intro test member
    cases accepted.leaf_readFrom _ member with
    | between _ _ read =>
      obtain ⟨low, high, members, lowSlot, highSlot⟩ := BetweenTest.bounds_of_read read
      exact ⟨_, low, high, lowSlot, highSlot, _, _, _, members, read⟩

theorem params_eq_range_renameAuthors :
    ∃ command checked bound, Accepted .tagged "UpdateUser" renameAuthors blog command checked bound ∧
      command.kind = .update ∧ bound.statement.params = List.range' 1 bound.args.length ∧
      bound.statement.maxParam = bound.args.length ∧
      bound.args = checked.inputs.map Pairing.source ++ command.whereSources := by
  obtain ⟨command, checked, bound, _, _, _, accepted, kind, _⟩ := renameAuthors_accepted
  obtain ⟨params, highest, args, _⟩ := params_eq_range accepted
  rw [Command.argSources, kind] at args
  exact ⟨command, checked, bound, accepted, kind, params, highest, args⟩

end Accepted

end RecordSql
