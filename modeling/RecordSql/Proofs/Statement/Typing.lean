import RecordSql.Proofs.Check.Comparisons
import RecordSql.Proofs.Statement.Tests
import RecordSql.Statement.Sql

namespace RecordSql

/-- The column that a reference means: one of the relation that it names, or else of the target. -/
def CheckedCommand.column? (checked : CheckedCommand) (ref : ColumnRef) : Option Column :=
  (match ref.qualifier with
    | some key => checked.relations.get? key
    | none => checked.target?).bind fun relation => relation.column? ref.name

namespace Expr

def columnType? (catalog : Catalog) (checked : CheckedCommand) : Expr → Option CatalogType
  | column ref => (checked.column? ref).map Column.type
  | call func arg => (arg.columnType? catalog checked).bind (catalog.funcType? (some func))
  | _ => none

def valueTypes (catalog : Catalog) (candidates : List Oid) : Expr → List Oid
  | param _ => candidates
  | call func arg => catalog.funcCandidates (some func) (arg.valueTypes catalog candidates)
  | _ => []

variable {catalog : Catalog} {checked : CheckedCommand} {func : Option String}

theorem columnType?_apply {ref : ColumnRef} {column : Column}
    (found : checked.column? ref = some column) :
    (apply func (.column ref)).columnType? catalog checked = catalog.funcType? func column.type := by
  cases func <;> simp [apply, columnType?, found, Catalog.funcType?]

theorem valueTypes_apply {candidates : List Oid} {ordinal : Nat} :
    (apply func (.param ordinal)).valueTypes catalog candidates =
      catalog.funcCandidates func candidates := by
  cases func <;> rfl

theorem calls_apply_column {ref : ColumnRef} :
    (apply func (.column ref)).calls = func.toList.map fun name => ⟨name, ref⟩ := by
  cases func <;> rfl

theorem calls_apply_param {ordinal : Nat} : (apply func (.param ordinal)).calls = [] := by
  cases func <;> rfl

end Expr

def Test.comparable (catalog : Catalog) (checked : CheckedCommand) (candidates : List Oid) :
    Test → Bool
  | compare left op _ right => (left.columnType? catalog checked).any fun type =>
      canCompare catalog type (right.valueTypes catalog candidates) op
  | _ => false

namespace Lowering

variable {lowering : Lowering}

theorem fieldTest_run (test : FieldTest) (before : List ArgSource) :
    ((lowering.fieldTest test).run before).1 =
      .compare (.apply test.column.func (.column (lowering.targetColumn test.column.column))) test.op
        test.effectiveQuantifier
        (if test.effectiveQuantifier.isSome then .param (before.length + 1)
          else .apply test.column.func (.param (before.length + 1))) := rfl

theorem calls_fieldTest (test : FieldTest) (before : List ArgSource) :
    ((lowering.fieldTest test).run before).1.calls =
      test.column.func.toList.map fun name => ⟨name, lowering.targetColumn test.column.column⟩ := by
  have right : (if test.effectiveQuantifier.isSome then Expr.param (before.length + 1)
      else .apply test.column.func (.param (before.length + 1))).calls = [] := by
    split
    · rfl
    · exact Expr.calls_apply_param
  rw [fieldTest_run, Test.calls, Expr.calls_apply_column, right, List.append_nil]

theorem calls_operand (operand : Operand) (before : List ArgSource) :
    ((lowering.operand operand).run before).1.calls = [] := by
  cases operand <;> rfl

theorem calls_columnTest (key : String) (test : ColumnTest) (before : List ArgSource) :
    ((lowering.columnTest key test).run before).1.calls =
      test.left.func.toList.map fun name => ⟨name, lowering.column key test.left.column⟩ := by
  unfold columnTest
  cases test.condition with
  | test op => exact Expr.calls_apply_column
  | compare op quantifier right =>
    simp only [Binding.run_bind, Binding.run_pure, Test.calls, Expr.calls_apply_column,
      calls_operand, List.append_nil]

theorem calls_betweenTest (test : BetweenTest) (before : List ArgSource) :
    ((lowering.betweenTest test).run before).1.calls = [] := by
  simp only [betweenTest, Binding.run_bind, Binding.run_pure, Test.calls, calls_operand,
    List.append_nil]
  rfl

theorem column?_column {key : String} {ref : ColumnRef} {relation : Relation} {column : Column}
    (loaded : lowering.checked.relations.get? (ref.qualifier.getD key) = some relation)
    (alone : ref.qualifier = none → lowering.qualifies = false →
      lowering.checked.target? = some relation)
    (has : relation.column? ref.name = some column) :
    lowering.checked.column? (lowering.column key ref) = some column := by
  unfold Lowering.column CheckedCommand.column?
  cases qualifier : ref.qualifier with
  | some given =>
    rw [qualifier, Option.getD_some] at loaded
    simp [qualifier, loaded, has]
  | none =>
    rw [qualifier, Option.getD_none] at loaded
    cases qualifies : lowering.qualifies with
    | true => simp [loaded, has]
    | false => simp [qualifier, alone qualifier qualifies, has]

namespace Gives

variable {database : Database} {command : Command} {checked : CheckedCommand} {bound : BoundStatement}
  {scope : Scope} {first : RelationSet} {known : LiteralTypes}
  (gives : Gives lowering checked bound)
  (fits : Command.Fits database command checked scope first known)
include gives fits

theorem relations_eq : lowering.checked.relations = scope.relations := by
  rw [gives.checked_eq, fits.relations_eq]

theorem column?_targetColumn {ref : ColumnRef} {relation : Relation} {column : Column}
    (found : scope.column false ref = .ok (relation, column)) :
    checked.column? (lowering.targetColumn ref) = some column := by
  obtain ⟨has, named, unnamed⟩ := Scope.column_eq_ok found
  have target : ref.qualifier = none → relation = scope.target := fun qualifier =>
    List.mem_singleton.mp (unnamed qualifier)
  have loaded : lowering.checked.relations.get? (ref.qualifier.getD lowering.target.key) =
      some relation := by
    rw [gives.relations_eq fits, gives.scope_target_eq fits]
    cases qualifier : ref.qualifier with
    | some given => exact named given qualifier
    | none =>
      rw [target qualifier]
      exact Scope.get?_target fits.headed
  have alone : ref.qualifier = none → lowering.qualifies = false →
      lowering.checked.target? = some relation := by
    intro qualifier _
    rw [target qualifier, gives.checked_eq]
    exact fits.target?_eq
  rw [← gives.checked_eq]
  exact column?_column loaded alone has

theorem column?_joined {item : JoinItem} {ref : ColumnRef} {relation : Relation} {column : Column}
    (joined : item ∈ command.joinItems)
    (loaded : scope.relations.get? item.relation.key = some relation)
    (own : relation.ownColumn ref = .ok column) :
    checked.column? (lowering.column item.relation.key ref) = some column := by
  obtain ⟨named, has⟩ := Relation.ownColumn_eq_ok own
  have keyed := (RelationSet.get?_eq_some loaded).2
  have joinedLoaded : lowering.checked.relations.get? (ref.qualifier.getD item.relation.key) =
      some relation := by
    rw [gives.relations_eq fits]
    cases qualifier : ref.qualifier with
    | some given => rwa [Option.getD_some, named given qualifier, keyed]
    | none => exact loaded
  have qualified := qualifies_of_mem_joinItems fits gives.checked_eq joined
  rw [← gives.checked_eq]
  exact column?_column joinedLoaded (fun _ single => by simp [qualified] at single) has

end Gives

end Lowering

/-- The value of the field converts itself, and its comparison with the column is not checked. -/
def FieldTest.SelfEncodes (test : FieldTest) : Prop :=
  ∃ type, Scope.comparedType test = .ok type ∧ type.traits.encodes = true

/-- The function takes the values of the column, or is one by which a field test of the command
compares the column with a value that encodes itself. -/
def ColumnCall.Checked (catalog : Catalog) (command : Command) (checked : CheckedCommand)
    (call : ColumnCall) : Prop :=
  ∃ column, checked.column? call.column = some column ∧
    (catalog.HasFunction call.func column.type.oid ∨
      ∃ test, .field test ∈ command.whereLeaves ∧ test.column.func = some call.func ∧
        test.column.column.name = call.column.name ∧ test.SelfEncodes)

theorem checked_of_funcType? {catalog : Catalog} {command : Command} {checked : CheckedCommand}
    {func : Option String} {ref : ColumnRef} {column : Column} {type : CatalogType}
    {call : ColumnCall} (means : checked.column? ref = some column)
    (typed : catalog.funcType? func column.type = some type)
    (member : call ∈ func.toList.map fun name => (⟨name, ref⟩ : ColumnCall)) :
    call.Checked catalog command checked := by
  obtain ⟨name, present, rfl⟩ := List.mem_map.mp member
  rw [Option.mem_toList.mp present] at typed
  exact ⟨column, means, .inl (Catalog.hasFunction_of_funcType? typed)⟩

namespace Lowering.Gives

variable {lowering : Lowering} {database : Database} {command : Command} {checked : CheckedCommand}
  {bound : BoundStatement} {scope : Scope} {first : RelationSet} {known : LiteralTypes}
  (gives : Gives lowering checked bound)
  (fits : Command.Fits database command checked scope first known)
include gives fits

theorem checked_of_leaf {leaf : Leaf} {test : Test} {call : ColumnCall}
    (member : leaf ∈ command.whereLeaves) (rendered : lowering.Renders leaf test)
    (called : call ∈ test.calls) : call.Checked database.catalog command checked := by
  obtain ⟨before, rfl⟩ := rendered
  cases leaf with
  | field test =>
    obtain ⟨relation, column, type, found, compared, passed⟩ :=
      Scope.checkFieldTest_eq_ok (fits.field_checked member)
    have means := gives.column?_targetColumn fits found
    rw [Lowering.leaf, calls_fieldTest] at called
    rw [fits.catalog_eq] at passed
    rcases passed with encodes | ⟨left, typed, _⟩
    · obtain ⟨name, present, rfl⟩ := List.mem_map.mp called
      refine ⟨column, means, .inr ⟨test, member, Option.mem_toList.mp present, ?_, type, compared,
        encodes⟩⟩
      exact (lowering.column_name _ _).symm
    · exact checked_of_funcType? means typed called
  | column test =>
    obtain ⟨relation, column, type, found, typed⟩ := fits.column_typed member
    rw [Lowering.leaf, calls_columnTest] at called
    rw [fits.catalog_eq] at typed
    exact checked_of_funcType? (gives.column?_targetColumn fits found) typed called
  | between test =>
    rw [Lowering.leaf, calls_betweenTest] at called
    cases called

theorem checked_of_join {item : JoinItem} {condition : JoinCondition} {before : List ArgSource}
    {call : ColumnCall} (joined : item ∈ command.joinItems) (listed : condition ∈ item.conditions)
    (called : call ∈
      ((lowering.columnTest item.relation.key condition.test).run before).1.calls) :
    call.Checked database.catalog command checked := by
  obtain ⟨relation, column, type, loaded, own, typed⟩ := fits.join_typed joined listed
  rw [calls_columnTest] at called
  rw [fits.catalog_eq] at typed
  exact checked_of_funcType? (gives.column?_joined fits joined loaded own) typed called

end Lowering.Gives

/-- A function that is called in a condition takes the values of its column, unless the column is
compared with a value that encodes itself. -/
theorem calls_checked {database : Database} {command : Command} {checked : CheckedCommand}
    {bound : BoundStatement} (check : (command.check database).Returns checked)
    (lower : checked.lower = .ok (.statement bound)) :
    ∀ call ∈ bound.statement.calls, call.Checked database.catalog command checked := by
  obtain ⟨scope, first, known, fits⟩ := Command.fits_of_check check
  obtain ⟨lowering, gives⟩ := Lowering.gives_of_lower lower
  obtain ⟨build, builds, ran⟩ := gives.builds
  intro call member
  obtain ⟨test, tested, called⟩ := List.mem_flatMap.mp member
  have source : lowering.TestSource test := by
    refine Lowering.source_of_builds builds ?_
    rwa [ran]
  have same := gives.command_eq fits
  cases source with
  | leaf leaf inside rendered => exact gives.checked_of_leaf fits (same ▸ inside) rendered called
  | join item condition before joined listed rendered =>
    rw [← rendered] at called
    exact gives.checked_of_join fits (same ▸ joined) listed called

def selectUsers (conditions : List HostField) : List HostField :=
  [taggedField "Users" "rel" "users"
     (HostType.seq (recordOf [taggedField "Id" "sql" "id" (HostType.scalar .i32)])),
   { name := "Where", type := recordOf conditions }]

def selectByDigest : List HostField :=
  selectUsers [taggedField "Email" "sql" "lower(email)" HostType.text,
    taggedField "Code" "sql" "digest(name)" { shape := .hidden, traits := { encodes := true } }]

theorem exists_selectByDigest :
    ∃ command checked bound, Accepted .tagged "SelectUsers" selectByDigest blog command checked bound ∧
      bound.statement.sql =
        "SELECT id FROM users WHERE lower(email) = lower($1) AND digest(name) = digest($2)" ∧
      bound.statement.calls = [⟨"lower", ⟨none, "email"⟩⟩, ⟨"digest", ⟨none, "name"⟩⟩] ∧
      ∃ column, checked.column? ⟨none, "name"⟩ = some column ∧
        ¬ blog.catalog.HasFunction "digest" column.type.oid := by
  obtain ⟨command, checked, bound, accepted, facts⟩ := exists_accepted
    (fun (_, checked, bound) => bound.statement.sql ==
        "SELECT id FROM users WHERE lower(email) = lower($1) AND digest(name) = digest($2)" &&
      bound.statement.calls == [⟨"lower", ⟨none, "email"⟩⟩, ⟨"digest", ⟨none, "name"⟩⟩] &&
      (checked.column? ⟨none, "name"⟩).any fun column =>
        !decide (blog.catalog.HasFunction "digest" column.type.oid))
    (show (accepted? .tagged "SelectUsers" selectByDigest blog).any _ = true by decide +kernel)
  simp only [Bool.and_eq_true, beq_iff_eq, Option.any_eq_true, Bool.not_eq_true',
    decide_eq_false_iff_not] at facts
  obtain ⟨⟨sql, calls⟩, column⟩ := facts
  exact ⟨command, checked, bound, accepted, sql, calls, column⟩

theorem calls_checked_selectByDigest :
    ∃ (command : Command) (checked : CheckedCommand) (bound : BoundStatement),
      (command.check blog).Returns checked ∧ checked.lower = .ok (.statement bound) ∧
      bound.statement.calls = [⟨"lower", ⟨none, "email"⟩⟩, ⟨"digest", ⟨none, "name"⟩⟩] ∧
      ∀ call ∈ bound.statement.calls, call.Checked blog.catalog command checked := by
  obtain ⟨command, checked, bound, accepted, _, calls, _⟩ := exists_selectByDigest
  exact ⟨command, checked, bound, accepted.check, accepted.lower, calls,
    calls_checked accepted.check accepted.lower⟩

/-- A statement calls a function that does not exist on a column. -/
theorem unknown_function_called :
    ∃ command checked bound, Accepted .tagged "SelectUsers" selectByDigest blog command checked bound ∧
      bound.statement.sql =
        "SELECT id FROM users WHERE lower(email) = lower($1) AND digest(name) = digest($2)" ∧
      ∃ call ∈ bound.statement.calls, ∃ column, checked.column? call.column = some column ∧
        ¬ blog.catalog.HasFunction call.func column.type.oid := by
  obtain ⟨command, checked, bound, accepted, sql, calls, column⟩ := exists_selectByDigest
  exact ⟨command, checked, bound, accepted, sql, ⟨"digest", ⟨none, "name"⟩⟩, by simp [calls], column⟩

/-- The value is compared element by element, and the function of the column gives elements another
type. The check calls the function on them, and the statement does not. -/
structure FieldTest.ElementsRetyped (catalog : Catalog) (test : FieldTest) (type : HostType) :
    Prop where
  quantified : test.effectiveQuantifier.isSome = true
  retyped : ∃ func result, test.column.func = some func ∧
    result ∈ catalog.funcCandidates (some func) (fieldCandidates catalog type) ∧
    result ∉ fieldCandidates catalog type

theorem FieldTest.candidates_subset_or_retyped (catalog : Catalog) (test : FieldTest)
    (type : HostType) (quantified : test.effectiveQuantifier.isSome = true) :
    catalog.funcCandidates test.column.func (fieldCandidates catalog type) ⊆
        fieldCandidates catalog type ∨ test.ElementsRetyped catalog type := by
  cases named : test.column.func with
  | none => exact .inl (List.Subset.refl _)
  | some func =>
    by_cases inside : catalog.funcCandidates (some func) (fieldCandidates catalog type) ⊆
      fieldCandidates catalog type
    · exact .inl inside
    · simp only [List.subset_def, not_forall] at inside
      obtain ⟨result, member, outside⟩ := inside
      exact .inr ⟨quantified, func, result, named, member, outside⟩

theorem Lowering.comparable_fieldTest {lowering : Lowering} {catalog : Catalog}
    {checked : CheckedCommand} {test : FieldTest} {column : Column} {left : CatalogType}
    {candidates : List Oid} (before : List ArgSource)
    (means : checked.column? (lowering.targetColumn test.column.column) = some column)
    (typed : catalog.funcType? test.column.func column.type = some left) :
    ((lowering.fieldTest test).run before).1.comparable catalog checked candidates =
      canCompare catalog left
        (if test.effectiveQuantifier.isSome then candidates
          else catalog.funcCandidates test.column.func candidates) test.op := by
  rw [fieldTest_run, Test.comparable, Expr.columnType?_apply means, typed, Option.any_some]
  split
  · rfl
  · rw [Expr.valueTypes_apply]

/-- The server has the comparison that a statement makes of a column and a value, for the types of
both as they are written, unless the value encodes itself or its elements are retyped. -/
theorem comparisons_typed {database : Database} {command : Command} {checked : CheckedCommand}
    {bound : BoundStatement} (check : (command.check database).Returns checked)
    (lower : checked.lower = .ok (.statement bound)) :
    ∃ lowering, Lowering.Gives lowering checked bound ∧
      (command.kind ≠ .insert → ∃ leading written,
        filterTests bound.statement.filter = leading ++ written ∧
          List.Forall₂ lowering.Renders command.whereLeaves written) ∧
      ∀ test, .field test ∈ command.whereLeaves → ∃ type, Scope.comparedType test = .ok type ∧
        (type.traits.encodes = true ∨ test.ElementsRetyped database.catalog type ∨
          ∀ comparison, lowering.Renders (.field test) comparison →
            comparison.comparable database.catalog checked
              (fieldCandidates database.catalog type) = true) := by
  obtain ⟨scope, first, known, fits⟩ := Command.fits_of_check check
  obtain ⟨lowering, gives⟩ := Lowering.gives_of_lower lower
  obtain ⟨build, builds, ran⟩ := gives.builds
  refine ⟨lowering, gives, ?_, ?_⟩
  · intro kind
    rw [← gives.command_eq fits] at kind ⊢
    have written := Lowering.renders_of_builds builds kind
    rwa [ran] at written
  · intro test member
    obtain ⟨relation, column, type, found, compared, passed⟩ :=
      Scope.checkFieldTest_eq_ok (fits.field_checked member)
    refine ⟨type, compared, ?_⟩
    rw [fits.catalog_eq] at passed
    rcases passed with encodes | ⟨left, typed, comparable⟩
    · exact .inl encodes
    · have means := gives.column?_targetColumn fits found
      by_cases quantified : test.effectiveQuantifier.isSome = true
      · rcases test.candidates_subset_or_retyped database.catalog type quantified with inside | retyped
        · refine .inr (.inr ?_)
          rintro _ ⟨before, rfl⟩
          rw [Lowering.leaf, Lowering.comparable_fieldTest before means typed, if_pos quantified]
          exact Catalog.canCompare_mono inside comparable
        · exact .inr (.inl retyped)
      · refine .inr (.inr ?_)
        rintro _ ⟨before, rfl⟩
        rwa [Lowering.leaf, Lowering.comparable_fieldTest before means typed, if_neg quantified]

def selectByLength : List HostField :=
  selectUsers [taggedField "Email" "sql" "lower(email)" HostType.text,
    taggedField "Names" "sql" "length(name) isin" (HostType.seq HostType.text)]

def miscomparedAt (index : Nat) (catalog : Catalog) (command : Command) (checked : CheckedCommand)
    (bound : BoundStatement) : Bool :=
  match command.whereLeaves[index]?, (filterTests bound.statement.filter)[index]? with
  | some (.field test), some (.compare left op _ right) =>
    match Scope.comparedType test, left.columnType? catalog checked with
    | .ok type, some column => !type.traits.encodes && !decide
        (catalog.Compares column (right.valueTypes catalog (fieldCandidates catalog type)) op)
    | _, _ => false
  | _, _ => false

theorem comparison_of_miscomparedAt {index : Nat} {catalog : Catalog} {command : Command}
    {checked : CheckedCommand} {bound : BoundStatement}
    (miscompared : miscomparedAt index catalog command checked bound = true) :
    ∃ test comparison type, command.whereLeaves[index]? = some (.field test) ∧
      (filterTests bound.statement.filter)[index]? = some comparison ∧
      Scope.comparedType test = .ok type ∧ type.traits.encodes = false ∧
      comparison.comparable catalog checked (fieldCandidates catalog type) = false := by
  unfold miscomparedAt at miscompared
  split at miscompared
  · rename_i test left op quantifier right leaf written
    split at miscompared
    · rename_i type column compared typed
      simp only [Bool.and_eq_true, Bool.not_eq_true', decide_eq_false_iff_not] at miscompared
      obtain ⟨encodes, differ⟩ := miscompared
      refine ⟨test, _, type, leaf, written, compared, encodes, ?_⟩
      rw [Test.comparable, typed, Option.any_some, Bool.eq_false_iff, ne_eq, Catalog.canCompare_iff]
      exact differ
    · cases miscompared
  · cases miscompared

theorem exists_selectByLength :
    ∃ command checked bound, Accepted .tagged "SelectUsers" selectByLength blog command checked bound ∧
      bound.statement.sql =
        "SELECT id FROM users WHERE lower(email) = lower($1) AND length(name) = ANY($2)" ∧
      miscomparedAt 1 blog.catalog command checked bound = true := by
  obtain ⟨command, checked, bound, accepted, facts⟩ := exists_accepted
    (fun (command, checked, bound) => bound.statement.sql ==
        "SELECT id FROM users WHERE lower(email) = lower($1) AND length(name) = ANY($2)" &&
      miscomparedAt 1 blog.catalog command checked bound)
    (show (accepted? .tagged "SelectUsers" selectByLength blog).any _ = true by decide +kernel)
  obtain ⟨sql, miscompared⟩ := Bool.and_eq_true_iff.mp facts
  exact ⟨command, checked, bound, accepted, beq_iff_eq.mp sql, miscompared⟩

theorem comparisons_typed_selectByLength :
    ∃ (command : Command) (checked : CheckedCommand) (bound : BoundStatement),
      (command.check blog).Returns checked ∧ checked.lower = .ok (.statement bound) ∧
      (∃ test, .field test ∈ command.whereLeaves) ∧
      ∃ lowering, Lowering.Gives lowering checked bound ∧
        (command.kind ≠ .insert → ∃ leading written,
          filterTests bound.statement.filter = leading ++ written ∧
            List.Forall₂ lowering.Renders command.whereLeaves written) ∧
        ∀ test, .field test ∈ command.whereLeaves → ∃ type, Scope.comparedType test = .ok type ∧
          (type.traits.encodes = true ∨ test.ElementsRetyped blog.catalog type ∨
            ∀ comparison, lowering.Renders (.field test) comparison →
              comparison.comparable blog.catalog checked (fieldCandidates blog.catalog type) =
                true) := by
  obtain ⟨command, checked, bound, accepted, _, miscompared⟩ := exists_selectByLength
  obtain ⟨test, _, _, leaf, _⟩ := comparison_of_miscomparedAt miscompared
  exact ⟨command, checked, bound, accepted.check, accepted.lower,
    ⟨test, List.mem_of_getElem? leaf⟩, comparisons_typed accepted.check accepted.lower⟩

/-- Numbers are compared with the elements of an array of texts. -/
theorem elements_not_comparable :
    ∃ command checked bound, Accepted .tagged "SelectUsers" selectByLength blog command checked bound ∧
      bound.statement.sql =
        "SELECT id FROM users WHERE lower(email) = lower($1) AND length(name) = ANY($2)" ∧
      ∃ test comparison type, command.whereLeaves[1]? = some (.field test) ∧
        (filterTests bound.statement.filter)[1]? = some comparison ∧
        Scope.comparedType test = .ok type ∧ type.traits.encodes = false ∧
        comparison.comparable blog.catalog checked (fieldCandidates blog.catalog type) = false := by
  obtain ⟨command, checked, bound, accepted, sql, miscompared⟩ := exists_selectByLength
  exact ⟨command, checked, bound, accepted, sql, comparison_of_miscomparedAt miscompared⟩

end RecordSql
