import RecordSql.Proofs.Catalog.Operators
import RecordSql.Proofs.Check.References

namespace RecordSql

namespace Catalog

variable {catalog : Catalog}

/-- The function is one of values, not an aggregate, and takes a value of the type, as it is or by an
implicit cast. -/
def HasFunction (catalog : Catalog) (func : String) (arg : Oid) : Prop :=
  ∃ procedure ∈ catalog.procedures func, procedure.aggregate = false ∧
    (procedure.arg = arg ∨ catalog.castsImplicitly procedure.arg arg = true)

instance (func : String) (arg : Oid) : Decidable (catalog.HasFunction func arg) :=
  inferInstanceAs (Decidable (∃ procedure ∈ catalog.procedures func, procedure.aggregate = false ∧
    (procedure.arg = arg ∨ catalog.castsImplicitly procedure.arg arg = true)))

theorem accepts_iff {procedure : CatalogProcedure} {arg : Oid} :
    catalog.accepts procedure arg = true ↔ procedure.aggregate = false ∧
      (procedure.arg = arg ∨ catalog.castsImplicitly procedure.arg arg = true) := by
  simp [accepts]

theorem procedureResult?_isSome {func : String} {arg : Oid} :
    (catalog.procedureResult? func arg).isSome = true ↔ catalog.HasFunction func arg := by
  simp only [procedureResult?, Option.isSome_map, List.find?_isSome, accepts_iff, HasFunction]

def funcType? (catalog : Catalog) (func : Option String) (type : CatalogType) : Option CatalogType :=
  match func with
  | none => some type
  | some func => (catalog.procedureResult? func type.oid).bind catalog.typeByOid?

theorem hasFunction_of_funcType? {func : String} {arg type : CatalogType}
    (typed : catalog.funcType? (some func) arg = some type) : catalog.HasFunction func arg.oid := by
  obtain ⟨oid, result, _⟩ := Option.bind_eq_some_iff.mp typed
  exact procedureResult?_isSome.mp (Option.isSome_of_eq_some result)

/-- The types of a value that may be passed through a function: the candidates, or else the result
for the first of them for which the function has one. -/
def funcCandidates (catalog : Catalog) (func : Option String) (candidates : List Oid) : List Oid :=
  match func with
  | none => candidates
  | some func => (candidates.findSome? (catalog.procedureResult? func)).toList

def Compares (catalog : Catalog) (column : CatalogType) (candidates : List Oid) (op : CompareOp) :
    Prop :=
  (Oid.unknown ∈ candidates ∧ column.category = .string) ∨
    (column.kind = .enum ∧ Oid.text ∈ candidates) ∨
    ∃ candidate ∈ candidates, catalog.HasOperator op.base column.oid candidate

instance (column : CatalogType) (candidates : List Oid) (op : CompareOp) :
    Decidable (catalog.Compares column candidates op) :=
  inferInstanceAs (Decidable (_ ∨ _ ∨ ∃ candidate ∈ candidates, _))

theorem canCompare_iff {column : CatalogType} {candidates : List Oid} {op : CompareOp} :
    canCompare catalog column candidates op = true ↔ catalog.Compares column candidates op := by
  simp only [canCompare, Compares, Bool.or_eq_true, Bool.and_eq_true, List.contains_iff_mem,
    beq_iff_eq, List.any_eq_true, resolveOperator?_isSome, or_assoc]

theorem canCompare_mono {column : CatalogType} {candidates more : List Oid} {op : CompareOp}
    (inside : candidates ⊆ more) (comparable : canCompare catalog column candidates op = true) :
    canCompare catalog column more op = true := by
  rw [canCompare_iff] at comparable ⊢
  rcases comparable with ⟨unknown, string⟩ | ⟨enum, text⟩ | ⟨candidate, member, operator⟩
  · exact .inl ⟨inside unknown, string⟩
  · exact .inr (.inl ⟨enum, inside text⟩)
  · exact .inr (.inr ⟨candidate, inside member, operator⟩)

end Catalog

namespace Scope

variable {scope : Scope} {column : Column} {type : CatalogType}

theorem typeOf_eq_ok {subject : String} {oid : Oid} :
    scope.typeOf subject oid = .ok type ↔ scope.catalog.typeByOid? oid = some type := by
  unfold typeOf
  cases scope.catalog.typeByOid? oid <;> simp

theorem funcResult_eq_ok {func : String} {arg : CatalogType} {oid : Oid} :
    scope.funcResult func arg = .ok oid ↔ scope.catalog.procedureResult? func arg.oid = some oid := by
  unfold funcResult
  cases scope.catalog.procedureResult? func arg.oid <;> simp

theorem exprType_eq_ok {expr : ColumnExpr} :
    scope.exprType expr column = .ok type ↔
      scope.catalog.funcType? expr.func column.type = some type := by
  unfold exprType Catalog.funcType?
  cases expr.func with
  | none => simp
  | some func => simp [bind_eq_ok, funcResult_eq_ok, typeOf_eq_ok, Option.bind_eq_some_iff]

theorem fieldFuncResult_eq_ok {func : String} {field : FieldRef} {host : HostType}
    {candidates : List Oid} {oid : Oid} :
    scope.fieldFuncResult func field host candidates = .ok oid ↔
      candidates.findSome? (scope.catalog.procedureResult? func) = some oid := by
  unfold fieldFuncResult
  cases candidates.findSome? (scope.catalog.procedureResult? func) <;> simp

theorem comparedTypes_eq_ok {test : FieldTest} {host : HostType} {candidates : List Oid}
    (found : scope.comparedTypes test host column = .ok (type, candidates)) :
    scope.catalog.funcType? test.column.func column.type = some type ∧
      candidates = scope.catalog.funcCandidates test.column.func (fieldCandidates scope.catalog host) := by
  unfold comparedTypes at found
  cases func : test.column.func with
  | none =>
    simp only [func, Except.ok.injEq, Prod.mk.injEq] at found
    obtain ⟨rfl, rfl⟩ := found
    exact ⟨rfl, rfl⟩
  | some func =>
    simp only [func] at found
    obtain ⟨left, typed, found⟩ := bind_eq_ok.mp found
    obtain ⟨right, result, found⟩ := bind_eq_ok.mp found
    cases pure_eq_ok.mp found
    have leftTyped := exprType_eq_ok.mp typed
    rw [func] at leftTyped
    exact ⟨leftTyped, by rw [Catalog.funcCandidates, fieldFuncResult_eq_ok.mp result]; rfl⟩

theorem checkFieldTest_eq_ok {test : FieldTest} (passed : scope.checkFieldTest test = .ok ()) :
    ∃ relation column host, scope.column false test.column.column = .ok (relation, column) ∧
      comparedType test = .ok host ∧
      (host.traits.encodes = true ∨ ∃ left,
        scope.catalog.funcType? test.column.func column.type = some left ∧
        canCompare scope.catalog left
          (scope.catalog.funcCandidates test.column.func (fieldCandidates scope.catalog host))
          test.op = true) := by
  obtain ⟨⟨relation, column⟩, found, passed⟩ := bind_eq_ok.mp passed
  obtain ⟨_, passed⟩ := guard_eq_ok.mp passed
  obtain ⟨host, compared, passed⟩ := bind_eq_ok.mp passed
  refine ⟨relation, column, host, found, compared, ?_⟩
  split at passed
  · exact .inl ‹_›
  · obtain ⟨⟨left, candidates⟩, typed, passed⟩ := bind_eq_ok.mp passed
    obtain ⟨leftTyped, rfl⟩ := comparedTypes_eq_ok typed
    obtain ⟨comparable, _⟩ := ite_throw_right.mp passed
    exact .inr ⟨left, leftTyped, comparable⟩

theorem funcType?_of_checkColumnTest {server : Server} {test : ColumnTest}
    {before after : LiteralTypes}
    (returned : (checkColumnTest server scope before column test).Returns after) :
    ∃ type, scope.catalog.funcType? test.left.func column.type = some type := by
  obtain ⟨type, typed, _⟩ := Task.Returns.bind returned
  exact ⟨type, exprType_eq_ok.mp (Task.returns_ofExcept.mp typed)⟩

end Scope

namespace Command.Fits

variable {database : Database} {command : Command} {checked : CheckedCommand} {scope : Scope}
  {first : RelationSet} {known : LiteralTypes} (fits : Fits database command checked scope first known)
include fits

theorem field_checked {test : FieldTest} (member : .field test ∈ command.whereLeaves) :
    scope.checkFieldTest test = .ok () := by
  obtain ⟨before, after, checked⟩ := fits.leaf_checked member
  obtain ⟨_, passed, _⟩ := Task.Returns.bind checked
  exact Task.returns_ofExcept.mp passed

theorem column_typed {test : ColumnTest} (member : .column test ∈ command.whereLeaves) :
    ∃ relation column type, scope.column false test.left.column = .ok (relation, column) ∧
      scope.catalog.funcType? test.left.func column.type = some type := by
  obtain ⟨before, after, checked⟩ := fits.leaf_checked member
  obtain ⟨⟨relation, column⟩, found, tested⟩ := Task.Returns.bind checked
  obtain ⟨type, typed⟩ := Scope.funcType?_of_checkColumnTest tested
  exact ⟨relation, column, type, Task.returns_ofExcept.mp found, typed⟩

theorem join_typed {item : JoinItem} {condition : JoinCondition}
    (joined : item ∈ command.joinItems) (listed : condition ∈ item.conditions) :
    ∃ relation column type, scope.relations.get? item.relation.key = some relation ∧
      relation.ownColumn condition.test.left.column = .ok column ∧
      scope.catalog.funcType? condition.test.left.func column.type = some type := by
  obtain ⟨index, found⟩ := List.getElem?_of_mem joined
  obtain ⟨relation, loaded, itemFits⟩ := fits.join_fits found
  obtain ⟨column, own, before, after, tested⟩ := itemFits.conditions condition listed
  obtain ⟨type, typed⟩ := Scope.funcType?_of_checkColumnTest tested
  exact ⟨relation, column, type, RelationSet.get?_take loaded, own, typed⟩

end Command.Fits

end RecordSql
