import RecordSql.Proofs.Check.Overloads

/-!
Checks against a server that lists its functions in other rows. A check takes the same course where the
functions that its command calls have the same results.
-/
namespace RecordSql

/-- In the other rows the functions have the results that they have in those of the catalogue. -/
def Catalog.SameResults (catalog : Catalog) (rows : List (String × CatalogProcedure))
    (functions : List String) : Prop :=
  ∀ func ∈ functions, ∀ arg,
    (catalog.listing rows).procedureResult? func arg = catalog.procedureResult? func arg

theorem Catalog.sameResults_of_unambiguous {catalog : Catalog}
    {rows : List (String × CatalogProcedure)} {functions : List String}
    (reordered : rows.Perm catalog.procedureRows)
    (agree : ∀ func ∈ functions, ∀ arg, catalog.Unambiguous func arg) :
    catalog.SameResults rows functions :=
  fun func member arg => Catalog.same_in_every_order_iff.mpr (agree func member arg) rows reordered

theorem Catalog.SameResults.mono {catalog : Catalog} {rows : List (String × CatalogProcedure)}
    {functions fewer : List String} (same : catalog.SameResults rows functions)
    (inside : fewer ⊆ functions) : catalog.SameResults rows fewer :=
  fun func member => same func (inside member)

namespace Scope

variable {scope : Scope} {rows : List (String × CatalogProcedure)} {server : Server}
  {known : LiteralTypes} {column : Column}

def listing (scope : Scope) (rows : List (String × CatalogProcedure)) : Scope :=
  { scope with catalog := scope.catalog.listing rows }

theorem exprType_listing {expr : ColumnExpr}
    (same : scope.catalog.SameResults rows expr.func.toList) :
    (scope.listing rows).exprType expr column = scope.exprType expr column := by
  unfold exprType funcResult
  cases called : expr.func with
  | none => rfl
  | some func =>
    have result := same func (by simp [called]) column.type.oid
    simp only [listing, result]
    rfl

theorem fieldFuncResult_listing {func : String} {field : FieldRef} {type : HostType}
    {candidates : List Oid} (same : scope.catalog.SameResults rows [func]) :
    (scope.listing rows).fieldFuncResult func field type candidates =
      scope.fieldFuncResult func field type candidates := by
  have results : (scope.catalog.listing rows).procedureResult? func =
      scope.catalog.procedureResult? func :=
    funext (same func (List.mem_singleton_self func))
  simp only [fieldFuncResult, listing, results]

theorem comparedTypes_listing {test : FieldTest} {type : HostType}
    (same : scope.catalog.SameResults rows test.column.func.toList) :
    (scope.listing rows).comparedTypes test type column = scope.comparedTypes test type column := by
  unfold comparedTypes
  cases called : test.column.func with
  | none => rfl
  | some func =>
    rw [called] at same
    simp only [exprType_listing (called ▸ same), fieldFuncResult_listing same]
    rfl

theorem checkFieldTest_listing {test : FieldTest}
    (same : scope.catalog.SameResults rows test.column.func.toList) :
    (scope.listing rows).checkFieldTest test = scope.checkFieldTest test := by
  unfold checkFieldTest
  simp only [comparedTypes_listing same]
  rfl

theorem checkColumnTest_listing {test : ColumnTest}
    (same : scope.catalog.SameResults rows test.left.func.toList) :
    checkColumnTest server (scope.listing rows) known column test =
      checkColumnTest server scope known column test := by
  unfold checkColumnTest
  rw [exprType_listing same]
  rfl

theorem checkLeaf_listing {leaf : Leaf} (same : scope.catalog.SameResults rows leaf.functions) :
    checkLeaf server (scope.listing rows) known leaf = checkLeaf server scope known leaf := by
  cases leaf with
  | field test => simp only [checkLeaf, checkFieldTest_listing same]
  | column test =>
    simp only [checkLeaf, checkColumnTest_listing same]
    rfl
  | between test => rfl

theorem checkEntries_listing {command : String} {entries : List Entry}
    (same : scope.catalog.SameResults rows ((Entry.leavesOf entries).flatMap Leaf.functions)) :
    checkEntries server (scope.listing rows) command known entries =
      checkEntries server scope command known entries := by
  unfold checkEntries
  rw [walkEvents_eq_preorder]
  refine foldlM_congr_mem (fun event member known => ?_) known
  match event, member with
  | .groupEnd .., _ => rfl
  | .entry (.group ..) _ _, _ => rfl
  | .entry (.leaf connector leaf) depth first, member =>
    have inside := (mem_leavesOf 0 true).mpr ⟨_, _, _, member⟩
    have agree : scope.catalog.SameResults rows leaf.functions :=
      same.mono fun func called => List.mem_flatMap.mpr ⟨leaf, inside, called⟩
    simp only [checkEvent, checkLeaf_listing agree]

end Scope

def Database.listing (database : Database) (rows : List (String × CatalogProcedure)) : Database :=
  { database with catalog := database.catalog.listing rows }

theorem Database.listing_server (database : Database) (rows : List (String × CatalogProcedure)) :
    (database.listing rows).server = database.server := rfl

theorem RelationSet.load_listing (database : Database) (rows : List (String × CatalogProcedure)) :
    RelationSet.load (database.listing rows) = RelationSet.load database := rfl

namespace Scope

variable (scope : Scope) (rows : List (String × CatalogProcedure))

theorem mk_listing (database : Database) (target : Relation) (relations : RelationSet) :
    (⟨(database.listing rows).catalog, target, relations⟩ : Scope) =
      (⟨database.catalog, target, relations⟩ : Scope).listing rows := rfl

theorem checkOnConflict_listing : (scope.listing rows).checkOnConflict = scope.checkOnConflict := rfl

theorem checkOrderBy_listing : (scope.listing rows).checkOrderBy = scope.checkOrderBy := rfl

theorem checkDefaults_listing : (scope.listing rows).checkDefaults = scope.checkDefaults := rfl

theorem checkListed_listing : (scope.listing rows).checkListed = scope.checkListed := rfl

theorem returnPairings_listing : (scope.listing rows).returnPairings = scope.returnPairings := rfl

theorem checkTextSearch_listing : (scope.listing rows).checkTextSearch = scope.checkTextSearch := rfl

theorem bind_listing : (scope.listing rows).bind = scope.bind := rfl

end Scope

namespace Command

variable {database : Database} {rows : List (String × CatalogProcedure)} {command : Command}

theorem checkJoinCondition_listing {scope : Scope} {joined : Relation} {known : LiteralTypes}
    {condition : JoinCondition}
    (same : scope.catalog.SameResults rows condition.test.left.func.toList) :
    checkJoinCondition database.server (scope.listing rows) joined known condition =
      checkJoinCondition database.server scope joined known condition := by
  simp only [checkJoinCondition, Scope.checkColumnTest_listing same]

theorem loadJoin_listing {target : Relation} {progress : JoinProgress} {item : JoinItem}
    (same : database.catalog.SameResults rows item.functions) :
    loadJoin (database.listing rows) target progress item = loadJoin database target progress item := by
  have conditions (scope : Scope) (catalog : scope.catalog = database.catalog) (joined : Relation)
      (known : LiteralTypes) :
      item.conditions.foldlM (checkJoinCondition database.server (scope.listing rows) joined) known =
        item.conditions.foldlM (checkJoinCondition database.server scope joined) known := by
    refine foldlM_congr_mem (fun condition member known => ?_) known
    apply checkJoinCondition_listing
    rw [catalog]
    exact same.mono fun func called => List.mem_flatMap.mpr ⟨condition, member, called⟩
  simp only [loadJoin, RelationSet.load_listing, Database.listing_server, Scope.mk_listing, conditions]

theorem stepIf_congr {α β : Type} {step : CheckStep} {block : Option β} {absent : α}
    {one other : β → Task CheckError α} (same : ∀ present, block = some present → one present = other present) :
    command.stepIf step block absent one = command.stepIf step block absent other := by
  cases block with
  | none => rfl
  | some present => simp only [stepIf, same present rfl]

theorem check_listing (same : database.catalog.SameResults rows command.functions) :
    command.check (database.listing rows) = command.check database := by
  have joins (target : Relation) (start : JoinProgress) :
      (command.stepIf .loadJoins command.join start fun join =>
        join.items.foldlM (loadJoin (database.listing rows) target) start) =
      command.stepIf .loadJoins command.join start fun join =>
        join.items.foldlM (loadJoin database target) start := by
    refine stepIf_congr fun join present => foldlM_congr_mem (fun item member _ => ?_) start
    apply loadJoin_listing
    refine same.mono fun func called => List.mem_append_left _ (List.mem_flatMap.mpr ⟨item, ?_, called⟩)
    simpa [joinItems, present] using member
  have entries (scope : Scope) (catalog : scope.catalog = database.catalog) (known : LiteralTypes) :
      (command.stepIf .checkWhere command.whereBlock known fun block =>
        (scope.listing rows).checkEntries database.server command.name known block.entries) =
      command.stepIf .checkWhere command.whereBlock known fun block =>
        scope.checkEntries database.server command.name known block.entries := by
    refine stepIf_congr fun block present => Scope.checkEntries_listing ?_
    rw [catalog]
    refine same.mono fun func called => List.mem_append_right _ ?_
    simpa [whereLeaves, whereEntries, present] using called
  simp only [check, RelationSet.load_listing, Database.listing_server, joins, Scope.mk_listing, entries,
    Scope.checkOnConflict_listing, Scope.checkOrderBy_listing, Scope.checkDefaults_listing,
    Scope.checkListed_listing, Scope.returnPairings_listing, Scope.checkTextSearch_listing,
    Scope.bind_listing]

end Command

end RecordSql
