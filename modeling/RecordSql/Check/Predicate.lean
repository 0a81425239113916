import RecordSql.Check.Scope

namespace RecordSql

abbrev LiteralTypes := List (String × Oid)

def Operand.text : Operand → String
  | .column ref => ref.text
  | .field source => source.key
  | .literal sql => sql

namespace Scope

def comparedType (test : FieldTest) : Except CheckError HostType :=
  match test.effectiveQuantifier with
  | none => .ok test.field.type.required
  | some _ => match test.field.type.required.elem? with
    | some elem => .ok elem
    | none => .error (.sequenceRequired test.field.key test.op)

/-- The type of the left side and the candidates for the right side. A function of the column is
applied to the value as well. -/
def comparedTypes (scope : Scope) (test : FieldTest) (type : HostType) (column : Column) :
    Except CheckError (CatalogType × List Oid) :=
  let candidates := fieldCandidates scope.catalog type
  match test.column.func with
  | none => .ok (column.type, candidates)
  | some func => do
    let left ← scope.exprType test.column column
    let right ← scope.fieldFuncResult func test.field type candidates
    return (left, [right])

/-- A value may not be missing where the column is not. Types that encode themselves fit all
columns. -/
def checkFieldTest (scope : Scope) (test : FieldTest) : Except CheckError Unit := do
  let (_, column) ← scope.column false test.column.column
  if column.notNull && test.field.type.isOptional then
    throw (.optionalForNotNull test.field.key column.name)
  let type ← comparedType test
  if type.traits.encodes then return ()
  let (left, candidates) ← scope.comparedTypes test type column
  unless canCompare scope.catalog left candidates test.op do
    throw (.incomparableField test.field.key test.column.text test.op.sql)

/-- Null tests need a column that may be null, all others a boolean. -/
def checkTest (column : Column) (type : CatalogType) (op : TestOp) : Except CheckError Unit :=
  if op.isNullTest then
    if column.notNull then .error (.nullTestOnNotNull column.name) else .ok ()
  else if type.oid = Oid.bool then .ok ()
  else .error (.badBoolColumn column.name op)

/-- A quantified comparison and a membership test need an array, and compare with its elements. -/
def checkComparison (scope : Scope) (left : ColumnExpr) (type : CatalogType) (op : CompareOp)
    (quantifier : Option Quantifier) (right : Operand) (oid : Oid) : Except CheckError Unit := do
  let oid ←
    if quantifier.isSome || op.isMembership then do
      let array ← scope.typeOf right.text oid
      unless array.isArray do throw (.arrayOperandRequired left.text op)
      pure array.element
    else pure oid
  unless canCompare scope.catalog type [oid] op do
    throw (.incomparableColumns left.text right.text op.sql)

def literalType (server : Server) (known : LiteralTypes) (text : String) :
    Task CheckError (Oid × LiteralTypes) :=
  match known.lookup text with
  | some oid => return (oid, known)
  | none => do
    let oid ← (Catalog.literalType server text).mapError .catalog
    return (oid, known ++ [(text, oid)])

def operandType (server : Server) (scope : Scope) (known : LiteralTypes) :
    Operand → Task CheckError (Oid × LiteralTypes)
  | .column ref => do
    let (_, column) ← Task.ofExcept (scope.column false ref)
    return (column.type.oid, known)
  | .literal text => literalType server known text
  | .field field => return ((fieldCandidates scope.catalog field.type).head?.getD Oid.unknown, known)

def checkColumnTest (server : Server) (scope : Scope) (known : LiteralTypes) (column : Column)
    (test : ColumnTest) : Task CheckError LiteralTypes := do
  let type ← Task.ofExcept (scope.exprType test.left column)
  match test.condition with
  | .test op =>
    Task.ofExcept (checkTest column type op)
    return known
  | .compare op quantifier right =>
    let (oid, known) ← operandType server scope known right
    Task.ofExcept (scope.checkComparison test.left type op quantifier right oid)
    return known

def fitsAsBound (scope : Scope) (column : Column) (candidates : List Oid) : Bool :=
  canCompare scope.catalog column.type candidates .gte &&
    canCompare scope.catalog column.type candidates .lte

def checkFieldBound (scope : Scope) (test : BetweenTest) (column : Column) (field : FieldRef) :
    Except CheckError Unit := do
  if column.notNull && field.type.isOptional then
    throw (.optionalForNotNull field.key column.name)
  let type := field.type.required
  unless type.traits.encodes || scope.fitsAsBound column (fieldCandidates scope.catalog type) do
    throw (.incomparableField field.key test.column.text test.op.sql)

def checkBound (server : Server) (scope : Scope) (test : BetweenTest) (column : Column)
    (known : LiteralTypes) : Operand → Task CheckError LiteralTypes
  | .field field => do
    Task.ofExcept (scope.checkFieldBound test column field)
    return known
  | bound => do
    let (oid, known) ← operandType server scope known bound
    unless scope.fitsAsBound column [oid] do
      throw (.incomparableColumns test.column.text bound.text test.op.sql)
    return known

def checkBetween (server : Server) (scope : Scope) (known : LiteralTypes) (test : BetweenTest) :
    Task CheckError LiteralTypes := do
  let (_, column) ← Task.ofExcept (scope.column false test.column)
  let known ← checkBound server scope test column known test.low
  checkBound server scope test column known test.high

def checkLeaf (server : Server) (scope : Scope) (known : LiteralTypes) :
    Leaf → Task CheckError LiteralTypes
  | .field test => do
    Task.ofExcept (scope.checkFieldTest test)
    return known
  | .column test => do
    let (_, column) ← Task.ofExcept (scope.column false test.left.column)
    checkColumnTest server scope known column test
  | .between test => checkBetween server scope known test

def checkEvent (server : Server) (scope : Scope) (command : String) (known : LiteralTypes) :
    WalkEvent → Task CheckError LiteralTypes
  | .groupEnd .. => return known
  | .entry entry depth _ => do
    Task.tell (.predicate command depth entry.isGroup)
    match entry with
    | .leaf _ leaf => checkLeaf server scope known leaf
    | .group .. => return known

def checkEntries (server : Server) (scope : Scope) (command : String) (known : LiteralTypes)
    (entries : List Entry) : Task CheckError LiteralTypes :=
  (walkEvents entries).foldlM (checkEvent server scope command) known

end Scope

end RecordSql
