import RecordSql.Check.Command
import RecordSql.Statement.Basic

/-!
The statement of a checked command. Parameters are numbered in the order in which they are written,
and each has a source among the fields of the command.
-/
namespace RecordSql

inductive ArgSource where
  | input (field : String) (adapter : Adapter)
  | predicate (field signature : String)
  | limit (field : String)
  | offset (field : String)
  deriving DecidableEq, Repr

def ArgSource.field : ArgSource → String
  | input field _ => field
  | predicate field _ => field
  | limit field => field
  | offset field => field

structure BoundStatement where
  statement : Statement
  args : List ArgSource
  multiRow : Bool

structure FilterColumn where
  field : String
  column : String
  adapter : Adapter
  deriving DecidableEq, Repr

structure FilterMap where
  relation : String
  columns : List FilterColumn
  textSearch : Option String
  deriving DecidableEq, Repr

inductive Lowered where
  | statement (bound : BoundStatement)
  | filter (map : FilterMap)

inductive BuildError where
  | expressionIndex (index : String)
  | missingConflictTarget
  | missingTarget (command : String)
  | noReadableColumns (command : String)
  | noWritableColumns (command : String)
  | unknownConstraint (constraint : String)
  | unknownIndex (index : String)
  deriving DecidableEq, Repr

def BuildError.message : BuildError → String
  | expressionIndex index =>
    s!"conflict index '{index}' has expression key columns and cannot be used as a target"
  | missingConflictTarget => "ON CONFLICT DO UPDATE requires a conflict target"
  | missingTarget command => s!"checked command '{command}' has no target relation"
  | noReadableColumns command => s!"select '{command}' reads no columns"
  | noWritableColumns command => s!"update '{command}' writes no columns"
  | unknownConstraint constraint =>
    s!"constraint '{constraint}' not found on the target relation"
  | unknownIndex index => s!"index '{index}' not found on the target relation"

abbrev Binding (α : Type) := StateM (List ArgSource) α

namespace Binding

def param (source : ArgSource) : Binding Expr := do
  let args ← get
  set (args ++ [source])
  return .param (args.length + 1)

def field (field : FieldRef) : Binding Expr := param (.predicate field.key field.type.signature)

end Binding

structure Lowering where
  checked : CheckedCommand
  target : Relation

namespace Lowering

def command (lowering : Lowering) : Command := lowering.checked.command

/-- Columns name their relation where there is more than one. -/
def qualifies (lowering : Lowering) : Bool := 1 < lowering.checked.relations.size

def column (lowering : Lowering) (key : String) (ref : ColumnRef) : ColumnRef :=
  if ref.qualifier.isSome || !lowering.qualifies then ref else ⟨some key, ref.name⟩

def targetColumn (lowering : Lowering) (ref : ColumnRef) : ColumnRef :=
  lowering.column lowering.target.key ref

def pairingColumn (qualify : Bool) (pairing : Pairing) : ColumnRef :=
  if qualify then pairing.columnRef else ⟨none, pairing.column⟩

def table (lowering : Lowering) (ref : RelationRef) : TableRef :=
  let space := ((lowering.checked.relations.get? ref.key).map Relation.space) <|> ref.qualifier
  ⟨space.filter (· != publicSpace), ref.name, ref.aliasName⟩

def operand (lowering : Lowering) : Operand → Binding Expr
  | .column ref => return .column (lowering.targetColumn ref)
  | .field field => Binding.field field
  | .literal text => return .literal text

/-- A function of the column is applied to a single value too, but not to an array of values. -/
def fieldTest (lowering : Lowering) (test : FieldTest) : Binding Test := do
  let quantifier := test.effectiveQuantifier
  let left := Expr.apply test.column.func (.column (lowering.targetColumn test.column.column))
  let param ← Binding.field test.field
  let right := if quantifier.isSome then param else Expr.apply test.column.func param
  return .compare left test.op quantifier right

def columnTest (lowering : Lowering) (key : String) (test : ColumnTest) : Binding Test := do
  let left := Expr.apply test.left.func (.column (lowering.column key test.left.column))
  match test.condition with
  | .test op => return .unary left op
  | .compare op quantifier right =>
    let right ← lowering.operand right
    return .compare left op (quantifier <|> op.impliedQuantifier?) right

def betweenTest (lowering : Lowering) (test : BetweenTest) : Binding Test := do
  let low ← lowering.operand test.low
  let high ← lowering.operand test.high
  return .between (.column (lowering.targetColumn test.column)) test.op low high

def leaf (lowering : Lowering) : Leaf → Binding Test
  | .field test => lowering.fieldTest test
  | .column test => lowering.columnTest lowering.target.key test
  | .between test => lowering.betweenTest test

/-- The conditions being built, the innermost one first, each with the connector of its group. -/
abbrev OpenGroups := List (Connector × Condition)

def OpenGroups.add (groups : OpenGroups) (clause : Clause) : OpenGroups :=
  match groups with
  | [] => []
  | (connector, clauses) :: outer => (connector, clauses ++ [clause]) :: outer

/-- A group is opened where a walk enters it, and becomes a clause where the walk leaves it. -/
def event (lowering : Lowering) (groups : OpenGroups) : WalkEvent → Binding OpenGroups
  | .entry (.leaf connector leaf) _ _ => do
    let test ← lowering.leaf leaf
    return groups.add (.test connector test)
  | .entry (.group connector _ _) _ _ => return (connector, []) :: groups
  | .groupEnd _ _ => match groups with
    | (connector, clauses) :: outer :: rest =>
      return OpenGroups.add (outer :: rest) (.group connector clauses)
    | _ => return groups

def condition (lowering : Lowering) (entries : List Entry) : Binding Condition := do
  let groups ← (walkEvents entries).foldlM lowering.event [(.and, [])]
  return (groups.head?.map Prod.snd).getD []

mutual
def clauseOf (lowering : Lowering) : Entry → Binding Clause
  | .leaf connector leaf => do
    let test ← lowering.leaf leaf
    return .test connector test
  | .group connector _ entries => do
    let clauses ← clausesOf lowering entries
    return .group connector clauses

def clausesOf (lowering : Lowering) : List Entry → Binding Condition
  | [] => return []
  | entry :: entries => do
    let clause ← clauseOf lowering entry
    let clauses ← clausesOf lowering entries
    return clause :: clauses
end

def filter (lowering : Lowering) : Binding (Option Condition) :=
  match lowering.command.whereBlock with
  | none => return none
  | some block => do
    let clauses ← lowering.condition block.entries
    return if clauses.isEmpty then none else some clauses

def joinClause (lowering : Lowering) (key : String) (condition : JoinCondition) : Binding Clause := do
  let test ← lowering.columnTest key condition.test
  return .test condition.connector test

def joinConditions (lowering : Lowering) (item : JoinItem) : Binding Condition :=
  item.conditions.mapM (lowering.joinClause item.relation.key)

def join (lowering : Lowering) (item : JoinItem) : Binding Join := do
  let clauses ← lowering.joinConditions item
  return ⟨item.kind, lowering.table item.relation, if clauses.isEmpty then none else some clauses⟩

/-- Conditions of a join stand before those of the where block, which become a group. -/
def combine (leading : Condition) (user : Option Condition) : Option Condition :=
  match leading, user with
  | [], user => user
  | _ :: _, none => some leading
  | _ :: _, some user => some (leading ++ [.group .and user])

/-- The source, joins and condition of an update or delete. The first joined relation is the
source, and its conditions lead those of the statement. -/
def sourceParts (lowering : Lowering) :
    Binding (Option TableRef × List Join × Option Condition) :=
  match lowering.command.joinItems with
  | [] => do
    let filter ← lowering.filter
    return (none, [], filter)
  | first :: rest => do
    let leading ← lowering.joinConditions first
    let joins ← rest.mapM lowering.join
    let filter ← lowering.filter
    return (some (lowering.table first.relation), joins, combine leading filter)

def writeValue (lowering : Lowering) : WriteValue → Binding Expr
  | .default => return .default
  | .input index => match lowering.checked.inputs[index]? with
    | some pairing => Binding.param (.input pairing.field pairing.adapter)
    | none => return .default

def rowLimit (source : String → ArgSource) : RowLimit → Binding Expr
  | .literal value => return .literal (toString value)
  | .field field => Binding.param (source field.key)

/-- A select of one record has a limit of one, unless it declares another. -/
def limit (lowering : Lowering) : Binding (Option Expr) :=
  match lowering.command.limit with
  | some limit => do return some (← rowLimit .limit limit)
  | none => return if lowering.command.record.shape.isMulti then none else some (.literal "1")

def offset (lowering : Lowering) : Binding (Option Expr) :=
  match lowering.command.offset with
  | some offset => do return some (← rowLimit .offset offset)
  | none => return none

def returning (lowering : Lowering) : List ColumnRef :=
  if lowering.command.returning.isNone && lowering.command.result.isNone then []
  else
    let qualify := lowering.qualifies && lowering.command.kind != .insert
    lowering.checked.outputs.map (pairingColumn qualify)

def conflictKey (lowering : Lowering) :
    Option ConflictTarget → Except BuildError (Option ConflictKey × List String)
  | none => .ok (none, [])
  | some (.columns columns) =>
    let names := columns.map ColumnRef.name
    .ok (some (.columns names), names)
  | some (.index name) => match lowering.target.index? name with
    | none => .error (.unknownIndex name)
    | some index =>
      if index.hasExpression then .error (.expressionIndex name)
      else
        let names := lowering.target.keyColumns index.key
        .ok (some (.columns names), names)
  | some (.constraint name) => match lowering.target.constraint? name with
    | none => .error (.unknownConstraint name)
    | some constraint =>
      .ok (some (.constraint name), lowering.target.keyColumns constraint.key)

def updatableColumns (lowering : Lowering) (keyColumns : List String) : List String :=
  ((lowering.checked.writes.filter fun write => write.value != .default).map
    WriteTarget.column).filter fun column => !keyColumns.contains column

def onConflict (lowering : Lowering) (block : OnConflictBlock) : Except BuildError OnConflict := do
  let (key, keyColumns) ← lowering.conflictKey block.target
  match block.action with
  | .ignore => return ⟨key, .nothing⟩
  | .update columns =>
    if block.target.isNone then throw .missingConflictTarget
    match columns with
    | .all => return ⟨key, .update (lowering.updatableColumns keyColumns)⟩
    | .columns listed => return ⟨key, .update (listed.map ColumnRef.name)⟩

def conflictOf (lowering : Lowering) : Except BuildError (Option OnConflict) :=
  match lowering.command.onConflict with
  | none => .ok none
  | some block => (lowering.onConflict block).map some

def select (lowering : Lowering) : Binding Select := do
  let joins ← lowering.command.joinItems.mapM lowering.join
  let filter ← lowering.filter
  let limit ← lowering.limit
  let offset ← lowering.offset
  return { columns := lowering.checked.outputs.map (pairingColumn lowering.qualifies)
           source := lowering.table lowering.command.record.relation
           joins, filter
           orderBy := (lowering.command.orderBy.getD []).map fun item =>
             { item with column := lowering.targetColumn item.column }
           limit, offset }

def insert (lowering : Lowering) (onConflict : Option OnConflict) : Binding Insert := do
  let values ← lowering.checked.writes.mapM fun write => lowering.writeValue write.value
  return { table := lowering.table lowering.command.record.relation
           columns := lowering.checked.writes.map WriteTarget.column
           values, onConflict, returning := lowering.returning }

def assignment (lowering : Lowering) (write : WriteTarget) : Binding (String × Expr) := do
  let value ← lowering.writeValue write.value
  return (write.column, value)

def update (lowering : Lowering) : Binding Update := do
  let set ← lowering.checked.writes.mapM lowering.assignment
  let (source, joins, filter) ← lowering.sourceParts
  return { table := lowering.table lowering.command.record.relation
           set, source, joins, filter, returning := lowering.returning }

def delete (lowering : Lowering) : Binding Delete := do
  let (source, joins, filter) ← lowering.sourceParts
  return { table := lowering.table lowering.command.record.relation
           source, joins, filter, returning := lowering.returning }

def filterColumn (pairing : Pairing) : FilterColumn :=
  ⟨pairing.field, pairing.columnRef.text, pairing.adapter⟩

def filterMap (lowering : Lowering) : FilterMap where
  relation := lowering.target.name
  columns := lowering.checked.inputs.map filterColumn
  textSearch := lowering.command.textSearch.map fun ref =>
    ColumnRef.text ⟨some lowering.target.key, ref.name⟩

def bound (lowering : Lowering) (statement : Binding Statement) : Lowered :=
  let (statement, args) := statement.run []
  .statement ⟨statement, args, lowering.command.record.shape.isMulti⟩

end Lowering

namespace CheckedCommand

def lower (checked : CheckedCommand) : Except BuildError Lowered :=
  match checked.target? with
  | none => .error (.missingTarget checked.command.name)
  | some target =>
    let lowering : Lowering := ⟨checked, target⟩
    match checked.command.kind with
    | .filter => .ok (.filter lowering.filterMap)
    | .select =>
      if checked.outputs.isEmpty then .error (.noReadableColumns checked.command.name)
      else .ok (lowering.bound (Statement.select <$> lowering.select))
    | .insert => do
      let onConflict ← lowering.conflictOf
      return lowering.bound (Statement.insert <$> lowering.insert onConflict)
    | .update =>
      if checked.writes.isEmpty then .error (.noWritableColumns checked.command.name)
      else .ok (lowering.bound (Statement.update <$> lowering.update))
    | .delete => .ok (lowering.bound (Statement.delete <$> lowering.delete))

end CheckedCommand

end RecordSql
