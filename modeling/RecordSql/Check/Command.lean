import RecordSql.Check.Binding
import RecordSql.Check.Predicate

/-!
The check of a command against a database. Relations are loaded first; then each block that the
command has is checked, and the first failure ends the check.
-/
namespace RecordSql

/-- A command that fits the database, with its relations and bindings. -/
structure CheckedCommand where
  command : Command
  relations : RelationSet
  inputs : List Pairing
  outputs : List Pairing
  writes : List WriteTarget

def CheckedCommand.target? (checked : CheckedCommand) : Option Relation := checked.relations.target?

namespace Scope

/-- The name by which a conflict target is known must be that of something unique. -/
def checkConflictTarget (scope : Scope) : ConflictTarget → Except CheckError Unit
  | .columns columns => do
    let _ ← columns.mapM scope.targetColumn
    let names := columns.map ColumnRef.name
    if (scope.target.uniqueIndexFor? names).isNone then
      throw (.noUniqueIndex scope.target.name names)
  | .index name => match scope.target.index? name with
    | some index => if index.isUnique then .ok () else .error (.indexNotUnique name)
    | none => .error (.indexNotFound scope.target.name name)
  | .constraint name => match scope.target.constraint? name with
    | some constraint =>
      if constraint.kind.isKey then .ok () else .error (.constraintNotUnique name)
    | none => .error (.constraintNotFound scope.target.name name)

def checkListed (scope : Scope) (columns : List ColumnRef) : Except CheckError Unit := do
  let _ ← columns.mapM scope.targetColumn

def checkOnConflict (scope : Scope) (block : OnConflictBlock) : Except CheckError Unit := do
  match block.target with
  | some target => scope.checkConflictTarget target
  | none => pure ()
  match block.action with
  | .update columns => scope.checkListed columns.listed
  | .ignore => return ()

def checkOrderBy (scope : Scope) (items : List OrderItem) : Except CheckError Unit := do
  let _ ← items.mapM fun item => scope.column false item.column

def checkDefault (scope : Scope) (ref : ColumnRef) : Except CheckError Unit := do
  let column ← scope.targetColumn ref
  unless column.hasDefault do throw (.noDefault column.name)

def checkDefaults (scope : Scope) (columns : ColumnList) : Except CheckError Unit := do
  let _ ← columns.listed.mapM scope.checkDefault

def checkTextSearch (scope : Scope) (ref : ColumnRef) : Except CheckError Unit := do
  let column ← scope.targetColumn ref
  unless column.type.oid == Oid.tsvector do
    throw (.badTextSearchColumn column.name column.type.name)

end Scope

/-- What the loading of joins carries from one to the next. -/
structure JoinProgress where
  relations : RelationSet
  known : LiteralTypes := []

namespace Command

def checkJoinCondition (server : Server) (scope : Scope) (joined : Relation) (known : LiteralTypes)
    (condition : JoinCondition) : Task CheckError LiteralTypes := do
  let column ← Task.ofExcept (joined.ownColumn condition.test.left.column)
  scope.checkColumnTest server known column condition.test

/-- Loads a joined relation, which needs a key of its own, and checks its conditions. -/
def loadJoin (database : Database) (target : Relation) (progress : JoinProgress) (item : JoinItem) :
    Task CheckError JoinProgress := do
  if (progress.relations.registered? item.relation.key).isSome then
    throw (.duplicateKey item.relation.key)
  let (joined, relations) ← progress.relations.load database item.relation
  let scope : Scope := ⟨database.catalog, target, relations⟩
  let known ← item.conditions.foldlM (checkJoinCondition database.server scope joined) progress.known
  return { relations, known }

def stepIf {α β : Type} (command : Command) (step : CheckStep) (block : Option β) (absent : α)
    (act : β → Task CheckError α) : Task CheckError α :=
  match block with
  | none => return absent
  | some block => do
    Task.tell (.step command.name step)
    act block

def check (database : Database) (command : Command) : Task CheckError CheckedCommand := do
  Task.tell (.step command.name .loadTarget)
  let (target, relations) ← RelationSet.load database {} command.record.relation
  let joined ← command.stepIf .loadJoins command.join { relations } fun join =>
    join.items.foldlM (loadJoin database target) { relations }
  let scope : Scope := ⟨database.catalog, target, joined.relations⟩
  command.stepIf .checkOnConflict command.onConflict () fun block =>
    Task.ofExcept (scope.checkOnConflict block)
  let _ ← command.stepIf .checkWhere command.whereBlock joined.known fun block =>
    scope.checkEntries database.server command.name joined.known block.entries
  command.stepIf .checkOrderBy command.orderBy () fun items =>
    Task.ofExcept (scope.checkOrderBy items)
  command.stepIf .checkDefaults command.defaults () fun columns =>
    Task.ofExcept (scope.checkDefaults columns)
  command.stepIf .checkForce command.force () fun columns =>
    Task.ofExcept (scope.checkListed columns.listed)
  let returned ← command.stepIf .checkReturning command.returning [] fun columns =>
    Task.ofExcept (scope.returnPairings command.record.fields columns)
  command.stepIf .checkTextSearch command.textSearch () fun ref =>
    Task.ofExcept (scope.checkTextSearch ref)
  Task.tell (.step command.name .checkBindings)
  let bindings ← Task.ofExcept (scope.bind command returned)
  return { command, relations := scope.relations, inputs := bindings.inputs,
           outputs := bindings.outputs, writes := bindings.writes }

end Command

end RecordSql
