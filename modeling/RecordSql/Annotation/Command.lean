import RecordSql.Annotation.Block

/-!
The reading of commands. A field of a command is its record, a block, a directive, or nothing to
the command. Each block and directive fills one slot of the command, and no slot is filled twice.
-/
namespace RecordSql

inductive Slot where
  | join | whereBlock | onConflict | orderBy | limit | offset | defaults | force | returning
  | textSearch | result | rowsAffected | errorHandler | all
  deriving DecidableEq, Repr

inductive Block where
  | join (block : JoinBlock)
  | whereBlock (block : WhereBlock)
  | onConflict (block : OnConflictBlock)
  | orderBy (items : List OrderItem)
  | limit (limit : RowLimit)
  | offset (limit : RowLimit)
  | defaults (columns : ColumnList)
  | force (columns : ColumnList)
  | returning (columns : ColumnList)
  | textSearch (column : ColumnRef)
  | result (binding : ResultBinding)
  | rowsAffected (field : FieldRef)
  | errorHandler (field : FieldRef)
  | all

namespace Command

def isFilled (command : Command) : Slot → Bool
  | .join => command.join.isSome
  | .whereBlock => command.whereBlock.isSome
  | .onConflict => command.onConflict.isSome
  | .orderBy => command.orderBy.isSome
  | .limit => command.limit.isSome
  | .offset => command.offset.isSome
  | .defaults => command.defaults.isSome
  | .force => command.force.isSome
  | .returning => command.returning.isSome
  | .textSearch => command.textSearch.isSome
  | .result => command.result.isSome
  | .rowsAffected => command.rowsAffected.isSome
  | .errorHandler => command.errorHandler.isSome
  | .all => command.all

def fill (command : Command) : Block → Command
  | .join block => { command with join := some block }
  | .whereBlock block => { command with whereBlock := some block }
  | .onConflict block => { command with onConflict := some block }
  | .orderBy items => { command with orderBy := some items }
  | .limit limit => { command with limit := some limit }
  | .offset limit => { command with offset := some limit }
  | .defaults columns => { command with defaults := some columns }
  | .force columns => { command with force := some columns }
  | .returning columns => { command with returning := some columns }
  | .textSearch column => { command with textSearch := some column }
  | .result binding => { command with result := some binding }
  | .rowsAffected field => { command with rowsAffected := some field }
  | .errorHandler field => { command with errorHandler := some field }
  | .all => { command with all := true }

end Command

/-- The slot that a field fills, what the slot is called there, and in which commands it exists. -/
structure Placement where
  slot : Slot
  label : String
  kinds : List CommandKind
  deriving Repr

namespace Placement

def ofDirective? (directive : Directive) : Option Placement :=
  match directive with
  | .orderBy => some ⟨.orderBy, directive.name, [.select]⟩
  | .limit => some ⟨.limit, directive.name, [.select]⟩
  | .offset => some ⟨.offset, directive.name, [.select]⟩
  | .default => some ⟨.defaults, directive.name, [.insert, .update]⟩
  | .force => some ⟨.force, directive.name, [.insert, .update]⟩
  | .returning => some ⟨.returning, directive.name, [.insert, .update, .delete]⟩
  | .textSearch => some ⟨.textSearch, directive.name, [.filter]⟩
  | .all => some ⟨.all, directive.name, [.update, .delete]⟩
  | _ => none

def ofName? (name : String) : Option Placement :=
  match Text.lower name with
  | "where" => some ⟨.whereBlock, "Where", [.select, .update, .delete]⟩
  | "join" => some ⟨.join, name, [.select, .update, .delete]⟩
  | "from" => some ⟨.join, name, [.update]⟩
  | "using" => some ⟨.join, name, [.delete]⟩
  | "onconflict" => some ⟨.onConflict, "OnConflict", [.insert]⟩
  | "limit" => some ⟨.limit, name, [.select]⟩
  | "offset" => some ⟨.offset, name, [.select]⟩
  | "result" => some ⟨.result, "Result", [.insert, .update, .delete]⟩
  | "rowsaffected" => some ⟨.rowsAffected, "RowsAffected", [.insert, .update, .delete]⟩
  | "errorhandler" => some ⟨.errorHandler, "ErrorHandler", CommandKind.all⟩
  | _ => none

/-- The placement of a field of a command; unrelated fields have none. -/
def ofField? (command : String) (field : HostField) : Except AnnotationError (Option Placement) :=
  match field.directive? with
  | some directive => match ofDirective? directive with
    | some placement => .ok (some placement)
    | none => .error (.misplacedDirective directive.name command)
  | none => .ok (ofName? field.name)

end Placement

def checkRowLimitType (slot : Slot) (field : HostField) : Except AnnotationError Unit :=
  if (slot == .limit || slot == .offset) && field.directive?.isNone
      && !field.type.required.isInteger then
    .error (.invalidBlockType field.name field.name)
  else .ok ()

def RowLimit.ofField (field : HostField) : Except AnnotationError RowLimit :=
  if field.directive?.isSome then RowLimit.read field else .ok (.field (FieldRef.ofField field))

def isCallable (type : HostType) : Bool :=
  match type.shape with
  | .interface _ | .func _ => true
  | _ => false

def Block.read (naming : ColumnNaming) (field : HostField) : Slot → Except AnnotationError Block
  | .join => do return .join (← JoinBlock.read field)
  | .whereBlock => do return .whereBlock (← WhereBlock.read field)
  | .onConflict => do return .onConflict (← OnConflictBlock.read field)
  | .orderBy => do return .orderBy (← readOrderBy field)
  | .limit => do return .limit (← RowLimit.ofField field)
  | .offset => do return .offset (← RowLimit.ofField field)
  | .defaults => do return .defaults (← ColumnList.read field)
  | .force => do return .force (← ColumnList.read field)
  | .returning => do return .returning (← ColumnList.read field)
  | .textSearch => do
    let text ← directiveText field
    return .textSearch (← readColumn text.toList)
  | .result => do return .result (← ResultBinding.read naming field)
  | .rowsAffected =>
    if field.type.isInteger then .ok (.rowsAffected (FieldRef.ofField field))
    else .error (.invalidBlockType "RowsAffected" field.name)
  | .errorHandler =>
    if isCallable field.type then .ok (.errorHandler (FieldRef.ofField field))
    else .error (.invalidBlockType "ErrorHandler" field.name)
  | .all => .ok .all

namespace Command

def place (naming : ColumnNaming) (command : Command) (field : HostField) (placement : Placement) :
    Except AnnotationError Command := do
  unless placement.kinds.contains command.kind do
    throw (.blockNotAllowed placement.label command.kind)
  checkRowLimitType placement.slot field
  if command.isFilled placement.slot then throw (.duplicateBlock placement.label)
  return command.fill (← Block.read naming field placement.slot)

def addField (naming : ColumnNaming) (command : Command) (field : HostField) :
    Except AnnotationError Command := do
  if field.rel?.isSome then return command
  match ← Placement.ofField? command.name field with
  | some placement => command.place naming field placement
  | none => return command

/-- Rows come back through one block only, and a write says which rows it means. -/
def checkComplete (command : Command) : Except AnnotationError Unit := do
  if command.returning.isSome && command.result.isSome then
    throw (.conflictingBlocks "Return" "Result")
  if command.kind == .update || command.kind == .delete then
    match command.whereBlock, command.all with
    | none, false => throw (.missingWhereOrAll command.name)
    | some _, true => throw (.conflictingBlocks "Where" "All")
    | _, _ => return ()

def recordField (command : String) (fields : List HostField) : Except AnnotationError HostField :=
  match fields.filter fun field => field.rel?.isSome with
  | [] => .error (.missingRecord command)
  | [field] => .ok field
  | first :: second :: _ => .error (.multipleRecords first.name second.name)

def read (naming : ColumnNaming) (name : String) (fields : List HostField) :
    Except AnnotationError Command := do
  let kind ← match CommandKind.ofCommandName? name with
    | some kind => pure kind
    | none => throw (.unknownKind name)
  let record ← RecordBinding.read naming (← recordField name fields)
  let command ← fields.foldlM (addField naming) { name, kind, record }
  command.checkComplete
  return command

end Command

end RecordSql
