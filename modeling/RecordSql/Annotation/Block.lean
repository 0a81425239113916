import RecordSql.Annotation.Predicate
import RecordSql.Annotation.Record
import RecordSql.Text.Number

namespace RecordSql

def directiveText (field : HostField) : Except AnnotationError String :=
  match field.sqlText? with
  | some text => .ok text
  | none => .error (.invalidTag field.name .missing)

/-- `column, ...` or `*` -/
def ColumnList.read (field : HostField) : Except AnnotationError ColumnList := do
  let text ← directiveText field
  if text == "*" then return .all
  else return .columns (← (Text.splitTopLevel ',' text.toList).mapM readColumn)

def readObjectName (field : HostField) : Except AnnotationError String := do
  let text ← directiveText field
  if isIdent text then return text else throw (.invalidTag field.name (.invalidObjectName text))

def NullsOrder.ofWord? (word : String) : Option NullsOrder :=
  match Text.lower word with
  | "nullsfirst" => some .first
  | "nullslast" => some .last
  | _ => none

/-- `[-]column[:nullsfirst|:nullslast]` -/
def OrderItem.read (field : String) (cs : List Char) : Except AnnotationError OrderItem :=
  let (descending, rest) := match cs with
    | '-' :: rest => (true, rest)
    | _ => (false, cs)
  match Text.splitOnce ':' rest with
  | some (column, word) => match NullsOrder.ofWord? (String.ofList word) with
    | some nulls => do return ⟨← readColumn column, descending, some nulls⟩
    | none => .error (.invalidTag field (.unknownNullsOrder (String.ofList word)))
  | none => do return ⟨← readColumn rest, descending, none⟩

def readOrderBy (field : HostField) : Except AnnotationError (List OrderItem) := do
  let text ← directiveText field
  (Text.splitTopLevel ',' text.toList).mapM (OrderItem.read field.name)

def RowLimit.read (field : HostField) : Except AnnotationError RowLimit := do
  let text ← directiveText field
  match Text.readU64? text with
  | some value => return .literal value
  | none => throw (.invalidRowLimit text)

structure ConflictParts where
  target : Option ConflictTarget := none
  action : Option ConflictAction := none

def ConflictTarget.read (directive : Directive) (member : HostField) :
    Except AnnotationError ConflictTarget :=
  match directive with
  | .column => do match ← ColumnList.read member with
    | .columns listed => return .columns listed
    | .all => throw (.invalidTag member.name .conflictOnEverything)
  | .index => return .index (← readObjectName member)
  | _ => return .constraint (← readObjectName member)

def ConflictParts.add (block : String) (parts : ConflictParts) (member : HostField) :
    Except AnnotationError ConflictParts :=
  match member.directive? with
  | none => .error (.misplacedDirective member.name block)
  | some directive => match directive with
    | .column | .index | .constraint => do
      if parts.target.isSome then throw (.duplicateBlock "OnConflict target")
      return { parts with target := some (← ConflictTarget.read directive member) }
    | .ignore => do
      if parts.action.isSome then throw (.duplicateBlock "OnConflict action")
      return { parts with action := some .ignore }
    | .update => do
      if parts.action.isSome then throw (.duplicateBlock "OnConflict action")
      return { parts with action := some (.update (← ColumnList.read member)) }
    | other => .error (.misplacedDirective other.name block)

/-- An on-conflict block has an action, and an update has a target. -/
def OnConflictBlock.read (field : HostField) : Except AnnotationError OnConflictBlock :=
  match field.nestedFields? with
  | none => .error (.invalidBlockType "OnConflict" field.name)
  | some members => do
    match ← members.foldlM (ConflictParts.add field.name) {} with
    | ⟨_, none⟩ => throw .missingConflictAction
    | ⟨none, some (.update _)⟩ => throw .missingConflictTarget
    | ⟨target, some action⟩ => return ⟨target, action⟩

def ResultBinding.read (naming : ColumnNaming) (field : HostField) :
    Except AnnotationError ResultBinding := do
  let (shape, record) ← RecordShape.ofField field
  let fields ← BoundField.ofRecord naming record
  return ⟨field.name, record.name, shape, fields⟩

def RecordBinding.read (naming : ColumnNaming) (field : HostField) :
    Except AnnotationError RecordBinding := do
  let text := field.rel?.getD ""
  let relation ← match RelationRef.parse? text with
    | some relation => pure relation
    | none => throw (.invalidRelation text)
  let (shape, record) ← RecordShape.ofField field
  let fields ← BoundField.ofRecord naming record
  return ⟨field.name, record.name, shape, relation, fields⟩

end RecordSql
