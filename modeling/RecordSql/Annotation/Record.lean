import RecordSql.Annotation.Error
import RecordSql.Text.SnakeCase

namespace RecordSql

/-- Whether a record field without a tag is a column. -/
inductive ColumnNaming where
  | tagged
  | snakeCase
  deriving DecidableEq, Repr, Inhabited

def recordElem? (type : HostType) : Option (Bool × HostType) :=
  if type.isPlainRecord then some (false, type)
  else match type.shape with
    | .optional inner => if inner.isPlainRecord then some (true, inner) else none
    | _ => none

def iteratedElem? (signature : CallSignature) : Option (Bool × HostType) :=
  match signature.params, signature.results with
  | [param], [result] => if result.isErrorLike then recordElem? param else none
  | _, _ => none

def RecordShape.ofField (field : HostField) : Except AnnotationError (RecordShape × HostType) :=
  match field.type.shape with
  | .record _ | .optional _ => match recordElem? field.type with
    | some (optional, record) => .ok ({ optional }, record)
    | none => .error (.invalidRecordType field.name)
  | .seq elem => match recordElem? elem with
    | some (optional, record) => .ok ({ sequence := true, optional }, record)
    | none => .error (.invalidRecordType field.name)
  | .interface [method] => match iteratedElem? method.signature with
    | some (optional, record) => .ok ({ iterator := some (.method method.name), optional }, record)
    | none => .error (.invalidIterator field.name)
  | .interface _ => .error (.invalidIterator field.name)
  | .func signature => match iteratedElem? signature with
    | some (optional, record) => .ok ({ iterator := some .func, optional }, record)
    | none => .error (.invalidIterator field.name)
  | _ => .error (.invalidRecordType field.name)

inductive FieldRole where
  | skipped
  /-- The fields of the nested record are columns; their names begin with `start`. -/
  | within (start : String)
  | bound (column : ColumnRef) (options : FieldOptions)
  deriving DecidableEq, Repr

def columnTag? (field : HostField) : Except AnnotationError (Option ColumnTag) :=
  match field.sql? with
  | some text => match ColumnTag.parse text with
    | .ok tag => .ok (some tag)
    | .error fault => .error (.invalidTag field.name fault)
  | none => .ok none

def ColumnNaming.impliedTag? (naming : ColumnNaming) (name : String) : Option ColumnTag :=
  match naming with
  | .tagged => none
  | .snakeCase => some ⟨Text.snakeCase name, {}⟩

def FieldRole.ofTag (start name : String) (nested : Bool) (tag : ColumnTag) :
    Except AnnotationError FieldRole :=
  if tag.isSkip then .ok .skipped
  else match tag.nestedStart? with
    | some inner =>
      if nested then .ok (.within (start ++ inner)) else .error (.invalidTag name .recordRequired)
    | none => match ColumnRef.parse? tag.column with
      | some column => .ok (.bound (column.startingWith start) tag.options)
      | none => .error (.invalidColumn tag.column)

/-- Embedded records are laid out in place unless their tag gives a start of its own. -/
def FieldRole.ofField (naming : ColumnNaming) (start : String) (field : HostField) :
    Except AnnotationError FieldRole := do
  let tag ← columnTag? field
  let nested := field.nestedFields?.isSome
  if field.embedded && nested && (tag.bind ColumnTag.nestedStart?).isNone then
    return .within start
  match tag <|> naming.impliedTag? field.name with
  | some tag => ofTag start field.name nested tag
  | none => return .skipped

mutual
/-- The column fields of a list of fields, depth first in the order of declaration. -/
def boundFields (naming : ColumnNaming) (path : List String) (start : String) :
    List HostField → Except AnnotationError (List BoundField)
  | [] => .ok []
  | field :: fields => do
    let here ← boundFieldsOf naming path start field
    let later ← boundFields naming path start fields
    return here ++ later

def boundFieldsOf (naming : ColumnNaming) (path : List String) (start : String) :
    HostField → Except AnnotationError (List BoundField)
  | ⟨name, tag, type, embedded⟩ => do
    match ← FieldRole.ofField naming start ⟨name, tag, type, embedded⟩ with
    | .skipped => return []
    | .within inner => boundFieldsWithin naming (path ++ [name]) inner type
    | .bound column options => return [⟨path ++ [name], column, type, options⟩]

def boundFieldsWithin (naming : ColumnNaming) (path : List String) (start : String) :
    HostType → Except AnnotationError (List BoundField)
  | ⟨.optional ⟨.record fields, _, _⟩, _, _⟩ => boundFields naming path start fields
  | ⟨.record fields, _, _⟩ => boundFields naming path start fields
  | _ => .ok []
end

def BoundField.ofRecord (naming : ColumnNaming) (record : HostType) :
    Except AnnotationError (List BoundField) :=
  boundFields naming [] "" (record.recordFields?.getD [])

end RecordSql
