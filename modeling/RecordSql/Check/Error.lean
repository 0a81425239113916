import RecordSql.Catalog.Load
import RecordSql.Typing.Assignment

namespace RecordSql

inductive CheckError where
  | badBoolColumn (column : String) (op : TestOp)
  | badTextSearchColumn (column typeName : String)
  | catalog (error : CatalogError)
  | columnNotFound (relation column : String)
  | constraintNotFound (relation constraint : String)
  | constraintNotUnique (constraint : String)
  | duplicateColumn (field column : String)
  | duplicateKey (key : String)
  | arrayOperandRequired (column : String) (op : CompareOp)
  | sequenceRequired (field : String) (op : CompareOp)
  | nullTestOnNotNull (column : String)
  | optionalForNotNull (field column : String)
  | incomparableColumns (left right op : String)
  | incomparableField (field column op : String)
  | indexNotFound (relation index : String)
  | indexNotUnique (index : String)
  | noDefault (column : String)
  | noFieldForColumn (column : String)
  | noUniqueIndex (relation : String) (columns : List String)
  | noProcedure (func typeName : String)
  | relationNotFound (relation : String)
  | unassignable (field signature column typeName : String) (direction : Direction)
  | unknownType (column : String) (oid : Oid)
  deriving DecidableEq, Repr

/-- Errors of the catalogue end the whole run. The others tell the schema from the types. -/
inductive CheckErrorClass where
  | catalog | schemaMismatch | typeCompatibility
  deriving DecidableEq, Repr

namespace CheckError

def message : CheckError → String
  | badBoolColumn column op => s!"truth test '{op.sql}' requires a boolean column, '{column}' is not"
  | badTextSearchColumn column typeName =>
    s!"text search column '{column}' has type '{typeName}', expected tsvector"
  | catalog error => error.message
  | columnNotFound relation column => s!"column '{column}' not found in relation '{relation}'"
  | constraintNotFound relation constraint =>
    s!"constraint '{constraint}' not found on relation '{relation}'"
  | constraintNotUnique constraint =>
    s!"constraint '{constraint}' is neither a primary key nor a unique constraint"
  | duplicateColumn field column =>
    s!"field '{field}' writes column '{column}', which another field already writes"
  | duplicateKey key => s!"relation key '{key}' is already in use; alias the joined relation"
  | arrayOperandRequired column op =>
    s!"'{op.sql}' comparison on column '{column}' requires an array operand"
  | sequenceRequired field op => s!"field '{field}' must be a sequence to be used with '{op.sql}'"
  | nullTestOnNotNull column => s!"null check on column '{column}', which is NOT NULL"
  | optionalForNotNull field column =>
    s!"optional field '{field}' cannot be compared to NOT NULL column '{column}'"
  | incomparableColumns left right op => s!"column '{left}' cannot be compared to '{right}' with '{op}'"
  | incomparableField field column op =>
    s!"field '{field}' cannot be compared to column '{column}' with '{op}'"
  | indexNotFound relation index => s!"index '{index}' not found on relation '{relation}'"
  | indexNotUnique index => s!"index '{index}' is neither unique nor primary"
  | noDefault column => s!"column '{column}' has no default value"
  | noFieldForColumn column => s!"no record field maps to column '{column}'"
  | noUniqueIndex relation columns =>
    s!"no unique index on '{relation}' matches columns (" ++ ", ".intercalate columns ++ ")"
  | noProcedure func typeName => s!"no single-argument procedure '{func}' accepts type '{typeName}'"
  | relationNotFound relation => s!"relation '{relation}' not found"
  | unassignable field signature column typeName direction =>
    s!"field '{field}' ({signature}) cannot be {direction.text} column '{column}' ({typeName})"
  | unknownType column oid => s!"column '{column}' has unknown type oid {oid}"

def errorClass : CheckError → CheckErrorClass
  | catalog _ => .catalog
  | badBoolColumn .. | arrayOperandRequired .. | sequenceRequired .. | nullTestOnNotNull ..
  | optionalForNotNull .. | incomparableColumns .. | incomparableField .. | unassignable .. =>
    .typeCompatibility
  | _ => .schemaMismatch

end CheckError

instance : MonadLift (Except CatalogError) (Except CheckError) where
  monadLift result := result.mapError .catalog

end RecordSql
