import RecordSql.Annotation.Error
import RecordSql.Check.Error
import RecordSql.Statement.Lower

namespace RecordSql

inductive FailureKind where
  | structural
  | catalog
  | schemaMismatch
  | typeCompatibility
  | build
  | config
  deriving DecidableEq, Repr

def FailureKind.name : FailureKind → String
  | structural => "structural"
  | catalog => "catalog"
  | schemaMismatch => "schema_mismatch"
  | typeCompatibility => "type_compatibility"
  | build => "build"
  | config => "config"

def CheckErrorClass.failureKind : CheckErrorClass → FailureKind
  | .catalog => FailureKind.catalog
  | .schemaMismatch => FailureKind.schemaMismatch
  | .typeCompatibility => FailureKind.typeCompatibility

structure Failure where
  kind : FailureKind
  command : Option String := none
  message : String
  deriving DecidableEq, Repr

namespace Failure

def isFatal (failure : Failure) : Bool := failure.kind == .catalog || failure.kind == .config

def ofAnnotation (error : AnnotationError) : Failure :=
  { kind := .structural, message := error.message }

def ofCatalog (error : CatalogError) : Failure := { kind := .catalog, message := error.message }

def ofCheck (error : CheckError) : Failure :=
  { kind := error.errorClass.failureKind, message := error.message }

def ofBuild (error : BuildError) : Failure := { kind := .build, message := error.message }

def within (command : String) (failure : Failure) : Failure :=
  { failure with command := some command }

end Failure

end RecordSql
