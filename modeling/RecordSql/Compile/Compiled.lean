import RecordSql.Compile.Failure
import RecordSql.Digest.Fingerprint
import RecordSql.Report.Statement
import RecordSql.Text.Offset

namespace RecordSql

structure CompiledCommand where
  name : String
  kind : CommandKind
  sql : Option String
  /-- The fingerprint of the statement in hexadecimal digits. -/
  fingerprint : Option String
  args : List ArgSource
  inputs : List Pairing
  outputs : List Pairing
  filter : Option FilterMap
  multiRow : Bool
  /-- The field that receives the number of affected rows. -/
  rowsAffected : Option String
  errorHandler : Option String
  deriving DecidableEq, Repr

namespace CompiledCommand

def ofLowered (checked : CheckedCommand) (lowered : Lowered) : CompiledCommand :=
  let command := checked.command
  let bare : CompiledCommand :=
    { name := command.name, kind := command.kind, sql := none, fingerprint := none, args := []
      inputs := checked.inputs, outputs := checked.outputs, filter := none, multiRow := false
      rowsAffected := command.rowsAffected.map FieldRef.key
      errorHandler := command.errorHandler.map FieldRef.key }
  match lowered with
  | .statement bound =>
    let sql := bound.statement.sql
    { bare with sql := some sql, fingerprint := some (Fingerprint.ofStatement command.kind.name sql).toHex
                args := bound.args, multiRow := bound.multiRow }
  | .filter map => { bare with filter := some map }

def statementNameStart : String := "tagsql_"

/-- The name under which the statement is prepared, with the first sixteen digits of its fingerprint. -/
def statementName? (compiled : CompiledCommand) : Option String := do
  let digits ← Text.slice? 0 16 (← compiled.fingerprint).toList
  return statementNameStart ++ String.ofList digits

def report (compiled : CompiledCommand) : Json :=
  .obj [("name", .str compiled.name), ("kind", .str compiled.kind.word),
    ("sql", .optStr compiled.sql),
    ("fingerprint", .optStr compiled.fingerprint),
    ("args", .arr (compiled.args.map ArgSource.report)),
    ("inputs", .arr (compiled.inputs.map Pairing.report)),
    ("outputs", .arr (compiled.outputs.map Pairing.report)),
    ("filter", .ofOption FilterMap.report compiled.filter),
    ("multi_row", .bool compiled.multiRow), ("rows_affected", .optStr compiled.rowsAffected),
    ("error_handler", .optStr compiled.errorHandler)]

end CompiledCommand

structure Batch where
  compiled : List CompiledCommand := []
  failures : List Failure := []
  deriving DecidableEq, Repr

def Failure.report (failure : Failure) : Json :=
  .obj [("kind", .str failure.kind.name), ("command", .optStr failure.command),
    ("message", .str failure.message)]

namespace Batch

def isClean (batch : Batch) : Bool := batch.failures.isEmpty

def failure? (batch : Batch) (command : String) : Option Failure :=
  batch.failures.find? fun failure => failure.command == some command

def addCompiled (batch : Batch) (compiled : CompiledCommand) : Batch :=
  { batch with compiled := batch.compiled ++ [compiled] }

def addFailure (batch : Batch) (failure : Failure) : Batch :=
  { batch with failures := batch.failures ++ [failure] }

def report (batch : Batch) : Json :=
  .obj [("compiled", .arr (batch.compiled.map CompiledCommand.report)),
    ("failures", .arr (batch.failures.map Failure.report))]

end Batch

end RecordSql
