import RecordSql.Annotation.Command
import RecordSql.Compile.Compiled
import RecordSql.Compile.Settings

/-!
The compilation of commands. A command is read, checked and lowered in this order, and the database
is asked nothing before the annotations of the command have been read without fault.
-/
namespace RecordSql

abbrev Compilation (α : Type) := SessionTask Failure α

namespace Compilation

variable {ε α : Type}

def ofTask (failure : ε → Failure) (task : Task ε α) : Compilation α :=
  (SessionTask.ofTask task).mapError failure

def ofExcept (failure : ε → Failure) (result : Except ε α) : Compilation α :=
  ofTask failure (Task.ofExcept result)

def within (command : String) (compilation : Compilation α) : Compilation α :=
  compilation.mapError (Failure.within command)

end Compilation

structure CommandSource where
  name : String
  fields : List HostField

structure Compiler where
  settings : Settings := {}
  server : Server

namespace Compiler

/-- The identity that the settings give, or else the one that the server reports. -/
def identity (compiler : Compiler) : Compilation CatalogIdentity :=
  match compiler.settings.identity with
  | some identity => return identity
  | none => Compilation.ofTask Failure.ofCatalog
      (CatalogIdentity.probe compiler.server compiler.settings.address)

/-- The catalogue of the database, which is read at most once in a session. -/
def catalog (compiler : Compiler) : Compilation Catalog := do
  let identity ← compiler.identity
  (CatalogCache.load compiler.server identity).mapError Failure.ofCatalog

def steps (compiler : Compiler) (source : CommandSource) : Compilation CompiledCommand := do
  let settings := compiler.settings
  let command ← Compilation.ofExcept Failure.ofAnnotation
    (Command.read settings.naming source.name source.fields)
  let catalog ← compiler.catalog
  let database : Database := { server := compiler.server, catalog, space := settings.space }
  let checked ← Compilation.ofTask Failure.ofCheck (command.check database)
  let lowered ← Compilation.ofExcept Failure.ofBuild checked.lower
  let compiled := CompiledCommand.ofLowered checked lowered
  Compilation.ofTask Failure.ofCheck
    (Task.tell (.compiled source.name compiled.kind compiled.args.length))
  return compiled

def compile (compiler : Compiler) (source : CommandSource) : Compilation CompiledCommand :=
  Compilation.within source.name (compiler.steps source)

/-- Adds a command to a batch, compiled or failed. Fatal failures end the run, and so do all
others unless they are collected. -/
def addTo (compiler : Compiler) (batch : Batch) (source : CommandSource) : Compilation Batch := do
  match ← SessionTask.attempt (compiler.compile source) with
  | .ok compiled => return batch.addCompiled compiled
  | .error failure =>
    if failure.isFatal || compiler.settings.onFailure == .abort then throw failure
    else return batch.addFailure failure

def compileAll (compiler : Compiler) (sources : List CommandSource) : Compilation Batch :=
  sources.foldlM compiler.addTo {}

end Compiler

end RecordSql
