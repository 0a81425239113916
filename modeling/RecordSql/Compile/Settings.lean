import RecordSql.Annotation.Record
import RecordSql.Catalog.Cache
import RecordSql.Compile.Failure
import RecordSql.Json.Basic
import RecordSql.Relation.Load
import RecordSql.Toml.Reader

/-!
The settings of a compiler, and their TOML form. A setting that is left out has its default; one
that is not known is refused.
-/
namespace RecordSql

def ColumnNaming.name : ColumnNaming → String
  | tagged => "tagged"
  | snakeCase => "snake_case"

def ColumnNaming.all : List ColumnNaming := [tagged, snakeCase]

/-- What a failure means for the commands after it. Fatal failures always end the run. -/
inductive FailurePolicy where
  | abort
  | collect
  deriving DecidableEq, Repr

def FailurePolicy.name : FailurePolicy → String
  | abort => "abort"
  | collect => "collect"

def FailurePolicy.all : List FailurePolicy := [abort, collect]

structure Settings where
  space : String := publicSpace
  naming : ColumnNaming := .tagged
  onFailure : FailurePolicy := .abort
  address : String := "localhost:5432"
  identity : Option CatalogIdentity := none
  deriving DecidableEq, Repr

inductive SettingsError where
  | blank (setting : String)
  | unreadable
  deriving DecidableEq, Repr

def SettingsError.message : SettingsError → String
  | blank setting => s!"invalid value for '{setting}': must not be empty"
  | unreadable => "config parse failed"

def Failure.ofSettings (error : SettingsError) : Failure :=
  { kind := .config, message := error.message }

namespace Toml

def Value.string? : Value → Option String
  | .str text => some text
  | _ => none

def Value.isEmpty : Value → Bool
  | .array [] => true
  | .table _ [] => true
  | _ => false

def Value.word? : Value → Option String
  | .str text => some text
  | .table _ [(key, value)] => if value.isEmpty then some key else none
  | _ => none

def Value.choice? {α : Type} (name : α → String) (choices : List α) (value : Value) : Option α :=
  value.word?.bind fun word => choices.find? fun choice => name choice == word

def Members.areKnown (known : List String) (members : Members) : Bool :=
  members.all fun member => known.contains member.1

def Members.setting? {α : Type} (members : Members) (key : String) (default : α)
    (read : Value → Option α) : Option α :=
  match members.lookup key with
  | some value => read value
  | none => some default

/-- An address and a database, by their names or in this order. -/
def Value.identity? : Value → Option CatalogIdentity
  | .table _ members => do
    guard (Members.areKnown ["address", "database"] members)
    let address ← (← members.lookup "address").string?
    let database ← (← members.lookup "database").string?
    return ⟨address, database⟩
  | .array (address :: database :: _) => do return ⟨← address.string?, ← database.string?⟩
  | _ => none

end Toml

namespace Settings

def ofMembers? (members : Toml.Members) : Option Settings := do
  guard (members.areKnown
    ["default_schema", "column_naming", "failure_policy", "address", "identity"])
  let defaults : Settings := {}
  let space ← members.setting? "default_schema" defaults.space Toml.Value.string?
  let naming ← members.setting? "column_naming" defaults.naming
    (Toml.Value.choice? ColumnNaming.name ColumnNaming.all)
  let onFailure ← members.setting? "failure_policy" defaults.onFailure
    (Toml.Value.choice? FailurePolicy.name FailurePolicy.all)
  let address ← members.setting? "address" defaults.address Toml.Value.string?
  let identity ← members.setting? "identity" none fun value => value.identity?.map some
  return { space, naming, onFailure, address, identity }

def check (settings : Settings) : Except SettingsError Settings :=
  if (Text.trim settings.space.toList).isEmpty then .error (.blank "default_schema")
  else if settings.identity.any fun identity => (Text.trim identity.database.toList).isEmpty then
    .error (.blank "identity.database")
  else .ok settings

def read (document : String) : Except SettingsError Settings :=
  match (Toml.readDocument? document).bind ofMembers? with
  | some settings => settings.check
  | none => .error .unreadable

def report (settings : Settings) : Json :=
  .obj [("default_schema", .str settings.space), ("column_naming", .str settings.naming.name),
    ("failure_policy", .str settings.onFailure.name), ("address", .str settings.address),
    ("identity", .ofOption (fun identity => .obj
      [("address", .str identity.address), ("database", .str identity.database)])
      settings.identity)]

end Settings

end RecordSql
