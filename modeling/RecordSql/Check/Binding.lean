import RecordSql.Check.Scope

namespace RecordSql

structure Pairing where
  path : List String
  signature : String
  /-- The key of the relation of the column. -/
  relation : String
  column : String
  typeOid : Oid
  typeName : String
  notNull : Bool
  adapter : Adapter
  deriving DecidableEq, Repr

namespace Pairing

def field (pairing : Pairing) : String := ".".intercalate pairing.path

def columnRef (pairing : Pairing) : ColumnRef := ⟨some pairing.relation, pairing.column⟩

end Pairing

/-- What a column is written with: the input at an index, or its default. -/
inductive WriteValue where
  | input (index : Nat)
  | default
  deriving DecidableEq, Repr

structure WriteTarget where
  column : String
  value : WriteValue
  deriving DecidableEq, Repr

structure Bindings where
  inputs : List Pairing := []
  outputs : List Pairing := []
  writes : List WriteTarget := []
  deriving DecidableEq, Repr

namespace Scope

def pair (scope : Scope) (field : BoundField) (relation : String) (column : Column)
    (direction : Direction) : Except CheckError Pairing :=
  match assignAdapter? scope.catalog column field direction with
  | some adapter => .ok
      { path := field.path, signature := field.type.signature, relation, column := column.name,
        typeOid := column.type.oid, typeName := column.type.name, notNull := column.notNull, adapter }
  | none => .error
      (.unassignable field.key field.type.signature column.name column.type.name direction)

/-- Fills a field from whatever relation has its column. -/
def readPairing (scope : Scope) (field : BoundField) : Except CheckError Pairing := do
  let (relation, column) ← scope.column true field.column
  scope.pair field relation.key column .read

def readPairings (scope : Scope) (fields : List BoundField) : Except CheckError (List Pairing) :=
  (fields.filter fun field => !field.options.writeOnly).mapM scope.readPairing

def writePairing (scope : Scope) (field : BoundField) : Except CheckError Pairing := do
  let column ← scope.targetColumn field.column
  scope.pair field scope.target.key column .write

end Scope

/-- Read-only fields are written only if they are forced. -/
def Command.isForced (command : Command) (name : String) : Bool :=
  command.force.any fun list => list.isAll || list.listed.any fun ref => ref.name == name

def Command.isDefaulted (command : Command) (column : Column) : Bool :=
  command.defaults.any fun list => match list with
    | .all => column.hasDefault
    | .columns listed => listed.any fun ref => ref.name == column.name

structure Writing where
  inputs : List Pairing := []
  writes : List WriteTarget := []
  deriving DecidableEq, Repr

def Writing.hasColumn (writing : Writing) (name : String) : Bool :=
  writing.writes.any fun write => write.column == name

namespace Scope

def addWrite (scope : Scope) (command : Command) (writing : Writing) (field : BoundField) :
    Except CheckError Writing := do
  if field.options.readOnly && !command.isForced field.column.name then return writing
  let column ← scope.targetColumn field.column
  if writing.hasColumn column.name then throw (.duplicateColumn field.key column.name)
  if command.isDefaulted column then
    return { writing with writes := writing.writes ++ [⟨column.name, .default⟩] }
  let pairing ← scope.pair field scope.target.key column .write
  return { inputs := writing.inputs ++ [pairing]
           writes := writing.writes ++ [⟨column.name, .input writing.inputs.length⟩] }

/-- Columns that are listed as defaults are written even if no field has them. -/
def addDefault (writing : Writing) (ref : ColumnRef) : Writing :=
  if writing.hasColumn ref.name then writing
  else { writing with writes := writing.writes ++ [⟨ref.name, .default⟩] }

def writeRecord (scope : Scope) (command : Command) : Except CheckError Writing := do
  let writing ← command.record.fields.foldlM (scope.addWrite command) {}
  return ((command.defaults.map ColumnList.listed).getD []).foldl addDefault writing

/-- The bindings of the record; `returned` are the outputs that a return list declares. -/
def bindRecord (scope : Scope) (command : Command) (returned : List Pairing) :
    Except CheckError Bindings :=
  match command.kind with
  | .select => do
    let outputs ← scope.readPairings command.record.fields
    return { outputs }
  | .insert | .update => do
    let writing ← scope.writeRecord command
    return { inputs := writing.inputs, outputs := returned, writes := writing.writes }
  | .filter => do
    let inputs ← command.record.fields.mapM scope.writePairing
    return { inputs, outputs := returned }
  | .delete => return { outputs := returned }

/-- The bindings of a command; a result record takes the place of other outputs. -/
def bind (scope : Scope) (command : Command) (returned : List Pairing) :
    Except CheckError Bindings := do
  let bindings ← scope.bindRecord command returned
  match command.result with
  | none => return bindings
  | some result =>
    let outputs ← scope.readPairings result.fields
    return { bindings with outputs }

def returnAll (scope : Scope) (fields : List BoundField) : Except CheckError (List Pairing) :=
  let found := (fields.filter fun field => !field.options.writeOnly).filterMap fun field =>
    (scope.target.column? field.column.name).map fun column => (field, column)
  found.mapM fun (field, column) => scope.pair field scope.target.key column .read

/-- A listed column is returned to the first field that has its name. -/
def returnColumn (scope : Scope) (fields : List BoundField) (ref : ColumnRef) :
    Except CheckError Pairing := do
  let column ← scope.targetColumn ref
  match fields.find? fun field => field.column.name == column.name with
  | some field => scope.pair field scope.target.key column .read
  | none => throw (.noFieldForColumn column.name)

def returnPairings (scope : Scope) (fields : List BoundField) :
    ColumnList → Except CheckError (List Pairing)
  | .all => scope.returnAll fields
  | .columns listed => listed.mapM (scope.returnColumn fields)

end Scope

end RecordSql
