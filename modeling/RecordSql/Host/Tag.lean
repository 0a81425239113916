import RecordSql.Text.Split

namespace RecordSql

/-- Option texts by name. An option that is set twice has the later text. -/
structure Tag where
  entries : List (String × String) := []
  deriving DecidableEq, Repr

namespace Tag

def get? (tag : Tag) (key : String) : Option String := tag.entries.lookup key

def insert (tag : Tag) (key value : String) : Tag := ⟨(key, value) :: tag.entries⟩

def ofList (pairs : List (String × String)) : Tag :=
  pairs.foldl (fun tag pair => tag.insert pair.1 pair.2) {}

def isEmpty (tag : Tag) : Bool := tag.entries.isEmpty

def sql? (tag : Tag) : Option String := (tag.get? "sql").map Text.trimmed

def rel? (tag : Tag) : Option String := (tag.get? "rel").map Text.trimmed

end Tag

inductive TagFault where
  | unknownOption (name : String)
  | exclusiveOptions
  | recordRequired
  | conflictOnEverything
  | unknownNullsOrder (text : String)
  | invalidObjectName (text : String)
  | missing
  deriving DecidableEq, Repr

def TagFault.message : TagFault → String
  | unknownOption name => s!"unknown option '{name}'"
  | exclusiveOptions => "options 'ro' and 'wo' are exclusive"
  | recordRequired => "'>' requires a record-typed field"
  | conflictOnEverything => "conflict target cannot be '*'"
  | unknownNullsOrder text => s!"unknown nulls order '{text}'"
  | invalidObjectName text => s!"invalid object name '{text}'"
  | missing => "missing sql tag"

/-- How the value of a field travels between the host and its column. -/
structure FieldOptions where
  json : Bool := false
  xml : Bool := false
  cast : Bool := false
  readOnly : Bool := false
  writeOnly : Bool := false
  deriving DecidableEq, Repr

namespace FieldOptions

def add (options : FieldOptions) (name : String) : Except TagFault FieldOptions :=
  match name with
  | "json" => .ok { options with json := true }
  | "xml" => .ok { options with xml := true }
  | "cast" => .ok { options with cast := true }
  | "ro" => .ok { options with readOnly := true }
  | "wo" => .ok { options with writeOnly := true }
  | "" => .ok options
  | other => .error (.unknownOption other)

def ofNames (names : List String) : Except TagFault FieldOptions := do
  let options ← names.foldlM add {}
  if options.readOnly && options.writeOnly then .error .exclusiveOptions else .ok options

end FieldOptions

/-- The tag of a record field: a column, `-` or `>` and a name start, and options. -/
structure ColumnTag where
  column : String
  options : FieldOptions := {}
  deriving DecidableEq, Repr

namespace ColumnTag

def parse (text : String) : Except TagFault ColumnTag :=
  match (Text.pieces ',' text.toList).map fun piece => String.ofList (Text.trim piece) with
  | [] => .ok ⟨"", {}⟩
  | column :: names => (FieldOptions.ofNames names).map fun options => ⟨column, options⟩

def isSkip (tag : ColumnTag) : Bool := tag.column == "-"

/-- After `>` stands what the column names of a nested record start with. -/
def nestedStart? (tag : ColumnTag) : Option String :=
  match tag.column.toList with
  | '>' :: rest => some (String.ofList rest)
  | _ => none

end ColumnTag

end RecordSql
