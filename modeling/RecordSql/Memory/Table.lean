import RecordSql.Catalog.Oid

namespace RecordSql

structure MemoryColumn where
  name : String
  type : Oid
  typmod : Int := -1
  dims : Int := 0
  notNull : Bool := false
  hasDefault : Bool := false
  primary : Bool := false
  deriving DecidableEq, Repr

/-- An index; a key column without a name is an expression. -/
structure MemoryIndex where
  name : String
  key : List (Option String)
  unique : Bool := false
  primary : Bool := false
  deriving DecidableEq, Repr

structure MemoryConstraint where
  oid : Oid
  name : String
  kind : Char
  key : List String
  deriving DecidableEq, Repr

structure MemoryTable where
  oid : Oid
  name : String
  space : String := "public"
  kind : Char := 'r'
  columns : List MemoryColumn := []
  indexes : List MemoryIndex := []
  constraints : List MemoryConstraint := []
  deriving DecidableEq, Repr

namespace MemoryTable

/-- The place of a column, counted from one; zero if there is none of the name. -/
def ordinal (table : MemoryTable) (name : String) : Nat :=
  match table.columns.findIdx? fun column => column.name == name with
  | some index => index + 1
  | none => 0

def relationRow (table : MemoryTable) : Row := ⟨[.oid table.oid, .text (String.singleton table.kind)]⟩

def columnRow (column : MemoryColumn) (ordinal : Nat) : Row :=
  ⟨[.int ordinal, .text column.name, .int column.typmod, .int column.dims, .bool column.notNull,
    .bool column.hasDefault, .bool column.primary, .oid column.type]⟩

def columnRows (table : MemoryTable) : List Row :=
  (table.columns.zipIdx 1).map fun (column, ordinal) => columnRow column ordinal

def constraintRow (table : MemoryTable) (constraint : MemoryConstraint) : Row :=
  ⟨[.oid constraint.oid, .text constraint.name, .text (String.singleton constraint.kind),
    .bool false, .bool false, .intArray (constraint.key.map fun name => table.ordinal name), .null]⟩

def constraintRows (table : MemoryTable) : List Row := table.constraints.map table.constraintRow

def indexDefinition (table : MemoryTable) (index : MemoryIndex) : String :=
  "CREATE " ++ (if index.unique then "UNIQUE " else "") ++ "INDEX " ++ index.name ++ " ON " ++
    table.space ++ "." ++ table.name ++ " USING btree (" ++
    ", ".intercalate (index.key.map fun name => name.getD "(expr)") ++ ")"

def indexKey (table : MemoryTable) (index : MemoryIndex) : List Int :=
  index.key.map fun name => ((name.map table.ordinal).getD 0 : Nat)

def indexRow (table : MemoryTable) (index : MemoryIndex) : Row :=
  ⟨[.text index.name, .int index.key.length, .bool index.unique, .bool index.primary, .bool false,
    .bool true, .bool true, .intArray (table.indexKey index), .text (table.indexDefinition index)]⟩

def indexRows (table : MemoryTable) : List Row := table.indexes.map table.indexRow

def users : MemoryTable where
  oid := 20001
  name := "users"
  columns :=
    [{ name := "id", type := Oid.int4, notNull := true, hasDefault := true, primary := true },
     { name := "name", type := Oid.text, notNull := true },
     { name := "email", type := Oid.text, notNull := true },
     { name := "nickname", type := Oid.text },
     { name := "created_at", type := Oid.timestamptz, notNull := true, hasDefault := true },
     { name := "active", type := Oid.bool, notNull := true, hasDefault := true },
     { name := "score", type := Oid.int4 },
     { name := "tags", type := Oid.textArray, dims := 1 },
     { name := "search", type := Oid.tsvector }]
  indexes :=
    [{ name := "users_pkey", key := [some "id"], unique := true, primary := true },
     { name := "users_email_key", key := [some "email"], unique := true },
     { name := "users_lower_name_idx", key := [none] }]
  constraints :=
    [⟨30001, "users_pkey", 'p', ["id"]⟩,
     ⟨30002, "users_email_key", 'u', ["email"]⟩,
     ⟨30003, "users_name_check", 'c', ["name"]⟩]

def posts : MemoryTable where
  oid := 20002
  name := "posts"
  columns :=
    [{ name := "id", type := Oid.int4, notNull := true, hasDefault := true, primary := true },
     { name := "user_id", type := Oid.int4, notNull := true },
     { name := "title", type := Oid.text, notNull := true },
     { name := "body", type := Oid.text },
     { name := "slug", type := Oid.text, notNull := true },
     { name := "published", type := Oid.bool, notNull := true, hasDefault := true }]
  indexes :=
    [{ name := "posts_pkey", key := [some "id"], unique := true, primary := true },
     { name := "posts_user_slug_key", key := [some "user_id", some "slug"], unique := true },
     { name := "posts_title_idx", key := [some "title"] }]
  constraints :=
    [⟨30010, "posts_pkey", 'p', ["id"]⟩,
     ⟨30011, "posts_user_fkey", 'f', ["user_id"]⟩]

end MemoryTable

end RecordSql
