namespace RecordSql

abbrev Oid := Nat

inductive CellForm where
  | value | nothing | null | bool | int | oid | text | char | intArray
  deriving DecidableEq, Repr

def CellForm.name : CellForm → String
  | value => "value"
  | nothing => "nothing"
  | null => "null"
  | bool => "bool"
  | int => "int"
  | oid => "oid"
  | text => "text"
  | char => "char"
  | intArray => "int[]"

inductive Cell where
  | null
  | bool (value : Bool)
  | int (value : Int)
  | oid (value : Oid)
  | text (value : String)
  | intArray (values : List Int)
  deriving DecidableEq, Repr

def Cell.form : Cell → CellForm
  | null => .null
  | bool _ => .bool
  | int _ => .int
  | oid _ => .oid
  | text _ => .text
  | intArray _ => .intArray

inductive ConnectionError where
  | connect (message : String)
  | decode (index : Nat) (expected found : CellForm)
  | query (message : String)
  | unsupportedType (index : Nat) (typeName : String)
  deriving DecidableEq, Repr

def ConnectionError.message : ConnectionError → String
  | connect message => s!"connection failed: {message}"
  | decode index expected found => s!"column {index}: expected {expected.name}, found {found.name}"
  | query message => s!"query failed: {message}"
  | unsupportedType index typeName => s!"column {index} has unsupported type '{typeName}'"

structure Row where
  cells : List Cell
  deriving DecidableEq, Repr

namespace Row

def cell (row : Row) (index : Nat) : Except ConnectionError Cell :=
  match row.cells[index]? with
  | some cell => .ok cell
  | none => .error (.decode index .value .nothing)

def mismatch {α : Type} (index : Nat) (expected : CellForm) (cell : Cell) : Except ConnectionError α :=
  .error (.decode index expected cell.form)

def bool (row : Row) (index : Nat) : Except ConnectionError Bool := do
  match ← row.cell index with
  | .bool value => return value
  | other => mismatch index .bool other

def int (row : Row) (index : Nat) : Except ConnectionError Int := do
  match ← row.cell index with
  | .int value => return value
  | .oid value => return value
  | other => mismatch index .int other

def oid (row : Row) (index : Nat) : Except ConnectionError Oid := do
  match ← row.cell index with
  | .oid value => return value
  | .int value =>
    if 0 ≤ value ∧ value < 4294967296 then return value.toNat else mismatch index .oid (.int value)
  | other => mismatch index .oid other

def text (row : Row) (index : Nat) : Except ConnectionError String := do
  match ← row.cell index with
  | .text value => return value
  | other => mismatch index .text other

def char (row : Row) (index : Nat) : Except ConnectionError Char := do
  let text ← row.text index
  match text.toList with
  | [c] => return c
  | _ => mismatch index .char (.text text)

/-- An array of numbers; a missing one is empty. -/
def intArray (row : Row) (index : Nat) : Except ConnectionError (List Int) := do
  match ← row.cell index with
  | .intArray values => return values
  | .null => return []
  | other => mismatch index .intArray other

end Row

end RecordSql
