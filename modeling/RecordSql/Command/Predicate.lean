import RecordSql.Command.Ident
import RecordSql.Command.Operator
import RecordSql.Host.Type

namespace RecordSql

structure FieldRef where
  /-- Field names from the command down to the field. -/
  path : List String
  type : HostType

namespace FieldRef

def name (field : FieldRef) : String := field.path.getLast?.getD ""

/-- The path with dots between its names. -/
def key (field : FieldRef) : String := ".".intercalate field.path

def ofField (field : HostField) : FieldRef := ⟨[field.name], field.type⟩

end FieldRef

structure ColumnExpr where
  column : ColumnRef
  func : Option String := none
  deriving DecidableEq, Repr

def ColumnExpr.text (expr : ColumnExpr) : String :=
  match expr.func with
  | some func => func ++ "(" ++ expr.column.text ++ ")"
  | none => expr.column.text

inductive Operand where
  | column (column : ColumnRef)
  | field (field : FieldRef)
  /-- SQL text that is written as it stands. -/
  | literal (text : String)

/-- A column against the value of a field. -/
structure FieldTest where
  field : FieldRef
  column : ColumnExpr
  op : CompareOp
  quantifier : Option Quantifier

/-- The quantifier that is written, or else the one that membership implies. -/
def FieldTest.effectiveQuantifier (test : FieldTest) : Option Quantifier :=
  test.quantifier <|> test.op.impliedQuantifier?

inductive ColumnCondition where
  | test (op : TestOp)
  | compare (op : CompareOp) (quantifier : Option Quantifier) (right : Operand)

/-- A condition on a column that needs no field. -/
structure ColumnTest where
  left : ColumnExpr
  condition : ColumnCondition

/-- A column between two bounds. -/
structure BetweenTest where
  name : String
  column : ColumnRef
  op : RangeOp
  low : Operand
  high : Operand

inductive Leaf where
  | field (test : FieldTest)
  | column (test : ColumnTest)
  | between (test : BetweenTest)

/-- An entry of a predicate list. The connector of a list's first entry says nothing. -/
inductive Entry where
  | leaf (connector : Connector) (leaf : Leaf)
  | group (connector : Connector) (name : String) (entries : List Entry)

namespace Entry

def connector : Entry → Connector
  | leaf connector _ => connector
  | group connector _ _ => connector

def isGroup : Entry → Bool
  | leaf .. => false
  | group .. => true

mutual
def steps : Entry → Nat
  | leaf .. => 1
  | group _ _ entries => stepsAll entries + 2

def stepsAll : List Entry → Nat
  | [] => 0
  | entry :: entries => entry.steps + stepsAll entries
end

end Entry

end RecordSql
