import RecordSql.Command.Basic

namespace RecordSql

structure TableRef where
  space : Option String := none
  name : String
  aliasName : Option String := none
  deriving DecidableEq, Repr

def TableRef.key (table : TableRef) : String := table.aliasName.getD table.name

inductive Expr where
  | column (column : ColumnRef)
  | param (ordinal : Nat)
  | literal (text : String)
  | default
  | call (func : String) (arg : Expr)
  /-- The value of a column in the row that conflicted. -/
  | excluded (column : String)
  deriving DecidableEq, Repr

def Expr.apply (func : Option String) (arg : Expr) : Expr :=
  match func with
  | some func => .call func arg
  | none => arg

inductive Test where
  | compare (left : Expr) (op : CompareOp) (quantifier : Option Quantifier) (right : Expr)
  | unary (expr : Expr) (op : TestOp)
  | between (expr : Expr) (op : RangeOp) (low high : Expr)
  deriving DecidableEq, Repr

/-- An item of a condition. The connector of the first item of a list says nothing. -/
inductive Clause where
  | test (connector : Connector) (test : Test)
  | group (connector : Connector) (clauses : List Clause)

abbrev Condition := List Clause

structure Join where
  kind : JoinKind
  table : TableRef
  on : Option Condition

structure Select where
  columns : List ColumnRef
  source : TableRef
  joins : List Join := []
  filter : Option Condition := none
  orderBy : List OrderItem := []
  limit : Option Expr := none
  offset : Option Expr := none

inductive ConflictKey where
  | columns (columns : List String)
  | constraint (name : String)
  deriving DecidableEq, Repr

/-- What is done in a conflict: nothing, or setting columns to the values that were not inserted. -/
inductive ConflictResponse where
  | nothing
  | update (columns : List String)
  deriving DecidableEq, Repr

structure OnConflict where
  key : Option ConflictKey
  response : ConflictResponse
  deriving DecidableEq, Repr

structure Insert where
  table : TableRef
  columns : List String
  values : List Expr
  onConflict : Option OnConflict := none
  returning : List ColumnRef := []

structure Update where
  table : TableRef
  set : List (String × Expr)
  source : Option TableRef := none
  joins : List Join := []
  filter : Option Condition := none
  returning : List ColumnRef := []

structure Delete where
  table : TableRef
  source : Option TableRef := none
  joins : List Join := []
  filter : Option Condition := none
  returning : List ColumnRef := []

inductive Statement where
  | select (select : Select)
  | insert (insert : Insert)
  | update (update : Update)
  | delete (delete : Delete)

def Expr.params : Expr → List Nat
  | .param ordinal => [ordinal]
  | .call _ arg => arg.params
  | _ => []

def Test.params : Test → List Nat
  | .compare left _ _ right => left.params ++ right.params
  | .unary expr _ => expr.params
  | .between expr _ low high => expr.params ++ low.params ++ high.params

mutual
def Clause.params : Clause → List Nat
  | .test _ test => test.params
  | .group _ clauses => Condition.params clauses

def Condition.params : List Clause → List Nat
  | [] => []
  | clause :: clauses => clause.params ++ Condition.params clauses
end

def Join.params (join : Join) : List Nat := (join.on.map Condition.params).getD []

def Select.params (select : Select) : List Nat :=
  select.joins.flatMap Join.params ++ (select.filter.map Condition.params).getD [] ++
    (select.limit.map Expr.params).getD [] ++ (select.offset.map Expr.params).getD []

def Insert.params (insert : Insert) : List Nat := insert.values.flatMap Expr.params

def Update.params (update : Update) : List Nat :=
  update.set.flatMap (fun (_, value) => value.params) ++ update.joins.flatMap Join.params ++
    (update.filter.map Condition.params).getD []

def Delete.params (delete : Delete) : List Nat :=
  delete.joins.flatMap Join.params ++ (delete.filter.map Condition.params).getD []

namespace Statement

def params : Statement → List Nat
  | select body => body.params
  | insert body => body.params
  | update body => body.params
  | delete body => body.params

def maxParam (statement : Statement) : Nat := statement.params.foldl max 0

end Statement

end RecordSql
