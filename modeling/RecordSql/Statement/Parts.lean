import RecordSql.Statement.Basic

namespace RecordSql

structure ColumnCall where
  func : String
  column : ColumnRef
  deriving DecidableEq, Repr

namespace Expr

def columns : Expr → List ColumnRef
  | column ref => [ref]
  | call _ arg => arg.columns
  | _ => []

def calls : Expr → List ColumnCall
  | call func (column ref) => [⟨func, ref⟩]
  | call _ arg => arg.calls
  | _ => []

end Expr

def Test.columns : Test → List ColumnRef
  | compare left _ _ right => left.columns ++ right.columns
  | unary expr _ => expr.columns
  | between expr _ low high => expr.columns ++ low.columns ++ high.columns

def Test.calls : Test → List ColumnCall
  | compare left _ _ right => left.calls ++ right.calls
  | unary expr _ => expr.calls
  | between expr _ low high => expr.calls ++ low.calls ++ high.calls

mutual
def Clause.tests : Clause → List Test
  | .test _ test => [test]
  | .group _ clauses => Condition.tests clauses

def Condition.tests : List Clause → List Test
  | [] => []
  | clause :: clauses => clause.tests ++ Condition.tests clauses
end

mutual
def Clause.groups : Clause → List Condition
  | .test .. => []
  | .group _ clauses => clauses :: Condition.groups clauses

def Condition.groups : List Clause → List Condition
  | [] => []
  | clause :: clauses => clause.groups ++ Condition.groups clauses
end

def Condition.columns (condition : Condition) : List ColumnRef :=
  (Condition.tests condition).flatMap Test.columns

def filterTests (filter : Option Condition) : List Test := (filter.map Condition.tests).getD []

def filterColumns (filter : Option Condition) : List ColumnRef :=
  (filter.map Condition.columns).getD []

def Join.columns (join : Join) : List ColumnRef := filterColumns join.on

def Select.columnRefs (select : Select) : List ColumnRef :=
  select.columns ++ select.joins.flatMap Join.columns ++ filterColumns select.filter ++
    select.orderBy.map OrderItem.column ++ (select.limit.map Expr.columns).getD [] ++
    (select.offset.map Expr.columns).getD []

def Insert.columnRefs (insert : Insert) : List ColumnRef :=
  insert.values.flatMap Expr.columns ++ insert.returning

def Update.columnRefs (update : Update) : List ColumnRef :=
  update.set.flatMap (fun (_, value) => value.columns) ++ update.joins.flatMap Join.columns ++
    filterColumns update.filter ++ update.returning

def Delete.columnRefs (delete : Delete) : List ColumnRef :=
  delete.joins.flatMap Join.columns ++ filterColumns delete.filter ++ delete.returning

def OnConflict.names (conflict : OnConflict) : List String :=
  (match conflict.key with
    | some (.columns names) => names
    | _ => []) ++
  (match conflict.response with
    | .update names => names
    | .nothing => [])

namespace Statement

def columnRefs : Statement → List ColumnRef
  | select body => body.columnRefs
  | insert body => body.columnRefs
  | update body => body.columnRefs
  | delete body => body.columnRefs

def writtenNames : Statement → List String
  | insert body => body.columns ++ (body.onConflict.map OnConflict.names).getD []
  | update body => body.set.map Prod.fst
  | _ => []

def filter : Statement → Option Condition
  | select body => body.filter
  | insert _ => none
  | update body => body.filter
  | delete body => body.filter

def joins : Statement → List Join
  | select body => body.joins
  | insert _ => []
  | update body => body.joins
  | delete body => body.joins

/-- The tests of all conditions of a statement, those of the joins first. -/
def tests (statement : Statement) : List Test :=
  statement.joins.flatMap (fun join => filterTests join.on) ++ filterTests statement.filter

def calls (statement : Statement) : List ColumnCall := statement.tests.flatMap Test.calls

def projection : Statement → List ColumnRef
  | select body => body.columns
  | insert body => body.returning
  | update body => body.returning
  | delete body => body.returning

def returning : Statement → List ColumnRef
  | select _ => []
  | insert body => body.returning
  | update body => body.returning
  | delete body => body.returning

def conflict? : Statement → Option OnConflict
  | insert body => body.onConflict
  | _ => none

def changesRows : Statement → Bool
  | update _ | delete _ => true
  | _ => false

def tables : Statement → List TableRef
  | select body => body.source :: body.joins.map Join.table
  | insert body => [body.table]
  | update body => body.table :: body.source.toList ++ body.joins.map Join.table
  | delete body => body.table :: body.source.toList ++ body.joins.map Join.table

end Statement

end RecordSql
