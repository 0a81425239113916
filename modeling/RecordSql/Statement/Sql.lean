import RecordSql.Statement.Identifier

namespace RecordSql

def commaList (items : List String) : String := ", ".intercalate items

def qualifierSql (qualifier : Option String) : String :=
  (qualifier.map fun q => identifierSql q ++ ".").getD ""

def ColumnRef.sql (column : ColumnRef) : String :=
  qualifierSql column.qualifier ++ identifierSql column.name

def TableRef.sql (table : TableRef) : String :=
  qualifierSql table.space ++ identifierSql table.name ++
    (table.aliasName.map fun a => " AS " ++ identifierSql a).getD ""

def Expr.sql : Expr → String
  | .column ref => ref.sql
  | .param ordinal => "$" ++ toString ordinal
  | .literal text => text
  | .default => "DEFAULT"
  | .call func arg => func ++ "(" ++ arg.sql ++ ")"
  | .excluded name => "EXCLUDED." ++ identifierSql name

/-- Membership without a quantifier has an operator of its own. -/
def CompareOp.bareSql : CompareOp → String
  | .isIn => "IN"
  | .notIn => "NOT IN"
  | op => op.sql

def Test.sql : Test → String
  | .compare left op (some quantifier) right =>
    left.sql ++ " " ++ op.sql ++ " " ++ quantifier.sql ++ "(" ++ right.sql ++ ")"
  | .compare left op none right => left.sql ++ " " ++ op.bareSql ++ " " ++ right.sql
  | .unary expr op => expr.sql ++ " " ++ op.sql
  | .between expr op low high =>
    expr.sql ++ " " ++ op.sql ++ " " ++ low.sql ++ " AND " ++ high.sql

def Clause.connector : Clause → Connector
  | .test connector _ => connector
  | .group connector _ => connector

mutual
def Clause.bodySql : Clause → String
  | .test _ test => test.sql
  | .group _ clauses => "(" ++ Condition.sql clauses ++ ")"

/-- The first clause is written without its connector, the others with it. -/
def Condition.sql : List Clause → String
  | [] => ""
  | clause :: clauses => clause.bodySql ++ Condition.restSql clauses

def Condition.restSql : List Clause → String
  | [] => ""
  | clause :: clauses =>
    " " ++ clause.connector.sql ++ " " ++ clause.bodySql ++ Condition.restSql clauses
end

def Join.sql (join : Join) : String :=
  join.kind.sql ++ " " ++ join.table.sql ++
    (join.on.map fun on => " ON " ++ Condition.sql on).getD ""

def NullsOrder.sql : NullsOrder → String
  | .first => "NULLS FIRST"
  | .last => "NULLS LAST"

def OrderItem.sql (item : OrderItem) : String :=
  item.column.sql ++ (if item.descending then " DESC" else "") ++
    (item.nulls.map fun nulls => " " ++ nulls.sql).getD ""

def joinsSql (joins : List Join) : String := String.join (joins.map fun join => " " ++ join.sql)

def filterSql : Option Condition → String
  | some (clause :: clauses) => " WHERE " ++ Condition.sql (clause :: clauses)
  | _ => ""

def returningSql (columns : List ColumnRef) : String :=
  if columns.isEmpty then "" else " RETURNING " ++ commaList (columns.map ColumnRef.sql)

def partSql (word : String) (part : Option Expr) : String :=
  (part.map fun expr => " " ++ word ++ " " ++ expr.sql).getD ""

def Select.sql (select : Select) : String :=
  "SELECT " ++ commaList (select.columns.map ColumnRef.sql) ++ " FROM " ++ select.source.sql ++
    joinsSql select.joins ++ filterSql select.filter ++
    (if select.orderBy.isEmpty then ""
      else " ORDER BY " ++ commaList (select.orderBy.map OrderItem.sql)) ++
    partSql "LIMIT" select.limit ++ partSql "OFFSET" select.offset

def ConflictKey.sql : ConflictKey → String
  | .columns names => " (" ++ commaList (names.map identifierSql) ++ ")"
  | .constraint name => " ON CONSTRAINT " ++ identifierSql name

def assignmentSql (column : String) (value : Expr) : String :=
  identifierSql column ++ " = " ++ value.sql

def ConflictResponse.sql : ConflictResponse → String
  | .nothing => " DO NOTHING"
  | .update columns =>
    " DO UPDATE SET " ++ commaList (columns.map fun column => assignmentSql column (.excluded column))

def OnConflict.sql (conflict : OnConflict) : String :=
  " ON CONFLICT" ++ (conflict.key.map ConflictKey.sql).getD "" ++ conflict.response.sql

def Insert.sql (insert : Insert) : String :=
  "INSERT INTO " ++ insert.table.sql ++
    (if insert.columns.isEmpty then " DEFAULT VALUES"
      else " (" ++ commaList (insert.columns.map identifierSql) ++ ") VALUES (" ++
        commaList (insert.values.map Expr.sql) ++ ")") ++
    (insert.onConflict.map OnConflict.sql).getD "" ++ returningSql insert.returning

def sourceSql (word : String) (source : Option TableRef) (joins : List Join) : String :=
  (source.map fun table => " " ++ word ++ " " ++ table.sql ++ joinsSql joins).getD ""

def Update.sql (update : Update) : String :=
  "UPDATE " ++ update.table.sql ++ " SET " ++
    commaList (update.set.map fun (column, value) => assignmentSql column value) ++
    sourceSql "FROM" update.source update.joins ++ filterSql update.filter ++
    returningSql update.returning

def Delete.sql (delete : Delete) : String :=
  "DELETE FROM " ++ delete.table.sql ++ sourceSql "USING" delete.source delete.joins ++
    filterSql delete.filter ++ returningSql delete.returning

def Statement.sql : Statement → String
  | .select body => body.sql
  | .insert body => body.sql
  | .update body => body.sql
  | .delete body => body.sql

end RecordSql
