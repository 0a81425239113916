import RecordSql.Report.Command
import RecordSql.Report.Database
import RecordSql.Statement.Sql

namespace RecordSql

def TableRef.report (table : TableRef) : Json :=
  .obj [("namespace", .optStr table.space), ("name", .str table.name),
    ("alias", .optStr table.aliasName), ("key", .str table.key)]

def Expr.report : Expr → Json
  | .column ref => .obj [("col", ref.report)]
  | .param ordinal => .obj [("param", .ofNat ordinal)]
  | .literal text => .obj [("lit", .str text)]
  | .default => .obj [("default", .bool true)]
  | .call func arg => .obj [("call", .arr [.str func, arg.report])]
  | .excluded name => .obj [("excluded", .str name)]

def Test.report : Test → Json
  | .compare left op quantifier right =>
    .obj [("compare", .obj [("left", left.report), ("op", .str op.label),
      ("quantifier", Quantifier.report quantifier), ("right", right.report)])]
  | .unary expr op => .obj [("unary", .obj [("expr", expr.report), ("op", .str op.label)])]
  | .between expr op low high =>
    .obj [("between", .obj [("expr", expr.report), ("op", .str op.label), ("low", low.report),
      ("high", high.report)])]

mutual
def Clause.report : Clause → Json
  | .test connector test => .arr [.str connector.sql, test.report]
  | .group connector clauses =>
    .arr [.str connector.sql, .obj [("group", .arr (Condition.reports clauses))]]

def Condition.reports : List Clause → List Json
  | [] => []
  | clause :: clauses => clause.report :: Condition.reports clauses
end

def Condition.report (condition : Option Condition) : Json :=
  .ofOption (fun clauses => .arr (Condition.reports clauses)) condition

def Join.report (join : Join) : Json :=
  .obj [("kind", .str join.kind.label), ("table", join.table.report),
    ("on", Condition.report join.on)]

def joinsReport (joins : List Join) : Json := .arr (joins.map Join.report)

def returningReport (columns : List ColumnRef) : Json := .arr (columns.map ColumnRef.report)

def Select.report (select : Select) : Json :=
  .obj [("columns", .arr (select.columns.map ColumnRef.report)), ("from", select.source.report),
    ("joins", joinsReport select.joins), ("filter", Condition.report select.filter),
    ("order_by", .arr (select.orderBy.map OrderItem.report)),
    ("limit", .ofOption Expr.report select.limit),
    ("offset", .ofOption Expr.report select.offset)]

def ConflictKey.report : ConflictKey → Json
  | .columns names => .obj [("columns", .arr (names.map .str))]
  | .constraint name => .obj [("constraint", .str name)]

def ConflictResponse.report : ConflictResponse → Json
  | .nothing => .str "nothing"
  | .update columns => .obj [("update", .arr (columns.map .str))]

def OnConflict.report (conflict : OnConflict) : Json :=
  .obj [("target", .ofOption ConflictKey.report conflict.key),
    ("action", conflict.response.report)]

def Insert.report (insert : Insert) : Json :=
  .obj [("table", insert.table.report), ("columns", .arr (insert.columns.map .str)),
    ("values", .arr (insert.values.map Expr.report)),
    ("on_conflict", .ofOption OnConflict.report insert.onConflict),
    ("returning", returningReport insert.returning)]

def Update.report (update : Update) : Json :=
  .obj [("table", update.table.report),
    ("set", .arr (update.set.map fun (column, value) => .arr [.str column, value.report])),
    ("from", .ofOption TableRef.report update.source), ("joins", joinsReport update.joins),
    ("filter", Condition.report update.filter), ("returning", returningReport update.returning)]

def Delete.report (delete : Delete) : Json :=
  .obj [("table", delete.table.report), ("using", .ofOption TableRef.report delete.source),
    ("joins", joinsReport delete.joins), ("filter", Condition.report delete.filter),
    ("returning", returningReport delete.returning)]

def Statement.report : Statement → Json
  | .select body => .obj [("select", body.report)]
  | .insert body => .obj [("insert", body.report)]
  | .update body => .obj [("update", body.report)]
  | .delete body => .obj [("delete", body.report)]

def ArgSource.report : ArgSource → Json
  | .input field adapter =>
    .obj [("source", .str "input"), ("field", .str field), ("adapter", adapter.report)]
  | .predicate field signature =>
    .obj [("source", .str "predicate"), ("field", .str field), ("signature", .str signature)]
  | .limit field => .obj [("source", .str "limit"), ("field", .str field)]
  | .offset field => .obj [("source", .str "offset"), ("field", .str field)]

def FilterColumn.report (column : FilterColumn) : Json :=
  .obj [("field", .str column.field), ("column", .str column.column),
    ("adapter", column.adapter.report)]

def FilterMap.report (map : FilterMap) : Json :=
  .obj [("relation", .str map.relation), ("columns", .arr (map.columns.map FilterColumn.report)),
    ("text_search", .optStr map.textSearch)]

end RecordSql
