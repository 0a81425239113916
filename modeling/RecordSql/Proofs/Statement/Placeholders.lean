import Mathlib.Order.MinMax
import RecordSql.Proofs.Statement.Lowering
import RecordSql.Proofs.Statement.Template

/-!
Parameters as they are written. Other numbers for the parameters of a statement change its text in just the
places that its list of parameters names, one place after the other.
-/
namespace RecordSql

variable (number : Nat → Nat)

def Expr.renumber : Expr → Expr
  | .param ordinal => .param (number ordinal)
  | .call func arg => .call func arg.renumber
  | .column ref => .column ref
  | .literal text => .literal text
  | .default => .default
  | .excluded name => .excluded name

def Test.renumber : Test → Test
  | .compare left op quantifier right =>
    .compare (left.renumber number) op quantifier (right.renumber number)
  | .unary expr op => .unary (expr.renumber number) op
  | .between expr op low high =>
    .between (expr.renumber number) op (low.renumber number) (high.renumber number)

mutual
def Clause.renumber : Clause → Clause
  | .test connector test => .test connector (test.renumber number)
  | .group connector clauses => .group connector (Condition.renumber clauses)

def Condition.renumber : List Clause → List Clause
  | [] => []
  | clause :: clauses => clause.renumber :: Condition.renumber clauses
end

def Join.renumber (join : Join) : Join :=
  { join with on := join.on.map (Condition.renumber number) }

def Select.renumber (select : Select) : Select :=
  { select with
    joins := select.joins.map (Join.renumber number)
    filter := select.filter.map (Condition.renumber number)
    limit := select.limit.map (Expr.renumber number)
    offset := select.offset.map (Expr.renumber number) }

def Insert.renumber (insert : Insert) : Insert :=
  { insert with values := insert.values.map (Expr.renumber number) }

def Update.renumber (update : Update) : Update :=
  { update with
    set := update.set.map fun (column, value) => (column, value.renumber number)
    joins := update.joins.map (Join.renumber number)
    filter := update.filter.map (Condition.renumber number) }

def Delete.renumber (delete : Delete) : Delete :=
  { delete with
    joins := delete.joins.map (Join.renumber number)
    filter := delete.filter.map (Condition.renumber number) }

def Statement.renumber : Statement → Statement
  | .select body => .select (body.renumber number)
  | .insert body => .insert (body.renumber number)
  | .update body => .update (body.renumber number)
  | .delete body => .delete (body.renumber number)

theorem Expr.prints (expr : Expr) : Prints (fun number => (expr.renumber number).sql) expr.params := by
  induction expr with
  | param ordinal => exact prints_param ordinal
  | call func arg ih => exact (ih.behind (func ++ "(")).before ")"
  | column | literal | default | excluded => exact prints_text _

theorem Test.prints (test : Test) : Prints (fun number => (test.renumber number).sql) test.params := by
  cases test with
  | compare left op quantifier right =>
    cases quantifier with
    | none => exact ((left.prints.before " ").before op.bareSql |>.before " ").append right.prints
    | some quantifier =>
      have start := ((left.prints.before " ").before op.sql |>.before " ").before quantifier.sql
      exact ((start.before "(").append right.prints).before ")"
  | unary expr op => exact (expr.prints.before " ").before op.sql
  | between expr op low high =>
    have start := ((expr.prints.before " ").before op.sql).before " "
    exact ((start.append low.prints).before " AND ").append high.prints

theorem Clause.connector_renumber (clause : Clause) :
    (clause.renumber number).connector = clause.connector := by
  cases clause <;> rfl

mutual
theorem Clause.prints (clause : Clause) :
    Prints (fun number => (clause.renumber number).bodySql) clause.params := by
  cases clause with
  | test connector test => exact test.prints
  | group connector clauses => exact ((Condition.prints clauses).behind "(").before ")"

theorem Condition.prints (clauses : Condition) :
    Prints (fun number => Condition.sql (Condition.renumber number clauses)) (Condition.params clauses) := by
  cases clauses with
  | nil => exact prints_text ""
  | cons clause clauses => exact clause.prints.append (Condition.prints_rest clauses)

theorem Condition.prints_rest (clauses : Condition) :
    Prints (fun number => Condition.restSql (Condition.renumber number clauses))
      (Condition.params clauses) := by
  cases clauses with
  | nil => exact prints_text ""
  | cons clause clauses =>
    simp only [Condition.renumber, Condition.restSql, Clause.connector_renumber]
    exact (clause.prints.behind _).append (Condition.prints_rest clauses)
end

theorem Join.prints (join : Join) : Prints (fun number => (join.renumber number).sql) join.params := by
  have on := prints_optional join.on fun condition => (Condition.prints condition).behind " ON "
  have whole := on.behind (join.kind.sql ++ " " ++ join.table.sql)
  simpa only [Join.sql, Join.renumber, Join.params, Option.map_map, Function.comp_def] using whole

theorem prints_joins (joins : List Join) :
    Prints (fun number => joinsSql (joins.map (Join.renumber number))) (joins.flatMap Join.params) := by
  have each := prints_join (fun join : Join => join.prints.behind " ") joins
  simpa only [joinsSql, List.map_map, Function.comp_def] using each

theorem prints_filter (filter : Option Condition) :
    Prints (fun number => filterSql (filter.map (Condition.renumber number)))
      ((filter.map Condition.params).getD []) := by
  match filter with
  | none => exact prints_text ""
  | some [] => exact prints_text ""
  | some (clause :: clauses) => exact (Condition.prints (clause :: clauses)).behind " WHERE "

theorem prints_part (word : String) (part : Option Expr) :
    Prints (fun number => partSql word (part.map (Expr.renumber number)))
      ((part.map Expr.params).getD []) := by
  have each := prints_optional part fun expr => expr.prints.behind (" " ++ word ++ " ")
  simpa only [partSql, Option.map_map, Function.comp_def] using each

theorem prints_source (word : String) (source : Option TableRef) (joins : List Join)
    (shown : source = none → joins = []) :
    Prints (fun number => sourceSql word source (joins.map (Join.renumber number)))
      (joins.flatMap Join.params) := by
  cases source with
  | none =>
    rw [shown rfl]
    exact prints_text ""
  | some table => exact (prints_joins joins).behind (" " ++ word ++ " " ++ table.sql)

theorem prints_assignments (set : List (String × Expr)) :
    Prints (fun number => commaList ((set.map fun (column, value) => (column, value.renumber number)).map
        fun (column, value) => assignmentSql column value))
      (set.flatMap fun (_, value) => value.params) := by
  have each := prints_commaList (fun assigned : String × Expr =>
    assigned.2.prints.behind (identifierSql assigned.1 ++ " = ")) set
  simpa only [assignmentSql, List.map_map, Function.comp_def] using each

theorem Select.prints (select : Select) :
    Prints (fun number => (select.renumber number).sql) select.params := by
  have start := (prints_joins select.joins).behind
    ("SELECT " ++ commaList (select.columns.map ColumnRef.sql) ++ " FROM " ++ select.source.sql)
  have rows := (start.append (prints_filter select.filter)).before
    (if select.orderBy.isEmpty then "" else " ORDER BY " ++ commaList (select.orderBy.map OrderItem.sql))
  exact (rows.append (prints_part "LIMIT" select.limit)).append (prints_part "OFFSET" select.offset)

namespace Statement

/-- The joins of a write stand behind a source, and the values of an insert behind its columns. -/
def ShowsParts : Statement → Prop
  | select _ => True
  | insert body => body.columns = [] → body.values = []
  | update body => body.source = none → body.joins = []
  | delete body => body.source = none → body.joins = []

end Statement

theorem Lowering.joins_of_no_source (lowering : Lowering) (before : List ArgSource)
    (none : (lowering.sourceParts.run before).1.1 = none) :
    (lowering.sourceParts.run before).1.2.1 = [] := by
  unfold sourceParts at none ⊢
  cases items : lowering.command.joinItems with
  | nil => rfl
  | cons first rest =>
    rw [items] at none
    cases none

theorem showsParts_of_lower {checked : CheckedCommand} {bound : BoundStatement}
    (lower : checked.lower = .ok (.statement bound)) : bound.statement.ShowsParts := by
  obtain ⟨lowering, gives⟩ := Lowering.gives_of_lower lower
  obtain ⟨build, builds, ran⟩ := gives.builds
  rw [← (Prod.mk.inj ran).1]
  cases builds with
  | select => trivial
  | insert =>
    intro unwritten
    have nothing : lowering.checked.writes = [] := List.map_eq_nil_iff.mp unwritten
    change ((lowering.checked.writes.mapM fun write => lowering.writeValue write.value).run []).1 = []
    rw [nothing]
    rfl
  | update => exact lowering.joins_of_no_source _
  | delete => exact lowering.joins_of_no_source _

theorem Insert.prints (insert : Insert) (shown : insert.columns = [] → insert.values = []) :
    Prints (fun number => (insert.renumber number).sql) insert.params := by
  have values : Prints (fun number =>
      if insert.columns.isEmpty then " DEFAULT VALUES"
      else " (" ++ commaList (insert.columns.map identifierSql) ++ ") VALUES (" ++
        commaList ((insert.values.map (Expr.renumber number)).map Expr.sql) ++ ")") insert.params := by
    cases columns : insert.columns with
    | nil =>
      simp only [Insert.params, shown columns]
      exact prints_text _
    | cons column rest =>
      have each := (prints_commaList Expr.prints insert.values).behind
        (" (" ++ commaList ((column :: rest).map identifierSql) ++ ") VALUES (")
      simpa only [Insert.params, List.isEmpty_cons, Bool.false_eq_true, if_false, List.map_map,
        Function.comp_def] using each.before ")"
  have start := values.behind ("INSERT INTO " ++ insert.table.sql)
  exact (start.before ((insert.onConflict.map OnConflict.sql).getD "")).before
    (returningSql insert.returning)

theorem Update.prints (update : Update) (shown : update.source = none → update.joins = []) :
    Prints (fun number => (update.renumber number).sql) update.params := by
  have start := (prints_assignments update.set).behind ("UPDATE " ++ update.table.sql ++ " SET ")
  have rows := (start.append (prints_source "FROM" update.source update.joins shown)).append
    (prints_filter update.filter)
  exact rows.before (returningSql update.returning)

theorem Delete.prints (delete : Delete) (shown : delete.source = none → delete.joins = []) :
    Prints (fun number => (delete.renumber number).sql) delete.params := by
  have start := (prints_source "USING" delete.source delete.joins shown).behind
    ("DELETE FROM " ++ delete.table.sql)
  exact (start.append (prints_filter delete.filter)).before (returningSql delete.returning)

namespace Statement

theorem prints (statement : Statement) (shown : statement.ShowsParts) :
    Prints (fun number => (statement.renumber number).sql) statement.params := by
  cases statement with
  | select body => exact body.prints
  | insert body => exact body.prints shown
  | update body => exact body.prints shown
  | delete body => exact body.prints shown

theorem maxParam_eq (statement : Statement) : statement.maxParam = statement.params.max?.getD 0 := by
  rw [maxParam, List.foldl_max]
  exact Nat.zero_max _

/-- The text of the statement with any numbers for its parameters is the template with these numbers. -/
def HasTemplate (statement : Statement) (template : Template) : Prop :=
  ∀ number, (statement.renumber number).sql = template.fill number

/-- A statement that writes all its parts has just one template. The gaps of the template are those of the
listed parameters, in order, and the highest parameter is the largest of them. -/
theorem params_as_written (statement : Statement) (shown : statement.ShowsParts) :
    (∃ template, statement.HasTemplate template ∧ template.ordinals = statement.params ∧
      ∀ other, statement.HasTemplate other → other = template) ∧
    statement.maxParam = statement.params.max?.getD 0 := by
  obtain ⟨template, ordinals, fills⟩ := statement.prints shown
  refine ⟨⟨template, fills, ordinals, fun other also => ?_⟩, statement.maxParam_eq⟩
  exact Template.eq_of_fill_eq fun number => (also number).symm.trans (fills number)

def retitlePosts : Statement := .update
  { table := { name := "posts", aliasName := some "p" }
    set := [("title", .call "upper" (.param 1)), ("published", .default)]
    source := some { name := "users", aliasName := some "u" }
    joins := [⟨.left, { name := "posts", aliasName := some "q" },
      some [.test .and (.compare (.column ⟨some "q", "id"⟩) .eq none (.param 4))]⟩]
    filter := some
      [.group .and [.test .and (.between (.column ⟨some "u", "id"⟩) .between (.param 7) (.param 2)),
        .test .or (.unary (.column ⟨some "u", "email"⟩) .isNull)],
       .test .or (.compare (.literal "$9") .eq (some .any) (.param 4))]
    returning := [⟨some "p", "id"⟩] }

theorem params_as_written_retitlePosts :
    retitlePosts.ShowsParts ∧ (∃ template, retitlePosts.HasTemplate template ∧
      template.ordinals = [1, 4, 7, 2, 4]) ∧ retitlePosts.maxParam = 7 := by
  have shown : retitlePosts.ShowsParts := fun none => by cases none
  obtain ⟨⟨template, fills, ordinals, _⟩, highest⟩ := params_as_written retitlePosts shown
  exact ⟨shown, ⟨template, fills, ordinals⟩, highest⟩

end Statement

end RecordSql
