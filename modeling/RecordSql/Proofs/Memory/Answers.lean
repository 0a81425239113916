import Mathlib.Data.List.Nodup
import RecordSql.Memory.Database

namespace RecordSql.MemoryDatabase

variable (database : MemoryDatabase)

/-- The query is not one that is to fail. -/
def Serves (query : Query) : Prop :=
  ∀ start, database.failing = some start → ¬ start.toList <+: query.sql.toList

theorem answer_of_serves {database : MemoryDatabase} {query : Query} (serves : database.Serves query) :
    database.answer query = database.answerQuery query := by
  unfold answer
  rw [if_neg]
  intro fails
  obtain ⟨start, failing, starts⟩ := (Option.any_eq_true _ _).mp fails
  exact serves start failing (List.isPrefixOf_iff_prefix.mp starts)

def queryTexts : List String :=
  [Relation.indexesSql, Relation.constraintsSql, Relation.columnsSql, Relation.relationSql,
   Catalog.olderProceduresQuery.sql, Catalog.proceduresQuery.sql, Catalog.castsQuery.sql,
   Catalog.operatorsQuery.sql, Catalog.typesQuery.sql, Catalog.versionQuery.sql,
   Catalog.currentDatabaseQuery.sql]

theorem queryTexts_nodup : queryTexts.Nodup := by decide +kernel

structure AnswersByText : Prop where
  version : database.answerQuery Catalog.versionQuery = .ok [⟨[.text (toString database.version)]⟩]
  types : database.answerQuery Catalog.typesQuery = .ok (database.types.map typeRow)
  operators : database.answerQuery Catalog.operatorsQuery = .ok (database.operators.map operatorRow)
  casts : database.answerQuery Catalog.castsQuery = .ok (database.casts.map castRow)
  procedures (version : Int) : database.answerQuery (Catalog.proceduresQueryFor version) =
    .ok (database.procedures.map procedureRow)
  relation (name space : String) : database.answerQuery (Relation.relationQuery name space) =
    .ok ((database.tables.filter fun table => table.name == name && table.space == space).map
      MemoryTable.relationRow)
  columns (oid : Oid) : database.answerQuery (Relation.columnsQuery oid) =
    .ok (database.tableRows [.oid oid] MemoryTable.columnRows)
  constraints (oid : Oid) : database.answerQuery (Relation.constraintsQuery oid) =
    .ok (database.tableRows [.oid oid] MemoryTable.constraintRows)
  indexes (oid : Oid) : database.answerQuery (Relation.indexesQuery oid) =
    .ok (database.tableRows [.oid oid] MemoryTable.indexRows)

theorem answersByText : database.AnswersByText := by
  have distinct := queryTexts_nodup
  simp only [queryTexts, List.nodup_cons, List.mem_cons, List.not_mem_nil, or_false, not_or] at distinct
  constructor
  case procedures =>
    intro version
    unfold Catalog.proceduresQueryFor
    split <;> simp only [answerQuery, distinct, if_false, if_true, true_or, or_true]
  all_goals
    intros
    simp only [answerQuery, Relation.relationQuery, Relation.columnsQuery, Relation.constraintsQuery,
      Relation.indexesQuery, distinct, if_false, if_true, or_self, relationRows]

end RecordSql.MemoryDatabase
