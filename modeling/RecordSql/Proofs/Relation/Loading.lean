import RecordSql.Proofs.Catalog.Loading

namespace RecordSql

variable {α : Type} {server : Server} {query : Query} {before after : Transcript}

namespace Relation

def loadQueries (ref : RelationRef) (space : String) (oid : Oid) : List Query :=
  [relationQuery ref.name space, columnsQuery oid, constraintsQuery oid, indexesQuery oid]

/-- What a server says of a relation, when it has been asked other queries before and is now asked the
four for a relation. -/
structure ToldBy (server : Server) (asked : List Query) (catalog : Catalog) (ref : RelationRef)
    (space : String) (relation : Relation) : Prop where
  name_eq : relation.name = ref.name
  space_eq : relation.space = space
  key_eq : relation.key = ref.key
  head : ∃ row rows, server.answer asked (relationQuery ref.name space) = .ok (row :: rows) ∧
    row.HoldsOid 0 relation.oid ∧
    row.HoldsCode 1 (fun c => some (RelationKind.ofChar c)) relation.kind
  columns : server.Lists (asked ++ (loadQueries ref space relation.oid).take 1) (columnsQuery relation.oid)
    (fun row column => column.ToldBy catalog row) relation.columns
  constraints : server.Lists (asked ++ (loadQueries ref space relation.oid).take 2)
    (constraintsQuery relation.oid) (fun row constraint => constraint.ToldBy row) relation.constraints
  indexes : server.Lists (asked ++ (loadQueries ref space relation.oid).take 3)
    (indexesQuery relation.oid) (fun row index => index.ToldBy row) relation.indexes

theorem ask_outcome : (ask server query).outcome before =
    (((server.answer before.queries query).mapError .connection).mapError .catalog,
      before.asking [query]) :=
  rfl

theorem ask_eq_ok {rows : List Row} : (ask server query).outcome before = (.ok rows, after) ↔
    server.answer before.queries query = .ok rows ∧ after = before.asking [query] := by
  rw [ask_outcome, Prod.mk.injEq, mapError_eq_ok, mapError_eq_ok, eq_comm (a := after)]

theorem ofExcept_eq_ok {ε : Type} {result : Except ε α} {value : α} :
    (Task.ofExcept result).outcome before = (.ok value, after) ↔ result = .ok value ∧ after = before := by
  have outcome : (Task.ofExcept result).outcome before = (result, before) := rfl
  rw [outcome, Prod.mk.injEq, eq_comm (a := after)]

theorem askEach_eq_ok {decode : Row → Except CheckError α} {told : Row → α → Prop} {values : List α}
    (decodes : ∀ row value, decode row = .ok value ↔ told row value) :
    (askEach server query decode).outcome before = (.ok values, after) ↔
      server.Lists before.queries query told values ∧ after = before.asking [query] := by
  simp only [askEach, Task.outcome_bind_ok, ask_eq_ok, ofExcept_eq_ok, mapM_eq_ok, decodes]
  constructor
  · rintro ⟨rows, _, ⟨answered, rfl⟩, each, rfl⟩
    exact ⟨⟨rows, answered, each⟩, rfl⟩
  · rintro ⟨⟨rows, answered, each⟩, rfl⟩
    exact ⟨rows, _, ⟨answered, rfl⟩, each, rfl⟩

/-- A relation is read just where the server tells it in full, by four queries. -/
theorem load_eq_ok {catalog : Catalog} {ref : RelationRef} {space : String} {relation : Relation} :
    (load server catalog ref space).outcome before = (.ok relation, after) ↔
      relation.ToldBy server before.queries catalog ref space ∧
        after = before.asking (loadQueries ref space relation.oid) := by
  have columnRows (row : Row) (column : Column) :
      Column.ofRow catalog ref.name row = .ok column ↔ column.ToldBy catalog row := Column.ofRow_eq_ok
  have constraintRows (row : Row) (constraint : Constraint) :
      (liftM (Constraint.ofRow row) : Except CheckError Constraint) = .ok constraint ↔
        constraint.ToldBy row := liftCatalog_eq_ok.trans Constraint.ofRow_eq_ok
  have indexRows (row : Row) (index : Index) :
      (liftM (Index.ofRow row) : Except CheckError Index) = .ok index ↔ index.ToldBy row :=
    liftCatalog_eq_ok.trans Index.ofRow_eq_ok
  rw [load, Task.outcome_bind_ok]
  simp only [ask_eq_ok]
  constructor
  · rintro ⟨rows, _, ⟨answered, rfl⟩, rest⟩
    cases rows with
    | nil => cases rest
    | cons row rows =>
      simp only [Task.outcome_bind_ok, ofExcept_eq_ok, liftCatalog_eq_ok, askEach_eq_ok columnRows,
        askEach_eq_ok constraintRows, askEach_eq_ok indexRows] at rest
      obtain ⟨⟨oid, kind⟩, _, ⟨head, rfl⟩, columns, _, ⟨columnsTold, rfl⟩, constraints, _,
        ⟨constraintsTold, rfl⟩, indexes, _, ⟨indexesTold, rfl⟩, last⟩ := rest
      cases last
      simp only [Transcript.asking_queries, Transcript.asking_asking] at columnsTold constraintsTold indexesTold
      refine ⟨⟨rfl, rfl, rfl, ⟨row, rows, answered, headOfRow_eq_ok.mp head⟩, columnsTold, constraintsTold,
        indexesTold⟩, ?_⟩
      simp [loadQueries]
  · rintro ⟨told, rfl⟩
    obtain ⟨row, rows, answered, head⟩ := told.head
    refine ⟨row :: rows, _, ⟨answered, rfl⟩, ?_⟩
    simp only [Task.outcome_bind_ok, ofExcept_eq_ok, liftCatalog_eq_ok, askEach_eq_ok columnRows,
      askEach_eq_ok constraintRows, askEach_eq_ok indexRows]
    refine ⟨_, _, ⟨headOfRow_eq_ok.mpr head, rfl⟩, relation.columns, _, ⟨told.columns, rfl⟩,
      relation.constraints, _, ⟨?_, rfl⟩, relation.indexes, _, ⟨?_, rfl⟩, ?_⟩
    · simpa [loadQueries] using told.constraints
    · simpa [loadQueries] using told.indexes
    · simp only [← told.name_eq, ← told.space_eq, ← told.key_eq, loadQueries, Transcript.asking_asking]
      rfl

end Relation

end RecordSql
