import RecordSql.Catalog.Load
import RecordSql.Proofs.Relation.Decoding

namespace RecordSql

def Transcript.asking (before : Transcript) (queries : List Query) : Transcript :=
  { before with queries := before.queries ++ queries }

@[simp] theorem Transcript.asking_queries (before : Transcript) (queries : List Query) :
    (before.asking queries).queries = before.queries ++ queries := rfl

@[simp] theorem Transcript.asking_asking (before : Transcript) (queries more : List Query) :
    (before.asking queries).asking more = before.asking (queries ++ more) := by
  simp [asking]

def Transcript.telling (before : Transcript) (event : TraceEvent) : Transcript :=
  { before with events := before.events ++ [event] }

/-- The server answers a query with rows that tell of the values, one row of each. -/
def Server.Lists {α : Type} (server : Server) (asked : List Query) (query : Query) (told : Row → α → Prop)
    (values : List α) : Prop :=
  ∃ rows, server.answer asked query = .ok rows ∧ List.Forall₂ told rows values

namespace Catalog

variable {α : Type} {server : Server} {query : Query} {decode : Row → Except CatalogError α}
  {before after : Transcript} {failure : CatalogError}

def loadQueries (version : Int) : List Query :=
  [versionQuery, typesQuery, operatorsQuery, castsQuery, proceduresQueryFor version]

/-- What a server says of its version and its catalogue, when it has been asked other queries before and
is now asked the five for a catalogue. -/
structure Tells (server : Server) (asked : List Query) (version : Int) (catalog : Catalog) : Prop where
  versioned : ∃ row rows, server.answer asked versionQuery = .ok (row :: rows) ∧ row.HoldsVersion version
  types : server.Lists (asked ++ (loadQueries version).take 1) typesQuery
    (fun row type => type.ToldBy row) catalog.types
  operators : server.Lists (asked ++ (loadQueries version).take 2) operatorsQuery
    (fun row op => op.ToldBy row) catalog.operators
  casts : server.Lists (asked ++ (loadQueries version).take 3) castsQuery
    (fun row cast => cast.ToldBy row) catalog.casts
  procedures : server.Lists (asked ++ (loadQueries version).take 4) (proceduresQueryFor version)
    CatalogProcedure.ToldBy catalog.procedureRows

theorem ask_outcome : (ask server query).outcome before =
    ((server.answer before.queries query).mapError .connection, before.asking [query]) :=
  rfl

theorem askEach_outcome : (askEach server query decode).outcome before =
    ((server.answer before.queries query).mapError .connection >>= fun rows => rows.mapM decode,
      before.asking [query]) := by
  rw [askEach, Task.outcome_bind, ask_outcome]
  cases server.answer before.queries query <;> rfl

theorem askEach_eq_ok {told : Row → α → Prop} {values : List α}
    (decodes : ∀ {row value}, decode row = .ok value ↔ told row value) :
    (askEach server query decode).outcome before = (.ok values, after) ↔
      server.Lists before.queries query told values ∧ after = before.asking [query] := by
  rw [askEach_outcome, Prod.mk.injEq, bind_eq_ok]
  simp only [mapError_eq_ok, mapM_eq_ok, decodes, Server.Lists, eq_comm (a := after)]

theorem askEach_eq_error (failed : (askEach server query decode).outcome before = (.error failure, after)) :
    after = before.asking [query] := by
  rw [askEach_outcome, Prod.mk.injEq] at failed
  exact failed.2.symm

theorem serverVersion_outcome : (serverVersion server).outcome before =
    ((server.answer before.queries versionQuery).mapError .connection >>= fun rows => match rows with
      | row :: _ => readVersion row
      | [] => .error (.noRows "server_version_num"), before.asking [versionQuery]) := by
  rw [serverVersion, askFirst, Task.outcome_bind, ask_outcome]
  rcases server.answer before.queries versionQuery with _ | _ | _ <;> rfl

theorem serverVersion_eq_ok {version : Int} :
    (serverVersion server).outcome before = (.ok version, after) ↔
      (∃ row rows, server.answer before.queries versionQuery = .ok (row :: rows) ∧
        row.HoldsVersion version) ∧ after = before.asking [versionQuery] := by
  rw [serverVersion_outcome, Prod.mk.injEq, bind_eq_ok, eq_comm (a := after)]
  refine and_congr_left fun _ => ?_
  simp only [mapError_eq_ok, ← readVersion_eq_ok]
  constructor
  · rintro ⟨rows, answered, read⟩
    cases rows with
    | nil => cases read
    | cons row rows => exact ⟨row, rows, answered, read⟩
  · rintro ⟨row, rows, answered, read⟩
    exact ⟨row :: rows, answered, read⟩

theorem serverVersion_eq_error
    (failed : (serverVersion server).outcome before = (.error failure, after)) :
    after = before.asking [versionQuery] := by
  rw [serverVersion_outcome, Prod.mk.injEq] at failed
  exact failed.2.symm

/-- A catalogue is read just where the server tells it in full, by five queries. -/
theorem load_eq_ok {catalog : Catalog} : (load server).outcome before = (.ok catalog, after) ↔
    ∃ version, Tells server before.queries version catalog ∧
      after = before.asking (loadQueries version) := by
  simp only [load, Task.outcome_bind_ok, serverVersion_eq_ok, askEach_eq_ok CatalogType.ofRow_eq_ok,
    askEach_eq_ok CatalogOperator.ofRow_eq_ok, askEach_eq_ok CatalogCast.ofRow_eq_ok,
    askEach_eq_ok CatalogProcedure.ofRow_eq_ok]
  constructor
  · rintro ⟨version, _, ⟨versioned, rfl⟩, types, _, ⟨typed, rfl⟩, operators, _, ⟨operated, rfl⟩,
      casts, _, ⟨converted, rfl⟩, procedures, _, ⟨called, rfl⟩, last⟩
    cases last
    simp only [Transcript.asking_queries, Transcript.asking_asking] at typed operated converted called ⊢
    exact ⟨version, ⟨versioned, typed, operated, converted, called⟩, rfl⟩
  · rintro ⟨version, tells, rfl⟩
    refine ⟨version, _, ⟨tells.versioned, rfl⟩, catalog.types, _, ⟨tells.types, rfl⟩,
      catalog.operators, _, ⟨?_, rfl⟩, catalog.casts, _, ⟨?_, rfl⟩, catalog.procedureRows, _,
      ⟨?_, rfl⟩, ?_⟩
    · simpa [loadQueries] using tells.operators
    · simpa [loadQueries] using tells.casts
    · simpa [loadQueries] using tells.procedures
    · simp [loadQueries]
      rfl

theorem Tells.unique {asked : List Query} {version version' : Int} {catalog catalog' : Catalog}
    (tells : Tells server asked version catalog) (tells' : Tells server asked version' catalog') :
    catalog = catalog' ∧ loadQueries version = loadQueries version' := by
  have read {version : Int} {catalog : Catalog} (tells : Tells server asked version catalog) :
      (load server).outcome { queries := asked } =
        (.ok catalog, Transcript.asking { queries := asked } (loadQueries version)) :=
    load_eq_ok.mpr ⟨version, tells, rfl⟩
  have same := (read tells).symm.trans (read tells')
  simpa [Transcript.asking] using same

theorem load_eq_error (failed : (load server).outcome before = (.error failure, after)) :
    ∃ version count, after = before.asking ((loadQueries version).take (count + 1)) := by
  simp only [load, Task.outcome_bind_error, serverVersion_eq_ok, askEach_eq_ok CatalogType.ofRow_eq_ok,
    askEach_eq_ok CatalogOperator.ofRow_eq_ok, askEach_eq_ok CatalogCast.ofRow_eq_ok] at failed
  obtain first | ⟨version, _, ⟨_, rfl⟩, failed⟩ := failed
  · exact ⟨0, 0, serverVersion_eq_error first⟩
  obtain second | ⟨_, _, ⟨_, rfl⟩, failed⟩ := failed
  · exact ⟨version, 1, by simpa [loadQueries] using askEach_eq_error second⟩
  obtain third | ⟨_, _, ⟨_, rfl⟩, failed⟩ := failed
  · exact ⟨version, 2, by simpa [loadQueries] using askEach_eq_error third⟩
  obtain fourth | ⟨_, _, ⟨_, rfl⟩, failed⟩ := failed
  · exact ⟨version, 3, by simpa [loadQueries] using askEach_eq_error fourth⟩
  obtain fifth | ⟨_, _, _, returned⟩ := failed
  · exact ⟨version, 4, by simpa [loadQueries] using askEach_eq_error fifth⟩
  · cases returned

end Catalog

end RecordSql
