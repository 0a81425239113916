import RecordSql.Proofs.Outcome
import RecordSql.Statement.Lower
import RecordSql.Statement.Truth

/-!
Conditions as runs between ORs. A clause that is added with AND joins the last run only.
-/
namespace RecordSql

namespace Condition

variable (truth : Test → Bool)

theorem allHold_append (run more : Condition) :
    allHold truth (run ++ more) = (allHold truth run && allHold truth more) := by
  simp [allHold]

theorem holdsAfter_eq_any (begun clauses : Condition) :
    holdsAfter truth (allHold truth begun) clauses =
      (runsAfter begun clauses).any (allHold truth) := by
  induction clauses generalizing begun with
  | nil => simp [holdsAfter, runsAfter]
  | cons clause clauses ih =>
    cases connector : clause.connector with
    | and =>
      have joined := ih (begun ++ [clause])
      rw [allHold_append] at joined
      simpa [holdsAfter, runsAfter, connector, allHold] using joined
    | or =>
      have fresh := ih [clause]
      simp only [holdsAfter, runsAfter, connector, List.any_cons, ← fresh]
      simp [allHold]

theorem holds_eq_any (condition : Condition) :
    holds truth condition = condition.runs.any (allHold truth) := by
  cases condition with
  | nil => rfl
  | cons clause clauses =>
    have known := holdsAfter_eq_any truth [clause] clauses
    simpa [holds, runs, allHold] using known

theorem runsAfter_ne_nil (begun clauses : Condition) : runsAfter begun clauses ≠ [] := by
  induction clauses generalizing begun with
  | nil => simp [runsAfter]
  | cons clause clauses ih =>
    cases connector : clause.connector with
    | and => simpa [runsAfter, connector] using ih (begun ++ [clause])
    | or => simp [runsAfter, connector]

theorem runs_ne_nil (condition : Condition) : condition.runs ≠ [] := by
  cases condition with
  | nil => simp [runs]
  | cons clause clauses => exact runsAfter_ne_nil [clause] clauses

theorem runs_eq (condition : Condition) :
    condition.runs = condition.runs.dropLast ++ [condition.lastRun] := by
  have last := List.dropLast_append_getLast condition.runs_ne_nil
  rw [lastRun, List.getLastD_eq_getLast?, List.getLast?_eq_some_getLast condition.runs_ne_nil]
  exact last.symm

theorem runsAfter_concat {clause : Clause} (connector : clause.connector = .and)
    (begun clauses : Condition) :
    runsAfter begun (clauses ++ [clause]) = (runsAfter begun clauses).dropLast ++
      [(runsAfter begun clauses).getLastD [] ++ [clause]] := by
  induction clauses generalizing begun with
  | nil => simp [runsAfter, connector]
  | cons first rest ih =>
    cases joins : first.connector with
    | and => simpa [runsAfter, joins] using ih (begun ++ [first])
    | or =>
      obtain ⟨run, runs, same⟩ := List.exists_cons_of_ne_nil (runsAfter_ne_nil [first] rest)
      have later := ih [first]
      simp only [List.cons_append, runsAfter, joins, later, same]
      simp

theorem runs_concat {clause : Clause} (connector : clause.connector = .and)
    {condition : Condition} (present : condition ≠ []) :
    runs (condition ++ [clause]) = condition.runs.dropLast ++ [condition.lastRun ++ [clause]] := by
  cases condition with
  | nil => exact absurd rfl present
  | cons first rest => exact runsAfter_concat connector [first] rest

theorem holds_eq_earlier_or_last (condition : Condition) : holds truth condition =
    (earlierHolds truth condition || allHold truth condition.lastRun) := by
  rw [holds_eq_any, runs_eq, List.any_append]
  simp [earlierHolds]

/-- What is added with AND restricts the last run, and no other. -/
theorem holds_concat {clause : Clause} (connector : clause.connector = .and)
    {condition : Condition} (present : condition ≠ []) : holds truth (condition ++ [clause]) =
      (earlierHolds truth condition ||
        (allHold truth condition.lastRun && clause.holds truth)) := by
  calc
    holds truth (condition ++ [clause])
        = (runs (condition ++ [clause])).any (allHold truth) := holds_eq_any truth _
    _ = (condition.runs.dropLast ++ [condition.lastRun ++ [clause]]).any (allHold truth) := by
      rw [runs_concat connector present]
    _ = (earlierHolds truth condition || allHold truth (condition.lastRun ++ [clause])) := by
      simp [earlierHolds]
    _ = (earlierHolds truth condition ||
        (allHold truth condition.lastRun && clause.holds truth)) := by
      rw [allHold_append]
      simp [allHold]

theorem runsAfter_of_and (begun clauses : Condition)
    (conjunction : ∀ clause ∈ clauses, clause.connector = .and) :
    runsAfter begun clauses = [begun ++ clauses] := by
  induction clauses generalizing begun with
  | nil => simp [runsAfter]
  | cons clause clauses ih =>
    have later := ih (begun ++ [clause]) fun other member =>
      conjunction other (List.mem_cons_of_mem _ member)
    simpa [runsAfter, conjunction clause List.mem_cons_self] using later

theorem earlierHolds_of_and {condition : Condition}
    (conjunction : ∀ clause ∈ condition.tail, clause.connector = .and) :
    earlierHolds truth condition = false := by
  cases condition with
  | nil => rfl
  | cons clause clauses => simp [earlierHolds, runs, runsAfter_of_and [clause] clauses conjunction]

theorem runSql_append {run more : Condition} (begun : run ≠ []) (present : more ≠ []) :
    runSql (run ++ more) = runSql run ++ " AND " ++ runSql more := by
  simp [runSql, String.intercalate_append_of_ne_nil, begun, present]

theorem sql_runsAfter {begun : Condition} (present : begun ≠ []) (clauses : Condition) :
    runSql begun ++ restSql clauses =
      " OR ".intercalate ((runsAfter begun clauses).map runSql) := by
  induction clauses generalizing begun with
  | nil => simp [runsAfter, restSql]
  | cons clause clauses ih =>
    have single : runSql [clause] = clause.bodySql := by simp [runSql]
    cases connector : clause.connector with
    | and =>
      have joined := ih (List.append_ne_nil_of_left_ne_nil present [clause])
      rw [runSql_append present (List.cons_ne_nil clause []), single] at joined
      simp only [runsAfter, connector, ← joined, restSql, Connector.sql]
      simp [String.append_assoc]
    | or =>
      have fresh := ih (List.cons_ne_nil clause [])
      have more : (runsAfter [clause] clauses).map runSql ≠ [] := by
        simpa using runsAfter_ne_nil [clause] clauses
      simp only [runsAfter, connector, List.map_cons, String.intercalate_cons_of_ne_nil more,
        ← fresh, restSql, Connector.sql, single]
      simp [String.append_assoc]

theorem sql_eq_runs (condition : Condition) :
    Condition.sql condition = " OR ".intercalate (condition.runs.map runSql) := by
  cases condition with
  | nil => simp [Condition.sql, runs, runSql]
  | cons clause clauses =>
    have begun := sql_runsAfter (List.cons_ne_nil clause []) clauses
    simpa [Condition.sql, runs, runSql] using begun

end Condition

end RecordSql
