import RecordSql.Statement.Sql

/-!
The truth of conditions as they are written. AND binds tighter than OR, and groups stand in
parentheses.
-/
namespace RecordSql

mutual
def Clause.holds (truth : Test → Bool) : Clause → Bool
  | .test _ test => truth test
  | .group _ clauses => Condition.holds truth clauses

/-- Whether a condition holds where its tests have the given truth. One without clauses holds. -/
def Condition.holds (truth : Test → Bool) : List Clause → Bool
  | [] => true
  | clause :: clauses => Condition.holdsAfter truth (clause.holds truth) clauses

/-- The same, where the clauses since the last OR are known to hold or not. -/
def Condition.holdsAfter (truth : Test → Bool) (known : Bool) : List Clause → Bool
  | [] => known
  | clause :: clauses => match clause.connector with
    | .and => Condition.holdsAfter truth (known && clause.holds truth) clauses
    | .or => known || Condition.holdsAfter truth (clause.holds truth) clauses
end

namespace Condition

def runsAfter (begun : Condition) : Condition → List Condition
  | [] => [begun]
  | clause :: clauses => match clause.connector with
    | .and => runsAfter (begun ++ [clause]) clauses
    | .or => begun :: runsAfter [clause] clauses

def runs : Condition → List Condition
  | [] => [[]]
  | clause :: clauses => runsAfter [clause] clauses

def allHold (truth : Test → Bool) (run : Condition) : Bool := run.all (Clause.holds truth)

def lastRun (condition : Condition) : Condition := condition.runs.getLastD []

def earlierHolds (truth : Test → Bool) (condition : Condition) : Bool :=
  condition.runs.dropLast.any (allHold truth)

def runSql (run : Condition) : String := " AND ".intercalate (run.map Clause.bodySql)

end Condition

end RecordSql
