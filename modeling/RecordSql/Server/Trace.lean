import RecordSql.Command.Basic

namespace RecordSql

inductive CheckStep where
  | loadTarget | loadJoins | checkOnConflict | checkWhere | checkOrderBy | checkDefaults
  | checkForce | checkReturning | checkTextSearch | checkBindings
  deriving DecidableEq, Repr

def CheckStep.all : List CheckStep :=
  [loadTarget, loadJoins, checkOnConflict, checkWhere, checkOrderBy, checkDefaults, checkForce,
   checkReturning, checkTextSearch, checkBindings]

structure CatalogCounts where
  types : Nat
  operators : Nat
  casts : Nat
  procedures : Nat
  deriving DecidableEq, Repr

inductive TraceEvent where
  | catalogHit (database : String)
  | catalogLoaded (database : String) (counts : CatalogCounts)
  | relationLoaded (relation : String) (columns : Nat)
  | step (command : String) (step : CheckStep)
  | predicate (command : String) (depth : Nat) (group : Bool)
  | compiled (command : String) (kind : CommandKind) (params : Nat)
  deriving DecidableEq, Repr

end RecordSql
