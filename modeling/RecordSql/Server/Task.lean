import RecordSql.Server.Row
import RecordSql.Server.Trace

namespace RecordSql

inductive QueryParam where
  | text (value : String)
  | oid (value : Oid)
  deriving DecidableEq, Repr

structure Query where
  sql : String
  params : List QueryParam := []
  deriving DecidableEq, Repr

/-- A server answers a query with rows or an error. The answer may depend on the queries before. -/
structure Server where
  answer : List Query → Query → Except ConnectionError (List Row)

structure Transcript where
  queries : List Query := []
  events : List TraceEvent := []
  deriving DecidableEq, Repr

abbrev Task (ε α : Type) := ExceptT ε (StateM Transcript) α

namespace Task

variable {ε ε' α β : Type}

def outcome (task : Task ε α) (before : Transcript) : Except ε α × Transcript :=
  (ExceptT.run task).run before

def ofExcept (result : Except ε α) : Task ε α := ExceptT.mk (pure result)

def mapError (f : ε → ε') (task : Task ε α) : Task ε' α :=
  ExceptT.mk do return (← ExceptT.run task).mapError f

def tell (event : TraceEvent) : Task ε Unit :=
  modify fun transcript => { transcript with events := transcript.events ++ [event] }

def ask (server : Server) (query : Query) : Task ConnectionError (List Row) := do
  let before ← get
  set { before with queries := before.queries ++ [query] }
  ofExcept (server.answer before.queries query)

end Task

end RecordSql
