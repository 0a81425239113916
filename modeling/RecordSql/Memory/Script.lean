import RecordSql.Server.Task

namespace RecordSql

/-- The answer to the queries that start with a text. -/
structure ScriptedAnswer where
  start : String
  answer : Except ConnectionError (List Row)

def scriptedAnswer? (script : List ScriptedAnswer) (query : Query) : Option ScriptedAnswer :=
  script.find? fun line => line.start.toList.isPrefixOf query.sql.toList

def Server.withScript (script : List ScriptedAnswer) (server : Server) : Server where
  answer log query := match scriptedAnswer? script query with
    | some line => line.answer
    | none => server.answer log query

end RecordSql
