import RecordSql.Server.Task

namespace RecordSql.Catalog

def currentDatabaseQuery : Query := ⟨"SELECT pg_catalog.current_database()::text", []⟩

def versionQuery : Query := ⟨"SHOW server_version_num", []⟩

def typesQuery : Query :=
  ⟨"SELECT t.oid, t.typname::text, pg_catalog.format_type(t.oid, NULL), " ++
    "t.typlen, t.typtype::text, t.typcategory::text, t.typelem, t.typispreferred " ++
    "FROM pg_catalog.pg_type t", []⟩

def operatorsQuery : Query :=
  ⟨"SELECT o.oprname::text, o.oprleft, o.oprright, o.oprresult " ++
    "FROM pg_catalog.pg_operator o WHERE o.oprkind = 'b'", []⟩

def castsQuery : Query :=
  ⟨"SELECT c.casttarget, c.castsource, c.castcontext::text " ++
    "FROM pg_catalog.pg_cast c", []⟩

def proceduresQuery : Query :=
  ⟨"SELECT p.proname::text, p.proargtypes[0], p.prorettype, " ++
    "p.prokind = 'a' FROM pg_catalog.pg_proc p WHERE p.pronargs = 1", []⟩

/-- Older servers tell aggregates by a column of their own. -/
def olderProceduresQuery : Query :=
  ⟨"SELECT p.proname::text, p.proargtypes[0], " ++
    "p.prorettype, p.proisagg FROM pg_catalog.pg_proc p WHERE p.pronargs = 1", []⟩

def functionKindVersion : Int := 110000

def proceduresQueryFor (version : Int) : Query :=
  if version ≥ functionKindVersion then proceduresQuery else olderProceduresQuery

def literalTypeStart : String := "SELECT pg_catalog.pg_typeof("

def literalTypeEnd : String := ")::oid"

def literalTypeQuery (literal : String) : Query :=
  ⟨literalTypeStart ++ literal ++ literalTypeEnd, []⟩

end RecordSql.Catalog
