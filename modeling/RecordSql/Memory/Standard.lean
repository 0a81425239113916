import RecordSql.Catalog.Basic

namespace RecordSql.Standard

def hstoreOid : Oid := 16400

def moodOid : Oid := 16410

def moodArrayOid : Oid := 16409

def scalarTypes : List CatalogType :=
  [⟨Oid.bool, "bool", "boolean", 1, .base, .boolean, 0, true⟩,
   ⟨Oid.bytea, "bytea", "bytea", -1, .base, .user, 0, false⟩,
   ⟨Oid.char, "char", "\"char\"", 1, .base, .internal, 0, false⟩,
   ⟨Oid.name, "name", "name", 64, .base, .string, 0, false⟩,
   ⟨Oid.int8, "int8", "bigint", 8, .base, .numeric, 0, false⟩,
   ⟨Oid.int2, "int2", "smallint", 2, .base, .numeric, 0, false⟩,
   ⟨Oid.int4, "int4", "integer", 4, .base, .numeric, 0, false⟩,
   ⟨Oid.text, "text", "text", -1, .base, .string, 0, true⟩,
   ⟨Oid.oid, "oid", "oid", 4, .base, .numeric, 0, true⟩,
   ⟨Oid.json, "json", "json", -1, .base, .user, 0, false⟩,
   ⟨Oid.xml, "xml", "xml", -1, .base, .user, 0, false⟩,
   ⟨Oid.point, "point", "point", 16, .base, .geometric, 0, false⟩,
   ⟨Oid.lseg, "lseg", "lseg", 32, .base, .geometric, 0, false⟩,
   ⟨Oid.path, "path", "path", -1, .base, .geometric, 0, false⟩,
   ⟨Oid.box, "box", "box", 32, .base, .geometric, 0, false⟩,
   ⟨Oid.polygon, "polygon", "polygon", -1, .base, .geometric, 0, false⟩,
   ⟨Oid.line, "line", "line", 24, .base, .geometric, 0, false⟩,
   ⟨Oid.cidr, "cidr", "cidr", -1, .base, .network, 0, false⟩,
   ⟨Oid.float4, "float4", "real", 4, .base, .numeric, 0, false⟩,
   ⟨Oid.float8, "float8", "double precision", 8, .base, .numeric, 0, true⟩,
   ⟨Oid.unknown, "unknown", "unknown", -2, .pseudo, .unknown, 0, false⟩,
   ⟨Oid.circle, "circle", "circle", 24, .base, .geometric, 0, false⟩,
   ⟨Oid.macaddr8, "macaddr8", "macaddr8", 8, .base, .user, 0, false⟩,
   ⟨Oid.money, "money", "money", 8, .base, .numeric, 0, false⟩,
   ⟨Oid.macaddr, "macaddr", "macaddr", 6, .base, .user, 0, false⟩,
   ⟨Oid.inet, "inet", "inet", -1, .base, .network, 0, true⟩,
   ⟨Oid.bpchar, "bpchar", "character", -1, .base, .string, 0, false⟩,
   ⟨Oid.varchar, "varchar", "character varying", -1, .base, .string, 0, false⟩,
   ⟨Oid.date, "date", "date", 4, .base, .dateTime, 0, false⟩,
   ⟨Oid.time, "time", "time without time zone", 8, .base, .dateTime, 0, false⟩,
   ⟨Oid.timestamp, "timestamp", "timestamp without time zone", 8, .base, .dateTime, 0, false⟩,
   ⟨Oid.timestamptz, "timestamptz", "timestamp with time zone", 8, .base, .dateTime, 0, true⟩,
   ⟨Oid.interval, "interval", "interval", 16, .base, .timespan, 0, true⟩,
   ⟨Oid.timetz, "timetz", "time with time zone", 12, .base, .dateTime, 0, false⟩,
   ⟨Oid.bit, "bit", "bit", -1, .base, .bitString, 0, false⟩,
   ⟨Oid.varbit, "varbit", "bit varying", -1, .base, .bitString, 0, true⟩,
   ⟨Oid.numeric, "numeric", "numeric", -1, .base, .numeric, 0, false⟩,
   ⟨Oid.uuid, "uuid", "uuid", 16, .base, .user, 0, false⟩,
   ⟨Oid.tsvector, "tsvector", "tsvector", -1, .base, .user, 0, false⟩,
   ⟨Oid.tsquery, "tsquery", "tsquery", -1, .base, .user, 0, false⟩,
   ⟨Oid.jsonb, "jsonb", "jsonb", -1, .base, .user, 0, false⟩,
   ⟨Oid.int4range, "int4range", "int4range", -1, .range, .range, 0, false⟩,
   ⟨Oid.numrange, "numrange", "numrange", -1, .range, .range, 0, false⟩,
   ⟨Oid.tsrange, "tsrange", "tsrange", -1, .range, .range, 0, false⟩,
   ⟨Oid.tstzrange, "tstzrange", "tstzrange", -1, .range, .range, 0, false⟩,
   ⟨Oid.daterange, "daterange", "daterange", -1, .range, .range, 0, false⟩,
   ⟨Oid.int8range, "int8range", "int8range", -1, .range, .range, 0, false⟩,
   ⟨Oid.anyType, "any", "\"any\"", 4, .pseudo, .pseudo, 0, false⟩,
   ⟨Oid.anyarray, "anyarray", "anyarray", -1, .pseudo, .pseudo, 0, false⟩,
   ⟨Oid.anyelement, "anyelement", "anyelement", 4, .pseudo, .pseudo, 0, false⟩,
   ⟨Oid.anyenum, "anyenum", "anyenum", 4, .pseudo, .pseudo, 0, false⟩,
   ⟨Oid.anyrange, "anyrange", "anyrange", -1, .pseudo, .pseudo, 0, false⟩,
   ⟨hstoreOid, "hstore", "hstore", -1, .base, .user, 0, false⟩,
   ⟨moodOid, "mood", "mood", 4, .enum, .enum, 0, false⟩]

def arrayPairs : List (Oid × Oid) :=
  [(Oid.xmlArray, Oid.xml), (Oid.jsonArray, Oid.json), (Oid.cidrArray, Oid.cidr),
   (Oid.circleArray, Oid.circle), (Oid.moneyArray, Oid.money), (Oid.boolArray, Oid.bool),
   (Oid.byteaArray, Oid.bytea), (Oid.charArray, Oid.char), (Oid.nameArray, Oid.name),
   (Oid.int2Array, Oid.int2), (Oid.int4Array, Oid.int4), (Oid.textArray, Oid.text),
   (Oid.bpcharArray, Oid.bpchar), (Oid.varcharArray, Oid.varchar), (Oid.int8Array, Oid.int8),
   (Oid.pointArray, Oid.point), (Oid.float4Array, Oid.float4), (Oid.float8Array, Oid.float8),
   (Oid.oidArray, Oid.oid), (Oid.macaddrArray, Oid.macaddr), (Oid.inetArray, Oid.inet),
   (Oid.timestampArray, Oid.timestamp), (Oid.dateArray, Oid.date), (Oid.timeArray, Oid.time),
   (Oid.timestamptzArray, Oid.timestamptz), (Oid.intervalArray, Oid.interval),
   (Oid.numericArray, Oid.numeric), (Oid.uuidArray, Oid.uuid), (Oid.jsonbArray, Oid.jsonb),
   (Oid.int4rangeArray, Oid.int4range), (moodArrayOid, moodOid)]

def arrayOf (oid : Oid) (elem : CatalogType) : CatalogType :=
  { oid, name := "_" ++ elem.name, formattedName := elem.formattedName ++ "[]", length := -1,
    kind := .base, category := .array, element := elem.oid, preferred := false }

def arrayTypes : List CatalogType :=
  arrayPairs.filterMap fun (oid, elem) =>
    (scalarTypes.find? fun type => type.oid == elem).map (arrayOf oid)

def vectorTypes : List CatalogType :=
  [⟨Oid.int2vector, "int2vector", "int2vector", -1, .base, .array, Oid.int2, false⟩,
   ⟨Oid.oidvector, "oidvector", "oidvector", -1, .base, .array, Oid.oid, false⟩]

def types : List CatalogType := scalarTypes ++ arrayTypes ++ vectorTypes

def comparisons : List String := ["=", "<>", "<", "<=", ">", ">="]

def equalities : List String := ["=", "<>"]

def patterns : List String := ["~~", "!~~", "~~*", "!~~*", "~", "!~", "~*", "!~*"]

def orderedTypes : List Oid :=
  [Oid.int2, Oid.int4, Oid.int8, Oid.float4, Oid.float8, Oid.numeric, Oid.text, Oid.bpchar,
   Oid.name, Oid.char, Oid.bytea, Oid.oid, Oid.money, Oid.date, Oid.time, Oid.timetz,
   Oid.timestamp, Oid.timestamptz, Oid.interval, Oid.uuid, Oid.inet, Oid.macaddr, Oid.macaddr8,
   Oid.bit, Oid.varbit, Oid.jsonb, Oid.tsvector]

def mixedPairs : List (Oid × Oid) :=
  [(Oid.int2, Oid.int4), (Oid.int4, Oid.int2), (Oid.int2, Oid.int8), (Oid.int8, Oid.int2),
   (Oid.int4, Oid.int8), (Oid.int8, Oid.int4), (Oid.float4, Oid.float8), (Oid.float8, Oid.float4)]

def truthOperators (names : List String) (left right : Oid) : List CatalogOperator :=
  names.map fun name => ⟨name, left, right, Oid.bool⟩

def operators : List CatalogOperator :=
  truthOperators equalities Oid.bool Oid.bool ++
    orderedTypes.flatMap (fun type => truthOperators comparisons type type) ++
    mixedPairs.flatMap (fun (left, right) => truthOperators comparisons left right) ++
    truthOperators patterns Oid.text Oid.text ++
    truthOperators patterns Oid.bpchar Oid.text ++
    truthOperators patterns Oid.name Oid.text ++
    truthOperators comparisons Oid.anyarray Oid.anyarray ++
    truthOperators comparisons Oid.anyenum Oid.anyenum ++
    truthOperators comparisons Oid.anyrange Oid.anyrange

def casts : List CatalogCast :=
  [⟨Oid.int4, Oid.int2, .implicit⟩,
   ⟨Oid.int8, Oid.int2, .implicit⟩,
   ⟨Oid.float4, Oid.int2, .implicit⟩,
   ⟨Oid.float8, Oid.int2, .implicit⟩,
   ⟨Oid.numeric, Oid.int2, .implicit⟩,
   ⟨Oid.int8, Oid.int4, .implicit⟩,
   ⟨Oid.float4, Oid.int4, .implicit⟩,
   ⟨Oid.float8, Oid.int4, .implicit⟩,
   ⟨Oid.numeric, Oid.int4, .implicit⟩,
   ⟨Oid.float4, Oid.int8, .implicit⟩,
   ⟨Oid.float8, Oid.int8, .implicit⟩,
   ⟨Oid.numeric, Oid.int8, .implicit⟩,
   ⟨Oid.float8, Oid.float4, .implicit⟩,
   ⟨Oid.float4, Oid.numeric, .implicit⟩,
   ⟨Oid.float8, Oid.numeric, .implicit⟩,
   ⟨Oid.text, Oid.varchar, .implicit⟩,
   ⟨Oid.text, Oid.bpchar, .implicit⟩,
   ⟨Oid.text, Oid.name, .implicit⟩,
   ⟨Oid.varchar, Oid.text, .implicit⟩,
   ⟨Oid.bpchar, Oid.text, .implicit⟩,
   ⟨Oid.name, Oid.text, .implicit⟩,
   ⟨Oid.timestamp, Oid.date, .implicit⟩,
   ⟨Oid.timestamptz, Oid.date, .implicit⟩,
   ⟨Oid.timestamptz, Oid.timestamp, .implicit⟩,
   ⟨Oid.interval, Oid.time, .implicit⟩,
   ⟨Oid.timetz, Oid.time, .implicit⟩,
   ⟨Oid.inet, Oid.cidr, .implicit⟩,
   ⟨Oid.int2, Oid.int4, .assignment⟩,
   ⟨Oid.int2, Oid.int8, .assignment⟩,
   ⟨Oid.int4, Oid.int8, .assignment⟩,
   ⟨Oid.float4, Oid.float8, .assignment⟩,
   ⟨Oid.int8, Oid.float8, .assignment⟩,
   ⟨Oid.int2, Oid.numeric, .assignment⟩,
   ⟨Oid.int4, Oid.numeric, .assignment⟩,
   ⟨Oid.int8, Oid.numeric, .assignment⟩,
   ⟨Oid.timestamp, Oid.timestamptz, .assignment⟩,
   ⟨Oid.date, Oid.timestamptz, .assignment⟩,
   ⟨Oid.date, Oid.timestamp, .assignment⟩,
   ⟨Oid.cidr, Oid.inet, .assignment⟩,
   ⟨Oid.bool, Oid.int4, .explicit⟩,
   ⟨Oid.int4, Oid.bool, .explicit⟩,
   ⟨Oid.jsonb, Oid.json, .explicit⟩,
   ⟨Oid.json, Oid.jsonb, .explicit⟩]

def procedures : List (String × CatalogProcedure) :=
  [("lower", ⟨Oid.text, Oid.text, false⟩),
   ("upper", ⟨Oid.text, Oid.text, false⟩),
   ("length", ⟨Oid.text, Oid.int4, false⟩),
   ("length", ⟨Oid.bytea, Oid.int4, false⟩),
   ("abs", ⟨Oid.int4, Oid.int4, false⟩),
   ("abs", ⟨Oid.int8, Oid.int8, false⟩),
   ("abs", ⟨Oid.float8, Oid.float8, false⟩),
   ("date", ⟨Oid.timestamptz, Oid.date, false⟩),
   ("max", ⟨Oid.int4, Oid.int4, true⟩)]

def catalog : Catalog := ⟨types, operators, casts, procedures⟩

end RecordSql.Standard
