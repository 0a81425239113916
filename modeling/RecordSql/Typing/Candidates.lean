import RecordSql.Catalog.Basic
import RecordSql.Host.Type

namespace RecordSql

def signatureCandidates (signature : String) : List Oid :=
  match signature with
  | "bool" => [Oid.bool]
  | "i8" | "i16" | "u8" => [Oid.int2]
  | "i32" | "u16" => [Oid.int4]
  | "i64" | "u32" | "u64" => [Oid.int8]
  | "f32" => [Oid.float4]
  | "f64" => [Oid.float8]
  | "text" => [Oid.text, Oid.varchar, Oid.bpchar]
  | "char" => [Oid.bpchar, Oid.char]
  | "[u8]" => [Oid.bytea]
  | "time" => [Oid.timestamptz, Oid.timestamp, Oid.date, Oid.time, Oid.timetz]
  | "big::Int" => [Oid.numeric, Oid.int8]
  | "big::Float" => [Oid.numeric, Oid.float8]
  | "net::IpAddr" => [Oid.inet]
  | "net::IpNet" => [Oid.cidr, Oid.inet]
  | "net::MacAddr" => [Oid.macaddr, Oid.macaddr8]
  | "[bool]" => [Oid.boolArray]
  | "[i16]" => [Oid.int2Array]
  | "[i32]" => [Oid.int4Array]
  | "[i64]" => [Oid.int8Array]
  | "[f32]" => [Oid.float4Array]
  | "[f64]" => [Oid.float8Array]
  | "[text]" | "[?text]" => [Oid.textArray, Oid.varcharArray]
  | "[[u8]]" => [Oid.byteaArray]
  | "[time]" => [Oid.timestamptzArray, Oid.timestampArray, Oid.dateArray]
  | "[net::IpAddr]" => [Oid.inetArray]
  | "[f64; 2]" => [Oid.point, Oid.numrange]
  | "[[f64; 2]]" => [Oid.path, Oid.polygon]
  | "[[f64; 2]; 2]" => [Oid.lseg, Oid.box]
  | "[f64; 3]" => [Oid.line, Oid.circle]
  | "[i32; 2]" => [Oid.int4range]
  | "[i64; 2]" => [Oid.int8range]
  | "[time; 2]" => [Oid.tsrange, Oid.tstzrange, Oid.daterange]
  | "[u8; 16]" => [Oid.uuid]
  | _ => []

def namedCandidates (signature : String) : List String :=
  match signature with
  | "map<text, text>" | "map<text, ?text>" => ["hstore"]
  | _ => []

/-- The types for a host type; whether the value may be missing does not matter. -/
def fieldCandidates (catalog : Catalog) (type : HostType) : List Oid :=
  let signature := type.required.signature
  signatureCandidates signature ++
    ((namedCandidates signature).filterMap catalog.typeByName?).map CatalogType.oid

end RecordSql
