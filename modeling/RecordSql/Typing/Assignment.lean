import RecordSql.Command.Basic
import RecordSql.Typing.Coercion

/-!
Which adapter moves the values of a field to its column or from it. Each direction has rules of
its own: wide host integers read narrow columns, and narrow ones write wide columns.
-/
namespace RecordSql

inductive Direction where
  | read | write
  deriving DecidableEq, Repr

def Direction.text : Direction → String
  | read => "read from"
  | write => "written to"

inductive Adapter where
  | self
  | json
  | xml
  | hstore
  | table (typeName signature : String)
  | coerce
  deriving DecidableEq, Repr

def Adapter.name : Adapter → String
  | self => "self"
  | json => "json"
  | xml => "xml"
  | hstore => "hstore"
  | table typeName signature => typeName ++ ":" ++ signature
  | coerce => "cast"

inductive Modifier where
  | any
  | lengthOne
  | noScale
  deriving DecidableEq, Repr

/-- The modifier of a character column counts four bytes more than its length; the lower half of
the modifier of a numeric column is its scale plus four. -/
def Modifier.matches (modifier : Modifier) (column : Column) : Bool :=
  match modifier with
  | .any => true
  | .lengthOne =>
    (column.type.oid == Oid.bpchar && column.typmod == 5) ||
      (column.type.oid == Oid.bit && column.typmod == 1)
  | .noScale => column.typmod != -1 && (column.typmod - 4) % 65536 == 0

inductive RuleDirection where
  | read | write | both
  deriving DecidableEq, Repr

def RuleDirection.allows (rule : RuleDirection) (direction : Direction) : Bool :=
  match rule, direction with
  | .both, _ => true
  | .read, .read => true
  | .write, .write => true
  | _, _ => false

structure AssignRule where
  oid : Oid
  signature : String
  modifier : Modifier
  direction : RuleDirection
  deriving DecidableEq, Repr

def assignRules : List AssignRule :=
  [⟨Oid.bool, "bool", .any, .both⟩,
   ⟨Oid.bit, "bool", .lengthOne, .both⟩,
   ⟨Oid.bit, "text", .any, .both⟩,
   ⟨Oid.varbit, "text", .any, .both⟩,
   ⟨Oid.int2, "i16", .any, .both⟩,
   ⟨Oid.int2, "i32", .any, .read⟩,
   ⟨Oid.int2, "i64", .any, .read⟩,
   ⟨Oid.int2, "i8", .any, .write⟩,
   ⟨Oid.int2, "u8", .any, .write⟩,
   ⟨Oid.int4, "i32", .any, .both⟩,
   ⟨Oid.int4, "i64", .any, .read⟩,
   ⟨Oid.int4, "i8", .any, .write⟩,
   ⟨Oid.int4, "i16", .any, .write⟩,
   ⟨Oid.int4, "u8", .any, .write⟩,
   ⟨Oid.int4, "u16", .any, .write⟩,
   ⟨Oid.int8, "i64", .any, .both⟩,
   ⟨Oid.int8, "i8", .any, .write⟩,
   ⟨Oid.int8, "i16", .any, .write⟩,
   ⟨Oid.int8, "i32", .any, .write⟩,
   ⟨Oid.int8, "u8", .any, .write⟩,
   ⟨Oid.int8, "u16", .any, .write⟩,
   ⟨Oid.int8, "u32", .any, .write⟩,
   ⟨Oid.int8, "big::Int", .any, .both⟩,
   ⟨Oid.oid, "u32", .any, .both⟩,
   ⟨Oid.oid, "i64", .any, .read⟩,
   ⟨Oid.money, "i64", .any, .both⟩,
   ⟨Oid.money, "text", .any, .both⟩,
   ⟨Oid.float4, "f32", .any, .both⟩,
   ⟨Oid.float4, "f64", .any, .read⟩,
   ⟨Oid.float8, "f64", .any, .both⟩,
   ⟨Oid.float8, "f32", .any, .write⟩,
   ⟨Oid.float8, "big::Float", .any, .both⟩,
   ⟨Oid.numeric, "big::Int", .noScale, .both⟩,
   ⟨Oid.numeric, "i64", .noScale, .both⟩,
   ⟨Oid.numeric, "i32", .noScale, .write⟩,
   ⟨Oid.numeric, "big::Float", .any, .both⟩,
   ⟨Oid.numeric, "f64", .any, .both⟩,
   ⟨Oid.numeric, "f32", .any, .write⟩,
   ⟨Oid.numeric, "text", .any, .both⟩,
   ⟨Oid.text, "text", .any, .both⟩,
   ⟨Oid.text, "[u8]", .any, .both⟩,
   ⟨Oid.varchar, "text", .any, .both⟩,
   ⟨Oid.varchar, "[u8]", .any, .both⟩,
   ⟨Oid.bpchar, "text", .any, .both⟩,
   ⟨Oid.bpchar, "[u8]", .any, .both⟩,
   ⟨Oid.bpchar, "char", .lengthOne, .both⟩,
   ⟨Oid.bpchar, "u8", .lengthOne, .both⟩,
   ⟨Oid.char, "char", .any, .both⟩,
   ⟨Oid.char, "u8", .any, .both⟩,
   ⟨Oid.name, "text", .any, .both⟩,
   ⟨Oid.bytea, "[u8]", .any, .both⟩,
   ⟨Oid.bytea, "text", .any, .both⟩,
   ⟨Oid.uuid, "[u8; 16]", .any, .both⟩,
   ⟨Oid.uuid, "[u8]", .any, .both⟩,
   ⟨Oid.uuid, "text", .any, .both⟩,
   ⟨Oid.date, "time", .any, .both⟩,
   ⟨Oid.time, "time", .any, .both⟩,
   ⟨Oid.timetz, "time", .any, .both⟩,
   ⟨Oid.timestamp, "time", .any, .both⟩,
   ⟨Oid.timestamptz, "time", .any, .both⟩,
   ⟨Oid.interval, "i64", .any, .both⟩,
   ⟨Oid.interval, "text", .any, .both⟩,
   ⟨Oid.json, "text", .any, .both⟩,
   ⟨Oid.json, "[u8]", .any, .both⟩,
   ⟨Oid.jsonb, "text", .any, .both⟩,
   ⟨Oid.jsonb, "[u8]", .any, .both⟩,
   ⟨Oid.xml, "text", .any, .both⟩,
   ⟨Oid.xml, "[u8]", .any, .both⟩,
   ⟨Oid.tsvector, "text", .any, .both⟩,
   ⟨Oid.tsquery, "text", .any, .both⟩,
   ⟨Oid.inet, "net::IpAddr", .any, .both⟩,
   ⟨Oid.inet, "net::IpNet", .any, .both⟩,
   ⟨Oid.inet, "text", .any, .both⟩,
   ⟨Oid.cidr, "net::IpNet", .any, .both⟩,
   ⟨Oid.cidr, "text", .any, .both⟩,
   ⟨Oid.macaddr, "net::MacAddr", .any, .both⟩,
   ⟨Oid.macaddr, "text", .any, .both⟩,
   ⟨Oid.macaddr8, "net::MacAddr", .any, .both⟩,
   ⟨Oid.macaddr8, "text", .any, .both⟩,
   ⟨Oid.point, "[f64; 2]", .any, .both⟩,
   ⟨Oid.lseg, "[[f64; 2]; 2]", .any, .both⟩,
   ⟨Oid.box, "[[f64; 2]; 2]", .any, .both⟩,
   ⟨Oid.path, "[[f64; 2]]", .any, .both⟩,
   ⟨Oid.polygon, "[[f64; 2]]", .any, .both⟩,
   ⟨Oid.line, "[f64; 3]", .any, .both⟩,
   ⟨Oid.circle, "[f64; 3]", .any, .both⟩,
   ⟨Oid.int4range, "[i32; 2]", .any, .both⟩,
   ⟨Oid.int8range, "[i64; 2]", .any, .both⟩,
   ⟨Oid.int8range, "[i32; 2]", .any, .write⟩,
   ⟨Oid.numrange, "[f64; 2]", .any, .both⟩,
   ⟨Oid.tsrange, "[time; 2]", .any, .both⟩,
   ⟨Oid.tstzrange, "[time; 2]", .any, .both⟩,
   ⟨Oid.daterange, "[time; 2]", .any, .both⟩,
   ⟨Oid.boolArray, "[bool]", .any, .both⟩,
   ⟨Oid.int2Array, "[i16]", .any, .both⟩,
   ⟨Oid.int2Array, "[i32]", .any, .read⟩,
   ⟨Oid.int2Array, "[i64]", .any, .read⟩,
   ⟨Oid.int4Array, "[i32]", .any, .both⟩,
   ⟨Oid.int4Array, "[i64]", .any, .read⟩,
   ⟨Oid.int4Array, "[i16]", .any, .write⟩,
   ⟨Oid.int8Array, "[i64]", .any, .both⟩,
   ⟨Oid.int8Array, "[i16]", .any, .write⟩,
   ⟨Oid.int8Array, "[i32]", .any, .write⟩,
   ⟨Oid.float4Array, "[f32]", .any, .both⟩,
   ⟨Oid.float4Array, "[f64]", .any, .read⟩,
   ⟨Oid.float8Array, "[f64]", .any, .both⟩,
   ⟨Oid.float8Array, "[f32]", .any, .write⟩,
   ⟨Oid.numericArray, "[f64]", .any, .both⟩,
   ⟨Oid.textArray, "[text]", .any, .both⟩,
   ⟨Oid.textArray, "[?text]", .any, .both⟩,
   ⟨Oid.varcharArray, "[text]", .any, .both⟩,
   ⟨Oid.varcharArray, "[?text]", .any, .both⟩,
   ⟨Oid.bpcharArray, "[text]", .any, .both⟩,
   ⟨Oid.byteaArray, "[[u8]]", .any, .both⟩,
   ⟨Oid.uuidArray, "[[u8; 16]]", .any, .both⟩,
   ⟨Oid.uuidArray, "[text]", .any, .both⟩,
   ⟨Oid.dateArray, "[time]", .any, .both⟩,
   ⟨Oid.timestampArray, "[time]", .any, .both⟩,
   ⟨Oid.timestamptzArray, "[time]", .any, .both⟩,
   ⟨Oid.inetArray, "[net::IpAddr]", .any, .both⟩,
   ⟨Oid.cidrArray, "[net::IpNet]", .any, .both⟩,
   ⟨Oid.macaddrArray, "[net::MacAddr]", .any, .both⟩,
   ⟨Oid.pointArray, "[[f64; 2]]", .any, .both⟩]

def findRule? (column : Column) (signature : String) (direction : Direction) : Option AssignRule :=
  assignRules.find? fun rule =>
    rule.oid == column.type.oid && rule.signature == signature &&
      rule.direction.allows direction && rule.modifier.matches column

def Traits.converts (traits : Traits) : Direction → Bool
  | .write => traits.encodes
  | .read => traits.decodes

def Traits.convertsJson (traits : Traits) : Direction → Bool
  | .write => traits.jsonMarshal
  | .read => traits.jsonUnmarshal

def Traits.convertsXml (traits : Traits) : Direction → Bool
  | .write => traits.xmlMarshal
  | .read => traits.xmlUnmarshal

def documentAdapter? (options : FieldOptions) (direction : Direction) (json : Bool)
    (value : HostType) : Option Adapter :=
  if json then
    if options.json || value.traits.convertsJson direction then some .json else none
  else
    if options.xml || value.traits.convertsXml direction then some .xml else none

def documentAdapterFor? (column : Column) (options : FieldOptions) (type : HostType)
    (direction : Direction) : Option Adapter :=
  let oid := column.type.oid
  let ofValue := documentAdapter? options direction
  if oid == Oid.json || oid == Oid.jsonb then ofValue true type
  else if oid == Oid.xml then ofValue false type
  else if oid == Oid.jsonArray || oid == Oid.jsonbArray then
    type.elem?.bind fun elem => ofValue true elem.required
  else if oid == Oid.xmlArray then type.elem?.bind fun elem => ofValue false elem.required
  else none

def tableAdapter? (column : Column) (signature : String) (direction : Direction) : Option Adapter :=
  if column.type.name == "hstore" &&
      (signature == "map<text, text>" || signature == "map<text, ?text>") then some .hstore
  else if (findRule? column signature direction).isSome ||
      (column.type.kind == .enum && signature == "text") then
    some (.table column.type.name signature)
  else none

def assignAdapter? (catalog : Catalog) (column : Column) (field : BoundField)
    (direction : Direction) : Option Adapter :=
  let type := field.type.required
  if type.traits.converts direction then some .self
  else match documentAdapterFor? column field.options type direction with
    | some adapter => some adapter
    | none => match tableAdapter? column type.signature direction with
      | some adapter => some adapter
      | none => if field.options.cast && canCoerce catalog column type then some .coerce else none

def canAssign (catalog : Catalog) (column : Column) (field : BoundField) (direction : Direction) :
    Bool :=
  (assignAdapter? catalog column field direction).isSome

end RecordSql
