import RecordSql.Host.Tag

namespace RecordSql

inductive Scalar where
  | bool | char | f32 | f64 | i8 | i16 | i32 | i64 | text | u8 | u16 | u32 | u64
  deriving DecidableEq, Repr

namespace Scalar

def all : List Scalar := [bool, char, f32, f64, i8, i16, i32, i64, text, u8, u16, u32, u64]

def name : Scalar → String
  | bool => "bool"
  | char => "char"
  | f32 => "f32"
  | f64 => "f64"
  | i8 => "i8"
  | i16 => "i16"
  | i32 => "i32"
  | i64 => "i64"
  | text => "text"
  | u8 => "u8"
  | u16 => "u16"
  | u32 => "u32"
  | u64 => "u64"

def isInteger : Scalar → Bool
  | i8 | i16 | i32 | i64 | u8 | u16 | u32 | u64 => true
  | _ => false

end Scalar

structure TypeName where
  space : String
  name : String
  deriving DecidableEq, Repr

def TypeName.text (typeName : TypeName) : String := typeName.space ++ "::" ++ typeName.name

def wellKnownTypes : List TypeName :=
  [⟨"big", "Float"⟩, ⟨"big", "Int"⟩, ⟨"net", "IpAddr"⟩, ⟨"net", "IpNet"⟩, ⟨"net", "MacAddr"⟩]

/-- What a host type can do by itself. -/
structure Traits where
  encodes : Bool := false
  decodes : Bool := false
  jsonMarshal : Bool := false
  jsonUnmarshal : Bool := false
  xmlMarshal : Bool := false
  xmlUnmarshal : Bool := false
  timeLike : Bool := false
  errorLike : Bool := false
  deriving DecidableEq, Repr

mutual
structure HostType where
  shape : HostShape
  name : Option TypeName := none
  traits : Traits := {}

inductive HostShape where
  | scalar (kind : Scalar)
  | array (length : Nat) (elem : HostType)
  | seq (elem : HostType)
  | map (key value : HostType)
  | optional (inner : HostType)
  | record (fields : List HostField)
  | interface (methods : List HostMethod)
  | func (signature : CallSignature)
  | hidden

structure HostField where
  name : String
  tag : Tag := {}
  type : HostType
  embedded : Bool := false

structure HostMethod where
  name : String
  signature : CallSignature

structure CallSignature where
  params : List HostType
  results : List HostType
end

instance : Inhabited HostType := ⟨{ shape := .hidden }⟩

namespace HostType

def named (type : HostType) (space name : String) : HostType :=
  { type with name := some ⟨space, name⟩ }

def scalar (kind : Scalar) : HostType := { shape := .scalar kind }

def text : HostType := scalar .text

def seq (elem : HostType) : HostType := { shape := .seq elem }

def bytes : HostType := seq (scalar .u8)

def time : HostType :=
  { shape := .hidden, name := some ⟨"time", "Time"⟩, traits := { timeLike := true } }

def error : HostType :=
  { shape := .hidden, name := some ⟨"builtin", "error"⟩, traits := { errorLike := true } }

def isOptional (type : HostType) : Bool :=
  match type.shape with
  | .optional _ => true
  | _ => false

def required (type : HostType) : HostType :=
  match type.shape with
  | .optional inner => inner
  | _ => type

def isWellKnown (type : HostType) : Bool := type.name.any wellKnownTypes.contains

/-- Records that stand for one value are leaves; the fields of the others map to columns. -/
def isValueLike (type : HostType) : Bool :=
  type.traits.timeLike || type.traits.encodes || type.traits.decodes || type.isWellKnown

def recordFields? (type : HostType) : Option (List HostField) :=
  match type.shape with
  | .record fields => if type.isValueLike then none else some fields
  | _ => none

def isPlainRecord (type : HostType) : Bool := type.recordFields?.isSome

def isInteger (type : HostType) : Bool :=
  match type.shape with
  | .scalar kind => kind.isInteger
  | _ => false

def isErrorLike (type : HostType) : Bool := type.traits.errorLike

def isBytes (type : HostType) : Bool :=
  match type.shape with
  | .seq { shape := .scalar .u8, .. } => true
  | _ => false

/-- The elements of sequences and arrays that are not single values. -/
def elem? (type : HostType) : Option HostType :=
  if type.isBytes || type.traits.encodes || type.traits.decodes then none
  else match type.shape with
    | .seq elem => some elem
    | .array _ elem => some elem
    | _ => none

def isSequence (type : HostType) : Bool := type.elem?.isSome

/-- The text that stands for a type in the compatibility tables: structure for scalars,
sequences, maps and optional types, the name for all others. -/
def signature : HostType → String
  | ⟨shape, name, traits⟩ =>
    if traits.timeLike then "time"
    else match name.filter wellKnownTypes.contains with
    | some known => known.text
    | none => match shape with
      | .scalar kind => kind.name
      | .array length elem => "[" ++ elem.signature ++ "; " ++ toString length ++ "]"
      | .seq elem => "[" ++ elem.signature ++ "]"
      | .map key value => "map<" ++ key.signature ++ ", " ++ value.signature ++ ">"
      | .optional inner => "?" ++ inner.signature
      | _ => (name.map TypeName.text).getD "record"
termination_by structural type => type

end HostType

namespace HostField

def sql? (field : HostField) : Option String := field.tag.sql?

def rel? (field : HostField) : Option String := field.tag.rel?

def sqlText? (field : HostField) : Option String := field.sql?.filter (· != "")

def nestedFields? (field : HostField) : Option (List HostField) := field.type.required.recordFields?

end HostField

end RecordSql
