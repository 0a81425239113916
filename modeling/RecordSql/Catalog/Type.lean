import RecordSql.Catalog.Oid

namespace RecordSql

inductive TypeClass where
  | base | composite | domain | enum | multirange | pseudo | range
  deriving DecidableEq, Repr

namespace TypeClass

def toChar : TypeClass → Char
  | base => 'b'
  | composite => 'c'
  | domain => 'd'
  | enum => 'e'
  | multirange => 'm'
  | pseudo => 'p'
  | range => 'r'

def ofChar? : Char → Option TypeClass
  | 'b' => some base
  | 'c' => some composite
  | 'd' => some domain
  | 'e' => some enum
  | 'm' => some multirange
  | 'p' => some pseudo
  | 'r' => some range
  | _ => none

theorem ofChar?_toChar (kind : TypeClass) : ofChar? kind.toChar = some kind := by
  cases kind <;> rfl

end TypeClass

inductive TypeCategory where
  | array | bitString | boolean | composite | dateTime | enum | geometric | internal | network
  | numeric | pseudo | range | string | timespan | unknown | user
  deriving DecidableEq, Repr

namespace TypeCategory

def toChar : TypeCategory → Char
  | array => 'A'
  | boolean => 'B'
  | composite => 'C'
  | dateTime => 'D'
  | enum => 'E'
  | geometric => 'G'
  | network => 'I'
  | numeric => 'N'
  | pseudo => 'P'
  | range => 'R'
  | string => 'S'
  | timespan => 'T'
  | user => 'U'
  | bitString => 'V'
  | unknown => 'X'
  | internal => 'Z'

def ofChar? : Char → Option TypeCategory
  | 'A' => some array
  | 'B' => some boolean
  | 'C' => some composite
  | 'D' => some dateTime
  | 'E' => some enum
  | 'G' => some geometric
  | 'I' => some network
  | 'N' => some numeric
  | 'P' => some pseudo
  | 'R' => some range
  | 'S' => some string
  | 'T' => some timespan
  | 'U' => some user
  | 'V' => some bitString
  | 'X' => some unknown
  | 'Z' => some internal
  | _ => none

theorem ofChar?_toChar (category : TypeCategory) : ofChar? category.toChar = some category := by
  cases category <;> rfl

end TypeCategory

structure CatalogType where
  oid : Oid
  name : String
  formattedName : String
  length : Int
  kind : TypeClass
  category : TypeCategory
  /-- The type of the elements, or zero. -/
  element : Oid
  preferred : Bool
  deriving DecidableEq, Repr

def CatalogType.isArray (type : CatalogType) : Bool :=
  type.category == .array && type.element != 0

inductive CastContext where
  | explicit | implicit | assignment
  deriving DecidableEq, Repr

namespace CastContext

def toChar : CastContext → Char
  | explicit => 'e'
  | implicit => 'i'
  | assignment => 'a'

def ofChar? : Char → Option CastContext
  | 'e' => some explicit
  | 'i' => some implicit
  | 'a' => some assignment
  | _ => none

theorem ofChar?_toChar (context : CastContext) : ofChar? context.toChar = some context := by
  cases context <;> rfl

end CastContext

end RecordSql
