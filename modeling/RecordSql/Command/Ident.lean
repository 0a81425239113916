import RecordSql.Text.Split

/-!
Identifiers as annotations write them: `[qualifier.]name[:alias]` for relations and
`[qualifier.]name` for columns.
-/
namespace RecordSql

def isIdentStart (c : Char) : Bool := c.isAlpha || c == '_'

def isIdentRest (c : Char) : Bool := c.isAlphanum || c == '_' || c == '$'

/-- A letter or underscore, then letters, digits, underscores and dollar signs, all of ASCII. -/
def isIdentChars : List Char → Bool
  | [] => false
  | c :: cs => isIdentStart c && cs.all isIdentRest

def isIdent (s : String) : Bool := isIdentChars s.toList

def readQualified? (cs : List Char) : Option (Option String × String) :=
  match Text.splitOnce '.' cs with
  | some (qualifier, name) =>
    if isIdentChars qualifier && isIdentChars name then
      some (some (String.ofList qualifier), String.ofList name)
    else none
  | none => if isIdentChars cs then some (none, String.ofList cs) else none

def qualifierText (qualifier : Option String) : String :=
  (qualifier.map fun q => q ++ ".").getD ""

/-- A relation: its namespace, its name, and the name it goes by in the command. -/
structure RelationRef where
  qualifier : Option String := none
  name : String
  aliasName : Option String := none
  deriving DecidableEq, Repr

namespace RelationRef

def parse? (text : String) : Option RelationRef :=
  let cs := Text.trim text.toList
  match Text.splitOnce ':' cs with
  | some (path, given) =>
    if isIdentChars given then
      (readQualified? path).map fun (qualifier, name) => ⟨qualifier, name, some (String.ofList given)⟩
    else none
  | none => (readQualified? cs).map fun (qualifier, name) => ⟨qualifier, name, none⟩

def key (ref : RelationRef) : String := ref.aliasName.getD ref.name

def text (ref : RelationRef) : String :=
  qualifierText ref.qualifier ++ ref.name ++ (ref.aliasName.map fun a => ":" ++ a).getD ""

end RelationRef

structure ColumnRef where
  qualifier : Option String := none
  name : String
  deriving DecidableEq, Repr

namespace ColumnRef

def ofChars? (cs : List Char) : Option ColumnRef :=
  (readQualified? (Text.trim cs)).map fun (qualifier, name) => ⟨qualifier, name⟩

def parse? (text : String) : Option ColumnRef := ofChars? text.toList

def text (column : ColumnRef) : String := qualifierText column.qualifier ++ column.name

def startingWith (column : ColumnRef) (start : String) : ColumnRef :=
  { column with name := start ++ column.name }

end ColumnRef

end RecordSql
