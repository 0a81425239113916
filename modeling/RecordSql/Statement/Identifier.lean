import RecordSql.Statement.Basic

namespace RecordSql

def reservedWords : List String :=
  ["all", "analyse", "analyze", "and", "any", "array", "as", "asc", "asymmetric", "both",
   "case", "cast", "check", "collate", "column", "constraint", "create", "current_catalog",
   "current_date", "current_role", "current_time", "current_timestamp", "current_user",
   "default", "deferrable", "desc", "distinct", "do", "else", "end", "except", "false",
   "fetch", "for", "foreign", "from", "grant", "group", "having", "in", "initially",
   "intersect", "into", "lateral", "leading", "limit", "localtime", "localtimestamp", "not",
   "null", "offset", "on", "only", "or", "order", "placing", "primary", "references",
   "returning", "select", "session_user", "some", "symmetric", "table", "then", "to",
   "trailing", "true", "union", "unique", "user", "using", "variadic", "when", "where",
   "window", "with"]

def isBareStart (c : Char) : Bool := c.isLower || c == '_'

def isBareRest (c : Char) : Bool := c.isLower || c.isDigit || c == '_' || c == '$'

def isBareName (name : String) : Bool :=
  (match name.toList with
    | [] => false
    | c :: cs => isBareStart c && cs.all isBareRest) && !reservedWords.contains name

def doubleQuotes : List Char → List Char
  | [] => []
  | c :: cs => if c = '"' then '"' :: '"' :: doubleQuotes cs else c :: doubleQuotes cs

def identifierSql (name : String) : String :=
  if isBareName name then name else String.ofList ('"' :: doubleQuotes name.toList ++ ['"'])

end RecordSql
