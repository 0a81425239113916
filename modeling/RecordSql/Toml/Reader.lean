import RecordSql.Toml.Scalar
import RecordSql.Toml.Value

/-!
The reading of TOML documents. A reader takes what it reads from the start of the text and returns
it with the rest. The first number that bounds a reader of strings or values is never smaller than
the text it is given.
-/
namespace RecordSql.Toml

def skipBlanks (cs : List Char) : List Char := cs.dropWhile fun c => c == ' ' || c == '\t'

def isPrintable (c : Char) : Bool := c == '\t' || (0x20 ≤ c.toNat && c.toNat != 0x7f)

def skipComment : List Char → List Char
  | '#' :: cs => cs.dropWhile isPrintable
  | cs => cs

def afterLineEnd? : List Char → Option (List Char)
  | '\n' :: cs => some cs
  | '\r' :: '\n' :: cs => some cs
  | _ => none

def finishLine? (cs : List Char) : Option (List Char) :=
  match skipComment (skipBlanks cs) with
  | [] => some []
  | rest => afterLineEnd? rest

def skipSpaceFrom (inComment : Bool) : List Char → List Char
  | [] => []
  | '\n' :: cs => skipSpaceFrom false cs
  | '\r' :: '\n' :: cs => skipSpaceFrom false cs
  | c :: cs =>
    if inComment && isPrintable c then skipSpaceFrom true cs
    else if !inComment && (c == ' ' || c == '\t') then skipSpaceFrom false cs
    else if !inComment && c == '#' then skipSpaceFrom true cs
    else c :: cs

def skipSpace (cs : List Char) : List Char := skipSpaceFrom false cs

def hexValue (cs : List Char) : Nat :=
  cs.foldl (fun value c =>
    let digit := if c.isDigit then c.toNat - '0'.toNat else c.toLower.toNat - 'a'.toNat + 10
    value * 16 + digit) 0

def readCode? (digits : Nat) (cs : List Char) : Option (Char × List Char) :=
  let code := cs.take digits
  if code.length = digits ∧ code.all isHexDigit ∧ (hexValue code).isValidChar then
    some (Char.ofNat (hexValue code), cs.drop digits)
  else none

def readEscape? : List Char → Option (Char × List Char)
  | 'b' :: cs => some ('\x08', cs)
  | 't' :: cs => some ('\t', cs)
  | 'n' :: cs => some ('\n', cs)
  | 'f' :: cs => some ('\x0c', cs)
  | 'r' :: cs => some ('\r', cs)
  | 'e' :: cs => some ('\x1b', cs)
  | '"' :: cs => some ('"', cs)
  | '\\' :: cs => some ('\\', cs)
  | 'x' :: cs => readCode? 2 cs
  | 'u' :: cs => readCode? 4 cs
  | 'U' :: cs => readCode? 8 cs
  | _ => none

def readBasic? : Nat → List Char → Option (List Char × List Char)
  | 0, _ => none
  | _, [] => none
  | _, '"' :: cs => some ([], cs)
  | n + 1, '\\' :: cs => do
    let (c, cs) ← readEscape? cs
    let (text, rest) ← readBasic? n cs
    return (c :: text, rest)
  | n + 1, c :: cs =>
    if isPrintable c then do
      let (text, rest) ← readBasic? n cs
      return (c :: text, rest)
    else none

def readLiteral? (cs : List Char) : Option (List Char × List Char) :=
  let text := cs.takeWhile (· != '\'')
  match cs.drop text.length with
  | '\'' :: rest => if text.all isPrintable then some (text, rest) else none
  | _ => none

def skipLineEnds : List Char → List Char
  | ' ' :: cs => skipLineEnds cs
  | '\t' :: cs => skipLineEnds cs
  | '\n' :: cs => skipLineEnds cs
  | '\r' :: '\n' :: cs => skipLineEnds cs
  | cs => cs

def continuation? (cs : List Char) : Option (List Char) :=
  (afterLineEnd? (skipBlanks cs)).map skipLineEnds

/-- A string of many lines, after its three quotes. Two quotes more may stand before its end. Line
ends are kept as they are. -/
def readLines? (quote : Char) (escapes : Bool) : Nat → List Char → Option (List Char × List Char)
  | 0, _ => none
  | _, [] => none
  | n + 1, c :: cs =>
    let quotes := (c :: cs).takeWhile (· == quote)
    if 3 ≤ quotes.length then
      if quotes.length ≤ 5 then some (quotes.drop 3, (c :: cs).drop quotes.length) else none
    else if escapes && c == '\\' then
      match continuation? cs with
      | some cs => readLines? quote escapes n cs
      | none => do
        let (c, cs) ← readEscape? cs
        let (text, rest) ← readLines? quote escapes n cs
        return (c :: text, rest)
    else if isPrintable c || c == '\n' || (c == '\r' && cs.head? == some '\n') then do
      let (text, rest) ← readLines? quote escapes n cs
      return (c :: text, rest)
    else none

/-- A line end right after the three quotes does not belong to the string. -/
def readLongString? (quote : Char) (escapes : Bool) (cs : List Char) :
    Option (List Char × List Char) :=
  let cs := (afterLineEnd? cs).getD cs
  readLines? quote escapes (cs.length + 1) cs

/-- How deep arrays and tables in braces may lie in each other, and how many keys dots may join. -/
def depthLimit : Nat := 80

def isKeyChar (c : Char) : Bool := c.isAlphanum || c == '_' || c == '-'

def readKey? : List Char → Option (List Char × List Char)
  | '"' :: cs => readBasic? (cs.length + 1) cs
  | '\'' :: cs => readLiteral? cs
  | cs =>
    let key := cs.takeWhile isKeyChar
    if key.isEmpty then none else some (key, cs.drop key.length)

def readKeys? : Nat → List Char → Option (List String × List Char)
  | 0, _ => none
  | n + 1, cs => do
    let (key, rest) ← readKey? cs
    let rest := skipBlanks rest
    match rest with
    | '.' :: rest => do
      let (keys, rest) ← readKeys? n (skipBlanks rest)
      return (String.ofList key :: keys, rest)
    | rest => return ([String.ofList key], rest)

def readPath? (cs : List Char) : Option (List String × List Char) := readKeys? depthLimit cs

def isWordChar (c : Char) : Bool := !"=,[]\x7b\x7d# \t\r\n".toList.contains c

/-- A single blank belongs to a word that goes on after it, as times do after dates. -/
def scalarWord (cs : List Char) : List Char :=
  let word := cs.takeWhile isWordChar
  match cs.drop word.length with
  | ' ' :: c :: rest => if isWordChar c then word ++ ' ' :: (c :: rest).takeWhile isWordChar else word
  | _ => word

def readScalar? (cs : List Char) : Option (Value × List Char) :=
  let word := scalarWord cs
  if isScalar word then some (.scalar (String.ofList word), cs.drop word.length) else none

def stringValue (read : Option (List Char × List Char)) : Option (Value × List Char) :=
  read.map fun (text, rest) => (.str (String.ofList text), rest)

mutual
/-- Each bracket or brace that is opened takes one from the room that is left for more. -/
def readValue? : Nat → Nat → List Char → Option (Value × List Char)
  | 0, _, _ => none
  | _, _, '"' :: '"' :: '"' :: cs => stringValue (readLongString? '"' true cs)
  | _, _, '\'' :: '\'' :: '\'' :: cs => stringValue (readLongString? '\'' false cs)
  | _, _, '"' :: cs => stringValue (readBasic? (cs.length + 1) cs)
  | _, _, '\'' :: cs => stringValue (readLiteral? cs)
  | n + 1, room + 1, '[' :: cs => do
    let (items, rest) ← readItems? n room (skipSpace cs)
    return (.array items, rest)
  | n + 1, room + 1, '{' :: cs => do
    let (members, rest) ← readMembers? n room [] (skipSpace cs)
    return (.table .inline members, rest)
  | _, _, cs => readScalar? cs

def readItems? : Nat → Nat → List Char → Option (List Value × List Char)
  | 0, _, _ => none
  | _, _, ']' :: cs => some ([], cs)
  | n + 1, room, cs => do
    let (item, rest) ← readValue? n room cs
    match skipSpace rest with
    | ',' :: rest => do
      let (items, rest) ← readItems? n room (skipSpace rest)
      return (item :: items, rest)
    | ']' :: rest => return ([item], rest)
    | _ => none

/-- The members of a table in braces, after those read so far, and its closing brace. Lines may end
anywhere but between keys that a dot joins. -/
def readMembers? : Nat → Nat → Members → List Char → Option (Members × List Char)
  | 0, _, _, _ => none
  | _, _, members, '}' :: cs => some (members, cs)
  | n + 1, room, members, cs => do
    let (path, rest) ← readPath? cs
    match skipSpace rest with
    | '=' :: rest => do
      let (value, rest) ← readValue? n room (skipSpace rest)
      let members ← members.addPair? value path
      match skipSpace rest with
      | ',' :: rest => readMembers? n room members (skipSpace rest)
      | '}' :: rest => return (members, rest)
      | _ => none
    | _ => none
end

structure Reading where
  members : Members := []
  path : List String := []

def Reading.header? (reading : Reading) (cs : List Char) : Option (Reading × List Char) := do
  let (path, rest) ← readPath? (skipBlanks cs)
  match rest with
  | ']' :: rest => do
    let last ← path.getLast?
    let members ← reading.members.changeAt? (Members.openTable? last) path.dropLast
    return (⟨members, path⟩, rest)
  | _ => none

def Reading.itemHeader? (reading : Reading) (cs : List Char) : Option (Reading × List Char) := do
  let (path, rest) ← readPath? (skipBlanks cs)
  match rest with
  | ']' :: ']' :: rest => do
    let last ← path.getLast?
    let members ← reading.members.changeAt? (Members.openItem? last) path.dropLast
    return (⟨members, path⟩, rest)
  | _ => none

def Reading.pair? (reading : Reading) (cs : List Char) : Option (Reading × List Char) := do
  let (path, rest) ← readPath? cs
  match rest with
  | '=' :: rest => do
    let (value, rest) ← readValue? (rest.length + 1) depthLimit (skipBlanks rest)
    let members ← reading.members.changeAt? (Members.addPair? value path) reading.path
    return ({ reading with members }, rest)
  | _ => none

def Reading.line? (reading : Reading) : List Char → Option (Reading × List Char)
  | '[' :: '[' :: cs => reading.itemHeader? cs
  | '[' :: cs => reading.header? cs
  | cs => reading.pair? cs

def Reading.lines? : Nat → Reading → List Char → Option Members
  | 0, _, _ => none
  | n + 1, reading, cs => match skipSpace cs with
    | [] => some reading.members
    | rest => do
      let (reading, rest) ← reading.line? rest
      lines? n reading (← finishLine? rest)

def withoutByteOrderMark : List Char → List Char
  | '\uFEFF' :: cs => cs
  | cs => cs

def readDocument? (text : String) : Option Members :=
  let cs := withoutByteOrderMark text.toList
  Reading.lines? (cs.length + 1) {} cs

end RecordSql.Toml
