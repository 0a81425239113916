import RecordSql.Annotation.Directive
import RecordSql.Annotation.Error

/-!
The reading of predicates: `column op [quantifier]` for the value of a field, `column op
[quantifier] operand` or `column test` otherwise, bounds, groups of them, and join annotations.
-/
namespace RecordSql

def literalWords : List String :=
  ["current_date", "current_time", "current_timestamp", "default", "false", "localtime",
   "localtimestamp", "null", "true"]

/-- A column, unless it is one of the literal words; all else is literal SQL. -/
def Operand.read (cs : List Char) : Operand :=
  let text := String.ofList (Text.trim cs)
  match ColumnRef.parse? text with
  | some named =>
    if literalWords.any (Text.equalIgnoringCase text) then .literal text else .column named
  | none => .literal text

def readColumn (cs : List Char) : Except AnnotationError ColumnRef :=
  match ColumnRef.ofChars? cs with
  | some column => .ok column
  | none => .error (.invalidColumn (String.ofList cs))

def ColumnExpr.read (field : String) (cs : List Char) : Except AnnotationError ColumnExpr :=
  match Text.splitOnce '(' cs with
  | some (func, inner) =>
    if inner.getLast? == some ')' && isIdentChars func then do
      let column ← readColumn inner.dropLast
      return ⟨column, some (String.ofList (Text.lowerChars func))⟩
    else .error (.invalidPredicate field (String.ofList cs))
  | none => do return ⟨← readColumn cs, none⟩

def readQuantifier (field : String) (op : CompareOp) (word : List Char) :
    Except AnnotationError (Option Quantifier) :=
  if word.isEmpty then .ok none
  else match Quantifier.ofWord? (String.ofList word) with
    | some quantifier =>
      if op.isQuantifiable then .ok (some quantifier)
      else .error (.invalidOperator field (op.sql ++ " " ++ quantifier.sql))
    | none => .error (.invalidPredicate field (String.ofList word))

def readCompareOp (field : String) (word : List Char) : Except AnnotationError CompareOp :=
  match CompareOp.ofWord? (String.ofList word) with
  | some op => .ok op
  | none => .error (.invalidOperator field (String.ofList word))

/-- `column [op [quantifier]]`; without an operator the values are equal. -/
def FieldTest.read (path : List String) (field : HostField) (text : String) :
    Except AnnotationError FieldTest := do
  let (head, rest) := Text.nextWord text.toList
  let column ← ColumnExpr.read field.name head
  let (opWord, rest) := Text.nextWord rest
  let op ← if opWord.isEmpty then pure .eq else readCompareOp field.name opWord
  let (quantifierWord, rest) := Text.nextWord rest
  let quantifier ← readQuantifier field.name op quantifierWord
  if rest.isEmpty then return ⟨⟨path, field.type⟩, column, op, quantifier⟩
  else throw (.invalidPredicate field.name text)

/-- `column test` or `column op [quantifier] operand` -/
def ColumnTest.read (field : String) (cs : List Char) : Except AnnotationError ColumnTest := do
  let (head, rest) := Text.nextWord cs
  let left ← ColumnExpr.read field head
  let (opWord, rest) := Text.nextWord rest
  match TestOp.ofWord? (String.ofList opWord) with
  | some op =>
    if rest.isEmpty then return ⟨left, .test op⟩
    else throw (.invalidPredicate field (String.ofList cs))
  | none =>
    let op ← readCompareOp field opWord
    let (word, after) := Text.nextWord rest
    let (quantifier, right) ← match Quantifier.ofWord? (String.ofList word) with
      | some _ => do pure (← readQuantifier field op word, after)
      | none => pure (none, rest)
    if right.isEmpty then throw (.invalidPredicate field (String.ofList cs))
    else return ⟨left, .compare op quantifier (Operand.read right)⟩

def predicateText (field : HostField) : Except AnnotationError String :=
  match field.sqlText? with
  | some text => .ok text
  | none => .error (.missingPredicateTag field.name)

structure Bounds where
  low : Option Operand := none
  high : Option Operand := none

/-- The bound called `x` is the low one and `y` the high one; neither may be given twice. -/
def Bounds.set (bounds : Bounds) (field slot : String) (operand : Operand) :
    Except AnnotationError Bounds :=
  match Text.lower slot, bounds with
  | "x", ⟨none, high⟩ => .ok ⟨some operand, high⟩
  | "y", ⟨low, none⟩ => .ok ⟨low, some operand⟩
  | _, _ => .error (.invalidPredicate field slot)

/-- A member of a range: a directive `operand, x` or `operand, y`, or a field tagged `x` or `y`. -/
def Bounds.add (range : String) (path : List String) (bounds : Bounds) (member : HostField) :
    Except AnnotationError Bounds :=
  match member.directive? with
  | some .column => do
    let text ← predicateText member
    match Text.splitTopLevel ',' text.toList with
    | [value, slot] => bounds.set member.name (String.ofList slot) (Operand.read value)
    | _ => throw (.invalidPredicate member.name text)
  | some other => .error (.misplacedDirective other.name range)
  | none => match member.sql? with
    | some slot => bounds.set member.name slot (.field ⟨path ++ [member.name], member.type⟩)
    | none => .error (.missingPredicateTag member.name)

def BetweenTest.read (path : List String) (name text : String) (members : List HostField) :
    Except AnnotationError BetweenTest := do
  let (head, rest) := Text.nextWord text.toList
  let (opWord, rest) := Text.nextWord rest
  unless rest.isEmpty do throw (.invalidPredicate name text)
  let column ← readColumn head
  let op ← match RangeOp.ofWord? (String.ofList opWord) with
    | some op => pure op
    | none => throw (.invalidOperator name (String.ofList opWord))
  match ← members.foldlM (Bounds.add name path) {} with
  | ⟨some low, some high⟩ => return ⟨name, column, op, low, high⟩
  | _ => throw (.invalidPredicate name "between requires one 'x' and one 'y' operand")

def connectorOf? : Option Directive → Option Connector
  | some .and => some .and
  | some .or => some .or
  | _ => none

mutual
/-- The entries of a group. A connector stands between two entries; `pending` is the one that was
just read, with the name of its field, and `begun` tells whether an entry has been read. -/
def readEntries (group : String) (path : List String) (begun : Bool)
    (pending : Option (Connector × String)) :
    List HostField → Except AnnotationError (List Entry)
  | [] => match pending with
    | some (_, field) => .error (.danglingConnector field)
    | none => if begun then .ok [] else .error (.emptyGroup group)
  | member :: members =>
    match connectorOf? member.directive? with
    | some connector =>
      if begun && pending.isNone then
        readEntries group path begun (some (connector, member.name)) members
      else .error (.danglingConnector member.name)
    | none => do
      let entry ← readEntry group path ((pending.map Prod.fst).getD .and) member
      let entries ← readEntries group path true none members
      return entry :: entries

def readEntry (group : String) (path : List String) (connector : Connector) :
    HostField → Except AnnotationError Entry
  | ⟨name, tag, type, embedded⟩ =>
    let field : HostField := ⟨name, tag, type, embedded⟩
    match field.directive? with
    | some .column => do
      let text ← predicateText field
      return .leaf connector (.column (← ColumnTest.read name text.toList))
    | some other => .error (.misplacedDirective other.name group)
    | none => match field.sql?, field.nestedFields? with
      | some text, some members => do
        return .leaf connector (.between (← BetweenTest.read (path ++ [name]) name text members))
      | some text, none => do
        return .leaf connector (.field (← FieldTest.read (path ++ [name]) field text))
      | none, some _ => do
        return .group connector name (← readEntriesWithin name (path ++ [name]) type)
      | none, none => .error (.missingPredicateTag name)

def readEntriesWithin (group : String) (path : List String) :
    HostType → Except AnnotationError (List Entry)
  | ⟨.optional ⟨.record members, _, _⟩, _, _⟩ => readEntries group path false none members
  | ⟨.record members, _, _⟩ => readEntries group path false none members
  | _ => .error (.emptyGroup group)
end

def WhereBlock.read (field : HostField) : Except AnnotationError WhereBlock :=
  match field.nestedFields? with
  | some _ => do return ⟨field.name, ← readEntriesWithin field.name [field.name] field.type⟩
  | none => .error (.invalidBlockType "Where" field.name)

def JoinKind.ofDirective? : Directive → Option JoinKind
  | .join => some .inner
  | .leftJoin => some .left
  | .rightJoin => some .right
  | .fullJoin => some .full
  | .crossJoin => some .cross
  | _ => none

def JoinCondition.read (field : String) (cs : List Char) : Except AnnotationError JoinCondition :=
  match Text.dropHead? "or ".toList cs with
  | some text => do return ⟨.or, ← ColumnTest.read field text⟩
  | none => do
    return ⟨.and, ← ColumnTest.read field ((Text.dropHead? "and ".toList cs).getD cs)⟩

/-- `relation, condition, ...`; all joins but cross joins have conditions. -/
def JoinItem.read (kind : JoinKind) (field text : String) : Except AnnotationError JoinItem :=
  match Text.splitTopLevel ',' text.toList with
  | [] => .error (.invalidPredicate field text)
  | head :: parts => do
    let relation ← match RelationRef.parse? (String.ofList head) with
      | some relation => pure relation
      | none => throw (.invalidRelation (String.ofList head))
    let conditions ← (parts.filter fun part => !part.isEmpty).mapM (JoinCondition.read field)
    match kind, conditions with
    | .cross, [] => return ⟨kind, relation, []⟩
    | .cross, _ :: _ => throw (.invalidPredicate field text)
    | _, [] => throw (.missingJoinCondition relation)
    | _, _ :: _ => return ⟨kind, relation, conditions⟩

def JoinItem.ofField (block : String) (member : HostField) : Except AnnotationError JoinItem :=
  match member.directive? with
  | some directive => match JoinKind.ofDirective? directive with
    | some kind => do JoinItem.read kind member.name (← predicateText member)
    | none => .error (.misplacedDirective directive.name block)
  | none => .error (.misplacedDirective member.name block)

def JoinBlock.read (field : HostField) : Except AnnotationError JoinBlock :=
  match field.nestedFields? with
  | some members => do return ⟨field.name, ← members.mapM (JoinItem.ofField field.name)⟩
  | none => .error (.invalidBlockType field.name field.name)

end RecordSql
