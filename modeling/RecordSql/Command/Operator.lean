import RecordSql.Text.Ascii

namespace RecordSql

inductive Connector where
  | and | or
  deriving DecidableEq, Repr, Inhabited

def Connector.sql : Connector → String
  | and => "AND"
  | or => "OR"

inductive Quantifier where
  | any | some | all
  deriving DecidableEq, Repr

namespace Quantifier

def sql : Quantifier → String
  | any => "ANY"
  | some => "SOME"
  | all => "ALL"

def ofWord? (word : String) : Option Quantifier :=
  match Text.lower word with
  | "any" => Option.some any
  | "some" => Option.some some
  | "all" => Option.some all
  | _ => none

end Quantifier

inductive CompareOp where
  | eq | ne | lt | lte | gt | gte | like | notLike | iLike | notILike | similar | notSimilar
  | regex | regexI | notRegex | notRegexI | isDistinct | notDistinct | isIn | notIn
  deriving DecidableEq, Repr

namespace CompareOp

def ofWord? (word : String) : Option CompareOp :=
  match Text.lower word with
  | "=" | "==" => some eq
  | "<>" | "!=" => some ne
  | "<" => some lt
  | "<=" => some lte
  | ">" => some gt
  | ">=" => some gte
  | "like" => some like
  | "notlike" => some notLike
  | "ilike" => some iLike
  | "notilike" => some notILike
  | "similar" => some similar
  | "notsimilar" => some notSimilar
  | "~" => some regex
  | "~*" => some regexI
  | "!~" => some notRegex
  | "!~*" => some notRegexI
  | "isdistinct" => some isDistinct
  | "notdistinct" => some notDistinct
  | "isin" => some isIn
  | "notin" => some notIn
  | _ => none

/-- The SQL operator. Membership is written as a quantified comparison. -/
def sql : CompareOp → String
  | eq => "="
  | ne => "<>"
  | lt => "<"
  | lte => "<="
  | gt => ">"
  | gte => ">="
  | like => "LIKE"
  | notLike => "NOT LIKE"
  | iLike => "ILIKE"
  | notILike => "NOT ILIKE"
  | similar => "SIMILAR TO"
  | notSimilar => "NOT SIMILAR TO"
  | regex => "~"
  | regexI => "~*"
  | notRegex => "!~"
  | notRegexI => "!~*"
  | isDistinct => "IS DISTINCT FROM"
  | notDistinct => "IS NOT DISTINCT FROM"
  | isIn => "="
  | notIn => "<>"

/-- The operator of the catalogue that decides which operand types are comparable. -/
def base : CompareOp → String
  | eq | isDistinct | notDistinct | isIn => "="
  | ne | notIn => "<>"
  | lt => "<"
  | lte => "<="
  | gt => ">"
  | gte => ">="
  | like => "~~"
  | notLike => "!~~"
  | iLike => "~~*"
  | notILike => "!~~*"
  | similar | regex => "~"
  | notSimilar | notRegex => "!~"
  | regexI => "~*"
  | notRegexI => "!~*"

def isMembership : CompareOp → Bool
  | isIn | notIn => true
  | _ => false

def isQuantifiable : CompareOp → Bool
  | isDistinct | notDistinct | isIn | notIn => false
  | _ => true

def impliedQuantifier? : CompareOp → Option Quantifier
  | isIn => some .any
  | notIn => some .all
  | _ => none

end CompareOp

inductive TestOp where
  | isNull | notNull | isTrue | notTrue | isFalse | notFalse | isUnknown | notUnknown
  deriving DecidableEq, Repr

namespace TestOp

def ofWord? (word : String) : Option TestOp :=
  match Text.lower word with
  | "isnull" => some isNull
  | "notnull" => some notNull
  | "istrue" => some isTrue
  | "nottrue" => some notTrue
  | "isfalse" => some isFalse
  | "notfalse" => some notFalse
  | "isunknown" => some isUnknown
  | "notunknown" => some notUnknown
  | _ => none

def sql : TestOp → String
  | isNull => "IS NULL"
  | notNull => "IS NOT NULL"
  | isTrue => "IS TRUE"
  | notTrue => "IS NOT TRUE"
  | isFalse => "IS FALSE"
  | notFalse => "IS NOT FALSE"
  | isUnknown => "IS UNKNOWN"
  | notUnknown => "IS NOT UNKNOWN"

def isNullTest : TestOp → Bool
  | isNull | notNull => true
  | _ => false

end TestOp

inductive RangeOp where
  | between | notBetween | betweenSymmetric | notBetweenSymmetric
  deriving DecidableEq, Repr

namespace RangeOp

def ofWord? (word : String) : Option RangeOp :=
  match Text.lower word with
  | "isbetween" => some between
  | "notbetween" => some notBetween
  | "isbetweensym" => some betweenSymmetric
  | "notbetweensym" => some notBetweenSymmetric
  | _ => none

def sql : RangeOp → String
  | between => "BETWEEN"
  | notBetween => "NOT BETWEEN"
  | betweenSymmetric => "BETWEEN SYMMETRIC"
  | notBetweenSymmetric => "NOT BETWEEN SYMMETRIC"

end RangeOp

end RecordSql
