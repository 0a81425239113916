import RecordSql.Text.Number
import RecordSql.Text.Split

namespace RecordSql.Toml

def isHexDigit (c : Char) : Bool :=
  c.isDigit || ('a' ≤ c && c ≤ 'f') || ('A' ≤ c && c ≤ 'F')

def withoutSign : List Char → List Char
  | '+' :: cs => cs
  | '-' :: cs => cs
  | cs => cs

def areGrouped (kind : Char → Bool) (cs : List Char) : Bool :=
  cs.isEmpty || (Text.pieces '_' cs).all fun piece => !piece.isEmpty && piece.all kind

def isBased : List Char → Bool
  | '0' :: 'x' :: cs => areGrouped isHexDigit cs
  | '0' :: 'o' :: cs => areGrouped (fun c => '0' ≤ c && c ≤ '7') cs
  | '0' :: 'b' :: cs => areGrouped (fun c => c == '0' || c == '1') cs
  | _ => false

def areSpaced (kind : Char → Bool) : List Char → Bool
  | [] => true
  | c :: '_' :: cs => kind c && cs.head?.any kind && areSpaced kind cs
  | c :: cs => c != '_' && areSpaced kind cs

/-- An integer without its sign, and without zeros before other digits. Beside underscores stand
digits, for which the letters up to `f` pass; what lies between is not looked at. -/
def isDecimal (cs : List Char) : Bool :=
  (cs == ['0'] || cs.head?.any (· != '0')) &&
    match cs.dropWhile Char.isDigit with
    | [] => true
    | '_' :: rest => !rest.any (" .eE".toList.contains ·) && areSpaced isHexDigit cs
    | _ => false

def afterDigits? (cs : List Char) : Option (List Char) :=
  let run := cs.takeWhile fun c => c.isDigit || c == '_'
  if run.any Char.isDigit then some (cs.drop run.length) else none

def afterFraction? : List Char → Option (List Char)
  | '.' :: cs => afterDigits? cs
  | cs => some cs

def afterExponent? : List Char → Option (List Char)
  | 'e' :: cs => afterDigits? (withoutSign cs)
  | 'E' :: cs => afterDigits? (withoutSign cs)
  | cs => some cs

def hasLeadingZero (cs : List Char) : Bool :=
  let run := cs.takeWhile fun c => c.isDigit || c == '_'
  run.head? == some '0' && 2 ≤ run.countP Char.isDigit

def isFloat (cs : List Char) : Bool :=
  ((afterDigits? cs).bind afterFraction?).bind afterExponent? == some [] &&
    !hasLeadingZero cs && areSpaced Char.isDigit cs

def isNumber (cs : List Char) : Bool :=
  let unsigned := withoutSign cs
  isDecimal unsigned || isFloat unsigned || unsigned == "inf".toList || unsigned == "nan".toList

def isPair (least largest : Nat) (cs : List Char) : Bool :=
  cs.length == 2 && cs.all Char.isDigit && least ≤ Text.digitsValue cs &&
    Text.digitsValue cs ≤ largest

def isLeapYear (year : Nat) : Bool := year % 4 == 0 && (year % 100 != 0 || year % 400 == 0)

def daysOfMonth (year month : Nat) : Nat :=
  if month = 2 then (if isLeapYear year then 29 else 28)
  else if [4, 6, 9, 11].contains month then 30 else 31

def isDate (cs : List Char) : Bool :=
  match Text.pieces '-' cs with
  | [year, month, day] =>
    year.length == 4 && year.all Char.isDigit && isPair 1 12 month &&
      isPair 1 (daysOfMonth (Text.digitsValue year) (Text.digitsValue month)) day
  | _ => false

def isSeconds (cs : List Char) : Bool :=
  match Text.splitOnce '.' cs with
  | some (whole, fraction) => isPair 0 60 whole && !fraction.isEmpty && fraction.all Char.isDigit
  | none => isPair 0 60 cs

def isTime (cs : List Char) : Bool :=
  match Text.pieces ':' cs with
  | [hour, minute] => isPair 0 23 hour && isPair 0 59 minute
  | [hour, minute, second] => isPair 0 23 hour && isPair 0 59 minute && isSeconds second
  | _ => false

def isOffset (cs : List Char) : Bool :=
  match Text.pieces ':' cs with
  | [hour, minute] => isPair 0 23 hour && isPair 0 59 minute
  | _ => false

def isZonedTime (cs : List Char) : Bool :=
  if cs.getLast? == some 'Z' || cs.getLast? == some 'z' then isTime cs.dropLast
  else match Text.splitOnce '+' cs, Text.splitOnce '-' cs with
    | some (time, offset), none => isTime time && isOffset offset
    | none, some (time, offset) => isTime time && isOffset offset
    | none, none => isTime cs
    | some _, some _ => false

/-- A letter or a blank stands between a date and a time. -/
def isDateTime (cs : List Char) : Bool :=
  let date := cs.take 10
  match cs.drop 10 with
  | [] => isDate date
  | c :: time => (c == 'T' || c == 't' || c == ' ') && isDate date && isZonedTime time

def isScalar (cs : List Char) : Bool :=
  cs == "true".toList || cs == "false".toList || isBased cs || isNumber cs || isDateTime cs ||
    isTime cs

end RecordSql.Toml
