namespace RecordSql.Text

def digitsValue (digits : List Char) : Nat :=
  digits.foldl (fun value c => value * 10 + (c.toNat - '0'.toNat)) 0

def readDigits? (cs : List Char) : Option Nat :=
  if cs.isEmpty || !cs.all Char.isDigit then none else some (digitsValue cs)

/-- Digits after an optional plus sign, at most `largest`. -/
def readNat? (largest : Nat) (cs : List Char) : Option Nat :=
  let digits := match cs with
    | '+' :: rest => rest
    | _ => cs
  (readDigits? digits).filter (· ≤ largest)

/-- Digits after an optional sign, between `least` and `largest`. -/
def readInt? (least largest : Int) (cs : List Char) : Option Int :=
  let value := match cs with
    | '-' :: rest => (readDigits? rest).map fun n => -(n : Int)
    | '+' :: rest => (readDigits? rest).map Int.ofNat
    | _ => (readDigits? cs).map Int.ofNat
  value.filter fun n => least ≤ n && n ≤ largest

def readU64? (s : String) : Option Nat := readNat? 18446744073709551615 s.toList

def readI64? (s : String) : Option Int := readInt? (-9223372036854775808) 9223372036854775807 s.toList

def readI32? (s : String) : Option Int := readInt? (-2147483648) 2147483647 s.toList

end RecordSql.Text
