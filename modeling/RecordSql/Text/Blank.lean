namespace RecordSql.Text

/-- Blank characters are the twenty-five of the Unicode property White_Space. -/
def isBlank (c : Char) : Bool :=
  let n := c.toNat
  (9 ≤ n && n ≤ 13) || n == 0x20 || n == 0x85 || n == 0xA0 || n == 0x1680 ||
    (0x2000 ≤ n && n ≤ 0x200A) || n == 0x2028 || n == 0x2029 || n == 0x202F ||
    n == 0x205F || n == 0x3000

def trimStart (cs : List Char) : List Char := cs.dropWhile isBlank

def trimEnd (cs : List Char) : List Char := (cs.reverse.dropWhile isBlank).reverse

def trim (cs : List Char) : List Char := trimEnd (trimStart cs)

def nextWord (cs : List Char) : List Char × List Char :=
  let start := trimStart cs
  (start.takeWhile fun c => !isBlank c, trim (start.dropWhile fun c => !isBlank c))

def trimmed (s : String) : String := String.ofList (trim s.toList)

end RecordSql.Text
