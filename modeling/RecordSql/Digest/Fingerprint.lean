import RecordSql.Digest.Sha256

/-!
Fingerprints of statements: a digest over a version mark and the framed kind and SQL text, so
that two statements share the hashed bytes only if they agree in both.
-/
namespace RecordSql

def textBytes (s : String) : List UInt8 := s.toByteArray.data.toList

/-- A text preceded by its length in four bytes; longer texts have the largest length. -/
def framed (s : String) : List UInt8 :=
  Sha256.bigEndian 4 (min (textBytes s).length 4294967295) ++ textBytes s

def statementBytes (kind sql : String) : List UInt8 :=
  textBytes "stmtfp:v1" ++ framed kind ++ framed sql

def hexDigit (n : Nat) : Char := "0123456789abcdef".toList.getD n '0'

def hexByte (byte : UInt8) : List Char := [hexDigit (byte.toNat / 16), hexDigit (byte.toNat % 16)]

def hexText (bytes : List UInt8) : String := String.ofList (bytes.flatMap hexByte)

structure Fingerprint where
  bytes : List UInt8
  size : bytes.length = 32
  deriving DecidableEq, Repr

namespace Fingerprint

def ofStatement (kind sql : String) : Fingerprint :=
  ⟨Sha256.digest (statementBytes kind sql), Sha256.length_digest _⟩

def toHex (print : Fingerprint) : String := hexText print.bytes

def short (print : Fingerprint) : String := hexText (print.bytes.take 8)

end Fingerprint

end RecordSql
