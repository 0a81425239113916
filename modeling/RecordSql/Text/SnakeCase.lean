import RecordSql.Text.Cluster
import RecordSql.Text.LowerWord

namespace RecordSql.Text

def isUpperCluster (cluster : List Char) : Bool :=
  cluster.any hasLowerCase && !cluster.any hasUpperCase

def isLowerCluster (cluster : List Char) : Bool :=
  cluster.any hasUpperCase && !cluster.any hasLowerCase

def isDigitCluster (cluster : List Char) : Bool := cluster.all Char.isDigit

def isWordSeparator (cluster : List Char) : Bool := [['_'], ['-'], [' ']].contains cluster

/-- A word ends between two clusters; the third one tells an acronym from the word after it. -/
def wordEndsBetween (a b : List Char) (next : Option (List Char)) : Bool :=
  (isLowerCluster a && isUpperCluster b) ||
    (isLowerCluster a && isDigitCluster b) || (isUpperCluster a && isDigitCluster b) ||
    (isDigitCluster a && isLowerCluster b) || (isDigitCluster a && isUpperCluster b) ||
    (isUpperCluster a && isUpperCluster b && next.any isLowerCluster)

def caseWords : List (List Char) → List (List Char)
  | [] => [[]]
  | a :: rest =>
    let later := caseWords rest
    if isWordSeparator a then [] :: later
    else
      let ends := match rest with
        | b :: tail => wordEndsBetween a b tail.head?
        | [] => false
      match later with
      | word :: words => if ends then a :: word :: words else (a ++ word) :: words
      | [] => [a]

def snakeCase (name : String) : String :=
  String.ofList <| List.intercalate ['_'] <|
    (caseWords (clusters name.toList)).map lowerWord

end RecordSql.Text
