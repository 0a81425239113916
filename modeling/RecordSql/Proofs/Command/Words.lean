import RecordSql.Command.Operator
import RecordSql.Proofs.Command.Ident

namespace RecordSql

/-- Characters of words are neither blank nor commas, and open and close nothing. -/
def isWordChar (c : Char) : Bool := !Text.isBlank c && !Text.isNestingMark c && c != ','

theorem isWordChar_iff {c : Char} :
    isWordChar c = true ↔ Text.isBlank c = false ∧ Text.isNestingMark c = false ∧ c ≠ ',' := by
  simp [isWordChar, and_assoc]

theorem isWordChar_of_isIdentRest {c : Char} (inside : isIdentRest c = true) : isWordChar c = true := by
  refine isWordChar_iff.mpr ⟨isBlank_of_isIdentRest inside, ?_, ?_⟩
  · by_contra mark
    simp only [Text.isNestingMark, Bool.not_eq_false, Bool.or_eq_true, beq_iff_eq] at mark
    rcases mark with (rfl | rfl) | rfl <;> cases inside
  · rintro rfl
    cases inside

theorem toLower_eq_or_isIdentRest (c : Char) : c.toLower = c ∨ isIdentRest c = true := by
  by_cases upper : c.isUpper = true
  · exact .inr (isIdentRest_iff.mpr (.inl (.inl (.inl upper))))
  · exact .inl (dif_neg fun bounds => upper (decide_eq_true bounds))

theorem isWordChar_of_toLower {c : Char} (lower : isWordChar c.toLower = true) : isWordChar c = true := by
  rcases toLower_eq_or_isIdentRest c with same | inside
  · rwa [same] at lower
  · exact isWordChar_of_isIdentRest inside

structure IsWord (cs : List Char) : Prop where
  filled : cs ≠ []
  chars : ∀ c ∈ cs, isWordChar c = true

namespace IsWord

variable {cs : List Char}

theorem solid (word : IsWord cs) : ∀ c ∈ cs, Text.isBlank c = false :=
  fun c member => (isWordChar_iff.mp (word.chars c member)).1

theorem isPart (word : IsWord cs) : Text.IsPart ',' cs :=
  Text.IsPart.of_plain fun c member => (isWordChar_iff.mp (word.chars c member)).2

theorem of_ident (ident : isIdentChars cs = true) : IsWord cs where
  filled := by
    rintro rfl
    cases ident
  chars c member := isWordChar_of_isIdentRest (isIdentRest_of_ident ident c member)

theorem of_lower {text : String} (word : IsWord (Text.lower text).toList) : IsWord text.toList where
  filled := by
    intro empty
    exact word.filled (by simp [Text.lower, Text.lowerChars, empty])
  chars c member := by
    apply isWordChar_of_toLower
    apply word.chars
    simpa [Text.lower, Text.lowerChars] using ⟨c, member, rfl⟩

instance (cs : List Char) : Decidable (IsWord cs) :=
  decidable_of_iff (cs ≠ [] ∧ cs.all isWordChar = true)
    ⟨fun facts => ⟨facts.1, List.all_eq_true.mp facts.2⟩,
      fun word => ⟨word.filled, List.all_eq_true.mpr word.chars⟩⟩

end IsWord

def compareWords : List String :=
  ["=", "==", "<>", "!=", "<", "<=", ">", ">=", "like", "notlike", "ilike", "notilike", "similar", "notsimilar",
   "~", "~*", "!~", "!~*", "isdistinct", "notdistinct", "isin", "notin"]

def testWords : List String :=
  ["isnull", "notnull", "istrue", "nottrue", "isfalse", "notfalse", "isunknown", "notunknown"]

def quantifierWords : List String := ["any", "some", "all"]

theorem CompareOp.mem_of_ofWord? {word : String} {op : CompareOp} (read : ofWord? word = some op) :
    Text.lower word ∈ compareWords := by
  unfold ofWord? at read
  split at read <;> simp_all [compareWords]

theorem TestOp.mem_of_ofWord? {word : String} {op : TestOp} (read : ofWord? word = some op) :
    Text.lower word ∈ testWords := by
  unfold ofWord? at read
  split at read <;> simp_all [testWords]

theorem Quantifier.mem_of_ofWord? {word : String} {quantifier : Quantifier}
    (read : ofWord? word = Option.some quantifier) : Text.lower word ∈ quantifierWords := by
  unfold ofWord? at read
  split at read <;> simp_all [quantifierWords]

theorem isWord_of_mem : ∀ word ∈ compareWords ++ testWords ++ quantifierWords, IsWord word.toList := by
  decide +kernel

theorem CompareOp.isWord_of_ofWord? {word : String} {op : CompareOp} (read : ofWord? word = some op) :
    IsWord word.toList :=
  .of_lower (isWord_of_mem _ (by simp [mem_of_ofWord? read]))

theorem TestOp.isWord_of_ofWord? {word : String} {op : TestOp} (read : ofWord? word = some op) :
    IsWord word.toList :=
  .of_lower (isWord_of_mem _ (by simp [mem_of_ofWord? read]))

theorem Quantifier.isWord_of_ofWord? {word : String} {quantifier : Quantifier}
    (read : ofWord? word = Option.some quantifier) : IsWord word.toList :=
  .of_lower (isWord_of_mem _ (by simp [mem_of_ofWord? read]))

theorem TestOp.ofWord?_eq_none {word : String} {op : CompareOp} (read : CompareOp.ofWord? word = some op) :
    ofWord? word = none := by
  cases test : ofWord? word with
  | none => rfl
  | some other =>
    have apart : ∀ known ∈ compareWords, known ∉ testWords := by decide
    exact absurd (mem_of_ofWord? test) (apart _ (CompareOp.mem_of_ofWord? read))

theorem Quantifier.ofWord?_eq_none_of_dot {word : String} (dot : '.' ∈ word.toList) : ofWord? word = none := by
  cases read : ofWord? word with
  | none => rfl
  | some quantifier =>
    have dotless : ∀ known ∈ quantifierWords, '.' ∉ known.toList := by decide
    refine absurd ?_ (dotless _ (mem_of_ofWord? read))
    simpa [Text.lower, Text.lowerChars] using ⟨'.', dot, rfl⟩

def Connector.word : Connector → String
  | .and => "and"
  | .or => "or"

def CompareOp.word : CompareOp → String
  | eq => "="
  | ne => "<>"
  | lt => "<"
  | lte => "<="
  | gt => ">"
  | gte => ">="
  | like => "like"
  | notLike => "notlike"
  | iLike => "ilike"
  | notILike => "notilike"
  | similar => "similar"
  | notSimilar => "notsimilar"
  | regex => "~"
  | regexI => "~*"
  | notRegex => "!~"
  | notRegexI => "!~*"
  | isDistinct => "isdistinct"
  | notDistinct => "notdistinct"
  | isIn => "isin"
  | notIn => "notin"

def TestOp.word : TestOp → String
  | isNull => "isnull"
  | notNull => "notnull"
  | isTrue => "istrue"
  | notTrue => "nottrue"
  | isFalse => "isfalse"
  | notFalse => "notfalse"
  | isUnknown => "isunknown"
  | notUnknown => "notunknown"

def Quantifier.word : Quantifier → String
  | any => "any"
  | some => "some"
  | all => "all"

/-- A spelling of the operators: words that are read as them. -/
structure Wording where
  connector : Connector → String
  compare : CompareOp → String
  test : TestOp → String
  quantifier : Quantifier → String
  lower_connector : ∀ op, Text.lower (connector op) = op.word
  read_compare : ∀ op, CompareOp.ofWord? (compare op) = some op
  read_test : ∀ op, TestOp.ofWord? (test op) = some op
  read_quantifier : ∀ op, Quantifier.ofWord? (quantifier op) = some op

def Wording.plain : Wording where
  connector := Connector.word
  compare := CompareOp.word
  test := TestOp.word
  quantifier := Quantifier.word
  lower_connector op := by cases op <;> decide
  read_compare op := by cases op <;> decide
  read_test op := by cases op <;> decide
  read_quantifier op := by cases op <;> decide

section

variable (words : Wording)

theorem Wording.lowerChars_connector (op : Connector) :
    Text.lowerChars (words.connector op).toList = op.word.toList := by
  rw [← words.lower_connector op, Text.lower, String.toList_ofList]

theorem Wording.isWord_connector (op : Connector) : IsWord (words.connector op).toList := by
  apply IsWord.of_lower
  rw [words.lower_connector]
  cases op <;> decide

theorem Wording.dropHead?_connector (op : Connector) (rest : List Char) :
    Text.dropHead? (op.word.toList ++ [' ']) ((words.connector op).toList ++ ' ' :: rest) = some rest := by
  refine (Text.dropHead?_eq_some_iff _ _ _).mpr ⟨(words.connector op).toList ++ [' '], by simp, ?_⟩
  have lower : Text.lowerChars op.word.toList = op.word.toList := by
    cases op <;> rfl
  calc Text.lowerChars ((words.connector op).toList ++ [' '])
    _ = Text.lowerChars (words.connector op).toList ++ Text.lowerChars [' '] := List.map_append
    _ = Text.lowerChars op.word.toList ++ Text.lowerChars [' '] := by rw [words.lowerChars_connector, lower]
    _ = Text.lowerChars (op.word.toList ++ [' ']) := List.map_append.symm

theorem Wording.dropHead?_or (rest : List Char) :
    Text.dropHead? "or ".toList ((words.connector .and).toList ++ rest) = none := by
  have chars := words.lowerChars_connector .and
  cases characters : (words.connector .and).toList with
  | nil => simp [characters, Text.lowerChars, Connector.word] at chars
  | cons c cs =>
    have first : c.toLower = 'a' := by
      simp [characters, Text.lowerChars, Connector.word] at chars
      exact chars.1
    simp [Text.dropHead?, first]

end

end RecordSql
