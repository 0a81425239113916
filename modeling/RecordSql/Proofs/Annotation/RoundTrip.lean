import RecordSql.Annotation.Predicate
import RecordSql.Check.Predicate
import RecordSql.Proofs.Command.Words
import RecordSql.Proofs.Outcome

/-!
Join annotations. A join that is written as annotations write it, in any spelling of the operators, is read back.
-/
namespace RecordSql

def ColumnCondition.text (words : Wording) : ColumnCondition → String
  | .test op => words.test op
  | .compare op none right => words.compare op ++ " " ++ right.text
  | .compare op (some quantifier) right =>
    words.compare op ++ " " ++ (words.quantifier quantifier ++ " " ++ right.text)

/-- `column test` or `column op [quantifier] operand` -/
def ColumnTest.text (words : Wording) (test : ColumnTest) : String :=
  test.left.text ++ " " ++ test.condition.text words

def JoinCondition.text (words : Wording) (condition : JoinCondition) : String :=
  words.connector condition.connector ++ " " ++ condition.test.text words

/-- `relation, condition, ...` -/
def JoinItem.text (words : Wording) (item : JoinItem) : String :=
  ", ".intercalate (item.relation.text :: item.conditions.map (JoinCondition.text words))

def JoinItem.conditionTexts (words : Wording) (item : JoinItem) : List (List Char) :=
  item.conditions.map fun condition => (condition.text words).toList

def ColumnExpr.Valid (expr : ColumnExpr) : Prop :=
  expr.column.Valid ∧ ∀ func ∈ expr.func, isIdent func = true ∧ Text.lower func = func

def IsLiteralWord (text : String) : Prop := literalWords.any (Text.equalIgnoringCase text) = true

/-- Literal text that an entry of a list may end with: it is trimmed, each quote and parenthesis in it is closed
in it, and it is read neither as several entries nor as a column. -/
structure IsLiteralText (text : String) : Prop where
  filled : text ≠ ""
  trimmed : Text.trimmed text = text
  closed : text.toList.foldl Text.Nesting.after {} = {}
  nested : ∀ before after, text.toList = before ++ ',' :: after →
    (before.foldl Text.Nesting.after {}).isTop = false
  noColumn : ∀ column, ColumnRef.parse? text = some column → IsLiteralWord text

/-- What may stand behind an operator and a quantifier. Without a quantifier nothing may be mistaken for one. -/
def Operand.ValidAfter (quantifier : Option Quantifier) : Operand → Prop
  | .column ref => ref.Valid ∧ (ref.qualifier = none →
      ¬ IsLiteralWord ref.name ∧ (quantifier = none → Quantifier.ofWord? ref.name = none))
  | .field _ => False
  | .literal text => IsLiteralText text ∧
      (quantifier = none → Quantifier.ofWord? (String.ofList (Text.nextWord text.toList).1) = none)

def ColumnCondition.Valid : ColumnCondition → Prop
  | .test _ => True
  | .compare op quantifier right =>
    (quantifier.isSome = true → op.isQuantifiable = true) ∧ right.ValidAfter quantifier

def ColumnTest.Valid (test : ColumnTest) : Prop := test.left.Valid ∧ test.condition.Valid

structure JoinItem.Valid (item : JoinItem) : Prop where
  relation : item.relation.Valid
  conditions : ∀ condition ∈ item.conditions, condition.test.Valid
  cross : item.kind = .cross ↔ item.conditions = []

instance (qualifier : Option String) (name : String) : Decidable (IsQualified qualifier name) := by
  unfold IsQualified
  infer_instance

instance (column : ColumnRef) : Decidable column.Valid := inferInstanceAs (Decidable (IsQualified _ _))

instance (ref : RelationRef) : Decidable ref.Valid := by
  unfold RelationRef.Valid
  infer_instance

instance (expr : ColumnExpr) : Decidable expr.Valid := by
  unfold ColumnExpr.Valid
  infer_instance

instance (text : String) : Decidable (IsLiteralWord text) := by
  unfold IsLiteralWord
  infer_instance

instance (text : String) : Decidable (IsLiteralText text) :=
  decidable_of_iff (text ≠ "" ∧ Text.trimmed text = text ∧ text.toList.foldl Text.Nesting.after {} = {} ∧
      Text.unbroken ',' {} text.toList = true ∧ ∀ column ∈ ColumnRef.parse? text, IsLiteralWord text)
    ⟨fun ⟨filled, trimmed, closed, whole, noColumn⟩ =>
      ⟨filled, trimmed, closed, (Text.unbroken_iff (by decide)).mp whole, noColumn⟩,
    fun ⟨filled, trimmed, closed, nested, noColumn⟩ =>
      ⟨filled, trimmed, closed, (Text.unbroken_iff (by decide)).mpr nested, noColumn⟩⟩

instance (quantifier : Option Quantifier) : (right : Operand) → Decidable (right.ValidAfter quantifier)
  | .column ref => by
    unfold Operand.ValidAfter
    infer_instance
  | .field _ => .isFalse id
  | .literal text => by
    unfold Operand.ValidAfter
    infer_instance

instance : (condition : ColumnCondition) → Decidable condition.Valid
  | .test _ => .isTrue trivial
  | .compare op quantifier right => by
    unfold ColumnCondition.Valid
    infer_instance

instance (test : ColumnTest) : Decidable test.Valid := inferInstanceAs (Decidable (_ ∧ _))

instance (item : JoinItem) : Decidable item.Valid :=
  decidable_of_iff (item.relation.Valid ∧ (∀ condition ∈ item.conditions, condition.test.Valid) ∧
      (item.kind = .cross ↔ item.conditions = []))
    ⟨fun ⟨relation, conditions, cross⟩ => ⟨relation, conditions, cross⟩,
    fun ⟨relation, conditions, cross⟩ => ⟨relation, conditions, cross⟩⟩

/-- A text that is kept as it stands when it is an item of a list. -/
structure IsItem (cs : List Char) : Prop extends Text.Trimmed cs where
  part : Text.IsPart ',' cs

theorem IsWord.isItem {cs : List Char} (word : IsWord cs) : IsItem cs :=
  ⟨⟨word.filled, Text.trim_of_no_blank word.solid⟩, word.isPart⟩

theorem IsItem.blank {first second : List Char} (item : IsItem first) (item' : IsItem second) :
    IsItem (first ++ ' ' :: second) where
  toTrimmed := item.toTrimmed.append [' '] item'.toTrimmed
  part := item.part.append (Text.IsPart.blank.append item'.part)

theorem splitTopLevel_items {first : List Char} {rest : List (List Char)} (item : IsItem first)
    (items : ∀ cs ∈ rest, IsItem cs) :
    Text.splitTopLevel ',' ([',', ' '].intercalate (first :: rest)) = first :: rest := by
  have parts : ∀ cs ∈ rest.map ([' '] ++ ·), Text.IsPart ',' cs := by
    intro cs member
    obtain ⟨listed, inside, rfl⟩ := List.mem_map.mp member
    exact Text.IsPart.blank.append (items listed inside).part
  have trimmed : (rest.map ([' '] ++ ·)).map Text.trim = rest := by
    rw [List.map_map]
    exact (List.map_congr_left fun cs member => (items cs member).trimmed).trans (List.map_id rest)
  rw [Text.splitTopLevel_eq, Text.intercalate_eq_flatMap, Text.topLevelPieces_join (by decide) item.part parts,
    List.map_cons, item.trimmed, trimmed]

theorem IsWord.nextWord {first second : List Char} (word : IsWord first) (item : IsItem second) :
    Text.nextWord (first ++ ' ' :: second) = (first, second) := by
  rw [Text.nextWord_append word.filled word.solid, item.trimmed]

theorem ColumnRef.isWord_text {column : ColumnRef} (valid : column.Valid) : IsWord column.text.toList where
  filled := by
    have read := ofChars?_text valid
    intro empty
    rw [empty] at read
    cases read
  chars c member := by
    rcases text_chars valid c member with inside | rfl
    · exact isWordChar_of_isIdentRest inside
    · decide

theorem RelationRef.isWord_text {ref : RelationRef} (valid : ref.Valid) : IsWord ref.text.toList where
  filled := by
    have read := parse?_text valid
    intro empty
    have none : ref.text = "" := by rw [← String.toList_inj, empty]; rfl
    rw [none] at read
    cases read
  chars c member := by
    rcases text_chars valid c member with inside | rfl | rfl
    · exact isWordChar_of_isIdentRest inside
    · decide
    · decide

namespace ColumnExpr

variable {expr : ColumnExpr}

theorem chars_of_call {func : String} (column : ColumnRef) :
    (text ⟨column, some func⟩).toList = func.toList ++ ('(' :: column.text.toList ++ [')']) := by
  simp [text]

theorem no_blank_text (valid : expr.Valid) : ∀ c ∈ expr.text.toList, Text.isBlank c = false := by
  obtain ⟨column, func⟩ := expr
  have name := (ColumnRef.isWord_text valid.1).solid
  cases func with
  | none => exact name
  | some func =>
    have call := (IsWord.of_ident (valid.2 func rfl).1).solid
    rw [chars_of_call]
    simp only [List.forall_mem_append, List.forall_mem_cons]
    exact ⟨call, ⟨rfl, name⟩, rfl, by simp⟩

theorem isItem_text (valid : expr.Valid) : IsItem expr.text.toList := by
  have trimmed := Text.trim_of_no_blank (no_blank_text valid)
  obtain ⟨column, func⟩ := expr
  have name := ColumnRef.isWord_text valid.1
  cases func with
  | none => exact name.isItem
  | some func =>
    have call := IsWord.of_ident (valid.2 func rfl).1
    have argument : Text.IsPart ',' ('(' :: column.text.toList ++ [')']) :=
      .parenthesised fun c member => (isWordChar_iff.mp (name.chars c member)).2
    rw [chars_of_call] at trimmed ⊢
    exact ⟨⟨by simp, trimmed⟩, call.isPart.append argument⟩

theorem readColumn_text {column : ColumnRef} (valid : column.Valid) : readColumn column.text.toList = .ok column := by
  rw [readColumn, ColumnRef.ofChars?_text valid]

theorem read_text (field : String) (valid : expr.Valid) : read field expr.text.toList = .ok expr := by
  obtain ⟨column, func⟩ := expr
  have name := readColumn_text valid.1
  cases func with
  | none =>
    have bare : Text.splitOnce '(' column.text.toList = none := by
      refine Text.splitOnce_eq_none fun member => ?_
      rcases ColumnRef.text_chars valid.1 _ member with inside | dot
      · cases inside
      · cases dot
    simp only [text, read]
    rw [bare, name]
    rfl
  | some func =>
    obtain ⟨ident, lower⟩ := valid.2 func rfl
    have ident : isIdentChars func.toList = true := ident
    have cut := Text.splitOnce_append (not_mem_of_ident ident (c := '(') (by decide)) (column.text.toList ++ [')'])
    rw [chars_of_call, List.cons_append, read, cut]
    have same : String.ofList (Text.lowerChars func.toList) = func := lower
    simp [ident, name, same]

end ColumnExpr

namespace ColumnRef

theorem text_of_unqualified {column : ColumnRef} (bare : column.qualifier = none) : column.text = column.name := by
  simp [text, qualifierText, bare]

theorem dot_mem_text {column : ColumnRef} {qualifier : String} (given : column.qualifier = some qualifier) :
    '.' ∈ column.text.toList := by
  simp [text, qualifierText, given]

end ColumnRef

theorem not_isLiteralWord_of_dot {text : String} (dot : '.' ∈ text.toList) : ¬ IsLiteralWord text := by
  intro word
  have dotless : ∀ known ∈ literalWords, '.' ∉ (Text.lower known).toList := by decide
  obtain ⟨known, member, same⟩ := List.any_eq_true.mp word
  refine dotless known member ?_
  rw [← eq_of_beq same]
  simpa [Text.lower, Text.lowerChars] using ⟨'.', dot, rfl⟩

namespace Operand

variable {right : Operand} {quantifier : Option Quantifier}

theorem isItem_text (valid : right.ValidAfter quantifier) : IsItem right.text.toList := by
  cases right with
  | column ref => exact (ColumnRef.isWord_text valid.1).isItem
  | field ref => exact valid.elim
  | literal text =>
    obtain ⟨⟨filled, trimmed, closed, nested, -⟩, -⟩ := valid
    refine ⟨⟨fun empty => filled ?_, ?_⟩, (Text.unbroken_iff (by decide)).mpr nested, closed⟩
    · rw [← String.toList_inj, show text.toList = [] from empty]
      rfl
    · simpa [Text.trimmed, Operand.text] using congrArg String.toList trimmed

theorem read_text (valid : right.ValidAfter quantifier) : read right.text.toList = right := by
  have trimmed := (isItem_text valid).trimmed
  unfold read
  rw [trimmed, String.ofList_toList]
  cases right with
  | column ref =>
    have found : ColumnRef.parse? ref.text = some ref := ColumnRef.ofChars?_text valid.1
    have noWord : ¬ IsLiteralWord ref.text := by
      cases given : ref.qualifier with
      | none =>
        rw [ColumnRef.text_of_unqualified given]
        exact (valid.2 given).1
      | some qualifier => exact not_isLiteralWord_of_dot (ColumnRef.dot_mem_text given)
    simp only [text, found]
    exact if_neg noWord
  | field ref => exact valid.elim
  | literal text =>
    simp only [Operand.text]
    split
    · rename_i column found
      exact if_pos (valid.1.noColumn column found)
    · rfl

theorem noQuantifier_of_text (valid : right.ValidAfter none) :
    Quantifier.ofWord? (String.ofList (Text.nextWord right.text.toList).1) = none := by
  cases right with
  | column ref =>
    rw [text, Text.nextWord_of_no_blank (ColumnRef.isWord_text valid.1).solid, String.ofList_toList]
    cases given : ref.qualifier with
    | none =>
      rw [ColumnRef.text_of_unqualified given]
      exact (valid.2 given).2 rfl
    | some qualifier => exact Quantifier.ofWord?_eq_none_of_dot (ColumnRef.dot_mem_text given)
  | field ref => exact valid.elim
  | literal text => exact valid.2 rfl

end Operand

section

variable (words : Wording)

theorem ColumnCondition.isItem_text {condition : ColumnCondition} (valid : condition.Valid) :
    IsItem (condition.text words).toList := by
  cases condition with
  | test op => exact (TestOp.isWord_of_ofWord? (words.read_test op)).isItem
  | compare op quantifier right =>
    have first := (CompareOp.isWord_of_ofWord? (words.read_compare op)).isItem
    have last := Operand.isItem_text valid.2
    cases quantifier with
    | none => simpa [text] using first.blank last
    | some quantifier =>
      have middle := (Quantifier.isWord_of_ofWord? (words.read_quantifier quantifier)).isItem
      simpa [text] using first.blank (middle.blank last)

variable {test : ColumnTest}

theorem ColumnTest.chars_text (test : ColumnTest) :
    (test.text words).toList = test.left.text.toList ++ ' ' :: (test.condition.text words).toList := by
  simp [text]

theorem ColumnTest.isItem_text (valid : test.Valid) : IsItem (test.text words).toList := by
  rw [chars_text]
  exact (ColumnExpr.isItem_text valid.1).blank (ColumnCondition.isItem_text words valid.2)

theorem ColumnTest.read_text (field : String) (valid : test.Valid) :
    read field (test.text words).toList = .ok test := by
  obtain ⟨left, condition⟩ := test
  obtain ⟨column, valid⟩ := valid
  have item := ColumnCondition.isItem_text words valid
  have head : Text.nextWord (ColumnTest.text words ⟨left, condition⟩).toList =
      (left.text.toList, (condition.text words).toList) := by
    rw [chars_text, Text.nextWord_append (ColumnExpr.isItem_text column).filled (ColumnExpr.no_blank_text column),
      item.trimmed]
  have name := ColumnExpr.read_text field column
  unfold read
  rw [head]
  refine bind_eq_ok.mpr ⟨left, name, ?_⟩
  cases condition with
  | test op =>
    have last : Text.nextWord ((ColumnCondition.test op).text words).toList = ((words.test op).toList, []) :=
      Text.nextWord_of_no_blank (TestOp.isWord_of_ofWord? (words.read_test op)).solid
    simp only [last, String.ofList_toList, words.read_test]
    rfl
  | compare op quantifier right =>
    have word := CompareOp.isWord_of_ofWord? (words.read_compare op)
    have noTest := TestOp.ofWord?_eq_none (words.read_compare op)
    have operator : readCompareOp field (words.compare op).toList = .ok op := by
      rw [readCompareOp, String.ofList_toList, words.read_compare]
    have last := Operand.isItem_text valid.2
    have filled : ¬ right.text.toList.isEmpty = true := by simpa using last.filled
    have value := Operand.read_text valid.2
    cases quantifier with
    | none =>
      -- what stands behind the operator is the operand, since its first word is no quantifier
      have next : Text.nextWord ((ColumnCondition.compare op none right).text words).toList =
          ((words.compare op).toList, right.text.toList) := by
        simpa [ColumnCondition.text] using word.nextWord last
      have bare := Operand.noQuantifier_of_text valid.2
      simp only [next, String.ofList_toList, noTest, bare]
      refine bind_eq_ok.mpr ⟨op, operator, ite_throw_left.mpr ⟨filled, ?_⟩⟩
      rw [value]
      rfl
    | some quantifier =>
      have middle := Quantifier.isWord_of_ofWord? (words.read_quantifier quantifier)
      have next : Text.nextWord ((ColumnCondition.compare op (some quantifier) right).text words).toList =
          ((words.compare op).toList, (words.quantifier quantifier).toList ++ ' ' :: right.text.toList) := by
        simpa [ColumnCondition.text] using word.nextWord (middle.isItem.blank last)
      have quantified : readQuantifier field op (words.quantifier quantifier).toList = .ok (some quantifier) := by
        have present : (words.quantifier quantifier).toList.isEmpty = false := by simpa using middle.filled
        simp [readQuantifier, present, words.read_quantifier, valid.1 rfl]
      simp only [next, middle.nextWord last, String.ofList_toList, noTest, words.read_quantifier]
      refine bind_eq_ok.mpr ⟨op, operator, bind_eq_ok.mpr ⟨some quantifier, quantified, ?_⟩⟩
      refine ite_throw_left.mpr ⟨filled, ?_⟩
      rw [value]
      rfl

variable {condition : JoinCondition}

theorem JoinCondition.chars_text (condition : JoinCondition) : (condition.text words).toList =
    (words.connector condition.connector).toList ++ ' ' :: (condition.test.text words).toList := by
  simp [text]

theorem JoinCondition.isItem_text (valid : condition.test.Valid) : IsItem (condition.text words).toList := by
  rw [chars_text]
  exact (words.isWord_connector _).isItem.blank (ColumnTest.isItem_text words valid)

theorem JoinCondition.read_text (field : String) (valid : condition.test.Valid) :
    read field (condition.text words).toList = .ok condition := by
  obtain ⟨connector, test⟩ := condition
  have inner := ColumnTest.read_text words field valid
  unfold read
  rw [chars_text]
  cases connector with
  | or =>
    have dropped : Text.dropHead? "or ".toList _ = _ := words.dropHead?_connector .or (test.text words).toList
    simp only [dropped]
    exact bind_eq_ok.mpr ⟨test, inner, rfl⟩
  | and =>
    have kept := words.dropHead?_or (' ' :: (test.text words).toList)
    have dropped : Text.dropHead? "and ".toList _ = _ := words.dropHead?_connector .and (test.text words).toList
    simp only [kept, dropped]
    exact bind_eq_ok.mpr ⟨test, inner, rfl⟩

theorem predicateText_eq_ok {member : HostField} {text : String} (trimmed : Text.Trimmed text.toList)
    (tagged : member.tag.get? "sql" = some text) : predicateText member = .ok text := by
  have same : Text.trimmed text = text := by rw [Text.trimmed, trimmed.trimmed, String.ofList_toList]
  have filled : text ≠ "" := by
    rintro rfl
    exact trimmed.filled rfl
  have kept : member.sqlText? = some text := by
    simp only [HostField.sqlText?, HostField.sql?, Tag.sql?, tagged, Option.map_some, same]
    exact Option.filter_some_pos (by simpa using filled)
  rw [predicateText, kept]

variable {item : JoinItem}

namespace JoinItem

theorem chars_text (item : JoinItem) : (item.text words).toList =
    [',', ' '].intercalate (item.relation.text.toList :: item.conditionTexts words) := by
  simp [text, conditionTexts, String.toList_intercalate, Function.comp_def]

theorem isItem_of_condition (valid : item.Valid) : ∀ cs ∈ item.conditionTexts words, IsItem cs := by
  intro cs member
  obtain ⟨condition, listed, rfl⟩ := List.mem_map.mp member
  exact condition.isItem_text words (valid.conditions condition listed)

theorem trimmed_text (valid : item.Valid) : Text.Trimmed (item.text words).toList := by
  have relation := (RelationRef.isWord_text valid.relation).isItem
  have conditions := isItem_of_condition words valid
  rw [chars_text, Text.intercalate_eq_flatMap, List.flatMap_map]
  exact relation.toTrimmed.flatMap [',', ' '] fun cs member => (conditions cs member).toTrimmed

theorem read_text (field : String) (valid : item.Valid) : read item.kind field (item.text words) = .ok item := by
  have relation := RelationRef.parse?_text valid.relation
  have items := isItem_of_condition words valid
  have pieces : Text.splitTopLevel ',' (item.text words).toList =
      item.relation.text.toList :: item.conditionTexts words := by
    rw [chars_text, splitTopLevel_items (RelationRef.isWord_text valid.relation).isItem items]
  have filled : (item.conditionTexts words).filter (fun part => !part.isEmpty) = item.conditionTexts words :=
    List.filter_eq_self.mpr fun cs member => by simpa using (items cs member).filled
  have conditions : (item.conditionTexts words).mapM (JoinCondition.read field) = .ok item.conditions :=
    mapM_eq_ok.mpr (List.forall₂_map_left_iff.mpr (List.forall₂_same.mpr fun condition listed =>
      condition.read_text words field (valid.conditions condition listed)))
  unfold read
  rw [pieces]
  simp only [String.ofList_toList, relation, filled]
  refine bind_eq_ok.mpr ⟨item.relation, rfl, bind_eq_ok.mpr ⟨item.conditions, conditions, ?_⟩⟩
  have cross := valid.cross
  obtain ⟨kind, ref, tests⟩ := item
  cases tests with
  | nil =>
    cases cross.mpr rfl
    rfl
  | cons test tests =>
    cases kind with
    | cross => cases cross.mp rfl
    | _ => rfl

/-- A member of a join block is read as the join item whose text it is tagged with, in any spelling of the
operators. -/
theorem ofField_text (valid : item.Valid) (block : String) {member : HostField} {directive : Directive}
    (marked : member.directive? = some directive) (kind : JoinKind.ofDirective? directive = some item.kind)
    (tagged : member.tag.get? "sql" = some (item.text words)) : ofField block member = .ok item := by
  simp only [ofField, marked, kind]
  exact bind_eq_ok.mpr ⟨_, predicateText_eq_ok (trimmed_text words valid) tagged, item.read_text words _ valid⟩

end JoinItem

end

def wordyJoin : JoinItem where
  kind := .left
  relation := ⟨some "app", "posts", some "any"⟩
  conditions :=
    [⟨.or, ⟨⟨⟨some "any", "title"⟩, some "lower"⟩,
      .compare .like (some .any) (.literal "(select 'a, (b' from and, or)")⟩⟩,
     ⟨.and, ⟨⟨⟨none, "or"⟩, none⟩, .test .isNull⟩⟩,
     ⟨.or, ⟨⟨⟨none, "editor"⟩, none⟩, .compare .isIn none (.column ⟨some "all", "id"⟩)⟩⟩,
     ⟨.and, ⟨⟨⟨none, "draft"⟩, none⟩, .compare .isDistinct none (.literal "NULL")⟩⟩]

def wordyJoinField : HostField where
  name := "_"
  tag := .ofList [("sql", "app.posts:any, or lower(any.title) like any (select 'a, (b' from and, or), " ++
    "and or isnull, or editor isin all.id, and draft isdistinct NULL")]
  type := Directive.leftJoin.hostType

theorem JoinItem.ofField_text_wordyJoin :
    wordyJoin.Valid ∧ wordyJoinField.directive? = some .leftJoin ∧
      JoinKind.ofDirective? .leftJoin = some wordyJoin.kind ∧
      wordyJoinField.tag.get? "sql" = some (wordyJoin.text .plain) ∧
      JoinItem.ofField "Join" wordyJoinField = .ok wordyJoin := by
  have valid : wordyJoin.Valid := by decide +kernel
  have marked : wordyJoinField.directive? = some .leftJoin := by decide +kernel
  have tagged : wordyJoinField.tag.get? "sql" = some (wordyJoin.text .plain) := by decide +kernel
  exact ⟨valid, marked, rfl, tagged, JoinItem.ofField_text .plain valid "Join" marked rfl tagged⟩

end RecordSql
