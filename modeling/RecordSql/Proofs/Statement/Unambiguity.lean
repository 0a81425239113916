import RecordSql.Statement.Parts
import RecordSql.Proofs.Statement.Expression

/-!
Texts of conditions. A text is that of one condition only, up to what the text of a condition does not say: the
connector of the first clause of a list, and whether a quantified comparison was meant as membership.
-/
namespace RecordSql

def Test.Structured : Test → Prop
  | .compare left _ _ right => left.Structured ∧ right.Structured
  | .unary expr _ => expr.Structured
  | .between expr _ low high => expr.Structured ∧ low.Structured ∧ high.Structured

instance : (test : Test) → Decidable test.Structured
  | .compare left _ _ right => inferInstanceAs (Decidable (left.Structured ∧ right.Structured))
  | .unary expr _ => inferInstanceAs (Decidable expr.Structured)
  | .between expr _ low high => inferInstanceAs (Decidable (expr.Structured ∧ low.Structured ∧ high.Structured))

def Condition.Structured (condition : Condition) : Prop :=
  ∀ test ∈ Condition.tests condition, test.Structured

instance (condition : Condition) : Decidable (Condition.Structured condition) :=
  inferInstanceAs (Decidable (∀ test ∈ Condition.tests condition, test.Structured))

def CompareOp.comparison : CompareOp → CompareOp
  | .isIn => .eq
  | .notIn => .ne
  | op => op

def Test.canonical : Test → Test
  | .compare left op (some quantifier) right => .compare left op.comparison (some quantifier) right
  | test => test

def Clause.joinedBy (connector : Connector) : Clause → Clause
  | .test _ inner => .test connector inner
  | .group _ clauses => .group connector clauses

mutual
def Clause.canonical : Clause → Clause
  | .test connector inner => .test connector inner.canonical
  | .group connector clauses => .group connector (Condition.canonical clauses)

/-- The form that stands for all conditions with the same text: the first connector of a list is `and`, and
membership with a quantifier is a comparison. -/
def Condition.canonical : List Clause → List Clause
  | [] => []
  | clause :: clauses => clause.canonical.joinedBy .and :: Condition.canonicalRest clauses

def Condition.canonicalRest : List Clause → List Clause
  | [] => []
  | clause :: clauses => clause.canonical :: Condition.canonicalRest clauses
end

theorem CompareOp.bareSql_comparison (op : CompareOp) : op.comparison.bareSql = op.sql := by
  cases op <;> rfl

theorem CompareOp.sql_comparison (op : CompareOp) : op.comparison.sql = op.sql := by
  cases op <;> rfl

theorem Test.sql_canonical (test : Test) : test.canonical.sql = test.sql := by
  unfold canonical
  split
  · simp only [Test.sql, CompareOp.sql_comparison]
  · rfl

theorem Clause.bodySql_joinedBy (connector : Connector) (clause : Clause) :
    (clause.joinedBy connector).bodySql = clause.bodySql := by
  cases clause <;> rfl

theorem Clause.connector_canonical (clause : Clause) : clause.canonical.connector = clause.connector := by
  cases clause <;> rfl

theorem Clause.eq_of_joinedBy {one other : Clause} (joined : one.connector = other.connector)
    (same : one.joinedBy .and = other.joinedBy .and) : one = other := by
  cases one <;> cases other <;> cases joined <;> cases same <;> rfl

mutual
theorem Clause.bodySql_canonical (clause : Clause) : clause.canonical.bodySql = clause.bodySql := by
  cases clause with
  | test connector inner => exact inner.sql_canonical
  | group connector clauses => rw [Clause.canonical, Clause.bodySql, Clause.bodySql, Condition.sql_canonical clauses]

theorem Condition.sql_canonical (clauses : List Clause) :
    Condition.sql (Condition.canonical clauses) = Condition.sql clauses := by
  cases clauses with
  | nil => rfl
  | cons clause clauses =>
    rw [Condition.canonical, Condition.sql, Condition.sql, Clause.bodySql_joinedBy, clause.bodySql_canonical,
      Condition.restSql_canonical clauses]

theorem Condition.restSql_canonical (clauses : List Clause) :
    Condition.restSql (Condition.canonicalRest clauses) = Condition.restSql clauses := by
  cases clauses with
  | nil => rfl
  | cons clause clauses =>
    rw [Condition.canonicalRest, Condition.restSql, Condition.restSql, clause.connector_canonical,
      clause.bodySql_canonical, Condition.restSql_canonical clauses]
end

def Apart (follows : Char → Bool) (words : List String) : Prop :=
  ∀ word ∈ words, ∀ word' ∈ words, word.toList <+: word'.toList →
    word = word' ∨ (word'.toList.drop word.toList.length).head?.any (fun c => !follows c) = true

instance (follows : Char → Bool) (words : List String) : Decidable (Apart follows words) := by
  unfold Apart
  infer_instance

section

variable {follows : Char → Bool} {words : List String} {word word' : String} {rest rest' : List Char}

theorem Apart.eq_of_append (apart : Apart follows words) (known : word ∈ words) (known' : word' ∈ words)
    {more : List Char} (next : ∀ c ∈ (more ++ rest).head?, follows c = true)
    (longer : word'.toList = word.toList ++ more) : word = word' := by
  rcases apart word known word' known' ⟨more, longer.symm⟩ with same | out
  · exact same
  · rw [longer, List.drop_left] at out
    cases more with
    | nil => cases out
    | cons c more =>
      have allowed : follows c = true := next c rfl
      simp [allowed] at out

theorem Apart.append_inj (apart : Apart follows words) (known : word ∈ words) (known' : word' ∈ words)
    (next : ∀ c ∈ rest.head?, follows c = true) (next' : ∀ c ∈ rest'.head?, follows c = true)
    (same : word.toList ++ rest = word'.toList ++ rest') : word = word' ∧ rest = rest' := by
  have words : word = word' := by
    rcases List.append_eq_append_iff.mp same with ⟨more, longer, rfl⟩ | ⟨more, longer, rfl⟩
    · exact apart.eq_of_append known known' next longer
    · exact (apart.eq_of_append known' known next' longer).symm
  subst words
  exact ⟨rfl, List.append_cancel_left same⟩

end

/-- What stands between the first expression of a test and the rest of it. -/
inductive Verb where
  | compare (op : CompareOp)
  | unary (op : TestOp)
  | between (negated : Bool)
  deriving DecidableEq

def Verb.word : Verb → String
  | .compare op => op.bareSql
  | .unary op => op.sql
  | .between negated => if negated then "NOT BETWEEN" else "BETWEEN"

def Verb.all : List Verb :=
  [.compare .eq, .compare .ne, .compare .lt, .compare .lte, .compare .gt, .compare .gte, .compare .like,
   .compare .notLike, .compare .iLike, .compare .notILike, .compare .similar, .compare .notSimilar,
   .compare .regex, .compare .regexI, .compare .notRegex, .compare .notRegexI, .compare .isDistinct,
   .compare .notDistinct, .compare .isIn, .compare .notIn, .unary .isNull, .unary .notNull, .unary .isTrue,
   .unary .notTrue, .unary .isFalse, .unary .notFalse, .unary .isUnknown, .unary .notUnknown,
   .between false, .between true]

theorem Verb.mem_all (verb : Verb) : verb ∈ all := by
  cases verb with
  | compare op => cases op <;> decide
  | unary op => cases op <;> decide
  | between negated => cases negated <;> decide

theorem Verb.word_inj : ∀ verb ∈ all, ∀ verb' ∈ all, verb.word = verb'.word → verb = verb' := by
  decide +kernel

theorem Verb.apart : Apart stopsAt (all.map word) := by
  decide +kernel

theorem Verb.append_inj {verb verb' : Verb} {rest rest' : List Char} (stops : Stops rest) (stops' : Stops rest')
    (same : verb.word.toList ++ rest = verb'.word.toList ++ rest') : verb = verb' ∧ rest = rest' := by
  have known := List.mem_map_of_mem (f := word) verb.mem_all
  have known' := List.mem_map_of_mem (f := word) verb'.mem_all
  obtain ⟨words, rests⟩ := apart.append_inj known known' stops stops' same
  exact ⟨word_inj verb verb.mem_all verb' verb'.mem_all words, rests⟩

def leads : List String := ["", "ANY(", "SOME(", "ALL(", "SYMMETRIC "]

theorem leads_apart : Apart startsExpr leads := by
  decide +kernel

theorem Expr.starts {expr : Expr} (structured : expr.Structured) (rest : List Char) :
    ∀ c ∈ (expr.sql.toList ++ rest).head?, startsExpr c = true := by
  obtain ⟨c, word, characters, start⟩ := expr.sql_starts structured
  rw [characters]
  intro d next
  cases next
  exact start

theorem leads_append_inj {lead lead' : String} (known : lead ∈ leads) (known' : lead' ∈ leads) {one other : Expr}
    (structured : one.Structured) (structured' : other.Structured) {rest rest' : List Char} (stops : Stops rest)
    (stops' : Stops rest')
    (same : lead.toList ++ (one.sql.toList ++ rest) = lead'.toList ++ (other.sql.toList ++ rest')) :
    lead = lead' ∧ one = other ∧ rest = rest' := by
  obtain ⟨leads, texts⟩ := leads_apart.append_inj known known' (one.starts structured rest)
    (other.starts structured' rest') same
  exact ⟨leads, one.append_inj structured structured' stops stops' texts⟩

def quantifierLead : Option Quantifier → String
  | none => ""
  | some quantifier => quantifier.sql ++ "("

def quantifierEnd : Option Quantifier → String
  | none => ""
  | some _ => ")"

def RangeOp.isNegated : RangeOp → Bool
  | .notBetween | .notBetweenSymmetric => true
  | _ => false

def RangeOp.lead : RangeOp → String
  | .betweenSymmetric | .notBetweenSymmetric => "SYMMETRIC "
  | _ => ""

theorem quantifierLead_mem (quantifier : Option Quantifier) : quantifierLead quantifier ∈ leads := by
  rcases quantifier with _ | _ | _ | _ <;> decide

theorem quantifierLead_inj {quantifier quantifier' : Option Quantifier}
    (same : quantifierLead quantifier = quantifierLead quantifier') : quantifier = quantifier' := by
  rcases quantifier with _ | _ | _ | _ <;> rcases quantifier' with _ | _ | _ | _ <;>
    simp_all [quantifierLead, Quantifier.sql]

theorem RangeOp.lead_mem (op : RangeOp) : op.lead ∈ leads := by
  cases op <;> decide

theorem RangeOp.eq_of_lead {op op' : RangeOp} (negated : op.isNegated = op'.isNegated) (lead : op.lead = op'.lead) :
    op = op' := by
  cases op <;> cases op' <;> simp_all [RangeOp.isNegated, RangeOp.lead]

namespace Test

def subject : Test → Expr
  | compare left _ _ _ => left
  | unary expr _ => expr
  | between expr _ _ _ => expr

def verb : Test → Verb
  | compare _ op none _ => .compare op
  | compare _ op (some _) _ => .compare op.comparison
  | unary _ op => .unary op
  | between _ op _ _ => .between op.isNegated

def operands : Test → String
  | compare _ _ quantifier right => " " ++ (quantifierLead quantifier ++ (right.sql ++ quantifierEnd quantifier))
  | unary _ _ => ""
  | between _ op low high => " " ++ (op.lead ++ (low.sql ++ (" AND " ++ high.sql)))

theorem sql_eq_operands (test : Test) :
    test.sql = test.subject.sql ++ (" " ++ (test.verb.word ++ test.operands)) := by
  cases test with
  | compare left op quantifier right =>
    cases quantifier with
    | none => simp [sql, subject, verb, Verb.word, operands, quantifierLead, quantifierEnd, String.append_assoc]
    | some quantifier =>
      simp [sql, subject, verb, Verb.word, operands, quantifierLead, quantifierEnd, CompareOp.bareSql_comparison,
        String.append_assoc]
  | unary expr op => simp [sql, subject, verb, Verb.word, operands, String.append_assoc]
  | between expr op low high =>
    rw [← String.toList_inj]
    cases op <;> simp [sql, subject, verb, Verb.word, operands, RangeOp.sql, RangeOp.isNegated, RangeOp.lead]

theorem Structured.subject {test : Test} (structured : test.Structured) : test.subject.Structured := by
  cases test with
  | compare left op quantifier right => exact structured.1
  | unary expr op => exact structured
  | between expr op low high => exact structured.1

theorem stops_operands (test : Test) {rest : List Char} (stops : Stops rest) :
    Stops (test.operands.toList ++ rest) := by
  cases test with
  | compare left op quantifier right => simp [operands, Stops, stopsAt]
  | unary expr op => simpa [operands] using stops
  | between expr op low high => simp [operands, Stops, stopsAt]

theorem stops_quantifierEnd (quantifier : Option Quantifier) {rest : List Char} (stops : Stops rest) :
    Stops ((quantifierEnd quantifier).toList ++ rest) := by
  cases quantifier with
  | none => simpa [quantifierEnd] using stops
  | some quantifier => simp [quantifierEnd, Stops, stopsAt]

theorem operands_inj {one other : Test} (structured : one.Structured) (structured' : other.Structured)
    (subjects : one.subject = other.subject) (verbs : one.verb = other.verb) {rest rest' : List Char}
    (stops : Stops rest) (stops' : Stops rest')
    (same : one.operands.toList ++ rest = other.operands.toList ++ rest') :
    one.canonical = other.canonical ∧ rest = rest' := by
  -- the verb tells the kind of a test, so the mixed cases are void
  cases one with
  | compare left op quantifier right =>
    cases other with
    | compare left' op' quantifier' right' =>
      simp only [operands, String.toList_append, List.append_assoc] at same
      obtain ⟨leads, rights, ends⟩ := leads_append_inj (quantifierLead_mem quantifier)
        (quantifierLead_mem quantifier') structured.2 structured'.2 (stops_quantifierEnd _ stops)
        (stops_quantifierEnd _ stops') (List.append_cancel_left same)
      cases quantifierLead_inj leads
      cases rights
      cases subjects
      refine ⟨?_, List.append_cancel_left ends⟩
      cases quantifier with
      | none =>
        cases verbs
        rfl
      | some quantifier =>
        have ops : op.comparison = op'.comparison := Verb.compare.inj verbs
        simp only [Test.canonical, ops]
    | unary expr' op' => cases quantifier <;> cases verbs
    | between expr' op' low' high' => cases quantifier <;> cases verbs
  | unary expr op =>
    cases other with
    | compare left' op' quantifier' right' => cases quantifier' <;> cases verbs
    | unary expr' op' =>
      cases subjects
      cases verbs
      exact ⟨rfl, by simpa [operands] using same⟩
    | between expr' op' low' high' => cases verbs
  | between expr op low high =>
    cases other with
    | compare left' op' quantifier' right' => cases quantifier' <;> cases verbs
    | unary expr' op' => cases verbs
    | between expr' op' low' high' =>
      simp only [operands, String.toList_append, List.append_assoc] at same
      have blank (expr : Expr) (rest : List Char) : Stops (" AND ".toList ++ (expr.sql.toList ++ rest)) := by
        simp [Stops, stopsAt]
      obtain ⟨leads, lows, highs⟩ := leads_append_inj op.lead_mem op'.lead_mem structured.2.1 structured'.2.1
        (blank high rest) (blank high' rest') (List.append_cancel_left same)
      obtain ⟨highs, rests⟩ := high.append_inj structured.2.2 structured'.2.2 stops stops'
        (List.append_cancel_left highs)
      have ops := RangeOp.eq_of_lead (Verb.between.inj verbs) leads
      cases subjects
      cases ops
      cases lows
      cases highs
      exact ⟨rfl, rests⟩

theorem append_inj {one other : Test} (structured : one.Structured) (structured' : other.Structured)
    {rest rest' : List Char} (stops : Stops rest) (stops' : Stops rest')
    (same : one.sql.toList ++ rest = other.sql.toList ++ rest') :
    one.canonical = other.canonical ∧ rest = rest' := by
  have blank (rest : List Char) : Stops (" ".toList ++ rest) := by
    simp [Stops, stopsAt]
  simp only [sql_eq_operands, String.toList_append, List.append_assoc] at same
  obtain ⟨subjects, verbs⟩ := one.subject.append_inj structured.subject structured'.subject (blank _) (blank _) same
  obtain ⟨verbs, operands⟩ := Verb.append_inj (one.stops_operands stops) (other.stops_operands stops')
    (List.append_cancel_left verbs)
  exact operands_inj structured structured' subjects verbs stops stops' operands

end Test

def Clause.Structured (clause : Clause) : Prop := ∀ test ∈ clause.tests, test.Structured

theorem Condition.structured_cons {clause : Clause} {clauses : List Clause} :
    Condition.Structured (clause :: clauses) ↔ clause.Structured ∧ Condition.Structured clauses := by
  simp only [Condition.Structured, Clause.Structured, Condition.tests, List.forall_mem_append]

/-- What may follow a condition: nothing, or the end of the group that it stands in. -/
def Closes (rest : List Char) : Prop := ∀ c ∈ rest.head?, c = ')'

theorem Closes.stops {rest : List Char} (closes : Closes rest) : Stops rest := by
  intro c next
  cases closes c next
  rfl

theorem stops_restSql (clauses : List Clause) {rest : List Char} (closes : Closes rest) :
    Stops ((Condition.restSql clauses).toList ++ rest) := by
  cases clauses with
  | nil => simpa [Condition.restSql] using closes.stops
  | cons clause clauses => simp [Condition.restSql, Stops, stopsAt]

theorem Test.sql_starts {test : Test} (structured : test.Structured) :
    ∃ c word, test.sql.toList = c :: word ∧ startsExpr c = true := by
  obtain ⟨c, word, characters, start⟩ := test.subject.sql_starts structured.subject
  rw [test.sql_eq_operands, String.toList_append, characters]
  exact ⟨c, _, rfl, start⟩

theorem Test.ne_group {test : Test} (structured : test.Structured) {connector : Connector} {clauses : List Clause}
    {rest rest' : List Char} :
    test.sql.toList ++ rest ≠ (Clause.group connector clauses).bodySql.toList ++ rest' := by
  obtain ⟨c, word, characters, start⟩ := test.sql_starts structured
  intro same
  rw [characters, Clause.bodySql, String.toList_append, String.toList_append] at same
  cases (List.cons.inj same).1
  cases start

theorem Clause.body_starts {clause : Clause} (structured : clause.Structured) :
    ∃ c word, clause.bodySql.toList = c :: word ∧ c ≠ ')' := by
  cases clause with
  | test connector inner =>
    obtain ⟨c, word, characters, start⟩ := inner.sql_starts (structured inner (List.mem_singleton_self _))
    refine ⟨c, word, characters, ?_⟩
    rintro rfl
    cases start
  | group connector clauses =>
    refine ⟨'(', (Condition.sql clauses).toList ++ [')'], ?_, by decide⟩
    simp [Clause.bodySql]

theorem Closes.ne_body {clause : Clause} (structured : clause.Structured) {rest more : List Char}
    (closes : Closes rest) : rest ≠ clause.bodySql.toList ++ more := by
  obtain ⟨c, word, characters, other⟩ := Clause.body_starts structured
  rintro rfl
  rw [characters] at closes
  exact other (closes c rfl)

theorem Closes.ne_connector {rest more : List Char} (closes : Closes rest) : rest ≠ ' ' :: more := by
  rintro rfl
  cases closes ' ' rfl

theorem connector_append_inj {connector connector' : Connector} {rest rest' : List Char}
    (same : connector.sql.toList ++ rest = connector'.sql.toList ++ rest') :
    connector = connector' ∧ rest = rest' := by
  cases connector <;> cases connector' <;> simp [Connector.sql] at same
  · exact ⟨rfl, same⟩
  · exact ⟨rfl, same⟩

/-!
Over the structure of one condition: what follows a clause is stopped by the blank before a connector or by the
parenthesis that closes the group, so that each clause is told from the text that is left.
-/

mutual
theorem Clause.body_append_inj (one other : Clause) (structured : one.Structured) (structured' : other.Structured)
    {rest rest' : List Char} (stops : Stops rest) (stops' : Stops rest')
    (same : one.bodySql.toList ++ rest = other.bodySql.toList ++ rest') :
    one.canonical.joinedBy .and = other.canonical.joinedBy .and ∧ rest = rest' := by
  cases one with
  | test connector inner =>
    have inside : inner.Structured := structured inner (List.mem_singleton_self _)
    cases other with
    | test connector' inner' =>
      have inside' : inner'.Structured := structured' inner' (List.mem_singleton_self _)
      obtain ⟨tests, rests⟩ := inner.append_inj inside inside' stops stops' same
      exact ⟨by simp only [Clause.canonical, Clause.joinedBy, tests], rests⟩
    | group connector' clauses' => exact absurd same (inner.ne_group inside)
  | group connector clauses =>
    cases other with
    | test connector' inner' =>
      have inside' : inner'.Structured := structured' inner' (List.mem_singleton_self _)
      exact absurd same.symm (inner'.ne_group inside')
    | group connector' clauses' =>
      simp only [Clause.bodySql, String.toList_append, List.append_assoc] at same
      have closes (rest : List Char) : Closes (")".toList ++ rest) := by
        simp [Closes]
      obtain ⟨inner, rests⟩ := Condition.append_inj clauses clauses' structured structured' (closes rest)
        (closes rest') (List.append_cancel_left same)
      exact ⟨by simp only [Clause.canonical, Clause.joinedBy, inner], List.append_cancel_left rests⟩

theorem Condition.append_inj (one other : List Clause) (structured : Condition.Structured one)
    (structured' : Condition.Structured other) {rest rest' : List Char} (closes : Closes rest)
    (closes' : Closes rest')
    (same : (Condition.sql one).toList ++ rest = (Condition.sql other).toList ++ rest') :
    Condition.canonical one = Condition.canonical other ∧ rest = rest' := by
  cases one with
  | nil =>
    cases other with
    | nil => exact ⟨rfl, same⟩
    | cons clause' clauses' =>
      rw [Condition.sql, Condition.sql, String.toList_append, List.append_assoc] at same
      exact absurd same (closes.ne_body (Condition.structured_cons.mp structured').1)
  | cons clause clauses =>
    cases other with
    | nil =>
      rw [Condition.sql, Condition.sql, String.toList_append, List.append_assoc] at same
      exact absurd same.symm (closes'.ne_body (Condition.structured_cons.mp structured).1)
    | cons clause' clauses' =>
      simp only [Condition.sql, String.toList_append, List.append_assoc] at same
      obtain ⟨first, first'⟩ := Condition.structured_cons.mp structured
      obtain ⟨second, second'⟩ := Condition.structured_cons.mp structured'
      obtain ⟨heads, tails⟩ := Clause.body_append_inj clause clause' first second (stops_restSql clauses closes)
        (stops_restSql clauses' closes') same
      obtain ⟨tails, rests⟩ := Condition.rest_append_inj clauses clauses' first' second' closes closes' tails
      exact ⟨by rw [Condition.canonical, Condition.canonical, heads, tails], rests⟩

theorem Condition.rest_append_inj (one other : List Clause) (structured : Condition.Structured one)
    (structured' : Condition.Structured other) {rest rest' : List Char} (closes : Closes rest)
    (closes' : Closes rest')
    (same : (Condition.restSql one).toList ++ rest = (Condition.restSql other).toList ++ rest') :
    Condition.canonicalRest one = Condition.canonicalRest other ∧ rest = rest' := by
  cases one with
  | nil =>
    cases other with
    | nil => exact ⟨rfl, same⟩
    | cons clause' clauses' =>
      simp only [Condition.restSql, String.toList_append, List.append_assoc] at same
      exact absurd same closes.ne_connector
  | cons clause clauses =>
    cases other with
    | nil =>
      simp only [Condition.restSql, String.toList_append, List.append_assoc] at same
      exact absurd same.symm closes'.ne_connector
    | cons clause' clauses' =>
      simp only [Condition.restSql, String.toList_append, List.append_assoc] at same
      obtain ⟨connectors, bodies⟩ := connector_append_inj (List.append_cancel_left same)
      obtain ⟨first, first'⟩ := Condition.structured_cons.mp structured
      obtain ⟨second, second'⟩ := Condition.structured_cons.mp structured'
      obtain ⟨heads, tails⟩ := Clause.body_append_inj clause clause' first second (stops_restSql clauses closes)
        (stops_restSql clauses' closes') (List.append_cancel_left bodies)
      obtain ⟨tails, rests⟩ := Condition.rest_append_inj clauses clauses' first' second' closes closes' tails
      have joined : clause.canonical.connector = clause'.canonical.connector := by
        rw [Clause.connector_canonical, Clause.connector_canonical, connectors]
      have heads := Clause.eq_of_joinedBy joined heads
      exact ⟨by rw [Condition.canonicalRest, Condition.canonicalRest, heads, tails], rests⟩
end

/-- Two conditions are written alike exactly when they have one canonical form, however their identifiers are
spelled. -/
theorem Condition.sql_eq_iff_canonical_eq {one other : Condition} (structured : Condition.Structured one)
    (structured' : Condition.Structured other) :
    Condition.sql one = Condition.sql other ↔ Condition.canonical one = Condition.canonical other := by
  constructor
  · intro same
    have ends : Closes [] := by simp [Closes]
    have texts : (Condition.sql one).toList ++ [] = (Condition.sql other).toList ++ [] := by rw [same]
    exact (Condition.append_inj one other structured structured' ends ends texts).1
  · intro same
    rw [← Condition.sql_canonical one, same, Condition.sql_canonical]

def sham : Expr := .column ⟨some "a\"b", "id = 1) OR (\"x"⟩

def shamRange : Test := .between (.call "lower" sham) .betweenSymmetric (.param 2) (.excluded "and")

def shamMembership : Condition :=
  [.test .or (.compare sham .isIn (some .any) (.param 1)), .group .or [.test .or shamRange]]

def shamEquality : Condition :=
  [.test .and (.compare sham .eq (some .any) (.param 1)), .group .or [.test .and shamRange]]

theorem Condition.canonical_eq_of_membership :
    Condition.Structured shamMembership ∧ Condition.Structured shamEquality ∧
      Condition.sql shamMembership = Condition.sql shamEquality ∧
      Condition.canonical shamMembership = Condition.canonical shamEquality := by
  have first : Condition.Structured shamMembership := by decide +kernel
  have second : Condition.Structured shamEquality := by decide +kernel
  exact ⟨first, second, rfl, (Condition.sql_eq_iff_canonical_eq first second).mp rfl⟩

end RecordSql
