import RecordSql.Proofs.Check.Joins
import RecordSql.Proofs.Relation.Loading
import RecordSql.Proofs.Repetition

/-!
What a command mentions of a database: relations, each read by four queries, and literals, each probed
for its type by one. An account meets one mention after the other, and knows the literals it has met.
-/
namespace RecordSql

def Relation.queries (relation : Relation) : List Query :=
  [relationQuery relation.name relation.space, columnsQuery relation.oid,
   constraintsQuery relation.oid, indexesQuery relation.oid]

theorem Catalog.literalTypeQuery_injective : Function.Injective literalTypeQuery := by
  intro one other same
  have texts := congrArg Query.sql same
  simpa only [literalTypeQuery, String.append_left_inj, String.append_right_inj] using texts

theorem Relation.literalTypeQuery_notMem_queries (relation : Relation) (text : String) :
    Catalog.literalTypeQuery text ∉ relation.queries := by
  simp [queries, Catalog.literalTypeQuery, relationQuery, columnsQuery, constraintsQuery, indexesQuery]

inductive Mention where
  | relation (relation : Relation)
  | literal (text : String)
  deriving DecidableEq

namespace Mention

def queries : Mention → List Query
  | .relation found => found.queries
  | .literal text => [Catalog.literalTypeQuery text]

def relation? : Mention → Option Relation
  | .relation found => some found
  | .literal _ => none

def literal? : Mention → Option String
  | .relation _ => none
  | .literal text => some text

def relations (mentions : List Mention) : List Relation := mentions.filterMap relation?

def literals (mentions : List Mention) : List String := mentions.filterMap literal?

theorem relation?_eq_some {mention : Mention} {found : Relation} :
    mention.relation? = some found ↔ mention = .relation found := by
  cases mention <;> simp [relation?]

theorem literal?_eq_some {mention : Mention} {text : String} :
    mention.literal? = some text ↔ mention = .literal text := by
  cases mention <;> simp [literal?]

theorem mem_relations {mentions : List Mention} {found : Relation} :
    found ∈ relations mentions ↔ .relation found ∈ mentions := by
  simp [relations, List.mem_filterMap, relation?_eq_some]

theorem mem_literals {mentions : List Mention} {text : String} :
    text ∈ literals mentions ↔ .literal text ∈ mentions := by
  simp [literals, List.mem_filterMap, literal?_eq_some]

@[simp] theorem relations_append (mentions more : List Mention) :
    relations (mentions ++ more) = relations mentions ++ relations more := List.filterMap_append

@[simp] theorem literals_append (mentions more : List Mention) :
    literals (mentions ++ more) = literals mentions ++ literals more := List.filterMap_append

@[simp] theorem relations_nil : relations [] = [] := rfl

@[simp] theorem literals_nil : literals [] = [] := rfl

@[simp] theorem relations_cons_relation (found : Relation) (mentions : List Mention) :
    relations (.relation found :: mentions) = found :: relations mentions := rfl

@[simp] theorem literals_cons_relation (found : Relation) (mentions : List Mention) :
    literals (.relation found :: mentions) = literals mentions := rfl

@[simp] theorem literals_cons_literal (text : String) (mentions : List Mention) :
    literals (.literal text :: mentions) = text :: literals mentions := rfl

@[simp] theorem relations_map_literal (texts : List String) :
    relations (texts.map .literal) = [] := by
  simp [relations, relation?]

@[simp] theorem literals_map_literal (texts : List String) :
    literals (texts.map .literal) = texts := by
  induction texts with
  | nil => rfl
  | cons text texts ih => rw [List.map_cons, literals_cons_literal, ih]

theorem relations_eraseDups (mentions : List Mention) :
    relations mentions.eraseDups = (relations mentions).eraseDups := by
  refine (eraseDups_filterMap (fun one other found led same => ?_) mentions).symm
  rw [relation?_eq_some.mp led, relation?_eq_some.mp same]

theorem literals_eraseDups (mentions : List Mention) :
    literals mentions.eraseDups = (literals mentions).eraseDups := by
  refine (eraseDups_filterMap (fun one other text led same => ?_) mentions).symm
  rw [literal?_eq_some.mp led, literal?_eq_some.mp same]

theorem queries_perm (mentions : List Mention) :
    (mentions.flatMap queries).Perm
      ((relations mentions).flatMap Relation.queries ++
        (literals mentions).map Catalog.literalTypeQuery) := by
  induction mentions with
  | nil => exact .refl _
  | cons mention mentions ih =>
    cases mention with
    | relation found => simpa [queries] using ih.append_left found.queries
    | literal text => exact (ih.cons (Catalog.literalTypeQuery text)).trans List.perm_middle.symm

theorem relation_queries_sublist (mentions : List Mention) :
    ((relations mentions).flatMap Relation.queries).Sublist (mentions.flatMap queries) := by
  induction mentions with
  | nil => exact .slnil
  | cons mention mentions ih =>
    cases mention with
    | relation found => exact ih.append_left found.queries
    | literal text => exact ih.cons (Catalog.literalTypeQuery text)

end Mention

structure Account where
  literals : List String
  queries : List Query

namespace Account

/-- A relation is read, and a literal is probed unless it is known. -/
def meet (account : Account) : Mention → Account
  | .relation found => { account with queries := account.queries ++ found.queries }
  | .literal text =>
    if text ∈ account.literals then account
    else ⟨account.literals ++ [text], account.queries ++ [Catalog.literalTypeQuery text]⟩

def meetAll (account : Account) (mentions : List Mention) : Account := mentions.foldl meet account

theorem meetAll_append (account : Account) (mentions more : List Mention) :
    account.meetAll (mentions ++ more) = (account.meetAll mentions).meetAll more :=
  List.foldl_append

theorem meetAll_eq (queries : List Query) (mentions : List Mention)
    (distinct : (Mention.relations mentions).Nodup) :
    meetAll ⟨[], queries⟩ mentions =
      ⟨(Mention.literals mentions).eraseDups,
        queries ++ mentions.eraseDups.flatMap Mention.queries⟩ := by
  induction mentions using List.reverseRecOn with
  | nil => simp [meetAll]
  | append_singleton mentions mention ih =>
    rw [Mention.relations_append] at distinct
    rw [meetAll_append, ih distinct.of_append_left, eraseDups_concat, Mention.literals_append]
    cases mention with
    | relation found =>
      have fresh : .relation found ∉ mentions := by
        rw [← Mention.mem_relations]
        exact fun member => List.disjoint_of_nodup_append distinct member List.mem_cons_self
      simp [meetAll, meet, fresh, Mention.queries]
    | literal text =>
      simp only [meetAll, List.foldl_cons, List.foldl_nil, meet, List.mem_eraseDups,
        Mention.literals_cons_literal, Mention.literals_nil, eraseDups_concat, Mention.mem_literals]
      split <;> simp [Mention.queries]

end Account

end RecordSql
