import RecordSql.Proofs.Check.Bindings
import RecordSql.Proofs.Statement.References

namespace RecordSql

/-- The pairing is that of a returned column with a field that names another relation than the
target. -/
structure Pairing.StraysFrom (command : Command) (pairing : Pairing) (field : BoundField) : Prop where
  path_eq : pairing.path = field.path
  column_eq : pairing.column = field.column.name
  relation_eq : pairing.relation = command.target
  other : ∃ key, field.column.qualifier = some key ∧ key ≠ command.target
  returned : command.result = none ∧ command.kind ≠ .select ∧ command.returning.isSome = true

def Lowered.projection : Lowered → List ColumnRef
  | .statement bound => bound.statement.projection
  | .filter _ => []

structure Pairing.WrittenAs (checked : CheckedCommand) (pairing : Pairing) (ref : ColumnRef) :
    Prop where
  name_eq : ref.name = pairing.column
  qualifier_eq : ref.qualifier = if 1 < checked.relations.size then some pairing.relation else none

namespace Command.Fits

variable {database : Database} {command : Command} {checked : CheckedCommand} {scope : Scope}
  {first : RelationSet} {known : LiteralTypes} (fits : Fits database command checked scope first known)
include fits

theorem follows_or_strays_of_fillsByName {pairing : Pairing} {field : BoundField}
    (returned : command.result = none ∧ command.kind ≠ .select ∧ command.returning.isSome = true)
    (filled : scope.FillsByName pairing field) :
    pairing.Follows field ∨ pairing.StraysFrom command field := by
  obtain ⟨path, column, relation⟩ := Scope.eq_of_fillsByName filled
  rw [fits.first_eq.2] at relation
  by_cases other : ∃ key, field.column.qualifier = some key ∧ key ≠ command.target
  · exact .inr ⟨path, column, relation, other, returned⟩
  · refine .inl ⟨path, column, ?_⟩
    intro key qualified
    by_contra differs
    exact other ⟨key, qualified, fun same => differs (by rw [relation, same])⟩

theorem outputs_eq_nil (kind : command.kind ≠ .select) (returning : command.returning = none)
    (result : command.result = none) : checked.outputs = [] := by
  have fills := fits.sends_fills.2
  generalize checked.outputs = outputs at fills
  cases fills with
  | result present => simp [result] at present
  | record _ select => exact absurd select kind
  | returned _ _ present => simp [returning] at present
  | nothing => rfl

end Command.Fits

/-- Each pairing has the column that its field names, in the relation that the field names. A return
list looks at the name of the column only: what it returns to a field of another relation is the
column of the target. -/
theorem pairings_follow_fields {database : Database} {command : Command} {checked : CheckedCommand}
    (check : (command.check database).Returns checked) :
    (∀ pairing ∈ checked.inputs, ∃ field ∈ command.record.fields, pairing.Follows field) ∧
      ∀ pairing ∈ checked.outputs, ∃ field ∈ command.filledFields,
        pairing.Follows field ∨ pairing.StraysFrom command field := by
  obtain ⟨scope, first, known, fits⟩ := Command.fits_of_check check
  constructor
  · intro pairing member
    obtain ⟨field, inside, written⟩ := fits.input_written pairing member
    exact ⟨field, inside, (Scope.follows_of_writePairing written).1⟩
  · intro pairing member
    obtain ⟨field, inside, filled⟩ := fits.output_filled pairing member
    refine ⟨field, inside, ?_⟩
    rcases filled with read | ⟨result, kind, returning, byName⟩
    · exact .inl (Scope.follows_of_readPairing read)
    · exact fits.follows_or_strays_of_fillsByName ⟨result, kind, returning⟩ byName

def renameAndReturn : List HostField :=
  renameAuthors ++
    [{ name := "Result"
       type := recordOf [taggedField "Title" "sql" "p.title" HostType.text,
         taggedField "Id" "sql" "u.id" (HostType.scalar .i32)] }]

theorem exists_renameAndReturn :
    ∃ command checked bound, Accepted .tagged "UpdateUser" renameAndReturn blog command checked bound ∧
      checked.inputs.map Pairing.column = ["nickname"] ∧
      checked.outputs.map Pairing.column = ["title", "id"] := by
  obtain ⟨command, checked, bound, accepted, facts⟩ := exists_accepted
    (fun (_, checked, _) => checked.inputs.map Pairing.column == ["nickname"] &&
      checked.outputs.map Pairing.column == ["title", "id"])
    (show (accepted? .tagged "UpdateUser" renameAndReturn blog).any _ = true by decide +kernel)
  simp only [Bool.and_eq_true, beq_iff_eq] at facts
  exact ⟨command, checked, bound, accepted, facts⟩

theorem pairings_follow_fields_renameAndReturn :
    ∃ (command : Command) (checked : CheckedCommand), (command.check blog).Returns checked ∧
      checked.inputs.map Pairing.column = ["nickname"] ∧
      checked.outputs.map Pairing.column = ["title", "id"] ∧
      (∀ pairing ∈ checked.inputs, ∃ field ∈ command.record.fields, pairing.Follows field) ∧
      ∀ pairing ∈ checked.outputs, ∃ field ∈ command.filledFields,
        pairing.Follows field ∨ pairing.StraysFrom command field := by
  obtain ⟨command, checked, bound, accepted, inputs, outputs⟩ := exists_renameAndReturn
  exact ⟨command, checked, accepted.check, inputs, outputs, pairings_follow_fields accepted.check⟩

def removeAuthors : List HostField :=
  [taggedField "User" "rel" "users:u"
     (recordOf [taggedField "Post" "sql" "p.id" (HostType.scalar .i32),
       taggedField "Id" "sql" "u.id" (HostType.scalar .i32)]),
   { name := "Using"
     type := recordOf [taggedField "_" "sql" "posts:p, p.user_id = u.id" Directive.join.hostType] },
   { name := "Where", type := recordOf [taggedField "Title" "sql" "p.title" HostType.text] },
   taggedField "_" "sql" "id" Directive.returning.hostType]

/-- The field for the number of a post is filled with the number of its author. -/
theorem returned_to_field_of_other_relation :
    ∃ command checked bound, Accepted .tagged "DeleteUser" removeAuthors blog command checked bound ∧
      command.result = none ∧
      ∃ pairing ∈ checked.outputs, pairing.path = ["Post"] ∧ pairing.relation = "u" ∧
        ∀ field ∈ command.record.fields, ¬ pairing.Follows field := by
  obtain ⟨command, checked, bound, accepted, facts⟩ := exists_accepted
    (fun (command, checked, _) => command.result.isNone && checked.outputs.any fun pairing =>
      pairing.path == ["Post"] && pairing.relation == "u" &&
        command.record.fields.all fun field => !decide (pairing.Follows field))
    (show (accepted? .tagged "DeleteUser" removeAuthors blog).any _ = true by decide +kernel)
  simp only [Bool.and_eq_true, Option.isNone_iff_eq_none, List.any_eq_true, beq_iff_eq,
    List.all_eq_true, Bool.not_eq_true', decide_eq_false_iff_not] at facts
  obtain ⟨result, pairing, inside, ⟨path, relation⟩, strays⟩ := facts
  exact ⟨command, checked, bound, accepted, result, pairing, inside, path, relation, strays⟩

namespace Lowering

variable {lowering : Lowering}

theorem projection_of_builds {build : Binding Statement} (builds : lowering.Builds build)
    (single : lowering.command.kind = .insert → lowering.qualifies = false)
    (silent : lowering.command.kind ≠ .select → lowering.command.returning = none →
      lowering.command.result = none → lowering.checked.outputs = [])
    (before : List ArgSource) : (build.run before).1.projection =
      lowering.checked.outputs.map (pairingColumn lowering.qualifies) := by
  have returning : lowering.command.kind ≠ .select → lowering.returning =
      lowering.checked.outputs.map (pairingColumn lowering.qualifies) := by
    intro kind
    rw [lowering.returning_eq_outputs single]
    split
    · rename_i undeclared
      simp only [Bool.and_eq_true, Option.isNone_iff_eq_none] at undeclared
      rw [silent kind undeclared.1 undeclared.2, List.map_nil]
    · rfl
  cases builds with
  | select => rfl
  | insert kind => exact returning (by simp [kind])
  | update kind => exact returning (by simp [kind])
  | delete kind => exact returning (by simp [kind])

theorem writtenAs_pairingColumn (pairing : Pairing) :
    pairing.WrittenAs lowering.checked (pairingColumn lowering.qualifies pairing) := by
  unfold pairingColumn qualifies
  by_cases several : 1 < lowering.checked.relations.size
  · exact ⟨by simp [several, Pairing.columnRef], by simp [several, Pairing.columnRef]⟩
  · exact ⟨by simp [several], by simp [several]⟩

end Lowering

theorem Accepted.projection_written {naming : ColumnNaming} {name : String}
    {fields : List HostField} {database : Database} {command : Command} {checked : CheckedCommand}
    {bound : BoundStatement}
    (accepted : Accepted naming name fields database command checked bound) :
    List.Forall₂ (Pairing.WrittenAs checked) checked.outputs bound.statement.projection := by
  obtain ⟨scope, first, known, lowering, facts⟩ := accepted.agrees
  obtain ⟨build, builds, ran⟩ := facts.builds
  have silent : lowering.command.kind ≠ .select → lowering.command.returning = none →
      lowering.command.result = none → lowering.checked.outputs = [] := by
    rw [facts.command_eq, facts.checked_eq]
    exact facts.fits.outputs_eq_nil
  have projection := Lowering.projection_of_builds builds facts.single silent []
  rw [ran, facts.checked_eq] at projection
  rw [projection, List.forall₂_map_right_iff, List.forall₂_same]
  intro pairing _
  have written := lowering.writtenAs_pairingColumn pairing
  rwa [facts.checked_eq] at written

/-- Every pairing is certified for the column that it names, an input for a column of the target,
and the outputs are the columns that the statement returns, in order. -/
theorem pairings_certified {naming : ColumnNaming} {name : String} {fields : List HostField}
    {database : Database} {command : Command} {checked : CheckedCommand} {lowered : Lowered}
    (read : Command.read naming name fields = .ok command)
    (check : (command.check database).Returns checked) (lower : checked.lower = .ok lowered) :
    (∃ target, checked.target? = some target ∧ ∀ pairing ∈ checked.inputs,
        pairing.relation = target.key ∧ ∃ field ∈ command.record.fields,
          pairing.Certified database.catalog checked.relations .write field) ∧
      (∀ pairing ∈ checked.outputs, ∃ field ∈ command.filledFields,
        pairing.Certified database.catalog checked.relations .read field) ∧
      List.Forall₂ (Pairing.WrittenAs checked) checked.outputs lowered.projection ∧
      (command.kind ≠ .select → command.returning = none → command.result = none →
        checked.outputs = []) := by
  obtain ⟨scope, first, known, fits⟩ := Command.fits_of_check check
  refine ⟨⟨scope.target, fits.target?_eq, ?_⟩, fits.output_certified, ?_, fits.outputs_eq_nil⟩
  · intro pairing member
    obtain ⟨field, _, written⟩ := fits.input_written pairing member
    exact ⟨(Scope.follows_of_writePairing written).2, fits.input_certified pairing member⟩
  · cases lowered with
    | statement bound =>
      have accepted : Accepted naming name fields database command checked bound :=
        ⟨read, check, lower⟩
      exact accepted.projection_written
    | filter map =>
      have kind := Lowering.kind_of_filter lower
      rw [fits.command_eq] at kind
      obtain ⟨returning, result⟩ := (Command.readFrom_of_read read).undeclared_of_silent (.inl kind)
      rw [fits.outputs_eq_nil (by simp [kind]) returning result]
      exact .nil

theorem pairings_certified_renameAndReturn :
    ∃ (command : Command) (checked : CheckedCommand) (lowered : Lowered),
      Command.read .tagged "UpdateUser" renameAndReturn = .ok command ∧
      (command.check blog).Returns checked ∧ checked.lower = .ok lowered ∧
      checked.inputs.map Pairing.column = ["nickname"] ∧
      checked.outputs.map Pairing.column = ["title", "id"] ∧
      (∃ target, checked.target? = some target ∧ ∀ pairing ∈ checked.inputs,
        pairing.relation = target.key ∧ ∃ field ∈ command.record.fields,
          pairing.Certified blog.catalog checked.relations .write field) ∧
      (∀ pairing ∈ checked.outputs, ∃ field ∈ command.filledFields,
        pairing.Certified blog.catalog checked.relations .read field) ∧
      List.Forall₂ (Pairing.WrittenAs checked) checked.outputs lowered.projection := by
  obtain ⟨command, checked, bound, accepted, inputs, outputs⟩ := exists_renameAndReturn
  obtain ⟨sent, filled, projection, _⟩ :=
    pairings_certified accepted.read accepted.check accepted.lower
  exact ⟨command, checked, _, accepted.read, accepted.check, accepted.lower, inputs, outputs, sent,
    filled, projection⟩

end RecordSql
