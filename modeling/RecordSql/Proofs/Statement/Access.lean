import RecordSql.Proofs.Check.Access
import RecordSql.Proofs.Statement.References

/-!
Read-only and write-only fields, and what a write returns. A read-only field is sent only where it is
forced, and a write-only field is filled only where a return list names its column. What a write
declares to return is left out of its statement when nothing of it can be read.
-/
namespace RecordSql

/-- An insert or update sends a read-only field only if its column is forced. Of the write-only
fields none is filled but the first one with a column of a return list. -/
theorem options_honoured {database : Database} {command : Command} {checked : CheckedCommand}
    (check : (command.check database).Returns checked) :
    ∃ target, checked.target? = some target ∧
      (command.kind.writesRecord = true →
        List.Forall₂ Pairing.MadeFor checked.inputs (command.inputFields target) ∧
          (command.inputFields target).Sublist command.record.fields ∧
          ∀ field ∈ command.inputFields target, field.options.readOnly = true →
            ∃ list, command.force = some list ∧
              (list = .all ∨ ∃ ref ∈ list.listed, ref.name = field.column.name)) ∧
      List.Forall₂ Pairing.MadeFor checked.outputs (command.outputFields target) ∧
      ∀ field, field.options.writeOnly = true →
        (field ∈ command.outputFields target ↔ command.ReturnsTo field) := by
  obtain ⟨scope, first, known, fits⟩ := Command.fits_of_check check
  refine ⟨scope.target, fits.target?_eq, ?_, fits.outputs_madeFor, ?_⟩
  · intro writes
    refine ⟨fits.inputs_madeFor writes, List.filter_sublist, ?_⟩
    intro field member readOnly
    exact Command.isForced_iff.mp (Command.forced_of_mem_inputFields member readOnly)
  · intro field writeOnly
    exact Command.mem_outputFields_iff writeOnly

def addUser : List HostField :=
  [taggedField "User" "rel" "users"
     (recordOf [taggedField "Id" "sql" "id,ro" (HostType.scalar .i32),
       taggedField "Name" "sql" "name" HostType.text,
       taggedField "Score" "sql" "score,ro" { shape := .optional (HostType.scalar .i32) },
       taggedField "Email" "sql" "email,wo" HostType.text]),
   taggedField "_" "sql" "id" Directive.force.hostType,
   taggedField "_" "sql" "*" Directive.returning.hostType]

theorem exists_addUser :
    ∃ command checked bound, Accepted .tagged "InsertUser" addUser blog command checked bound ∧
      command.kind.writesRecord = true ∧ command.returning.isSome = true ∧
      checked.inputs.map Pairing.path = [["Id"], ["Name"], ["Email"]] ∧
      checked.outputs.map Pairing.path = [["Id"], ["Name"], ["Score"]] ∧
      bound.statement.returning.map ColumnRef.name = ["id", "name", "score"] := by
  obtain ⟨command, checked, bound, accepted, facts⟩ := exists_accepted
    (fun (command, checked, bound) => command.kind.writesRecord && command.returning.isSome &&
      checked.inputs.map Pairing.path == [["Id"], ["Name"], ["Email"]] &&
      checked.outputs.map Pairing.path == [["Id"], ["Name"], ["Score"]] &&
      bound.statement.returning.map ColumnRef.name == ["id", "name", "score"])
    (show (accepted? .tagged "InsertUser" addUser blog).any _ = true by decide +kernel)
  simp only [Bool.and_eq_true, beq_iff_eq] at facts
  obtain ⟨⟨⟨⟨writes, returning⟩, inputs⟩, outputs⟩, names⟩ := facts
  exact ⟨command, checked, bound, accepted, writes, returning, inputs, outputs, names⟩

theorem options_honoured_addUser :
    ∃ (command : Command) (checked : CheckedCommand) (target : Relation),
      (command.check blog).Returns checked ∧ checked.target? = some target ∧
      command.kind.writesRecord = true ∧
      checked.inputs.map Pairing.path = [["Id"], ["Name"], ["Email"]] ∧
      checked.outputs.map Pairing.path = [["Id"], ["Name"], ["Score"]] ∧
      List.Forall₂ Pairing.MadeFor checked.inputs (command.inputFields target) ∧
      (∀ field ∈ command.inputFields target, field.options.readOnly = true →
        ∃ list, command.force = some list ∧
          (list = .all ∨ ∃ ref ∈ list.listed, ref.name = field.column.name)) ∧
      List.Forall₂ Pairing.MadeFor checked.outputs (command.outputFields target) ∧
      ∀ field, field.options.writeOnly = true →
        (field ∈ command.outputFields target ↔ command.ReturnsTo field) := by
  obtain ⟨command, checked, bound, accepted, writes, _, inputs, outputs, _⟩ := exists_addUser
  obtain ⟨target, found, sent, filled, returnsTo⟩ := options_honoured accepted.check
  obtain ⟨madeFor, _, forced⟩ := sent writes
  exact ⟨command, checked, target, accepted.check, found, writes, inputs, outputs, madeFor, forced,
    filled, returnsTo⟩

def returnEmail : List HostField :=
  [taggedField "User" "rel" "users"
     (recordOf [taggedField "Secret" "sql" "email,wo" HostType.text,
       taggedField "Email" "sql" "email,ro" HostType.text,
       taggedField "Name" "sql" "name" HostType.text]),
   taggedField "_" "sql" "email" Directive.returning.hostType]

/-- The email is returned to the field that goes in only. -/
theorem write_only_field_filled :
    ∃ command checked bound, Accepted .tagged "InsertUser" returnEmail blog command checked bound ∧
      ∃ field ∈ command.record.fields, field.options.writeOnly = true ∧
        ∃ pairing ∈ checked.outputs, pairing.MadeFor field ∧
          ∀ other ∈ command.record.fields, other.options.writeOnly = false → ¬ pairing.MadeFor other := by
  obtain ⟨command, checked, bound, accepted, facts⟩ := exists_accepted
    (fun (command, checked, _) => command.record.fields.any fun field =>
      field.options.writeOnly && checked.outputs.any fun pairing =>
        decide (pairing.MadeFor field) && command.record.fields.all fun other =>
          other.options.writeOnly || !decide (pairing.MadeFor other))
    (show (accepted? .tagged "InsertUser" returnEmail blog).any _ = true by decide +kernel)
  simp only [List.any_eq_true, Bool.and_eq_true, decide_eq_true_eq, List.all_eq_true,
    Bool.or_eq_true, Bool.not_eq_true', decide_eq_false_iff_not] at facts
  obtain ⟨field, inside, writeOnly, pairing, member, madeFor, only⟩ := facts
  refine ⟨command, checked, bound, accepted, field, inside, writeOnly, pairing, member, madeFor, ?_⟩
  intro other present readable
  exact (only other present).resolve_left (by simp [readable])

/-- Nothing of what a command declares to return can be read: all fields of its result record are
write-only, or all fields of its record are write-only or none of the target. -/
inductive Command.ReturnsNothing (command : Command) (target : Relation) : Prop
  | result {result : ResultBinding} : command.result = some result →
    (∀ field ∈ result.fields, field.options.writeOnly = true) → ReturnsNothing command target
  | all : command.returning = some .all →
    (∀ field ∈ command.record.fields, field.options.writeOnly = true ∨
      ¬ target.HasColumn field.column.name) → ReturnsNothing command target

namespace Command

variable {command : Command} {target : Relation}

theorem returnsNothing_of_result {result : ResultBinding} (present : command.result = some result)
    (undeclared : command.returning = none) : command.ReturnsNothing target ↔
      ∀ field ∈ result.fields, field.options.writeOnly = true := by
  constructor
  · intro nothing
    cases nothing with
    | result same unread =>
      cases present.symm.trans same
      exact unread
    | all returning => simp [undeclared] at returning
  · exact .result present

theorem returnsNothing_of_all (absent : command.result = none)
    (returning : command.returning = some .all) : command.ReturnsNothing target ↔
      ∀ field ∈ command.record.fields, field.options.writeOnly = true ∨
        ¬ target.HasColumn field.column.name := by
  constructor
  · intro nothing
    cases nothing with
    | result same => simp [absent] at same
    | all _ unread => exact unread
  · exact .all returning

theorem not_returnsNothing_of_columns {listed : List ColumnRef} (absent : command.result = none)
    (returning : command.returning = some (.columns listed)) : ¬ command.ReturnsNothing target := by
  intro nothing
  cases nothing with
  | result same => simp [absent] at same
  | all same => simp [returning] at same

end Command

namespace Accepted

variable {naming : ColumnNaming} {name : String} {fields : List HostField} {database : Database}
  {command : Command} {checked : CheckedCommand} {bound : BoundStatement}

theorem returning_eq_nil_iff (accepted : Accepted naming name fields database command checked bound) :
    bound.statement.returning = [] ↔ command.kind = .select ∨
      (command.returning = none ∧ command.result = none) ∨ checked.outputs = [] := by
  obtain ⟨scope, first, known, lowering, facts⟩ := accepted.agrees
  obtain ⟨build, builds, ran⟩ := facts.builds
  have statement : (build.run []).1 = bound.statement := by rw [ran]
  have written : lowering.returning = [] ↔
      (command.returning = none ∧ command.result = none) ∨ checked.outputs = [] := by
    rw [lowering.returning_eq_outputs facts.single, facts.command_eq, facts.checked_eq]
    split
    · rename_i undeclared
      exact iff_of_true rfl (.inl (by simpa using undeclared))
    · rename_i declared
      have present : ¬ (command.returning = none ∧ command.result = none) := by simpa using declared
      exact List.map_eq_nil_iff.trans (or_iff_right present).symm
  have other (kind : command.kind ≠ .select) : lowering.returning = [] ↔ command.kind = .select ∨
      (command.returning = none ∧ command.result = none) ∨ checked.outputs = [] :=
    written.trans (or_iff_right kind).symm
  have sameKind : lowering.command.kind = command.kind := by rw [facts.command_eq]
  rw [← statement]
  cases builds with
  | select kind => exact iff_of_true rfl (.inl (sameKind.symm.trans kind))
  | insert kind => exact other (by simp [← sameKind, kind])
  | update kind => exact other (by simp [← sameKind, kind])
  | delete kind => exact other (by simp [← sameKind, kind])

theorem outputs_eq_nil_iff (accepted : Accepted naming name fields database command checked bound)
    {scope : Scope} {first : RelationSet} {known : LiteralTypes}
    (fits : Command.Fits database command checked scope first known)
    (declared : command.returning.isSome = true ∨ command.result.isSome = true) :
    checked.outputs = [] ↔ command.ReturnsNothing scope.target := by
  have read := Command.readFrom_of_read accepted.read
  have fills := fits.sends_fills.2
  generalize checked.outputs = outputs at fills
  cases fills with
  | @result result _ present paired =>
    have undeclared : command.returning = none := by
      by_contra returning
      have absent := read.result_eq_none_of_returning (Option.isSome_iff_ne_none.mpr returning)
      simp [present] at absent
    rw [Command.returnsNothing_of_result present undeclared,
      eq_nil_iff_of_forall₂ (Scope.madeFor_readPairings paired).flip]
    simp
  | record _ kind =>
    obtain ⟨returning, result⟩ := read.undeclared_of_silent (.inr kind)
    simp [returning, result] at declared
  | @returned columns _ absent _ returning paired =>
    cases columns with
    | all =>
      rw [Command.returnsNothing_of_all absent returning,
        eq_nil_iff_of_forall₂ (Scope.madeFor_returnAll paired).flip]
      simp [Relation.HasColumn, or_iff_not_imp_left]
    | columns listed =>
      have filled : outputs ≠ [] := by
        rw [ne_eq, eq_nil_iff_of_forall₂ (mapM_eq_ok.mp paired)]
        exact read.returning_ne_nil returning
      exact iff_of_false filled (Command.not_returnsNothing_of_columns absent returning)
  | nothing absent _ undeclared => simp [absent, undeclared] at declared

/-- A statement returns columns only if its command declares that it does, and does so unless
nothing of what is declared can be read. -/
theorem returning_of_declared
    (accepted : Accepted naming name fields database command checked bound) :
    (bound.statement.returning ≠ [] →
        command.returning.isSome = true ∨ command.result.isSome = true) ∧
      (command.returning.isSome = true ∨ command.result.isSome = true →
        ∃ target, checked.target? = some target ∧
          (bound.statement.returning = [] ↔ command.ReturnsNothing target)) := by
  constructor
  · intro returns
    by_contra undeclared
    apply returns
    apply accepted.returning_eq_nil_iff.mpr
    simp only [not_or, Bool.not_eq_true, Option.isSome_eq_false_iff, Option.isNone_iff_eq_none]
      at undeclared
    exact .inr (.inl undeclared)
  · intro declared
    obtain ⟨scope, first, known, fits⟩ := Command.fits_of_check accepted.check
    refine ⟨scope.target, fits.target?_eq, ?_⟩
    have present : ¬ (command.returning = none ∧ command.result = none) := by
      rintro ⟨returning, result⟩
      simp [returning, result] at declared
    have kind : command.kind ≠ .select := fun kind =>
      present ((Command.readFrom_of_read accepted.read).undeclared_of_silent (.inr kind))
    rw [accepted.returning_eq_nil_iff, or_iff_right kind, or_iff_right present]
    exact accepted.outputs_eq_nil_iff fits declared

theorem returning_of_declared_addUser :
    ∃ command checked bound, Accepted .tagged "InsertUser" addUser blog command checked bound ∧
      command.returning.isSome = true ∧
      bound.statement.returning.map ColumnRef.name = ["id", "name", "score"] ∧
      (bound.statement.returning ≠ [] →
        command.returning.isSome = true ∨ command.result.isSome = true) ∧
      ∃ target, checked.target? = some target ∧
        (bound.statement.returning = [] ↔ command.ReturnsNothing target) := by
  obtain ⟨command, checked, bound, accepted, _, returning, _, _, names⟩ := exists_addUser
  obtain ⟨declares, returnsUnless⟩ := returning_of_declared accepted
  exact ⟨command, checked, bound, accepted, returning, names, declares, returnsUnless (.inl returning)⟩

def changeEmail : List HostField :=
  [taggedField "User" "rel" "users" (recordOf [taggedField "Email" "sql" "email,wo" HostType.text]),
   { name := "Where", type := recordOf [taggedField "Id" "sql" "id" (HostType.scalar .i32)] },
   taggedField "_" "sql" "*" Directive.returning.hostType]

/-- The update declares that it returns all columns, and returns none. -/
theorem declared_return_dropped :
    ∃ command checked bound, Accepted .tagged "UpdateUser" changeEmail blog command checked bound ∧
      command.kind = .update ∧ command.returning = some .all ∧ bound.statement.returning = [] := by
  obtain ⟨command, checked, bound, accepted, facts⟩ := exists_accepted
    (fun (command, _, bound) => command.kind == .update && command.returning == some .all &&
      bound.statement.returning == [])
    (show (accepted? .tagged "UpdateUser" changeEmail blog).any _ = true by decide +kernel)
  simp only [Bool.and_eq_true, beq_iff_eq] at facts
  obtain ⟨⟨kind, returning⟩, returns⟩ := facts
  exact ⟨command, checked, bound, accepted, kind, returning, returns⟩

end Accepted

end RecordSql
