import RecordSql.Proofs.Check.Relisting
import RecordSql.Proofs.Statement.Typing

namespace RecordSql

/-- In another order of its functions a server has results for the same types. A result is the same in
every order just where all overloads that take the type agree, and so is the choice of an exact one;
what calls only functions of which this holds is checked alike. -/
theorem calls_resolved_in_order (database : Database) :
    (∀ func arg,
      (∀ rows, rows.Perm database.catalog.procedureRows →
        ((database.catalog.listing rows).procedureResult? func arg).isSome =
          (database.catalog.procedureResult? func arg).isSome) ∧
      ((∀ rows, rows.Perm database.catalog.procedureRows →
          (database.catalog.listing rows).procedureResult? func arg =
            database.catalog.procedureResult? func arg) ↔
        database.catalog.Unambiguous func arg) ∧
      ∀ exact ∈ database.catalog.procedures func, exact.aggregate = false → exact.arg = arg →
        ((∀ rows, rows.Perm database.catalog.procedureRows →
            (database.catalog.listing rows).procedureResult? func arg = some exact.result) ↔
          database.catalog.Unambiguous func arg)) ∧
    ∀ (command : Command) rows, rows.Perm database.catalog.procedureRows →
      (∀ func ∈ command.functions, ∀ arg, database.catalog.Unambiguous func arg) →
        command.check (database.listing rows) = command.check database := by
  constructor
  · intro func arg
    refine ⟨fun rows => Catalog.procedureResult?_listing_isSome, Catalog.same_in_every_order_iff, ?_⟩
    intro exact listed plain taken
    have member : exact ∈ database.catalog.overloads func arg :=
      List.mem_filter.mpr ⟨listed, Catalog.accepts_iff.mpr ⟨plain, .inl taken⟩⟩
    rw [Catalog.chosen_in_every_order_iff]
    constructor
    · rintro ⟨_, only⟩ one oneMember other otherMember
      rw [only one oneMember, only other otherMember]
    · intro agree
      exact ⟨List.ne_nil_of_mem member, fun procedure inside => agree procedure inside exact member⟩
  · intro command rows reordered agree
    exact Command.check_listing (Catalog.sameResults_of_unambiguous reordered agree)

example : ¬ Standard.catalog.Unambiguous "abs" Oid.int4 := by decide +kernel

theorem unambiguous_lower (arg : Oid) : blog.catalog.Unambiguous "lower" arg := by
  have only : blog.catalog.procedures "lower" = [⟨Oid.text, Oid.text, false⟩] := by decide +kernel
  intro one oneMember other otherMember
  simp only [Catalog.overloads, only, List.mem_filter, List.mem_singleton] at oneMember otherMember
  rw [oneMember.1, otherMember.1]

theorem calls_resolved_in_order_lower :
    (∀ rows, rows.Perm blog.catalog.procedureRows →
        (blog.catalog.listing rows).procedureResult? "lower" Oid.text = some Oid.text) ∧
      ∃ command, Command.read .tagged "SelectUsers"
          (selectUsers [taggedField "Email" "sql" "lower(email)" HostType.text]) = .ok command ∧
        command.functions = ["lower"] ∧
        command.check (blog.listing blog.catalog.procedureRows.reverse) = command.check blog := by
  obtain ⟨results, checks⟩ := calls_resolved_in_order blog
  constructor
  · exact ((results "lower" Oid.text).2.2 ⟨Oid.text, Oid.text, false⟩ (by decide +kernel) rfl rfl).mpr
      (unambiguous_lower Oid.text)
  · obtain ⟨command, read, functions⟩ := exists_read (fun command => command.functions == ["lower"])
      (show (Command.read .tagged "SelectUsers"
        (selectUsers [taggedField "Email" "sql" "lower(email)" HostType.text])).toOption.any _ = true by
          decide +kernel)
    rw [beq_iff_eq] at functions
    refine ⟨command, read, functions, checks command _ (List.reverse_perm _) ?_⟩
    intro func called
    rw [functions] at called
    cases List.mem_singleton.mp called
    exact unambiguous_lower

def flagOverloads : List (String × CatalogProcedure) :=
  [("flag", ⟨Oid.int8, Oid.text, false⟩), ("flag", ⟨Oid.int4, Oid.bool, false⟩)]

def flagBlog : Database := blog.listing (Standard.procedures ++ flagOverloads)

/-- A cast is preferred to an exact overload that is listed after it, and what is then refused is
accepted in the other order. -/
theorem cast_chosen_before_exact :
    (Standard.procedures ++ flagOverloads.reverse).Perm flagBlog.catalog.procedureRows ∧
      ⟨Oid.int4, Oid.bool, false⟩ ∈ flagBlog.catalog.procedures "flag" ∧
      flagBlog.catalog.procedureResult? "flag" Oid.int4 = some Oid.text ∧
      (flagBlog.catalog.listing (Standard.procedures ++ flagOverloads.reverse)).procedureResult? "flag"
        Oid.int4 = some Oid.bool ∧
      ∃ command, Command.read .tagged "SelectUsers"
          (selectUsers [taggedField "_" "sql" "flag(id) istrue" Directive.column.hostType]) =
            .ok command ∧
        ((command.check flagBlog).outcome {}).1 = .error (.badBoolColumn "id" .isTrue) ∧
        ∃ checked, (command.check
          (flagBlog.listing (Standard.procedures ++ flagOverloads.reverse))).Returns checked := by
  refine ⟨(List.reverse_perm _).append_left _, by decide +kernel, by decide +kernel, by decide +kernel, ?_⟩
  obtain ⟨command, read, facts⟩ := exists_read
    (fun command =>
      failure? ((command.check flagBlog).outcome {}).1 == some (.badBoolColumn "id" .isTrue) &&
        failure? ((command.check
          (flagBlog.listing (Standard.procedures ++ flagOverloads.reverse))).outcome {}).1 == none)
    (show (Command.read .tagged "SelectUsers"
      (selectUsers [taggedField "_" "sql" "flag(id) istrue" Directive.column.hostType])).toOption.any _ =
        true by decide +kernel)
  simp only [Bool.and_eq_true, beq_iff_eq] at facts
  obtain ⟨refused, accepted⟩ := facts
  obtain ⟨checked, returned⟩ := failure?_eq_none.mp accepted
  exact ⟨command, read, failure?_eq_some.mp refused, checked, {}, returned⟩

end RecordSql
