import RecordSql.Compile.Session
import RecordSql.Proofs.Catalog.Cache
import RecordSql.Proofs.Digest.Framing
import RecordSql.Proofs.Statement.Lowering

namespace RecordSql

namespace SessionTask

variable {ε ε' α β : Type} {property : α → Prop}

def Ensures (task : SessionTask ε α) (property : α → Prop) : Prop :=
  ∀ session value, (task.outcome session).1 = .ok value → property value

namespace Ensures

theorem pure {value : α} (holds : property value) : Ensures (Pure.pure value : SessionTask ε α) property := by
  intro session returned same
  cases same
  exact holds

theorem throw (failure : ε) : Ensures (MonadExcept.throw failure : SessionTask ε α) property := by
  intro session returned same
  cases same

theorem any (task : SessionTask ε α) : Ensures task fun _ => True := fun _ _ _ => trivial

theorem bind {task : SessionTask ε β} {next : β → SessionTask ε α} {first : β → Prop}
    (now : Ensures task first) (later : ∀ value, first value → Ensures (next value) property) :
    Ensures (task >>= next) property := by
  intro session value returned
  rw [outcome_bind] at returned
  have holds := now session
  generalize task.outcome session = outcome at returned holds
  obtain ⟨result, between⟩ := outcome
  cases result with
  | error failure => cases returned
  | ok middle => exact later middle (holds middle rfl) between value returned

theorem mapError {f : ε → ε'} {task : SessionTask ε α} (ensures : Ensures task property) :
    Ensures (task.mapError f) property := by
  intro session value returned
  exact ensures session value (mapError_eq_ok.mp returned)

theorem attempt {task : SessionTask ε α} (ensures : Ensures task property) :
    Ensures (SessionTask.attempt task) fun result => ∀ value, result = .ok value → property value := by
  intro session result returned value same
  have tried : Except.ok (task.outcome session).1 = .ok result := returned
  cases tried
  exact ensures session value same

theorem foldlM {step : α → β → SessionTask ε α}
    (each : ∀ state item, property state → Ensures (step state item) property) (items : List β) {start : α}
    (holds : property start) : Ensures (items.foldlM step start) property := by
  induction items generalizing start with
  | nil => exact pure holds
  | cons item items ih =>
    rw [List.foldlM_cons]
    exact (each start item holds).bind fun state kept => ih kept

end Ensures

end SessionTask

namespace CompiledCommand

/-- A statement is named by its kind and text, and what is no statement has no name. -/
def Named (compiled : CompiledCommand) : Prop :=
  compiled.statementName? = compiled.sql.map fun sql =>
    "tagsql_" ++ (Fingerprint.ofStatement compiled.kind.name sql).short

theorem named_ofLowered (checked : CheckedCommand) (lowered : Lowered) : (ofLowered checked lowered).Named := by
  cases lowered with
  | filter map => rfl
  | statement bound =>
    simp only [Named, statementName?, ofLowered, Option.bind_eq_bind, Option.bind_some, Fingerprint.slice?_toHex]
    simp [statementNameStart]

end CompiledCommand

namespace Compiler

variable (compiler : Compiler)

theorem compile_named (source : CommandSource) :
    SessionTask.Ensures (compiler.compile source) CompiledCommand.Named := by
  refine SessionTask.Ensures.mapError ?_
  refine (SessionTask.Ensures.any _).bind fun command _ => ?_
  refine (SessionTask.Ensures.any _).bind fun catalog _ => ?_
  refine (SessionTask.Ensures.any _).bind fun checked _ => ?_
  refine (SessionTask.Ensures.any _).bind fun lowered _ => ?_
  refine (SessionTask.Ensures.any _).bind fun _ _ => ?_
  exact .pure (CompiledCommand.named_ofLowered checked lowered)

theorem addTo_named (batch : Batch) (source : CommandSource)
    (named : ∀ compiled ∈ batch.compiled, compiled.Named) :
    SessionTask.Ensures (compiler.addTo batch source) fun after =>
      ∀ compiled ∈ after.compiled, compiled.Named := by
  refine (compiler.compile_named source).attempt.bind fun result returned => ?_
  cases result with
  | ok compiled =>
    refine .pure fun other member => ?_
    rcases List.mem_append.mp member with earlier | now
    · exact named other earlier
    · rw [List.mem_singleton.mp now]
      exact returned compiled rfl
  | error failure =>
    simp only
    split
    · exact .throw failure
    · exact .pure named

theorem compileAll_named (sources : List CommandSource) :
    SessionTask.Ensures (compiler.compileAll sources) fun batch => ∀ compiled ∈ batch.compiled, compiled.Named :=
  .foldlM (fun batch source => compiler.addTo_named batch source) sources nofun

end Compiler

/-- Two statements of which the same bytes are hashed agree in their kind, if it is not too long, and in their
text. Every statement that is compiled, alone or in a batch, is named by the short fingerprint of its kind
and text, and of any fingerprint the first sixteen digits are its short form, which tells its first eight
bytes. -/
theorem statement_names_framed :
    (∀ kind kind' sql sql', (textBytes kind).length < 4294967295 →
      statementBytes kind sql = statementBytes kind' sql' → kind = kind' ∧ sql = sql') ∧
    (∀ kind sql, (Fingerprint.ofStatement kind sql).bytes = Sha256.digest (statementBytes kind sql)) ∧
    (∀ print : Fingerprint, Text.slice? 0 16 print.toHex.toList = some print.short.toList) ∧
    (∀ print other : Fingerprint, print.short = other.short ↔ print.bytes.take 8 = other.bytes.take 8) ∧
    (∀ checked lowered, (CompiledCommand.ofLowered checked lowered).Named) ∧
    ∀ compiler : Compiler,
      (∀ source, SessionTask.Ensures (compiler.compile source) CompiledCommand.Named) ∧
      ∀ sources, SessionTask.Ensures (compiler.compileAll sources) fun batch =>
        ∀ compiled ∈ batch.compiled, compiled.Named := by
  refine ⟨fun _ _ _ _ => statementBytes_inj, fun _ _ => rfl, Fingerprint.slice?_toHex,
    fun _ _ => Fingerprint.short_eq_iff, CompiledCommand.named_ofLowered, fun compiler => ?_⟩
  exact ⟨compiler.compile_named, compiler.compileAll_named⟩

def selectNickname : CommandSource where
  name := "SelectUser"
  fields := [taggedField "User" "rel" "users:u"
    (recordOf [taggedField "Nickname" "sql" "nickname" { shape := .optional HostType.text }])]

def blogIdentity : CatalogIdentity := ⟨"localhost:5432", "blog"⟩

def blogCompiler : Compiler where
  settings := { identity := some blogIdentity }
  server := blog.server

def blogSession : Session where
  cache := CatalogCache.insert ⟨[], List.nodup_nil⟩ blogIdentity blog.catalog

theorem statement_names_framed_selectNickname :
    (textBytes "select").length < 4294967295 ∧ statementBytes "select" "t" ≠ statementBytes "selec" "tt" ∧
      ∃ batch compiled, ((blogCompiler.compileAll [selectNickname]).outcome blogSession).1 = .ok batch ∧
        compiled ∈ batch.compiled ∧ compiled.kind = .select ∧
        compiled.sql = some "SELECT nickname FROM users AS u LIMIT 1" ∧
        compiled.statementName? = some "tagsql_d54167c53e0fc8e6" := by
  have short : (textBytes "select").length < 4294967295 := by decide +kernel
  have digest : (Fingerprint.ofStatement "select" "SELECT nickname FROM users AS u LIMIT 1").short =
      "d54167c53e0fc8e6" := by decide +kernel
  obtain ⟨framed, -, -, -, -, compiles⟩ := statement_names_framed
  have ran : ((blogCompiler.compileAll [selectNickname]).outcome blogSession).1.toOption.any
      (fun batch => batch.compiled.any fun compiled => compiled.kind = .select ∧
        compiled.sql = some "SELECT nickname FROM users AS u LIMIT 1") = true := by decide +kernel
  have named := (compiles blogCompiler).2 [selectNickname] blogSession
  generalize ((blogCompiler.compileAll [selectNickname]).outcome blogSession).1 = result at ran named ⊢
  refine ⟨short, fun same => ?_, ?_⟩
  · exact absurd (framed _ _ _ _ short same).1 (by decide)
  · obtain ⟨batch, rfl, filled⟩ := exists_ok_of_any _ ran
    obtain ⟨compiled, member, found⟩ := List.any_eq_true.mp filled
    obtain ⟨kind, stated⟩ := of_decide_eq_true found
    have called := named batch rfl compiled member
    rw [CompiledCommand.Named, stated, kind] at called
    refine ⟨batch, compiled, rfl, member, kind, stated, called.trans ?_⟩
    rw [Option.map_some, CommandKind.name, digest]
    rfl

end RecordSql
