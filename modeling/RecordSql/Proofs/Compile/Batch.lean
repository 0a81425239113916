import RecordSql.Proofs.Compile.Sharing
import RecordSql.Proofs.Statement.Lowering

/-!
Batches. On a server without memory a batch comes to what its commands come to each alone: the catalogue
that one command loads is the catalogue that every other would have loaded.
-/
namespace RecordSql

/-- What the results of commands come to: the first failure that ends a run, or else a batch with all that
was compiled and all that failed, each in the order of the commands. -/
def Batch.gather (ends : Failure → Bool) (batch : Batch)
    (results : List (Except Failure CompiledCommand)) : Except Failure Batch :=
  match (results.filterMap RecordSql.failure?).find? ends with
  | some failure => .error failure
  | none => .ok
    { compiled := batch.compiled ++ results.filterMap Except.toOption
      failures := batch.failures ++ results.filterMap RecordSql.failure? }

namespace Batch

variable {ends : Failure → Bool} {batch : Batch} {results : List (Except Failure CompiledCommand)}

theorem gather_nil : batch.gather ends [] = .ok batch := by
  simp [gather]

theorem gather_ok {compiled : CompiledCommand} :
    batch.gather ends (.ok compiled :: results) = (batch.addCompiled compiled).gather ends results := by
  simp only [gather, filterMap_failure?_ok, filterMap_toOption_ok, addCompiled, List.append_assoc,
    List.singleton_append]

theorem gather_error {failure : Failure} : batch.gather ends (.error failure :: results) =
    if ends failure then .error failure else (batch.addFailure failure).gather ends results := by
  simp only [gather, filterMap_failure?_error, filterMap_toOption_error, List.find?_cons]
  by_cases ending : ends failure = true
  · simp only [ending, if_true]
  · simp only [ending, addFailure, List.append_assoc, List.singleton_append]
    rfl

theorem gather_always : ({} : Batch).gather (fun _ => true) results =
    match (results.filterMap RecordSql.failure?).head? with
    | some failure => .error failure
    | none => .ok { compiled := results.filterMap Except.toOption, failures := [] } := by
  unfold gather
  cases results.filterMap RecordSql.failure? with
  | nil => rfl
  | cons failure failures => rfl

end Batch

namespace Compiler

variable {compiler : Compiler}

theorem compile_of_read_error {source : CommandSource} {error : AnnotationError} (session : Session)
    (failed : Command.read compiler.settings.naming source.name source.fields = .error error) :
    (compiler.compile source).outcome session =
      (.error ((Failure.ofAnnotation error).within source.name), session) := by
  simp only [compile, steps, failed]
  rfl

def alone (compiler : Compiler) (session : Session) (source : CommandSource) :
    Except Failure CompiledCommand :=
  ((compiler.compile source).outcome session).1

def ends (compiler : Compiler) (failure : Failure) : Bool :=
  failure.isFatal || compiler.settings.onFailure == .abort

theorem outcome_addTo (batch : Batch) (source : CommandSource) (session : Session) :
    (compiler.addTo batch source).outcome session =
      match (compiler.compile source).outcome session with
      | (.ok compiled, after) => (.ok (batch.addCompiled compiled), after)
      | (.error failure, after) =>
        (if compiler.ends failure then .error failure else .ok (batch.addFailure failure), after) := by
  have tried : (SessionTask.attempt (compiler.compile source)).outcome session =
      (.ok ((compiler.compile source).outcome session).1, ((compiler.compile source).outcome session).2) :=
    rfl
  rw [addTo, SessionTask.outcome_bind, tried]
  generalize (compiler.compile source).outcome session = outcome
  obtain ⟨result, after⟩ := outcome
  cases result with
  | ok compiled => rfl
  | error failure =>
    by_cases ending : (failure.isFatal || compiler.settings.onFailure == .abort) = true
    · simp only [ends, ending, ↓reduceIte]
      rfl
    · simp only [ends, ending]
      rfl

section

variable (memoryless : compiler.server.Memoryless)

include memoryless

theorem neutral_compileAll (sources : List CommandSource) :
    SessionTask.Neutral compiler.server (compiler.compileAll sources) := by
  refine .foldlM (fun batch source => ?_) _ _
  refine (neutral_compile memoryless source).attempt.bind fun result => ?_
  cases result with
  | ok compiled => exact .pure _
  | error failure =>
    simp only
    split
    · exact .throw failure
    · exact .pure _

theorem alone_congr {one other : Session} (alike : one.Alike compiler.server other) :
    compiler.alone one = compiler.alone other :=
  funext fun source => (neutral_compile memoryless source).same alike

/-- A run adds to its batch what the commands come to alone, up to the first failure that ends it. -/
theorem run_eq_gather (session : Session) (batch : Batch) (sources : List CommandSource) :
    (SessionTask.outcome (sources.foldlM compiler.addTo batch) session).1 =
      batch.gather compiler.ends (sources.map (compiler.alone session)) := by
  induction sources generalizing session batch with
  | nil => exact Batch.gather_nil.symm
  | cons source sources ih =>
    have kept := (neutral_compile memoryless source).keeps session
    have here : ((compiler.compile source).outcome session).1 = compiler.alone session source := rfl
    rw [List.foldlM_cons, SessionTask.outcome_bind, outcome_addTo, List.map_cons, ← here]
    generalize (compiler.compile source).outcome session = outcome at kept ⊢
    obtain ⟨result, after⟩ := outcome
    have later (batch : Batch) := ih after batch
    rw [← alone_congr memoryless kept] at later
    cases result with
    | ok compiled =>
      rw [Batch.gather_ok]
      exact later (batch.addCompiled compiled)
    | error failure =>
      rw [Batch.gather_error]
      by_cases ending : compiler.ends failure = true
      · simp only [ending, if_true]
      · simp only [ending]
        exact later (batch.addFailure failure)

end

/-- Commands that are compiled together come to what each comes to alone. Neither the cache nor the
commands before it make a difference to a command, and one with faulty annotations makes none to the
session. -/
theorem compileAll_independent (compiler : Compiler) (memoryless : compiler.server.Memoryless)
    (session : Session) (sources : List CommandSource) :
    let results := sources.map (compiler.alone session)
    let compiled := results.filterMap Except.toOption
    let failures := results.filterMap failure?
    let together := ((compiler.compileAll sources).outcome session).1
    (compiler.settings.onFailure = .collect → together =
      match failures.find? Failure.isFatal with
      | some failure => .error failure
      | none => .ok { compiled, failures }) ∧
    (compiler.settings.onFailure = .abort → together =
      match failures.head? with
      | some failure => .error failure
      | none => .ok { compiled, failures := [] }) ∧
    compiled.length + failures.length = sources.length ∧
    (∀ earlier, compiler.alone ((compiler.compileAll earlier).outcome session).2 =
      compiler.alone session) ∧
    (∀ other, session.Alike compiler.server other → compiler.alone other = compiler.alone session) ∧
    ∀ source error,
      Command.read compiler.settings.naming source.name source.fields = .error error →
        (compiler.compile source).outcome session =
          (.error ((Failure.ofAnnotation error).within source.name), session) := by
  intro results compiled failures together
  have run : together = Batch.gather compiler.ends {} results := run_eq_gather memoryless session {} sources
  refine ⟨fun collects => ?_, fun aborts => ?_, ?_, fun earlier => ?_, fun other alike => ?_, ?_⟩
  · have ends : compiler.ends = Failure.isFatal := by
      funext failure
      simp [Compiler.ends, collects]
    rw [run, ends]
    rfl
  · have ends : compiler.ends = fun _ => true := by
      funext failure
      simp [Compiler.ends, aborts]
    rw [run, ends, Batch.gather_always]
  · exact (length_values_add_length_failures results).trans (List.length_map _)
  · exact (alone_congr memoryless ((neutral_compileAll memoryless earlier).keeps session)).symm
  · exact (alone_congr memoryless alike).symm
  · intro source error failed
    exact compile_of_read_error session failed

def userCompiler : Compiler where
  settings := { onFailure := .collect }
  server := ({ tables := [MemoryTable.users], operators := [], casts := [], procedures := [] } :
    MemoryDatabase).server

def nicknameSources : List CommandSource :=
  let fields := [taggedField "User" "rel" "users:u"
    (recordOf [taggedField "Nickname" "sql" "nickname" { shape := .optional HostType.text }])]
  [⟨"FilterUser", fields⟩, ⟨"User", fields⟩]

theorem compileAll_independent_nicknames :
    userCompiler.server.Memoryless ∧
    ∃ batch, ((userCompiler.compileAll nicknameSources).outcome {}).1 = .ok batch ∧
      batch.compiled.length = 1 ∧ batch.failures.length = 1 ∧
      batch.compiled = (nicknameSources.map (userCompiler.alone {})).filterMap Except.toOption ∧
      batch.failures = (nicknameSources.map (userCompiler.alone {})).filterMap failure? := by
  have memoryless : userCompiler.server.Memoryless := MemoryDatabase.server_memoryless _
  have collected := (compileAll_independent userCompiler memoryless {} nicknameSources).1 rfl
  have ran : ((userCompiler.compileAll nicknameSources).outcome {}).1.toOption.any (fun batch =>
      batch.compiled.length == 1 && batch.failures.length == 1) = true := by decide +kernel
  generalize ((userCompiler.compileAll nicknameSources).outcome {}).1 = together at collected ran ⊢
  generalize nicknameSources.map (userCompiler.alone {}) = results at collected ⊢
  refine ⟨memoryless, ?_⟩
  split at collected
  · rw [collected] at ran
    cases ran
  · refine ⟨_, collected, ?_⟩
    rw [collected] at ran
    simpa [Except.toOption] using ran

end Compiler

end RecordSql
