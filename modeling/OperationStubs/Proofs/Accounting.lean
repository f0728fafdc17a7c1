import OperationStubs.Proofs.Documents
import OperationStubs.Proofs.Joint
import OperationStubs.Proofs.Notice
import OperationStubs.Proofs.WholeRun

/-!
# What a run accounts for

A run whose configuration or manifest is no good says which one and why, and does nothing but read
(`Run.Refused`). Any other run accounts for every class, once on the standard output and once more
among the diagnostics if it failed (`Run.Accounted`), and needs no paths but those of its classes
below the directory it was given.
-/

namespace OperationStubs

/-- What is printed of a class that failed: what could not be done with its file and why, then the
source type, and where that stands if it is known. -/
def Generator.notice (g : Generator) (attempt : String) (fault : Fault) : String :=
  let source := g.model.source
  let message := "Cannot generate loader for base class " ++ source.qualifiedName ++ ": " ++
    attempt ++ g.model.fqcn ++ ": " ++ fault.message
  "error: " ++ message ++ "\n" ++ Text.note ("in " ++ source.qualifiedName) ++
    (match source.location with
      | none => ""
      | some location => Text.note ("at " ++ location)) ++ "\n"

namespace Course

variable {φ : Type}

/-- A complaint is printed as a notice. -/
theorem text_complaint (g : Generator) (attempt : String) (fault : Fault) :
    (complaint g attempt fault : Call φ).diagnostic?.map (·.text) =
      some (g.notice attempt fault) := by
  have message : "Cannot generate loader for base class " ++ g.model.source.qualifiedName ++ ": " ++
      (attempt ++ g.model.fqcn ++ ": " ++ fault.message) =
        "Cannot generate loader for base class " ++ g.model.source.qualifiedName ++ ": " ++
          attempt ++ g.model.fqcn ++ ": " ++ fault.message := by
    simp only [String.append_assoc]
  rw [complaint, message]
  exact congrArg some (Diagnostic.text_about _ _)

/-- A class that failed is printed about once. -/
theorem notices_calls (c : Course φ) (g : Generator) :
    ((c.calls g).filterMap Call.diagnostic?).map (·.text) =
      (c.failure?.map fun (attempt, fault) => g.notice attempt fault).toList := by
  have reports (call : Call φ) (other : call.isReport = false) :
      call.diagnostic?.map (·.text) = none := by
    cases call with
    | report => cases other
    | _ => rfl
  rw [List.map_filterMap, filterMap_calls reports]
  cases c.failure? with
  | none => rfl
  | some failure =>
    exact congrArg Option.toList (text_complaint (φ := φ) g failure.1 failure.2)

end Course

namespace Turn

variable {φ : Type}

/-- What is printed of a turn that failed, from the course it took. -/
def Noticed (turn : Turn φ) (notice : String) : Prop :=
  ∃ course attempt fault, turn.Follows course ∧ course.failure? = some (attempt, fault) ∧
    notice = turn.generator.notice attempt fault

/-- A turn is told about if it failed. -/
theorem notices_of_follows {turn : Turn φ} {course : Course φ} (follows : turn.Follows course) :
    turn.diagnostics.map (·.text) =
      (course.failure?.map fun (attempt, fault) => turn.generator.notice attempt fault).toList := by
  rw [diagnostics, follows.2, Course.notices_calls]

/-- Every class that failed is told about, in order, and no other. -/
theorem noticed_having {turns : List (Turn φ)}
    (regular : ∀ turn ∈ turns, ∃ course, turn.Follows course) :
    List.Forall₂ Noticed (having .failed turns)
      ((turns.flatMap diagnostics).map (·.text)) := by
  induction turns with
  | nil => exact .nil
  | cons turn turns ih =>
    obtain ⟨⟨course, follows⟩, others⟩ := List.forall_mem_cons.1 regular
    have rest := ih others
    have failed := course.isSome_failure?
    rw [← follows.1] at failed
    rw [List.flatMap_cons, List.map_append, notices_of_follows follows]
    cases why : course.failure? with
    | none =>
      have well : turn.status ≠ .failed := by simpa [why] using failed
      rw [having, List.filter_cons_of_neg (by simpa using well)]
      exact rest
    | some failure =>
      have ill : turn.status = .failed := by simpa [why] using failed
      rw [having, List.filter_cons_of_pos (by simpa using ill)]
      exact .cons ⟨course, _, _, follows, why, rfl⟩ rest

end Turn

namespace Run

variable {σ h : Type}

/-- A run that comes to nothing: it prints why, and has left everything as it was. -/
structure Refused (fs : FileSystem (StateM σ) h) (line : List String) (o : σ) (error : RunError)
    (ended : Outcome × σ) : Prop where
  exitCode : ended.1.exitCode = 1
  stdout : error.Printed ended.1.stdout
  diagnostics : ended.1.diagnostics = ""
  unchanged : ended.2 = o
  /-- Neither a file system with other answers to anything but reading nor another clock makes a
  difference. -/
  aloof : ∀ (fs' : FileSystem (StateM σ) h) (now : StateM σ Timestamp), fs'.read = fs.read →
    ofArguments fs' now line o = ended

/-- The turns of the classes of a manifest below some directory. -/
def classTurns (fs : FileSystem (StateM σ) h) (now : StateM σ Timestamp) (options : Options)
    (root : String) (manifest : Manifest) (o : σ) : List (Turn Nat) :=
  turns (SourceTree.joint (SourceTree.environment fs now)) options manifest.generators opening
    (.empty root, o)

/-- What is said of the classes, those that were generated first. -/
def entries {φ : Type} (turns : List (Turn φ)) : List String :=
  (Turn.having .generated turns).map ("✅ " ++ ·.fqcn) ++
    (Turn.having .failed turns).map ("❌ " ++ ·.fqcn)

/-- What a run over a manifest says of some turns. -/
structure Accounted (manifest : Manifest) (turns : List (Turn Nat)) (outcome : Outcome) :
    Prop where
  /-- Loader and operator of every type have a turn each, in order. -/
  order : turns.map Turn.generator = manifest.generators
  regular : ∀ turn ∈ turns, ∃ course, turn.Follows course
  stdout : outcome.stdout = String.join ((entries turns).map (· ++ "\n"))
  count : (entries turns).length = 2 * manifest.types.length
  /-- Every class that failed is told about once, in order, and nothing else is. -/
  diagnostics : ∃ notices, outcome.diagnostics = String.join notices ∧
    List.Forall₂ Turn.Noticed (Turn.having .failed turns) notices
  exitCode : outcome.exitCode = if ∀ turn ∈ turns, turn.status = .generated then 0 else 1

section Accounts

variable (fs : FileSystem (StateM σ) h) (now : StateM σ Timestamp) (options : Options)
variable (manifest : Manifest) (o : σ)

theorem length_entries {φ : Type} (turns : List (Turn φ)) :
    (entries turns).length = turns.length := by
  rw [entries, List.length_append, List.length_map, List.length_map, Turn.length_having]

theorem reportText_after {φ : Type} (turns : List (Turn φ)) :
    reportText (Report.after { } turns) = String.join ((entries turns).map (· ++ "\n")) := by
  rw [Report.after_eq]
  simp [reportText, entries, Function.comp_def, String.append_assoc]

theorem exitCode_after {φ : Type} (turns : List (Turn φ)) :
    (if (Report.after { } turns).hasFailures then 1 else 0) =
      if ∀ turn ∈ turns, turn.status = .generated then 0 else 1 := by
  rw [Report.after_eq]
  by_cases well : ∀ turn ∈ turns, turn.status = .generated
  · have none : Turn.having .failed turns = [] := by
      rw [Turn.having, List.filter_eq_nil_iff]
      intro turn mem
      simp [well turn mem]
    rw [if_pos well, none]
    rfl
  · rw [if_neg well]
    obtain ⟨turn, mem, other⟩ : ∃ turn ∈ turns, turn.status ≠ .generated := by simpa using well
    have failed : turn.status = .failed := by
      cases status : turn.status with
      | generated => exact absurd status other
      | failed => rfl
    have among : turn ∈ Turn.having .failed turns := List.mem_filter.2 ⟨mem, by simpa using failed⟩
    simp [Report.hasFailures, List.ne_nil_of_mem among]

/-- What generating comes to, turn by turn. -/
theorem generate_eq :
    let turns := classTurns fs now options options.outputPath manifest o
    let ended := generate fs now options manifest o
    ended.1.1.1 = Report.after { } turns ∧
      ended.1.2.diagnostics = turns.flatMap Turn.diagnostics := by
  intro turns ended
  let env := SourceTree.environment fs now
  let start : SourceTree h × σ := (.empty options.outputPath, o)
  have joint := congrFun
    (SourceTree.collect_joint env options manifest.generators { } opening) start
  obtain ⟨report, -⟩ := run_turns (SourceTree.joint env) options manifest.generators { } opening
    start []
  have told := SourceTree.diagnostics_collect fs now options.outputPath options manifest.generators
    opening o
  constructor
  · exact (congrArg (·.1.1) joint).symm.trans report
  · exact (congrArg (·.2.1.diagnostics) joint).symm.trans told

theorem accounted_generate :
    let turns := classTurns fs now options options.outputPath manifest o
    let ended := generate fs now options manifest o
    Accounted manifest turns ⟨if ended.1.1.1.hasFailures then 1 else 0, reportText ended.1.1.1,
      shown options ended.1.1.2, ended.1.2.diagnosticText⟩ := by
  intro turns ended
  obtain ⟨report, told⟩ := generate_eq fs now options manifest o
  have order : turns.map Turn.generator = manifest.generators := generator_turns _ _ _ _ _
  have regular : ∀ turn ∈ turns, ∃ course, turn.Follows course := follows_turns _ _ _ _ _
  constructor
  case order => exact order
  case regular => exact regular
  case stdout =>
    dsimp only
    rw [report, reportText_after]
  case count =>
    have length := congrArg List.length order
    rw [List.length_map, manifest.generators_eq, List.length_map, manifest.length_jobs] at length
    rw [length_entries, length]
  case diagnostics =>
    dsimp only
    rw [SourceTree.diagnosticText, told]
    exact ⟨_, rfl, Turn.noticed_having regular⟩
  case exitCode =>
    dsimp only
    rw [report, exitCode_after]

theorem run_bind_congr {α β : Type} {a a' : StateT Session (SourceTree.Action (StateM σ) h) α}
    {s : Session} {t : SourceTree h} (same : (a.run s).run t o = (a'.run s).run t o)
    (f : α → StateT Session (SourceTree.Action (StateM σ) h) β) :
    ((a >>= f).run s).run t o = ((a' >>= f).run s).run t o :=
  congrArg (fun ended : ((α × Session) × SourceTree h) × σ =>
    ((f ended.1.1.1).run ended.1.1.2).run ended.1.2 ended.2) same

/-- Generating needs no paths but those of the classes. -/
theorem generate_within {classes : List String}
    (known : ∀ g ∈ manifest.generators, g.model.fqcn ∈ classes) :
    generate (fs.within (SourceTree.classPaths options.outputPath classes)) now options manifest o =
      generate fs now options manifest o := by
  have same := SourceTree.collect_within fs now options.outputPath known options { } opening o
  unfold generate generateAll
  exact run_bind_congr o same _

end Accounts

section Refusals

variable {fs fs' : FileSystem (StateM σ) h} (same : fs'.read = fs.read)

include same

theorem configuration_congr (arguments : Arguments) (o : σ) :
    configuration fs' arguments o = configuration fs arguments o := by
  simp only [configuration, same]

theorem manifest_congr (arguments : Arguments) (o : σ) :
    manifest fs' arguments o = manifest fs arguments o := by
  simp only [manifest, same]

theorem quiet_congr (quiet : fs.Quiet) : fs'.Quiet := by
  intro path o
  rw [same]
  exact quiet path o

end Refusals

section Accepted

variable {fs : FileSystem (StateM σ) h} {line : List String} {arguments : Arguments}
variable (accepted : CommandLine.parse? line = some (.run arguments)) {o : σ}

include accepted

/-- Where no file system with the same files gets any further, a run is refused. -/
theorem refused_of_execute {error : RunError} {log : List LogRecord}
    (fails : ∀ (fs' : FileSystem (StateM σ) h) (now : StateM σ Timestamp), fs'.read = fs.read →
      execute fs' now arguments o = (failed error log, o)) (now : StateM σ Timestamp) :
    Refused fs line o error (ofArguments fs now line o) := by
  have ends (fs' : FileSystem (StateM σ) h) (now : StateM σ Timestamp) (same : fs'.read = fs.read) :
      ofArguments fs' now line o = (failed error log, o) := by
    rw [ofArguments, accepted]
    exact fails fs' now same
  rw [ends fs now rfl]
  exact ⟨rfl, error.printed_text, rfl, rfl, ends⟩

theorem accounted_of_ok (quiet : fs.Quiet) (now : StateM σ Timestamp) {config : Options}
    {manifest : Manifest} (configured : configuration fs arguments o = .ok config)
    (listed : Run.manifest fs arguments o = .ok manifest) :
    let ended := ofArguments fs now line o
    let root := root fs arguments o
    let turns := classTurns fs now (layered arguments config) root manifest o
    let paths := SourceTree.classPaths root (turns.map Turn.fqcn)
    Accounted manifest turns ended.1 ∧ ofArguments (fs.within paths) now line o = ended := by
  intro ended root turns paths
  let options := layered arguments config
  have top : options.outputPath = root := outputPath_layered o configured
  have order : turns.map Turn.generator = manifest.generators := generator_turns _ _ _ _ _
  have known : ∀ g ∈ manifest.generators, g.model.fqcn ∈ turns.map Turn.fqcn := by
    intro g mem
    obtain ⟨turn, among, rfl⟩ := List.mem_map.1 (order ▸ mem)
    exact List.mem_map_of_mem among
  have apart := generate_within fs now options manifest o known
  have accounted := accounted_generate fs now options manifest o
  rw [top] at apart accounted
  have alike : (fs.within paths).read = fs.read := rfl
  have run (fs' : FileSystem (StateM σ) h) : ofArguments fs' now line o =
      execute fs' now arguments o := by
    rw [ofArguments, accepted]
  have whole : ended = _ := run fs
  rw [execute_eq o quiet, configured, listed] at whole
  rw [whole]
  constructor
  · exact accounted
  · rw [run, execute_eq o (quiet_congr alike quiet), configuration_congr alike,
      manifest_congr alike, configured, listed]
    dsimp only
    rw [apart]

end Accepted

/-- Every run accounts for all classes or leaves everything as it was. The configuration is looked
at before the manifest. -/
theorem everything_or_nothing {fs : FileSystem (StateM σ) h} (quiet : fs.Quiet)
    (now : StateM σ Timestamp) {line : List String} {arguments : Arguments}
    (accepted : CommandLine.parse? line = some (.run arguments)) (o : σ) :
    let ended := ofArguments fs now line o
    match configuration fs arguments o, manifest fs arguments o with
    | .error error, _ => Refused fs line o error ended
    | .ok _, .error error => Refused fs line o error ended
    | .ok config, .ok manifest =>
      let root := root fs arguments o
      let turns := classTurns fs now (layered arguments config) root manifest o
      let paths := SourceTree.classPaths root (turns.map Turn.fqcn)
      Accounted manifest turns ended.1 ∧ ofArguments (fs.within paths) now line o = ended := by
  intro ended
  cases configured : configuration fs arguments o with
  | error error =>
    apply refused_of_execute accepted
    intro fs' now same
    rw [execute_eq o (quiet_congr same quiet), configuration_congr same, configured]
  | ok config =>
    cases listed : manifest fs arguments o with
    | error error =>
      apply refused_of_execute accepted
      intro fs' now same
      rw [execute_eq o (quiet_congr same quiet), configuration_congr same, manifest_congr same,
        configured, listed]
    | ok manifest => exact accounted_of_ok accepted quiet now configured listed

/-- A manifest `m`, a configuration `c` and one that is none, `b`. A directory is in the way of an
operator. -/
def blocked : Disk :=
  ⟨[(["m"], .file 0), (["c"], .file 1), (["b"], .file 2), (["o"], .directory),
      (["A$$Operator.java", "o"], .directory)],
    #[utf8 "type=[\x7bname='A',location='A:1'\x7d]", utf8 "output_path='o'", utf8 "indent=0"],
    #[], []⟩

/-- An operator fails. With a configuration that is none a run comes to nothing, and says no more of
its manifest, which is not there. -/
theorem everything_or_nothing_blocked :
    let fs := Disk.fileSystem
    let now : StateM Disk Timestamp := pure ⟨2024, 1, 1, 0, 0, 0⟩
    let line := ["-m", "m", "-c", "c"]
    let arguments : Arguments := ⟨"m", none, some "c", false⟩
    let config : Options := { outputPath := "o" }
    let listed : Manifest := ⟨[⟨"A", none, [], some "A:1", none, []⟩]⟩
    let turns := classTurns fs now config "o" listed blocked
    let paths := SourceTree.classPaths "o" (turns.map Turn.fqcn)
    let ended := ofArguments fs now line blocked
    let line' := ["-m", "x", "-c", "b"]
    let arguments' : Arguments := ⟨"x", none, some "b", false⟩
    let first : RunError := .cannotParse "config" "b" "indent=0"
      (.unexpected ⟨.invalidType "integer `0`" "a string", some ⟨7, 8⟩⟩)
    let ended' := ofArguments fs now line' blocked
    fs.Quiet ∧
      (CommandLine.parse? line = some (.run arguments) ∧
        configuration fs arguments blocked = .ok config ∧
        manifest fs arguments blocked = .ok listed ∧ root fs arguments blocked = "o" ∧
        Accounted listed turns ended.1 ∧ ofArguments (fs.within paths) now line blocked = ended ∧
        (ended.1.stdout, ended.1.diagnostics) = ("✅ A$$Loader\n❌ A$$Operator\n",
          "error: Cannot generate loader for base class A: cannot open output file for " ++
            "A$$Operator: Is a directory (os error 21)\n = in A\n = at A:1\n\n")) ∧
      CommandLine.parse? line' = some (.run arguments') ∧
        configuration fs arguments' blocked = .error first ∧
        manifest fs arguments' blocked = .error (.cannotRead "manifest" "x" Fault.notFound) ∧
        Refused fs line' blocked first ended' ∧
        ended'.1.stdout = "Failed to parse config b\n\nCaused by:\n" ++
          "    TOML parse error at line 1, column 8\n      |\n    1 | indent=0\n" ++
          "      |        ^\n    invalid type: integer `0`, expected a string\n    \n" := by
  have accepted : CommandLine.parse? ["-m", "m", "-c", "c"] =
      some (.run ⟨"m", none, some "c", false⟩) := by decide +kernel
  have configured : configuration Disk.fileSystem ⟨"m", none, some "c", false⟩ blocked =
      .ok { outputPath := "o" } := by decide +kernel
  have read : manifest Disk.fileSystem ⟨"m", none, some "c", false⟩ blocked =
      .ok ⟨[⟨"A", none, [], some "A:1", none, []⟩]⟩ := by decide +kernel
  have top : root Disk.fileSystem ⟨"m", none, some "c", false⟩ blocked = "o" := by
    decide +kernel
  have accepted' : CommandLine.parse? ["-m", "x", "-c", "b"] =
      some (.run ⟨"x", none, some "b", false⟩) := by decide +kernel
  have refused : configuration Disk.fileSystem ⟨"x", none, some "b", false⟩ blocked =
      .error (.cannotParse "config" "b" "indent=0"
        (.unexpected ⟨.invalidType "integer `0`" "a string", some ⟨7, 8⟩⟩)) := by decide +kernel
  have unread : manifest Disk.fileSystem ⟨"x", none, some "b", false⟩ blocked =
      .error (.cannotRead "manifest" "x" Fault.notFound) := by decide +kernel
  have accounts := everything_or_nothing Disk.quiet (pure ⟨2024, 1, 1, 0, 0, 0⟩) accepted blocked
  rw [configured, read, top] at accounts
  obtain ⟨accounted, apart⟩ := accounts
  have nothing := everything_or_nothing Disk.quiet (pure ⟨2024, 1, 1, 0, 0, 0⟩) accepted' blocked
  rw [refused] at nothing
  exact ⟨Disk.quiet, ⟨accepted, configured, read, top, accounted, apart, by decide +kernel⟩,
    accepted', refused, unread, nothing, by decide +kernel⟩

end Run
end OperationStubs
