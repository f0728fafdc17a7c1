import OperationStubs.Proofs.ClassFile

/-!
# Whole runs

Well-named types with different names never get in each other's way: their classes go to different
files, and directories, whose names have no dot, are never where a class file is to go. So a run
over a manifest in an empty directory generates every class (`generateAll_complete`), one after the
other (`Stage.next`).
-/

namespace OperationStubs

namespace Manifest

/-- The classes of a manifest. -/
def jobs (manifest : Manifest) : List Job :=
  manifest.types.flatMap fun type => [(.loader, type), (.operator, type)]

theorem generators_eq (manifest : Manifest) :
    manifest.generators = manifest.jobs.map Job.generator := by
  unfold generators jobs
  rw [List.map_flatMap]
  rfl

theorem length_jobs (manifest : Manifest) : manifest.jobs.length = 2 * manifest.types.length := by
  simp [jobs, List.length_flatMap, Nat.mul_comm]

/-- Every type is well named, and no two have one name. -/
structure WellFormed (manifest : Manifest) : Prop where
  types : ∀ type ∈ manifest.types, type.WellNamed
  distinct : (manifest.types.map (·.name)).Nodup

variable {manifest : Manifest}

theorem WellFormed.jobs (well : manifest.WellFormed) : ∀ job ∈ manifest.jobs, job.2.WellNamed := by
  intro job mem
  obtain ⟨type, among, pair⟩ := List.mem_flatMap.1 mem
  have same : job.2 = type := by
    rcases List.mem_pair.1 pair with rfl | rfl <;> rfl
  exact same ▸ well.types type among

theorem WellFormed.fqcns_nodup (well : manifest.WellFormed) :
    (manifest.jobs.map Job.fqcn).Nodup := by
  have keys : (manifest.jobs.map fun job => (job.1, job.2.name)).Nodup := by
    have eq : manifest.jobs.map (fun job => (job.1, job.2.name)) =
        (manifest.types.map (·.name)).flatMap fun name => [(.loader, name), (.operator, name)] := by
      rw [Manifest.jobs, List.map_flatMap, List.flatMap_map]
      rfl
    rw [eq, List.nodup_flatMap]
    refine ⟨fun name _ => by simp, well.distinct.imp fun {a b} ne => ?_⟩
    simp [Function.onFun, List.disjoint_left, ne]
  refine List.pairwise_map.2 ((List.pairwise_map.1 keys).imp_of_mem fun {a b} ha hb ne same => ?_)
  obtain ⟨role, name⟩ := Role.fqcn_injective (well.jobs a ha) (well.jobs b hb) same
  exact ne (Prod.ext role name)

end Manifest

namespace SourceTree

open Disk

theorem run_collecting_cons (env : Environment (Action (StateM Disk) Nat) Nat) (options : Options)
    (report : Report) (g : Generator) (gs : List Generator) (s : Session) (t : SourceTree Nat)
    (d : Disk) :
    ((g :: gs).foldlM (collecting env options) report).run s t d =
      let ended := (g.generate env options).run s t d
      (gs.foldlM (collecting env options) (report.add g.model.fqcn ended.1.1.1)).run
        ended.1.1.2 ended.1.2 ended.2 := rfl

/-- What stands after some classes were generated below `base` on the disk `start`. -/
structure Stage (start : Disk) (root : String) (base : Location) (options : Options)
    (clock : Disk → Timestamp) (done : List Job) (s : Session) (t : SourceTree Nat) (d : Disk) :
    Prop where
  whole : d.WellFormed
  keeps : start.Keeps d
  /-- No directory is where a class file is to go. -/
  folders : ∀ names, d.node? (names ++ base) = some .directory → ∀ name ∈ names, '.' ∉ name.toList
  others : ∀ l, (∀ job ∈ done, job.target base ≠ l) → d.content? l = start.content? l
  each : ∀ job ∈ done, d.locate (pathBelow root job.fqcn) = .ok (job.target base) ∧
    ∃ moment, ∀ ids, s.registry.Agrees ids →
      d.content? (job.target base) = some ((job.rendering options (clock moment)).text ids)
  root : t.root = root
  created : ∀ fqcn, fqcn ∈ t.created ↔ ∃ job ∈ done, job.fqcn = fqcn
  quiet : t.diagnostics = []

/-- The disk has an empty directory where `root` leads. -/
structure Vacant (start : Disk) (root : String) (base : Location) : Prop where
  whole : start.WellFormed
  leads : start.Leads root base
  empty : ∀ names, names ≠ [] → start.node? (names ++ base) = none

theorem Vacant.stage {start : Disk} {root : String} {base : Location}
    (vacant : Vacant start root base) (options : Options) (clock : Disk → Timestamp) (s : Session) :
    Stage start root base options clock [] s (.empty root) start where
  whole := vacant.whole
  keeps := ⟨rfl, fun _ there => there⟩
  folders := by
    intro names there name mem
    simp [vacant.empty names (List.ne_nil_of_mem mem)] at there
  others := fun _ _ => rfl
  each := by simp
  root := rfl
  created := fun fqcn => ⟨fun mem => absurd mem List.not_mem_nil, by simp⟩
  quiet := rfl

namespace Stage

variable {start : Disk} {root : String} {base : Location} {options : Options}
variable {clock : Disk → Timestamp} {done : List Job} {s : Session} {t : SourceTree Nat} {d : Disk}
variable (stage : Stage start root base options clock done s t d)

include stage

/-- A further class is added to those that stand. -/
theorem add {job : Job} {s' : Session} {t' : SourceTree Nat} {d' : Disk} (well : job.2.WellNamed)
    (wells : ∀ other ∈ done, other.2.WellNamed) (fresh : ∀ other ∈ done, other.fqcn ≠ job.fqcn)
    (added : Added job base options clock s s' t t' d d') :
    Stage start root base options clock (done ++ [job]) s' t' d' := by
  constructor
  case whole => exact added.whole
  case keeps => exact stage.keeps.trans added.keeps
  case folders =>
    intro names node name mem
    rcases added.directory _ node with old | ⟨above, begins, eq⟩
    · exact stage.folders names old name mem
    · rw [List.append_cancel_right eq, List.mem_reverse] at mem
      exact (OperationType.isFolder_of_mem well (begins.subset mem)).dot
  case others =>
    intro l outside
    rw [added.spares l fun same => outside job (by simp) same.symm]
    exact stage.others l fun other mem => outside other (List.mem_append_left _ mem)
  case each =>
    intro other mem
    rcases List.mem_append.1 mem with mem | new
    · obtain ⟨there, moment, filled⟩ := stage.each other mem
      have apart : other.target base ≠ job.target base := fun same =>
        fresh other mem (Job.fqcn_eq_of_target (wells other mem) well same)
      refine ⟨locate_of_keeps added.keeps there, moment, fun ids agrees => ?_⟩
      rw [added.spares _ apart]
      exact filled ids (agrees.of_le added.grows)
    · obtain rfl := List.mem_singleton.1 new
      have located := added.located
      rw [sourcePath, stage.root] at located
      exact ⟨located, added.filled⟩
  case root => exact added.root.trans stage.root
  case created =>
    intro fqcn
    have inserted : fqcn ∈ t'.created ↔ fqcn = job.fqcn ∨ fqcn ∈ t.created := by
      rw [added.created]
      exact NameSet.mem_insert
    simp only [List.mem_append, List.mem_singleton, or_and_right, exists_or, exists_eq_left]
    rw [← stage.created fqcn, or_comm, eq_comm]
    exact inserted
  case quiet => exact added.diagnostics.trans stage.quiet

variable (vacant : Vacant start root base)

include vacant

/-- Every file is that of a class. -/
theorem job_of_file {names : List String} (ne : names ≠ []) {number : Nat}
    (node : d.node? (names ++ base) = some (.file number)) :
    ∃ job ∈ done, job.target base = names ++ base := by
  by_contra none
  have unchanged := stage.others (names ++ base) fun job mem same => none ⟨job, mem, same⟩
  have small := stage.whole.present _ _ node
  simp [content?, node, vacant.empty names ne, small] at unchanged

/-- No file is where the directories of a class are to be. -/
theorem clear {job : Job} (well : job.2.WellNamed) : d.Clear base job.2.folders := by
  intro above begins ne number node
  obtain ⟨other, _, target⟩ := stage.job_of_file vacant (by simpa using ne) node
  have folder := OperationType.isFolder_of_mem well (begins.subset (mem_of_cons_eq target ne))
  exact folder.dot other.dot_mem_fileName

/-- Nothing is where a further class is to go. -/
theorem free {job : Job} (well : job.2.WellNamed) (wells : ∀ other ∈ done, other.2.WellNamed)
    (fresh : ∀ other ∈ done, other.fqcn ≠ job.fqcn) : d.node? (job.target base) = none := by
  let names := job.1.fileName job.2 :: job.2.folders.reverse
  cases node : d.node? (names ++ base) with
  | none => exact node
  | some there =>
    cases there with
    | directory =>
      exact absurd job.dot_mem_fileName (stage.folders names node _ List.mem_cons_self)
    | file number =>
      obtain ⟨other, mem, target⟩ := stage.job_of_file vacant (List.cons_ne_nil _ _) node
      exact absurd (Job.fqcn_eq_of_target (wells other mem) well target) (fresh other mem)

/-- A further class is generated. -/
theorem next {job : Job} (well : job.2.WellNamed) (wells : ∀ other ∈ done, other.2.WellNamed)
    (fresh : ∀ other ∈ done, other.fqcn ≠ job.fqcn) (fits : Fits (pathBelow root job.fqcn)) :
    let ended := (job.generator.generate (clocked clock) options).run s t d
    ended.1.1.1 = .generated ∧
      Stage start root base options clock (done ++ [job]) ended.1.1.2 ended.1.2 ended.2 := by
  have unknown : job.fqcn ∉ t.created := by
    rw [stage.created]
    rintro ⟨other, mem, same⟩
    exact fresh other mem same
  have fits : Fits (t.sourcePath job.fqcn) := by
    rwa [sourcePath, stage.root]
  have leads : d.Leads t.root base := stage.root ▸ vacant.leads.keeps stage.keeps
  obtain ⟨generated, added⟩ := added_generate options well fits stage.whole leads unknown
    (stage.clear vacant well) (stage.free vacant well wells fresh)
  exact ⟨generated, stage.add well wells fresh added⟩

/-- All further classes are generated, in order. -/
theorem run {jobs : List Job} (wells : ∀ job ∈ done ++ jobs, job.2.WellNamed)
    (distinct : ((done ++ jobs).map Job.fqcn).Nodup)
    (fits : ∀ job ∈ jobs, Fits (pathBelow root job.fqcn)) (report : Report) :
    let ended :=
      ((jobs.map Job.generator).foldlM (collecting (clocked clock) options) report).run s t d
    ended.1.1.1 = { report with generated := report.generated ++ jobs.map Job.fqcn } ∧
      Stage start root base options clock (done ++ jobs) ended.1.1.2 ended.1.2 ended.2 := by
  induction jobs generalizing done s t d report with
  | nil =>
    have same : report = { report with generated := report.generated ++ [] } := by
      rw [List.append_nil]
    rw [List.append_nil]
    exact ⟨same, stage⟩
  | cons job jobs ih =>
    have fresh : ∀ other ∈ done, other.fqcn ≠ job.fqcn := by
      intro other mem same
      rw [List.map_append, List.map_cons] at distinct
      exact (List.nodup_append.1 distinct).2.2 _ (List.mem_map_of_mem mem) _ List.mem_cons_self same
    obtain ⟨generated, stage'⟩ := stage.next vacant (wells job (by simp))
      (fun other mem => wells other (List.mem_append_left _ mem)) fresh
      (fits job List.mem_cons_self)
    have split : done ++ job :: jobs = done ++ [job] ++ jobs := by simp
    rw [split] at wells distinct ⊢
    obtain ⟨answer, stage''⟩ := ih stage' wells distinct
      (fun other mem => fits other (List.mem_cons_of_mem _ mem)) (report.add job.fqcn .generated)
    rw [List.map_cons, run_collecting_cons]
    dsimp only
    rw [show job.generator.model.fqcn = job.fqcn from rfl, generated]
    refine ⟨answer.trans ?_, stage''⟩
    simp [Report.add]

end Stage

/-- What a run leaves. -/
structure Outcome where
  report : Report
  session : Session
  tree : SourceTree Nat
  disk : Disk

/-- Generates classes below a root, into a tree that has none yet. -/
def generateBelow (root : String) (clock : Disk → Timestamp) (options : Options)
    (generators : List Generator) (s : Session) (d : Disk) : Outcome :=
  let ended := (generateAll (clocked clock) options generators).run s (.empty root) d
  ⟨ended.1.1.1, ended.1.1.2, ended.1.2, ended.2⟩

theorem generateBelow_eq (root : String) (clock : Disk → Timestamp) (options : Options)
    (generators : List Generator) (s : Session) (d : Disk) :
    ∃ level message,
      let ended :=
        (generators.foldlM (collecting (clocked clock) options) { }).run s (.empty root) d
      generateBelow root clock options generators s d =
        ⟨ended.1.1.1, ended.1.1.2.record level message, ended.1.2, ended.2⟩ :=
  ⟨_, _, rfl⟩

/-- The outcome of a run that generates every class of a manifest below `base`. -/
structure Complete (manifest : Manifest) (options : Options) (clock : Disk → Timestamp)
    (root : String) (base : Location) (start : Disk) (outcome : Outcome) : Prop where
  report : outcome.report = ⟨manifest.jobs.map Job.fqcn, []⟩
  quiet : outcome.tree.diagnostics = []
  /-- There are twice as many classes as types, and each goes to a place of its own. -/
  count : manifest.jobs.length = 2 * manifest.types.length
  apart : (manifest.jobs.map fun job => job.target base).Nodup
  /-- The file of each class holds what the class is rendered to. -/
  each : ∀ job ∈ manifest.jobs,
    outcome.disk.locate (pathBelow root job.fqcn) = .ok (job.target base) ∧ ∃ moment,
      let printout := ((job.rendering options (clock moment)).perform outcome.session).1
      printout.result = .ok () ∧ outcome.disk.content? (job.target base) = some printout.text
  /-- There are no other files below the root. -/
  only : ∀ l, base <:+ l →
    ((outcome.disk.content? l).isSome ↔ l ∈ manifest.jobs.map fun job => job.target base)
  others : ∀ l, l ∉ manifest.jobs.map (fun job => job.target base) →
    outcome.disk.content? l = start.content? l

namespace Stage

variable {start : Disk} {root : String} {base : Location} {options : Options}
variable {clock : Disk → Timestamp} {done : List Job} {s : Session} {t : SourceTree Nat} {d : Disk}
variable (stage : Stage start root base options clock done s t d)

include stage

/-- What is logged does not matter. -/
theorem record (level : LogLevel) (message : String) :
    Stage start root base options clock done (s.record level message) t d :=
  { stage with each := stage.each }

/-- The file of each class holds what the class is rendered to, also once more at the end. -/
theorem rendered {job : Job} (mem : job ∈ done) :
    d.locate (pathBelow root job.fqcn) = .ok (job.target base) ∧ ∃ moment,
      let printout := ((job.rendering options (clock moment)).perform s).1
      printout.result = .ok () ∧ d.content? (job.target base) = some printout.text := by
  obtain ⟨there, moment, filled⟩ := stage.each job mem
  have memory := (job.rendering options (clock moment)).perform_memory rfl s
  have grows := ((job.rendering options (clock moment)).perform_writes s).1
  refine ⟨there, moment, ?_⟩
  generalize (job.rendering options (clock moment)).perform s = again at memory grows ⊢
  -- The class has the numbers that the registry has by now, and had them before.
  have agrees := Registry.agrees_number again.2.registry
  refine ⟨memory.1, ?_⟩
  rw [memory.2 _ agrees]
  exact filled _ (agrees.of_le grows)

theorem complete {manifest : Manifest} (well : manifest.WellFormed)
    (vacant : Vacant start root base) (all : done = manifest.jobs) :
    Complete manifest options clock root base start ⟨⟨done.map Job.fqcn, []⟩, s, t, d⟩ := by
  subst all
  have others (l : Location) (outside : l ∉ manifest.jobs.map fun job => job.target base) :
      d.content? l = start.content? l :=
    stage.others l fun job mem same => outside (List.mem_map.2 ⟨job, mem, same⟩)
  constructor
  case report => rfl
  case quiet => exact stage.quiet
  case count => exact manifest.length_jobs
  case apart =>
    have names := List.pairwise_map.1 well.fqcns_nodup
    refine List.pairwise_map.2 (names.imp_of_mem fun {a b} ha hb ne same => ne ?_)
    exact Job.fqcn_eq_of_target (well.jobs a ha) (well.jobs b hb) same
  case each =>
    intro job mem
    dsimp only
    exact stage.rendered mem
  case only =>
    rintro l ⟨names, rfl⟩
    constructor
    · intro file
      by_contra outside
      change (d.content? (names ++ base)).isSome at file
      rw [others _ outside] at file
      by_cases here : names = []
      · simp [here, content?, vacant.leads.1] at file
      · simp [content?, vacant.empty names here] at file
    · intro target
      obtain ⟨job, mem, same⟩ := List.mem_map.1 target
      obtain ⟨_, _, _, content⟩ := stage.rendered mem
      rw [← same, content]
      rfl
  case others => exact others

end Stage

/-- In an empty directory a run over a well-formed manifest generates every class. -/
theorem generateAll_complete {manifest : Manifest} (well : manifest.WellFormed) {start : Disk}
    {root : String} {base : Location} (vacant : Vacant start root base)
    (fits : ∀ g ∈ manifest.generators, Fits (pathBelow root g.model.fqcn)) (options : Options)
    (clock : Disk → Timestamp) (s : Session) :
    Complete manifest options clock root base start
      (generateBelow root clock options manifest.generators s start) := by
  rw [manifest.generators_eq] at fits ⊢
  have fits : ∀ job ∈ manifest.jobs, Fits (pathBelow root job.fqcn) := fun job mem =>
    fits job.generator (List.mem_map_of_mem mem)
  have wells : ∀ job ∈ [] ++ manifest.jobs, job.2.WellNamed := well.jobs
  have distinct : (([] ++ manifest.jobs).map Job.fqcn).Nodup := well.fqcns_nodup
  obtain ⟨report, stage⟩ := (vacant.stage options clock s).run vacant wells distinct fits { }
  obtain ⟨level, message, outcome⟩ :=
    generateBelow_eq root clock options (manifest.jobs.map Job.generator) s start
  rw [outcome, report]
  exact (stage.record level message).complete well vacant rfl

/-- A nested type and a type of the default package, below a directory that is already there. -/
theorem generateAll_complete_nested :
    let manifest : Manifest := ⟨[⟨"p.q.Users.Ops", some "p.q", [.public], none, none,
        [⟨"load", [⟨"id", "long"⟩], "void"⟩]⟩, ⟨"Ops", none, [], none, none, []⟩]⟩
    let start : Disk := ⟨[(["out"], .directory)], #[], #[], []⟩
    let clock : Disk → Timestamp := fun _ => ⟨2024, 1, 1, 0, 0, 0⟩
    manifest.WellFormed ∧ Vacant start "out" ["out"] ∧
      (∀ g ∈ manifest.generators, Fits (pathBelow "out" g.model.fqcn)) ∧
      Complete manifest { } clock "out" ["out"] start
        (generateBelow "out" clock { } manifest.generators .empty start) ∧
      manifest.jobs.map (fun job => job.target ["out"]) =
        [["Users$Ops$$Loader.java", "q", "p", "out"], ["Users$Ops$$Operator.java", "q", "p", "out"],
          ["Ops$$Loader.java", "out"], ["Ops$$Operator.java", "out"]] := by
  intro manifest start clock
  have well : manifest.WellFormed := by
    refine ⟨fun type mem => ?_, by decide⟩
    rcases List.mem_pair.1 mem with rfl | rfl
    · refine ⟨by decide, fun package given => .inr ⟨"Users.Ops", ?_⟩⟩
      obtain rfl : "p.q" = package := Option.some.inj given
      decide
    · exact ⟨by decide, nofun⟩
  have nodes (l : Location) :
      start.node? l = if l = [] ∨ l = ["out"] then some .directory else none := by
    by_cases top : l = []
    · simp [Disk.node?, top]
    · by_cases out : l = ["out"]
      · simp [Disk.node?, start, out]
      · simp [Disk.node?, start, top, out, List.lookup_cons, beq_eq_false_iff_ne.2 out]
  have vacant : Vacant start "out" ["out"] := by
    refine ⟨⟨fun l number node => ?_, fun l l' number node => ?_⟩, ⟨by decide, ?_⟩, ?_⟩
    · rw [nodes] at node
      split at node <;> simp at node
    · rw [nodes] at node
      split at node <;> simp at node
    · rw [if_neg (by decide)]
      rfl
    · intro names ne
      rw [nodes, if_neg]
      simp [ne]
  have fits : ∀ g ∈ manifest.generators, Fits (pathBelow "out" g.model.fqcn) := by
    decide +kernel
  have complete := generateAll_complete well vacant fits { } clock .empty
  exact ⟨well, vacant, fits, complete, by decide +kernel⟩

end SourceTree
end OperationStubs
