import OperationStubs.Proofs.Agreement
import OperationStubs.Proofs.ClassName
import OperationStubs.Proofs.Directories
import OperationStubs.Proofs.SourceTree

/-!
# A class file where nothing is in the way

A class is given its file where its directories can be made and the file is not there yet
(`create_opened`). Then its whole text comes to stand there (`generate_opened`), since an output in
memory takes all of it (`Rendering.perform_memory`).
-/

namespace OperationStubs

namespace Disk

theorem node?_create_free {d : Disk} {path : String} {target : Location}
    (located : d.locate path = .ok target) (free : d.node? target = none) (l : Location) :
    (create path d).2.node? l =
      if l = target then some (.file d.contents.size) else d.node? l := by
  simp only [create, located, free]
  exact node?_addNode free _ l

theorem keeps_create_free {d : Disk} {path : String} {target : Location}
    (located : d.locate path = .ok target) (free : d.node? target = none) :
    d.Keeps (create path d).2 := by
  refine ⟨by simp only [create, located, free]; rfl, fun l directory => ?_⟩
  rw [node?_create_free located free]
  split
  · rename_i same
    simp [← same, directory] at free
  · exact directory

end Disk

namespace SourceTree

/-- Source files on a disk, with a clock. -/
def clocked (clock : Disk → Timestamp) : Environment (Action (StateM Disk) Nat) Nat :=
  environment Disk.fileSystem fun d => (clock d, d)

/-- A tree and a disk where the file of a class was just opened, at a place that was free. -/
structure Placed (t t' : SourceTree Nat) (d d' : Disk) (fqcn : String) (target : Location)
    (file handle number : Nat) : Prop where
  opened : Opened t' d' file (t.sourcePath fqcn) handle target number
  whole : d'.WellFormed
  spares : d.Spares d' target
  keeps : d.Keeps d'
  node : ∀ l, d'.node? l = if l = target then some (.file number) else d.node? l
  root : t'.root = t.root
  created : t'.created = t.created.insert fqcn
  diagnostics : t'.diagnostics = t.diagnostics

/-- A class is given its file if the directories can be made and the file is not there. -/
theorem create_opened {t : SourceTree Nat} {d d₁ : Disk} {fqcn : String} {target : Location}
    (fresh : fqcn ∉ t.created)
    (made : Disk.makeDirs (Path.parent (t.sourcePath fqcn)) d = (.ok (), d₁))
    (whole : d₁.WellFormed) (located : d₁.locate (t.sourcePath fqcn) = .ok target)
    (free : d₁.node? target = none) :
    ∃ t' d' file handle number, create Disk.fileSystem fqcn t d = ((.ok file, t'), d') ∧
      Placed t t' d₁ d' fqcn target file handle number := by
  obtain ⟨answer, blank, whole', spares⟩ := Disk.create_free whole located free
  let opening : SourceTree Nat := { t with created := t.created.insert fqcn }
  let t' : SourceTree Nat := { opening with
    files := opening.files.push ⟨t.sourcePath fqcn, some ⟨d₁.descriptors.size, []⟩⟩ }
  refine ⟨t', (Disk.create (t.sourcePath fqcn) d₁).2, t.files.size, d₁.descriptors.size,
    d₁.contents.size, ?_, ⟨by simp [t', opening], blank⟩, whole', spares,
    Disk.keeps_create_free located free, Disk.node?_create_free located free, rfl, rfl, rfl⟩
  rw [create_new Disk.fileSystem fresh]
  simp only [Disk.fileSystem, made]
  rcases opened : Disk.create (t.sourcePath fqcn) d₁ with ⟨result, d'⟩
  rw [opened] at answer
  obtain rfl : result = .ok d₁.descriptors.size := answer
  rfl

/-- A class whose file was opened is generated, and its file holds the whole text. -/
theorem generate_opened {clock : Disk → Timestamp} {options : Options} {g : Generator} {s : Session}
    {t t' : SourceTree Nat} {d d' : Disk} {file handle number : Nat} {path : String}
    {target : Location}
    (created : create Disk.fileSystem g.model.fqcn t d = ((.ok file, t'), d'))
    (opened : Opened t' d' file path handle target number) {s₁ : Session} {o : Output}
    (rendered : g.render Output.write options (clock d') s (.empty none) = ((.ok (), s₁), o)) :
    ∃ s', (g.generate (clocked clock) options).run s t d = (((.generated, s'),
        t'.setTarget file none), d'.holding handle number o.accepted.toList) ∧
      s'.registry = s₁.registry := by
  have run := congrFun (congrFun (g.run_generate (clocked clock) options s) t) d
  have create_eq : (clocked clock).create g.model.fqcn g.model.source.origin =
    create Disk.fileSystem g.model.fqcn := rfl
  obtain ⟨held, waiting, text, written⟩ := opened.render g options (clock d') s
  rw [rendered] at text written
  have now_eq : (clocked clock).now t' d' = ((clock d', t'), d') := rfl
  have write_eq : (clocked clock).write file = write Disk.fileSystem file := rfl
  have flush_eq : (clocked clock).flush file = flush Disk.fileSystem file := rfl
  have close_eq : (clocked clock).close file = close Disk.fileSystem file := rfl
  rw [run]
  simp only [bind_apply, create_eq, created, now_eq, write_eq, written, flush_eq,
    opened.flush held waiting, Generator.finish, close_eq, opened.close _ [], List.append_nil, text]
  exact ⟨_, rfl, rfl⟩

end SourceTree

namespace Rendering

/-- Rendering into memory goes like rendering onto any output that takes everything. -/
theorem perform_memory (r : Rendering) (memory : r.device = .ofRoom none) (s : Session) :
    (r.perform s).1.result = .ok () ∧
      ∀ ids, (r.perform s).2.registry.Agrees ids → (r.perform s).1.text = r.text ids := by
  obtain ⟨role, type, options, time, _⟩ := r
  subst memory
  let r : Rendering := ⟨role, type, options, time, .ofRoom none⟩
  let r' : Rendering := ⟨role, type, options, time, .endless⟩
  let L := Lockstep.machines fun (o : Output) (held : Device.endless.State) =>
    o.room = none ∧ o.accepted.toList = Device.endless.content held
  have sinks : L.Sinks Output.write Device.endless.out := by
    rintro bytes o _ ⟨room, rfl⟩
    have taken : Output.write bytes o = (.ok (), { o with accepted := o.accepted ++ bytes }) := by
      simp only [Output.write, room]
    rw [taken]
    exact ⟨rfl, room, by simp [Device.endless]⟩
  obtain ⟨same, _, text⟩ := Lockstep.render sinks (role.generator type) options time s (.empty none)
    Device.endless.blank ⟨rfl, rfl⟩
  rcases kept : (role.generator type).render Output.write options time s (.empty none)
    with ⟨⟨result, s'⟩, o⟩
  rcases all : (role.generator type).render Device.endless.out options time s Device.endless.blank
    with ⟨⟨result', s''⟩, held⟩
  rw [kept, all] at same text
  obtain ⟨rfl, rfl⟩ := Prod.mk.inj same
  have steady := r'.perform_steady Device.steady_endless s
  rw [perform_of_render (r := r') all] at steady
  rw [perform_of_render (r := r) kept]
  refine ⟨steady.1, fun ids agrees => ?_⟩
  exact text.trans (steady.2 ids agrees)

end Rendering

/-- A class to generate: which one, and of which type. -/
abbrev Job := Role × OperationType

namespace Job

def generator (job : Job) : Generator := job.1.generator job.2

def fqcn (job : Job) : String := job.generator.model.fqcn

/-- Where the class goes below a directory. -/
def target (job : Job) (base : Location) : Location :=
  job.1.fileName job.2 :: (job.2.folders.reverse ++ base)

/-- The class as it is rendered into memory. -/
def rendering (job : Job) (options : Options) (time : Timestamp) : Rendering :=
  ⟨job.1, job.2, options, time, .ofRoom none⟩

variable {job job' : Job}

theorem dot_mem_fileName (job : Job) : '.' ∈ (job.1.fileName job.2).toList := by
  simp [Role.fileName]

theorem below (well : job.2.WellNamed) : Disk.Below job.2.folders (job.1.fileName job.2) := by
  refine ⟨fun folder mem => ?_, job.1.plain_fileName well, ?_, ?_⟩
  · obtain ⟨plain, dot, _, nul⟩ := OperationType.isFolder_of_mem well mem
    refine ⟨plain, ?_, nul⟩
    rintro rfl
    simp at dot
  · intro up
    have long : 5 ≤ (job.1.fileName job.2).toList.length := by simp [Role.fileName]
    rw [up] at long
    exact absurd long (by decide)
  · have nul := job.1.nul_notMem_className well
    simpa [Role.fileName] using nul

/-- Where a class goes tells its name. -/
theorem fqcn_eq_of_target (well : job.2.WellNamed) (well' : job'.2.WellNamed) {base : Location}
    (same : job.target base = job'.target base) : job.fqcn = job'.fqcn := by
  obtain ⟨file, rest⟩ := List.cons.inj same
  have folders : job.2.folders = job'.2.folders :=
    List.reverse_injective (List.append_cancel_right rest)
  have className : job.generator.model.className = job'.generator.model.className := by
    have text := congrArg String.toList file
    simp only [Role.fileName, String.toList_append] at text
    exact String.toList_inj.1 (List.append_cancel_right text)
  rw [fqcn, fqcn, generator, generator, job.1.fqcn_eq well, job'.1.fqcn_eq well', folders]
  exact congrArg _ className

end Job

namespace SourceTree

theorem mem_of_cons_eq {file : String} {rest base : Location} {above : List String}
    (h : file :: rest = above.reverse ++ base) (ne : above ≠ []) : file ∈ above := by
  obtain ⟨last, before, eq⟩ := List.exists_cons_of_ne_nil (List.reverse_ne_nil_iff.2 ne)
  rw [eq] at h
  have same : file = last := (List.cons.inj h).1
  rw [← List.mem_reverse, eq, same]
  exact List.mem_cons_self

/-- What generating one more class below `base` comes to. -/
structure Added (job : Job) (base : Location) (options : Options) (clock : Disk → Timestamp)
    (s s' : Session) (t t' : SourceTree Nat) (d d' : Disk) : Prop where
  whole : d'.WellFormed
  keeps : d.Keeps d'
  directory : ∀ l, d'.node? l = some .directory → d.node? l = some .directory ∨
    ∃ above, above <+: job.2.folders ∧ l = above.reverse ++ base
  spares : d.Spares d' (job.target base)
  located : d'.locate (t.sourcePath job.fqcn) = .ok (job.target base)
  filled : ∃ moment, ∀ ids, s'.registry.Agrees ids →
    d'.content? (job.target base) = some ((job.rendering options (clock moment)).text ids)
  grows : s.registry ≤ s'.registry
  root : t'.root = t.root
  created : t'.created = t.created.insert job.fqcn
  diagnostics : t'.diagnostics = t.diagnostics

/-- Where nothing is in the way a class is generated. -/
theorem added_generate {job : Job} {base : Location} {clock : Disk → Timestamp} {s : Session}
    {t : SourceTree Nat} {d : Disk} (options : Options) (well : job.2.WellNamed)
    (fits : Disk.Fits (t.sourcePath job.fqcn)) (whole : d.WellFormed)
    (leads : d.Leads t.root base) (fresh : job.fqcn ∉ t.created)
    (clear : d.Clear base job.2.folders) (free : d.node? (job.target base) = none) :
    let ended := (job.generator.generate (clocked clock) options).run s t d
    ended.1.1.1 = .generated ∧
      Added job base options clock s ended.1.1.2 t ended.1.2 d ended.2 := by
  have path : t.sourcePath job.fqcn =
    Path.push (job.2.folders.foldl Path.push t.root) (job.1.fileName job.2) :=
    job.1.pathBelow_fqcn well t.root
  rw [path] at fits
  obtain ⟨d₁, made, all⟩ := (Job.below well).makeDirs_made fits leads clear
  have located := (Job.below well).locate_made fits leads all
  rw [← path] at made located
  have free₁ : d₁.node? (job.target base) = none := by
    rcases all.only (job.target base) with same | ⟨above, begins, ne, target⟩
    · exact same.trans free
    · have folder := OperationType.isFolder_of_mem well (begins.subset (mem_of_cons_eq target ne))
      exact absurd job.dot_mem_fileName folder.dot
  obtain ⟨t₂, d₂, file, handle, number, created, placed⟩ :=
    create_opened fresh made (all.grown.wellFormed whole) located free₁
  let r := job.rendering options (clock d₂)
  rcases rendered : job.generator.render Output.write options (clock d₂) s (.empty none)
    with ⟨⟨result, s₁⟩, o⟩
  have printout : r.perform s = (⟨r, result, o.accepted.toList⟩, s₁) :=
    Rendering.perform_of_render rendered
  have memory := r.perform_memory rfl s
  have grows := (r.perform_writes s).1
  rw [printout] at memory grows
  obtain ⟨rfl, text⟩ : result = .ok () ∧ _ := memory
  obtain ⟨s', run, registry⟩ := generate_opened created placed.opened rendered
  obtain ⟨whole', located', content, spares⟩ :=
    placed.opened.filled placed.whole o.accepted.toList
  intro ended
  have ended_eq : ended = (((.generated, s'), t₂.setTarget file none),
    d₂.holding handle number o.accepted.toList) := run
  rw [ended_eq]
  refine ⟨rfl, ?_⟩
  constructor
  case whole => exact whole'
  case keeps => exact (all.grown.keeps.trans placed.keeps).trans ⟨rfl, fun _ there => there⟩
  case directory =>
    intro l node
    have node : d₂.node? l = some .directory := node
    rw [placed.node] at node
    split at node
    · simp at node
    · rcases all.only l with same | ⟨above, begins, _, eq⟩
      · exact .inl (same ▸ node)
      · exact .inr ⟨above, begins, eq⟩
  case spares =>
    intro l other
    exact (spares l other).trans ((placed.spares l other).trans (all.grown.content? l))
  case located => exact located'
  case filled =>
    refine ⟨d₂, fun ids agrees => ?_⟩
    exact content.trans (congrArg some (text ids (registry ▸ agrees)))
  case grows => exact registry ▸ grows
  case root => exact placed.root
  case created => exact placed.created
  case diagnostics => exact placed.diagnostics

end SourceTree
end OperationStubs
