import OperationStubs.Proofs.Alike
import OperationStubs.Proofs.Operations
import OperationStubs.Proofs.Sequence
import OperationStubs.Proofs.WholeRun

/-!
# Classes beside one that fails

Nothing fails on a disk but to open a file, and opening files does not depend on how other classes
went (`create_alike`). So in two runs over the same classes, where one class is rendered otherwise,
all others have the same fate (`siblings_unharmed`). Numbers may differ between the runs, and the
time too.
-/

namespace OperationStubs

namespace Disk

/-- Nothing has come, gone or moved. -/
def Stays (d d' : Disk) : Prop := d'.nodes = d.nodes ∧ d'.here = d.here

namespace Stays

variable {d d' : Disk}

theorem refl (d : Disk) : d.Stays d := ⟨rfl, rfl⟩

theorem trans {d'' : Disk} (h : d.Stays d') (h' : d'.Stays d'') : d.Stays d'' :=
  ⟨h'.1.trans h.1, h'.2.trans h.2⟩

theorem locate (stays : d.Stays d') {path : String} {target : Location}
    (located : d.locate path = .ok target) : d'.locate path = .ok target :=
  locate_congr located stays.1 stays.2

variable {target : Location} {number : Nat}

theorem filed (stays : d.Stays d') (node : d.node? target = some (.file number)) :
    Filed d d' target := by
  have before : d.kind? target ≠ some true := by simp [kind?, node]
  have kinds := kind?_congr stays.1
  exact ⟨stays.2, before, by rwa [kinds], fun l _ => kinds l⟩

theorem filed_without (stays : d.Stays d') (node : d.node? target = some (.file number)) :
    Filed d (d'.without target) target := by
  have node' : d'.node? target = some (.file number) := (node?_congr stays.1 target).trans node
  have nodes (l : Location) :
      (d'.without target).node? l = if l = target then none else d'.node? l :=
    node?_without (ne_nil_of_file node') l
  refine ⟨stays.2, by simp [kind?, node], ?_, fun l other => ?_⟩
  · simp [kind?, nodes]
  · rw [kind?, nodes, if_neg other]
    exact kind?_congr stays.1 l

end Stays

theorem write_stays (handle : Nat) (bytes : List UInt8) (d : Disk) :
    ∃ d', write handle bytes d = (.ok (), d') ∧ d.Stays d' := by
  unfold write
  split
  · exact ⟨d, rfl, .refl d⟩
  · exact ⟨_, rfl, rfl, rfl⟩

end Disk

namespace Buffered

variable (b : Buffered Nat) (d : Disk)

theorem drain_stays : ∃ b' d', b.drain Disk.fileSystem d = ((.ok (), b'), d') ∧ d.Stays d' := by
  unfold drain
  split
  · exact ⟨b, d, rfl, .refl d⟩
  · obtain ⟨d', written, stays⟩ := Disk.write_stays b.handle b.waiting d
    refine ⟨{ b with waiting := [] }, d', ?_, stays⟩
    simp only [bind_apply, Disk.fileSystem, written]
    rfl

theorem write_stays (bytes : List UInt8) :
    ∃ b' d', b.write Disk.fileSystem bytes d = ((.ok (), b'), d') ∧ d.Stays d' := by
  have last (b : Buffered Nat) (d : Disk) : ∃ b' d',
      (if capacity ≤ bytes.length then
        (do return (← Disk.fileSystem.write b.handle bytes, b) :
          StateM Disk (Except Fault Unit × Buffered Nat))
      else return (.ok (), { b with waiting := b.waiting ++ bytes })) d =
        ((.ok (), b'), d') ∧ d.Stays d' := by
    split
    · obtain ⟨d', written, stays⟩ := Disk.write_stays b.handle bytes d
      refine ⟨b, d', ?_, stays⟩
      simp only [bind_apply, Disk.fileSystem, written]
      rfl
    · exact ⟨_, d, rfl, .refl d⟩
  unfold write
  simp only
  split
  · exact ⟨_, d, rfl, .refl d⟩
  · split
    · obtain ⟨b₁, d₁, drained, stays⟩ := b.drain_stays d
      obtain ⟨b', d', ended, stays'⟩ := last b₁ d₁
      refine ⟨b', d', ?_, stays.trans stays'⟩
      simp only [bind_apply, drained]
      exact ended
    · exact last b d

end Buffered

namespace SourceTree

section Stays

variable {t : SourceTree Nat} {file : Nat} {path : String} {b : Buffered Nat}
variable (there : t.files[file]? = some ⟨path, some b⟩)

include there

theorem write_stays (bytes : List UInt8) (d : Disk) :
    ∃ b' d', write Disk.fileSystem file bytes t d =
      ((.ok (), t.setTarget file (some b')), d') ∧ d.Stays d' := by
  obtain ⟨b', d', written, stays⟩ := b.write_stays d bytes
  refine ⟨b', d', ?_, stays⟩
  simp only [write, bind_apply, get_apply, target?_eq there, lift_apply, written, modify_apply,
    pure_apply]

theorem flush_stays (d : Disk) :
    ∃ b' d', flush Disk.fileSystem file t d =
      ((.ok (), t.setTarget file (some b')), d') ∧ d.Stays d' := by
  obtain ⟨b', d', drained, stays⟩ := b.drain_stays d
  refine ⟨b', d', ?_, stays⟩
  simp only [flush, bind_apply, get_apply, target?_eq there, lift_apply, drained, modify_apply,
    pure_apply]

theorem close_stays (d : Disk) :
    ∃ d', close Disk.fileSystem file t d = ((.ok (), t.setTarget file none), d') ∧ d.Stays d' := by
  obtain ⟨b', d', drained, stays⟩ := b.drain_stays d
  refine ⟨d', ?_, stays⟩
  simp only [close, bind_apply, get_apply, target?_eq there, lift_apply, drained, modify_apply,
    pure_apply]

/-- On a disk a class is rendered as it is into memory. -/
theorem render_stays (g : Generator) (options : Options) (time : Timestamp) (s : Session)
    (d : Disk) :
    ∃ b' d', g.render (write Disk.fileSystem file) options time s t d =
      (((g.render Output.write options time s (.empty none)).1, t.setTarget file (some b')), d') ∧
        d.Stays d' := by
  let L := lockstep fun t' d' o =>
    o.room = none ∧ (∃ b', t' = t.setTarget file (some b')) ∧ d.Stays d'
  have sinks : L.Sinks (write Disk.fileSystem file) Output.write := by
    rintro bytes _ d₁ o ⟨room, ⟨b₁, rfl⟩, stays⟩
    obtain ⟨b', d', written, stays'⟩ := write_stays (file_setTarget there (some b₁)) bytes d₁
    have taken : Output.write bytes o = (.ok (), { o with accepted := o.accepted ++ bytes }) := by
      simp only [Output.write, room]
    rw [written, taken, setTarget_setTarget]
    exact ⟨rfl, room, ⟨b', rfl⟩, stays.trans stays'⟩
  obtain ⟨same, -, ⟨b', tree⟩, stays⟩ := Lockstep.render sinks g options time s t d (.empty none)
    ⟨rfl, ⟨b, (setTarget_self there).symm⟩, .refl d⟩
  exact ⟨b', _, Prod.ext (Prod.ext same tree) rfl, stays⟩

end Stays

/-- What becomes of a class in a run: how it ends, and the complaints about it. -/
structure Fate where
  fqcn : String
  status : Status
  diagnostics : List Diagnostic
  deriving DecidableEq, Repr

end SourceTree

/-- What becomes of a class that fails, or goes well. -/
def Generator.fate (g : Generator) : Option ClassFailure → SourceTree.Fate
  | none => ⟨g.model.fqcn, .generated, []⟩
  | some failure => ⟨g.model.fqcn, .failed,
      [.about ("Cannot generate loader for base class " ++ g.model.source.qualifiedName ++ ": " ++
        failure.message) g.model.source.origin]⟩

/-- What rendering a class into memory fails with. -/
def Generator.failure (g : Generator) (options : Options) (time : Timestamp) (s : Session) :
    Option ClassFailure :=
  (fault? (g.render Output.write options time s (.empty none)).1.1).map
    (.cannotWrite g.model.fqcn)

/-- Numbers and times do not decide whether a row of calls and requests goes well. -/
theorem Generator.Sequenced.failure_eq {g : Generator} (sequenced : g.Sequenced)
    (options : Options) (time time' : Timestamp) (s s' : Session) :
    g.failure options time s = g.failure options time' s' := by
  obtain ⟨failure, all⟩ := sequenced.program
  have each (time : Timestamp) (s : Session) :
      fault? (g.render Output.write options time s (.empty none)).1.1 = failure := by
    obtain ⟨keys, sequence⟩ := all options time
    rw [Generator.render_eq]
    exact (sequence.exec_run (Output.roomy_write rfl) (.start options.indent) s).1
  rw [Generator.failure, Generator.failure, each, each]

namespace SourceTree

theorem fqcn_fate (g : Generator) (failure : Option ClassFailure) :
    (g.fate failure).fqcn = g.model.fqcn := by
  cases failure <;> rfl

/-- A class ends with some fate. Besides complaints the tree has its name, and what becomes of its
file. -/
structure Meets (fate : Fate) (t : SourceTree Nat)
    (ended : ((Status × Session) × SourceTree Nat) × Disk) : Prop where
  status : ended.1.1.1 = fate.status
  diagnostics : ended.1.2.diagnostics = t.diagnostics ++ fate.diagnostics
  root : ended.1.2.root = t.root
  created : ended.1.2.created =
    if fate.fqcn ∈ t.created then t.created else t.created.insert fate.fqcn

theorem meets_of_created {g : Generator} {failure : Option ClassFailure} {t t' : SourceTree Nat}
    {d d' : Disk} {answer : Except Fault Nat}
    {ended : ((Status × Session) × SourceTree Nat) × Disk}
    (created : create Disk.fileSystem g.model.fqcn t d = ((answer, t'), d'))
    (status : ended.1.1.1 = (g.fate failure).status)
    (diagnostics : ended.1.2.diagnostics = t'.diagnostics ++ (g.fate failure).diagnostics)
    (root : ended.1.2.root = t'.root) (names : ended.1.2.created = t'.created) :
    Meets (g.fate failure) t ended := by
  have tree := create_tree Disk.fileSystem g.model.fqcn t d
  rw [created] at tree
  obtain ⟨root', quiet, noted⟩ := tree
  refine ⟨status, diagnostics.trans (by rw [quiet]), root.trans root', ?_⟩
  rw [fqcn_fate]
  exact names.trans noted

section Generate

variable (clock : Disk → Timestamp) (options : Options) {g : Generator} (s : Session)
variable {t t' : SourceTree Nat} {d d' : Disk}

theorem generate_refused {fault : Fault}
    (refused : (create Disk.fileSystem g.model.fqcn t d).1.1 = .error fault) :
    let ended := (g.generate (clocked clock) options).run s t d
    Meets (g.fate (some (.cannotOpen g.model.fqcn fault))) t ended ∧
      ended.2 = (create Disk.fileSystem g.model.fqcn t d).2 := by
  rcases created : create Disk.fileSystem g.model.fqcn t d with ⟨⟨answer, t'⟩, d'⟩
  obtain rfl : answer = .error fault := by rwa [created] at refused
  have run := congrFun (congrFun (g.run_generate (clocked clock) options s) t) d
  have create_eq : (clocked clock).create g.model.fqcn g.model.source.origin =
    create Disk.fileSystem g.model.fqcn := rfl
  intro ended
  have ended_eq : ended = _ := run
  simp only [bind_apply, create_eq, created] at ended_eq
  rw [ended_eq]
  exact ⟨meets_of_created created rfl rfl rfl rfl, rfl⟩

/-- A class whose file was opened goes as it does in memory. At most its file is there or not. -/
theorem generate_filled {file number : Nat} {path : String} {b : Buffered Nat} {target : Location}
    (created : create Disk.fileSystem g.model.fqcn t d = ((.ok file, t'), d'))
    (there : t'.files[file]? = some ⟨path, some b⟩) (located : d'.locate path = .ok target)
    (node : d'.node? target = some (.file number)) :
    let ended := (g.generate (clocked clock) options).run s t d
    Meets (g.fate (g.failure options (clock d') s)) t ended ∧
      Disk.Filed d' ended.2 target := by
  have run := congrFun (congrFun (g.run_generate (clocked clock) options s) t) d
  have create_eq : (clocked clock).create g.model.fqcn g.model.source.origin =
    create Disk.fileSystem g.model.fqcn := rfl
  have now_eq : (clocked clock).now t' d' = ((clock d', t'), d') := rfl
  have write_eq : (clocked clock).write file = write Disk.fileSystem file := rfl
  obtain ⟨b₁, d₁, written, stays⟩ := render_stays there g options (clock d') s d'
  intro ended
  have ended_eq : ended = _ := run
  simp only [bind_apply, create_eq, created, now_eq, write_eq, written] at ended_eq
  unfold Generator.failure
  have close_eq : (clocked clock).close file = close Disk.fileSystem file := rfl
  rcases rendered : g.render Output.write options (clock d') s (.empty none)
    with ⟨⟨fault | _, s₁⟩, o⟩
  · have node₁ : d₁.node? target = some (.file number) :=
      (Disk.node?_congr stays.1 target).trans node
    have removed := discard_removes (file_setTarget there (some b₁)) (stays.locate located) node₁
    have closed := close_closed (file_setTarget there none) (d₁.without target)
    have discard_eq : (clocked clock).discard file = discard Disk.fileSystem file := rfl
    simp only [rendered, Generator.giveUp, bind_apply, discard_eq, removed, setTarget_setTarget,
      close_eq, closed] at ended_eq
    rw [ended_eq]
    exact ⟨meets_of_created created rfl rfl rfl rfl, stays.filed_without node⟩
  · obtain ⟨b₂, d₂, flushed, stays₂⟩ := flush_stays (file_setTarget there (some b₁)) d₁
    rw [setTarget_setTarget] at flushed
    obtain ⟨d₃, closed, stays₃⟩ := close_stays (file_setTarget there (some b₂)) d₂
    rw [setTarget_setTarget] at closed
    have flush_eq : (clocked clock).flush file = flush Disk.fileSystem file := rfl
    simp only [rendered, Generator.finish, bind_apply, flush_eq, flushed, close_eq, closed]
      at ended_eq
    rw [ended_eq]
    have all := (stays.trans stays₂).trans stays₃
    refine ⟨?_, all.filed node⟩
    exact meets_of_created created rfl (List.append_nil _).symm rfl rfl

end Generate

/-- Two trees on two disks, of runs that asked for files of the same classes. -/
structure Alongside (t t' : SourceTree Nat) (d d' : Disk) : Prop where
  root : t'.root = t.root
  created : t'.created = t.created
  disks : Disk.Alike t.root d d'

theorem Alongside.refl (t : SourceTree Nat) (d : Disk) : Alongside t t d d :=
  ⟨rfl, rfl, .inl ⟨rfl, fun _ => rfl⟩⟩

/-- The file of a class was opened, at `target`. Nothing else has happened to the disk `e`. -/
def OpenedAt (path : String) (target : Location) (e : Disk)
    (opening : (Except Fault Nat × SourceTree Nat) × Disk) : Prop :=
  ∃ file t d b number, opening = ((.ok file, t), d) ∧ t.files[file]? = some ⟨path, some b⟩ ∧
    d.locate path = .ok target ∧ d.node? target = some (.file number) ∧ Disk.Filed e d target

section Create

variable {t : SourceTree Nat} {d e : Disk} {fqcn : String} (new : fqcn ∉ t.created)

include new

theorem create_dirs_refused {fault : Fault}
    (made : Disk.makeDirs (Path.parent (t.sourcePath fqcn)) d = (.error fault, e)) :
    let opening := create Disk.fileSystem fqcn t d
    opening.1.1 = .error fault ∧ opening.2 = e := by
  rw [create_new Disk.fileSystem new]
  simp only [Disk.fileSystem, made, and_self]

variable (made : Disk.makeDirs (Path.parent (t.sourcePath fqcn)) d = (.ok (), e))

include made

theorem create_refused {fault : Fault}
    (refused : Disk.create (t.sourcePath fqcn) e = (.error fault, e)) :
    let opening := create Disk.fileSystem fqcn t d
    opening.1.1 = .error fault ∧ opening.2 = e := by
  rw [create_new Disk.fileSystem new]
  simp only [Disk.fileSystem, made, refused, and_self]

theorem openedAt_create {target : Location} (located : e.locate (t.sourcePath fqcn) = .ok target)
    (clear : e.kind? target ≠ some true) :
    OpenedAt (t.sourcePath fqcn) target e (create Disk.fileSystem fqcn t d) := by
  obtain ⟨handle, d', number, opened, node, -, filed⟩ := Disk.create_opens located clear
  let t' : SourceTree Nat := { t with
    created := t.created.insert fqcn
    files := t.files.push ⟨t.sourcePath fqcn, some ⟨handle, []⟩⟩ }
  refine ⟨t.files.size, t', d', ⟨handle, []⟩, number, ?_, by simp [t'],
    Disk.locate_of_keeps filed.keeps located, node, filed⟩
  rw [create_new Disk.fileSystem new]
  simp only [Disk.fileSystem, made, opened]
  rfl

end Create

/-- A class gets its file or not, alike in both runs. -/
theorem create_alike {t t' : SourceTree Nat} {d d' : Disk} (along : Alongside t t' d d')
    {fqcn : String} (slash : '/' ∉ fqcn.toList) :
    let opening := create Disk.fileSystem fqcn t d
    let opening' := create Disk.fileSystem fqcn t' d'
    (∃ fault, opening.1.1 = .error fault ∧ opening'.1.1 = .error fault ∧
      Disk.Alike t.root opening.2 opening'.2) ∨
    ∃ target e e', Disk.Alike t.root e e' ∧ e.locate (t.sourcePath fqcn) = .ok target ∧
      OpenedAt (t.sourcePath fqcn) target e opening ∧
        OpenedAt (t.sourcePath fqcn) target e' opening' := by
  obtain ⟨root, created, disks⟩ := along
  have path : t'.sourcePath fqcn = t.sourcePath fqcn := by rw [sourcePath, root, sourcePath]
  intro opening opening'
  by_cases known : fqcn ∈ t.created
  · have known' : fqcn ∈ t'.created := created ▸ known
    have left : opening = _ := create_known Disk.fileSystem known d
    have right : opening' = _ := create_known Disk.fileSystem known' d'
    rw [left, right]
    exact .inl ⟨_, rfl, rfl, disks⟩
  have known' : fqcn ∉ t'.created := created ▸ known
  have all : Disk.Agree (Disk.Alike t.root) (Disk.makeDirs (Path.parent (t.sourcePath fqcn)) d)
      (Disk.makeDirs (Path.parent (t.sourcePath fqcn)) d') := disks.makeDirs slash
  rcases made : Disk.makeDirs (Path.parent (t.sourcePath fqcn)) d with ⟨answer, e⟩
  rcases made' : Disk.makeDirs (Path.parent (t.sourcePath fqcn)) d' with ⟨answer', e'⟩
  rw [made, made'] at all
  obtain ⟨rfl, alike⟩ : answer' = answer ∧ Disk.Alike t.root e e' := all
  rw [← path] at made'
  rcases answer' with fault | _
  · obtain ⟨left, disk⟩ := create_dirs_refused known made
    obtain ⟨right, disk'⟩ := create_dirs_refused known' made'
    exact .inl ⟨fault, left, right, by rwa [disk, disk']⟩
  have refuse (fault : Fault) (no : Disk.create (t.sourcePath fqcn) e = (.error fault, e))
      (no' : Disk.create (t'.sourcePath fqcn) e' = (.error fault, e')) :
      ∃ fault, opening.1.1 = .error fault ∧ opening'.1.1 = .error fault ∧
        Disk.Alike t.root opening.2 opening'.2 := by
    obtain ⟨left, disk⟩ := create_refused known made no
    obtain ⟨right, disk'⟩ := create_refused known' made' no'
    exact ⟨fault, left, right, by rwa [disk, disk']⟩
  have same : e'.locate (t'.sourcePath fqcn) = e.locate (t.sourcePath fqcn) := by
    rw [path]
    exact alike.locate slash
  cases located : e.locate (t.sourcePath fqcn) with
  | error fault =>
    rw [located] at same
    exact .inl (refuse fault (by simp only [Disk.create, located])
      (by simp only [Disk.create, same]))
  | ok target =>
    rw [located] at same
    by_cases clear : e.kind? target = some true
    · have there := Disk.kind?_eq_true.1 clear
      have there' := Disk.kind?_eq_true.1 ((alike.directory target).2 clear)
      exact .inl (refuse Fault.isADirectory (by simp only [Disk.create, located, there])
        (by simp only [Disk.create, same, there']))
    · have left := openedAt_create known made located clear
      have right := openedAt_create known' made' same (mt (alike.directory target).1 clear)
      rw [path] at right
      exact .inr ⟨target, e, e', alike, located, left, right⟩

section Step

variable (clock clock' : Disk → Timestamp) (options : Options) {g g' : Generator}
variable {t t' : SourceTree Nat} {d d' : Disk} (along : Alongside t t' d d')
variable (model : g'.model = g.model) (slash : '/' ∉ g.model.fqcn.toList) (s s' : Session)

include along model slash

/-- A class is generated in both runs, perhaps with other hooks. -/
theorem generate_alike :
    let ended := (g.generate (clocked clock) options).run s t d
    let ended' := (g'.generate (clocked clock') options).run s' t' d'
    Alongside ended.1.2 ended'.1.2 ended.2 ended'.2 ∧ ∃ failure failure',
      Meets (g.fate failure) t ended ∧ Meets (g'.fate failure') t' ended' ∧
        (g' = g → g.Sequenced → failure' = failure) := by
  intro ended ended'
  have fqcn : g'.model.fqcn = g.model.fqcn := congrArg ClassModel.fqcn model
  have alongside {failure failure' : Option ClassFailure} (meets : Meets (g.fate failure) t ended)
      (meets' : Meets (g'.fate failure') t' ended') (disks : Disk.Alike t.root ended.2 ended'.2) :
      Alongside ended.1.2 ended'.1.2 ended.2 ended'.2 := by
    refine ⟨?_, ?_, ?_⟩
    · rw [meets'.root, along.root, meets.root]
    · rw [meets'.created, meets.created, fqcn_fate, fqcn_fate, fqcn, along.created]
    · rwa [meets.root]
  rcases create_alike along slash with ⟨fault, left, right, disks⟩ |
    ⟨target, e, e', alike, located, left, right⟩
  · rw [← fqcn] at right
    obtain ⟨meets, disk⟩ := generate_refused clock options s left
    obtain ⟨meets', disk'⟩ := generate_refused clock' options s' right
    refine ⟨alongside meets meets' ?_, _, _, meets, meets', ?_⟩
    · rw [disk, disk', fqcn]
      exact disks
    · rintro rfl _
      rfl
  · obtain ⟨file, t₁, d₁, b, number, created, there, located₁, node, filed⟩ := left
    obtain ⟨file', t₁', d₁', b', number', created', there', located₁', node', filed'⟩ := right
    rw [← fqcn] at created'
    obtain ⟨meets, done⟩ := generate_filled clock options s created there located₁ node
    obtain ⟨meets', done'⟩ := generate_filled clock' options s' created' there' located₁' node'
    refine ⟨alongside meets meets' ?_, _, _, meets, meets', ?_⟩
    · exact alike.filed slash located (filed.trans done) (filed'.trans done')
    · rintro rfl sequenced
      exact sequenced.failure_eq _ _ _ _ _

end Step

/-- What becomes of each class in a run. Each begins with what the one before has left. -/
def fates (clock : Disk → Timestamp) (options : Options) :
    List Generator → Session → SourceTree Nat → Disk → List Fate
  | [], _, _, _ => []
  | g :: generators, s, t, d =>
    let ended := (g.generate (clocked clock) options).run s t d
    ⟨g.model.fqcn, ended.1.1.1, ended.1.2.diagnostics.drop t.diagnostics.length⟩ ::
      fates clock options generators ended.1.1.2 ended.1.2 ended.2

section Run

variable {clock clock' : Disk → Timestamp} {options : Options}

theorem Meets.fates_cons {g : Generator} {failure : Option ClassFailure} {s : Session}
    {t : SourceTree Nat} {d : Disk} {generators : List Generator}
    (meets : Meets (g.fate failure) t ((g.generate (clocked clock) options).run s t d)) :
    fates clock options (g :: generators) s t d =
      let ended := (g.generate (clocked clock) options).run s t d
      g.fate failure :: fates clock options generators ended.1.1.2 ended.1.2 ended.2 := by
  refine congrArg (· :: _) ?_
  rw [meets.status, meets.diagnostics, List.drop_left, ← fqcn_fate g failure]

variable (clock clock' options)
variable {t t' : SourceTree Nat} {d d' : Disk} (along : Alongside t t' d d')

include along

/-- Classes of rows of calls and requests have the same fates in both runs. -/
theorem fates_alike {generators : List Generator}
    (slash : ∀ g ∈ generators, '/' ∉ g.model.fqcn.toList)
    (sequenced : ∀ g ∈ generators, g.Sequenced) (s s' : Session) (report report' : Report) :
    fates clock' options generators s' t' d' = fates clock options generators s t d ∧
      ((generators.foldlM (collecting (clocked clock') options) report').run
        s' t' d').1.2.created =
          ((generators.foldlM (collecting (clocked clock) options) report).run
            s t d).1.2.created := by
  induction generators generalizing t t' d d' s s' report report' with
  | nil => exact ⟨rfl, along.created⟩
  | cons g generators ih =>
    obtain ⟨own, slash⟩ := List.forall_mem_cons.1 slash
    obtain ⟨first, sequenced⟩ := List.forall_mem_cons.1 sequenced
    obtain ⟨along, failure, failure', meets, meets', same⟩ :=
      generate_alike clock clock' options along rfl own s s'
    rw [meets.fates_cons, meets'.fates_cons, same rfl first, run_collecting_cons,
      run_collecting_cons]
    obtain ⟨fates, created⟩ := ih along slash sequenced _ _ (report.add _ _) (report'.add _ _)
    exact ⟨congrArg (_ :: ·) fates, created⟩

/-- A class that is rendered otherwise in one run changes the fate of no other class. -/
theorem fates_beside {before after : List Generator} {g g' : Generator} (model : g'.model = g.model)
    (slash : ∀ h ∈ before ++ g :: after, '/' ∉ h.model.fqcn.toList)
    (sequenced : ∀ h ∈ before ++ after, h.Sequenced) (s s' : Session) (report report' : Report) :
    (∀ k, k ≠ before.length → (fates clock' options (before ++ g' :: after) s' t' d')[k]? =
      (fates clock options (before ++ g :: after) s t d)[k]?) ∧
    (((before ++ g' :: after).foldlM (collecting (clocked clock') options) report').run
      s' t' d').1.2.created =
        (((before ++ g :: after).foldlM (collecting (clocked clock) options) report).run
          s t d).1.2.created := by
  induction before generalizing t t' d d' s s' report report' with
  | nil =>
    obtain ⟨own, slash⟩ := List.forall_mem_cons.1 slash
    obtain ⟨along, failure, failure', meets, meets', -⟩ :=
      generate_alike clock clock' options along model own s s'
    rw [List.nil_append, List.nil_append, meets.fates_cons, meets'.fates_cons, run_collecting_cons,
      run_collecting_cons]
    obtain ⟨fates, created⟩ :=
      fates_alike clock clock' options along slash sequenced _ _ (report.add _ _) (report'.add _ _)
    refine ⟨fun k other => ?_, created⟩
    cases k with
    | zero => exact absurd rfl other
    | succ k => rw [List.getElem?_cons_succ, List.getElem?_cons_succ, fates]
  | cons h before ih =>
    obtain ⟨own, slash⟩ := List.forall_mem_cons.1 slash
    obtain ⟨first, sequenced⟩ := List.forall_mem_cons.1 sequenced
    obtain ⟨along, failure, failure', meets, meets', same⟩ :=
      generate_alike clock clock' options along rfl own s s'
    rw [List.cons_append, List.cons_append, meets.fates_cons, meets'.fates_cons, same rfl first,
      run_collecting_cons, run_collecting_cons]
    obtain ⟨fates, created⟩ := ih along slash sequenced _ _ (report.add _ _) (report'.add _ _)
    refine ⟨fun k other => ?_, created⟩
    cases k with
    | zero => rw [List.getElem?_cons_zero, List.getElem?_cons_zero]
    | succ k =>
      rw [List.getElem?_cons_succ, List.getElem?_cons_succ]
      exact fates k fun eq => other (congrArg Nat.succ eq)

end Run

/-- The fates of the classes account for what a run comes to. -/
structure Accounts (generators : List Generator) (fates : List Fate) (outcome : Outcome) :
    Prop where
  order : fates.map (·.fqcn) = generators.map (·.model.fqcn)
  report : outcome.report = fates.foldl (fun report fate => report.add fate.fqcn fate.status) { }
  diagnostics : outcome.tree.diagnostics = fates.flatMap (·.diagnostics)

section Accounts

variable (clock : Disk → Timestamp) (options : Options) {generators : List Generator}
variable (slash : ∀ g ∈ generators, '/' ∉ g.model.fqcn.toList) (s : Session)

include slash

theorem fates_account (t : SourceTree Nat) (d : Disk) (report : Report) :
    let fates := fates clock options generators s t d
    let ended := (generators.foldlM (collecting (clocked clock) options) report).run s t d
    fates.map (·.fqcn) = generators.map (·.model.fqcn) ∧
      ended.1.1.1 = fates.foldl (fun report fate => report.add fate.fqcn fate.status) report ∧
        ended.1.2.diagnostics = t.diagnostics ++ fates.flatMap (·.diagnostics) := by
  induction generators generalizing s t d report with
  | nil => exact ⟨rfl, rfl, (List.append_nil _).symm⟩
  | cons g generators ih =>
    obtain ⟨own, slash⟩ := List.forall_mem_cons.1 slash
    obtain ⟨-, failure, -, meets, -, -⟩ :=
      generate_alike clock clock options (.refl t d) rfl own s s
    obtain ⟨order, answer, diagnostics⟩ := ih slash
      ((g.generate (clocked clock) options).run s t d).1.1.2
      ((g.generate (clocked clock) options).run s t d).1.2
      ((g.generate (clocked clock) options).run s t d).2
      (report.add g.model.fqcn ((g.generate (clocked clock) options).run s t d).1.1.1)
    dsimp only
    rw [meets.fates_cons, run_collecting_cons]
    dsimp only
    rw [answer, diagnostics, List.map_cons, List.map_cons, order, fqcn_fate, List.foldl_cons,
      fqcn_fate, meets.status, meets.diagnostics, List.flatMap_cons, List.append_assoc]
    exact ⟨rfl, rfl, rfl⟩

theorem accounts_generateBelow (root : String) (d : Disk) :
    Accounts generators (fates clock options generators s (.empty root) d)
      (generateBelow root clock options generators s d) := by
  obtain ⟨order, report, diagnostics⟩ := fates_account clock options slash s (.empty root) d { }
  obtain ⟨level, message, ended⟩ := generateBelow_eq root clock options generators s d
  rw [ended]
  exact ⟨order, report, diagnostics⟩

end Accounts

/-- Where a class fails in one run and not in the other, or for another reason, every other class
has the same fate in both, and files were asked for on behalf of the same classes. -/
theorem siblings_unharmed (root : String) (clock clock' : Disk → Timestamp) (options : Options)
    {before after : List Generator} {g g' : Generator} (model : g'.model = g.model)
    (slash : ∀ h ∈ before ++ g :: after, '/' ∉ h.model.fqcn.toList)
    (sequenced : ∀ h ∈ before ++ after, h.Sequenced) (s s' : Session) (d : Disk) :
    let outcome := generateBelow root clock options (before ++ g :: after) s d
    let outcome' := generateBelow root clock' options (before ++ g' :: after) s' d
    let fates₁ := fates clock options (before ++ g :: after) s (.empty root) d
    let fates₂ := fates clock' options (before ++ g' :: after) s' (.empty root) d
    Accounts (before ++ g :: after) fates₁ outcome ∧
      Accounts (before ++ g' :: after) fates₂ outcome' ∧
        (∀ k, k ≠ before.length → fates₂[k]? = fates₁[k]?) ∧
          outcome'.tree.created = outcome.tree.created := by
  have slash' : ∀ h ∈ before ++ g' :: after, '/' ∉ h.model.fqcn.toList := by
    intro h mem
    rcases List.mem_append.1 mem with among | among
    · exact slash h (List.mem_append_left _ among)
    · rcases List.mem_cons.1 among with rfl | among
      · rw [model]
        exact slash g (by simp)
      · exact slash h (by simp [among])
  obtain ⟨others, created⟩ := fates_beside clock clock' options (.refl (.empty root) d) model slash
    sequenced s s' { } { }
  obtain ⟨level, message, ended⟩ := generateBelow_eq root clock options (before ++ g :: after) s d
  obtain ⟨level', message', ended'⟩ :=
    generateBelow_eq root clock' options (before ++ g' :: after) s' d
  refine ⟨accounts_generateBelow clock options slash s root d,
    accounts_generateBelow clock' options slash' s' root d, others, ?_⟩
  rw [ended, ended']
  exact created

/-- A class that fails or not, before one that has its name. -/
theorem siblings_unharmed_first :
    let named (name : String) (body : Hook Unit) : Generator :=
      ⟨⟨⟨name, "", ∅, none⟩, [], "X", ∅, none⟩, pure (), body⟩
    let before : List Generator := []
    let after := [named "B" (pure ())]
    let g := named "B" (.fail .notText)
    let g' := named "B" (.request ⟨"B", "load", []⟩ fun _ => .pure ())
    let options : Options := { headerMarker := "//" }
    let clock : Disk → Timestamp := fun _ => ⟨2024, 1, 1, 0, 0, 0⟩
    let fates₁ := fates clock options (before ++ g :: after) .empty (.empty "o") .empty
    let fates₂ := fates clock options (before ++ g' :: after) .empty (.empty "o") .empty
    (∀ k, k ≠ before.length → fates₂[k]? = fates₁[k]?) ∧
      fates₁.map (·.status) = [.failed, .failed] ∧
        fates₂.map (·.status) = [.generated, .failed] := by
  intro named before after g g' options clock fates₁ fates₂
  have slash : ∀ h ∈ before ++ g :: after, '/' ∉ h.model.fqcn.toList := by decide +kernel
  have sequenced : ∀ h ∈ before ++ after, h.Sequenced := by
    intro h mem
    obtain rfl := List.mem_singleton.1 mem
    exact ⟨⟨_, _, .pure ()⟩, _, _, .pure ()⟩
  have unharmed := siblings_unharmed "o" clock clock options (show g'.model = g.model from rfl)
    slash sequenced .empty .empty .empty
  exact ⟨unharmed.2.2.1, by decide +kernel⟩

end SourceTree
end OperationStubs
