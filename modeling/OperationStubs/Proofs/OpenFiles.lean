import OperationStubs.Proofs.Bystander
import OperationStubs.Proofs.Operations

/-!
# Files that are open at the same time

Of what a source file has taken the disk has a beginning, and the rest waits (`Stands`). An
operation on one file leaves every other file as it is, since classes with different names have
different places (`Sound.spares`). So however operations on several files take turns, each file
comes to hold what was written to it, unless it is discarded (`open_files_intact`).
-/

namespace OperationStubs.SourceTree

namespace Operation

/-- Whether a file takes nothing more behind an operation. -/
def closes : Operation → Bool
  | .close _ | .discard _ | .drop _ => true
  | _ => false

def discards : Operation → Bool
  | .discard _ => true
  | _ => false

/-- Whether an operation hands on what waits. -/
def settles : Operation → Bool
  | .flush _ | .close _ | .drop _ => true
  | _ => false

theorem eq_discard {operation : Operation} {file : Nat} (about : operation.file? = some file)
    (discards : operation.discards) : operation = .discard file := by
  cases operation with
  | discard file => exact congrArg _ (Option.some.inj about)
  | _ => cases discards

/-- What comes of an operation on a file that takes nothing more. -/
def late : Operation → Answer
  | .write _ bytes => .done (if bytes.isEmpty then .ok () else refused)
  | .flush _ => .done refused
  | _ => .done (.ok ())
where
  refused : Except Fault Unit := .error ⟨.other, "output file already closed"⟩

/-- A class that is to be given a file has a proper name. -/
def Proper : Operation → Prop
  | .create fqcn => Name.WellFormed fqcn
  | _ => True

instance : DecidablePred Proper
  | .create fqcn => inferInstanceAs (Decidable (Name.WellFormed fqcn))
  | .report .. | .write .. | .flush _ | .close _ | .discard _ | .drop _ => .isTrue trivial

end Operation

/-- The bytes that a file has taken. -/
def Event.taken : Event → List UInt8
  | ⟨.write _ bytes, .done (.ok ())⟩ => bytes
  | _ => []

/-- A class was given a file, and `later` is what has happened since. -/
def HandedOut (fqcn : String) (file : Nat) (later events : List Event) : Prop :=
  ⟨.create fqcn, .created (.ok file)⟩ :: later <:+ events

instance (fqcn : String) (file : Nat) (later events : List Event) :
    Decidable (HandedOut fqcn file later events) :=
  inferInstanceAs (Decidable (_ <:+ _))

theorem handedOut_concat {fqcn : String} {file : Nat} {later events : List Event} {event : Event} :
    HandedOut fqcn file later (events ++ [event]) ↔
      later = [] ∧ event = ⟨.create fqcn, .created (.ok file)⟩ ∨
        ∃ later', later = later' ++ [event] ∧ HandedOut fqcn file later' events := by
  unfold HandedOut
  rw [List.suffix_concat_iff]
  constructor
  · rintro (none | ⟨rest, eq, suffix⟩)
    · cases none
    · cases rest with
      | nil =>
        obtain ⟨rfl, rfl⟩ := List.cons.inj eq
        exact .inl ⟨rfl, rfl⟩
      | cons first rest =>
        obtain ⟨rfl, rfl⟩ := List.cons.inj eq
        exact .inr ⟨rest, rfl, suffix⟩
  · rintro (⟨rfl, rfl⟩ | ⟨later', rfl, suffix⟩)
    · exact .inr ⟨[], rfl, List.nil_suffix⟩
    · exact .inr ⟨_ :: later', rfl, suffix⟩

/-- What has happened to a file, out of some events. -/
def story (file : Nat) (events : List Event) : List Event :=
  events.filter (·.operation.file? = some file)

theorem story_concat (file : Nat) (events : List Event) (event : Event) :
    story file (events ++ [event]) =
      if event.operation.file? = some file then story file events ++ [event]
      else story file events := by
  unfold story
  rw [List.filter_append]
  split
  · rename_i about
    rw [List.filter_cons_of_pos (by simp [about])]
    rfl
  · rename_i other
    rw [List.filter_cons_of_neg (by simp [other])]
    exact List.append_nil _

section Story

variable (own : List Event) (event : Event)

/-- All that a file has taken. -/
def written : List UInt8 := own.flatMap Event.taken

def closed : Bool := own.any (·.operation.closes)

def discarded : Bool := own.any (·.operation.discards)

/-- Whether all that was written was handed on last. -/
def settled : Bool := own.getLast?.any (·.operation.settles)

@[simp]
theorem written_concat : written (own ++ [event]) = written own ++ event.taken := by
  simp [written]

@[simp]
theorem closed_concat : closed (own ++ [event]) = (closed own || event.operation.closes) := by
  simp [closed]

@[simp]
theorem discarded_concat :
    discarded (own ++ [event]) = (discarded own || event.operation.discards) := by
  simp [discarded]

@[simp]
theorem settled_concat : settled (own ++ [event]) = event.operation.settles := by
  simp [settled]

variable {own}

/-- Discarding closes, too. -/
theorem closed_of_discarded (h : discarded own) : closed own := by
  obtain ⟨event, mem, discards⟩ := List.any_eq_true.1 h
  refine List.any_eq_true.2 ⟨event, mem, ?_⟩
  cases operation : event.operation <;> simp_all [Operation.discards, Operation.closes]

theorem not_discarded (unclosed : closed own = false) : discarded own = false :=
  Bool.eq_false_iff.2 fun h => Bool.eq_false_iff.1 unclosed (closed_of_discarded h)

end Story

section Late

variable {σ h : Type} (fs : FileSystem (StateM σ) h) {t : SourceTree h} {file : Nat}
variable {operation : Operation} (stays : operation.discards = false)

include stays

theorem taken_late : Event.taken ⟨operation, operation.late⟩ = [] := by
  cases operation with
  | write file bytes => cases bytes <;> rfl
  | discard _ => cases stays
  | _ => rfl

/-- A file that takes nothing more is left as it is, but for being discarded. -/
theorem perform_late (about : operation.file? = some file) (shut : t.target? file = none) (o : σ) :
    perform fs operation t o = ((operation.late, t), o) := by
  cases operation with
  | create _ | report _ _ => cases about
  | discard _ => cases stays
  | write file bytes | flush file | close file | drop file =>
    cases about
    simp only [perform, SourceTree.write, SourceTree.flush, SourceTree.drop, SourceTree.close,
      bind_apply, get_apply, shut, pure_apply, Operation.late, Operation.late.refused,
      Fault.alreadyClosed]

end Late

/-- What a file at `target` has come to, by what has happened to it. While it is open it is written
through `b`. -/
inductive Stands (d : Disk) (target : Location) (own : List Event) : Option (Buffered Nat) → Prop
  | opened {handle number : Nat} {held waiting : List UInt8}
      (holds : d.Holds target handle number held) (all : held ++ waiting = written own)
      (through : settled own → waiting = []) (unclosed : closed own = false) :
      Stands d target own (some ⟨handle, waiting⟩)
  | shut (whole : d.content? target = some (written own)) (closed : closed own)
      (kept : discarded own = false) : Stands d target own none
  | gone (gone : d.node? target = none) (discarded : discarded own) : Stands d target own none

namespace Stands

variable {d : Disk} {target : Location} {own : List Event} {b : Option (Buffered Nat)}
variable (stands : Stands d target own b)

include stands

theorem of_leaves {d' : Disk} (leaves : d.Leaves d' target) : Stands d' target own b := by
  cases stands with
  | opened holds all through unclosed => exact .opened (leaves.holds holds) all through unclosed
  | shut whole closed kept => exact .shut (leaves.content?.trans whole) closed kept
  | gone gone discarded => exact .gone (leaves.node.trans gone) discarded

theorem begins (kept : discarded own = false) :
    ∃ text, d.content? target = some text ∧ text <+: written own := by
  cases stands with
  | opened holds all through unclosed => exact ⟨_, holds.content?, _, all⟩
  | shut whole closed kept => exact ⟨_, whole, List.prefix_rfl⟩
  | gone gone discarded => simp [kept] at discarded

theorem content? (kept : discarded own = false) (through : settled own ∨ closed own) :
    d.content? target = some (written own) := by
  cases stands with
  | opened holds all none unclosed =>
    have settled : settled own := by simpa [unclosed] using through
    rw [none settled, List.append_nil] at all
    rw [holds.content?, all]
  | shut whole closed kept => exact whole
  | gone gone discarded => simp [kept] at discarded

theorem node?_of_discarded (discarded : discarded own) : d.node? target = none := by
  cases stands with
  | opened holds all through unclosed => simp [not_discarded unclosed] at discarded
  | shut whole closed kept => simp [kept] at discarded
  | gone gone discarded => exact gone

theorem none_of_closed (closed : closed own) : b = none := by
  cases stands with
  | opened holds all through unclosed => simp [closed] at unclosed
  | shut whole closed kept => rfl
  | gone gone discarded => rfl

end Stands

/-- A file that was given to a class, and what has become of it. -/
structure Stored (root : String) (t : SourceTree Nat) (d : Disk) (fqcn : String) (file : Nat)
    (own : List Event) (target : Location) (b : Option (Buffered Nat)) : Prop where
  there : t.files[file]? = some ⟨pathBelow root fqcn, b⟩
  located : d.locate (pathBelow root fqcn) = .ok target
  stands : Stands d target own b

/-- What an operation on the file at `target` does. It changes this file only, and in the way that
its answer says. An open file takes everything. -/
structure Stepped (t : SourceTree Nat) (d : Disk) (file : Nat) (target : Location)
    (own : List Event) (operation : Operation) (ended : (Answer × SourceTree Nat) × Disk) :
    Prop where
  stands : ∃ b, ended.1.2 = t.setTarget file b ∧
    Stands ended.2 target (own ++ [⟨operation, ended.1.1⟩]) b
  alone : d.Alone ended.2 target
  takes : closed own = false → ended.1.1 = .done (.ok ())

namespace Stored

variable {root fqcn : String} {t : SourceTree Nat} {d : Disk} {file : Nat} {own : List Event}
variable {target : Location} (whole : d.WellFormed)

section Discard

variable {b : Option (Buffered Nat)} (stored : Stored root t d fqcn file own target b)

include whole stored

/-- Discarding removes a file that is there, open or not. -/
theorem step_discard {number : Nat} (node : d.node? target = some (.file number)) :
    Stepped t d file target own (.discard file)
      (perform Disk.fileSystem (.discard file) t d) := by
  simp only [perform, bind_apply, discard_removes stored.there stored.located node, pure_apply]
  refine ⟨⟨none, rfl, .gone ?_ ?_⟩, Disk.alone_without whole node, fun _ => rfl⟩
  · exact (Disk.node?_without (Disk.ne_nil_of_file node) target).trans (if_pos rfl)
  · simp [Operation.discards]

/-- A file that was discarded cannot be removed again. -/
theorem step_discard_gone (gone : d.node? target = none) (closed : closed own) :
    Stepped t d file target own (.discard file)
      (perform Disk.fileSystem (.discard file) t d) := by
  have missing : Disk.remove (pathBelow root fqcn) d = (.error Fault.notFound, d) := by
    simp only [Disk.remove, stored.located, gone]
  simp only [perform, SourceTree.discard, bind_apply, get_apply, set_apply, stored.there,
    lift_apply, Disk.fileSystem, missing, pure_apply]
  refine ⟨⟨none, rfl, .gone gone ?_⟩, Disk.alone_refl whole, fun unclosed => ?_⟩
  · simp [Operation.discards]
  · simp [closed] at unclosed

end Discard

variable {operation : Operation} (about : operation.file? = some file)

include whole about

theorem step_opened {handle : Nat} {waiting : List UInt8}
    (stored : Stored root t d fqcn file own target (some ⟨handle, waiting⟩)) :
    Stepped t d file target own operation (perform Disk.fileSystem operation t d) := by
  have there := stored.there
  cases stored.stands with
  | opened holds all through unclosed =>
    have alone := Disk.alone_holding whole holds
    cases operation with
    | create _ | report _ _ => cases about
    | write file bytes =>
      cases about
      obtain ⟨held', waiting', all', written⟩ := write_open there holds bytes
      simp only [perform, bind_apply, written, pure_apply]
      refine ⟨⟨_, rfl, .opened (holds.holding held') ?_ ?_ ?_⟩, alone held', fun _ => rfl⟩
      · simp [Event.taken, all', all]
      · simp [Operation.settles]
      · simp [unclosed, Operation.closes]
    | flush file =>
      cases about
      simp only [perform, bind_apply, flush_open there holds, pure_apply]
      refine ⟨⟨_, rfl, .opened (holds.holding _) ?_ ?_ ?_⟩, alone _, fun _ => rfl⟩
      · simp [Event.taken, all]
      · exact fun _ => rfl
      · simp [unclosed, Operation.closes]
    | close file | drop file =>
      cases about
      simp only [perform, SourceTree.drop, bind_apply, close_open there holds, pure_apply]
      refine ⟨⟨_, rfl, .shut ?_ ?_ ?_⟩, alone _, fun _ => rfl⟩
      · simp [(holds.holding _).content?, Event.taken, all]
      · simp [Operation.closes]
      · simp [not_discarded unclosed, Operation.discards]
    | discard file =>
      cases about
      exact stored.step_discard whole holds.node

theorem step_shut (stored : Stored root t d fqcn file own target none) :
    Stepped t d file target own operation (perform Disk.fileSystem operation t d) := by
  have same := setTarget_self stored.there
  cases stays : operation.discards with
  | false =>
    rw [perform_late _ stays about (target?_eq stored.there)]
    cases stored.stands with
    | shut content closed kept =>
      refine ⟨⟨none, same.symm, .shut ?_ ?_ ?_⟩, Disk.alone_refl whole, fun unclosed => ?_⟩
      · rwa [written_concat, taken_late stays, List.append_nil]
      · simp [closed]
      · simp [kept, stays]
      · simp [closed] at unclosed
    | gone gone discarded =>
      refine ⟨⟨none, same.symm, .gone gone ?_⟩, Disk.alone_refl whole, fun unclosed => ?_⟩
      · simp [discarded]
      · simp [not_discarded unclosed] at discarded
  | true =>
    obtain rfl := Operation.eq_discard about stays
    cases stored.stands with
    | shut content closed kept =>
      obtain ⟨number, node⟩ := Disk.file_of_content? content
      exact stored.step_discard whole node
    | gone gone discarded =>
      exact stored.step_discard_gone whole gone (closed_of_discarded discarded)

theorem step {b : Option (Buffered Nat)} (stored : Stored root t d fqcn file own target b) :
    Stepped t d file target own operation (perform Disk.fileSystem operation t d) := by
  cases b with
  | some b => exact stored.step_opened whole about
  | none => exact stored.step_shut whole about

end Stored

section Perform

/-- The root stays, and a class that is given a file is given a new one. -/
theorem perform_tree {σ h : Type} (fs : FileSystem (StateM σ) h) (operation : Operation)
    (t : SourceTree h) (o : σ) :
    let ended := perform fs operation t o
    ended.1.2.root = t.root ∧ (ended.1.2.files.size = t.files.size ∨
      ∃ fqcn, operation = .create fqcn ∧ ended.1.1 = .created (.ok t.files.size) ∧
        ended.1.2.files.size = t.files.size + 1) := by
  cases about : operation.file? with
  | some file =>
    rcases perform_setTarget fs about t o with same | ⟨b, same⟩
    · simp [same]
    · simp [same, setTarget]
  | none =>
    cases operation with
    | create fqcn =>
      by_cases known : fqcn ∈ t.created
      · simp [perform, bind_apply, create_known fs known, pure_apply]
      · simp only [perform, bind_apply, create_new fs known, pure_apply]
        rcases fs.makeDirs _ o with ⟨_ | _, o₁⟩
        · simp
        · dsimp only
          rcases fs.create _ o₁ with ⟨_ | _, o₂⟩ <;> simp
    | report message origin => exact ⟨rfl, .inl rfl⟩
    | _ => cases about

variable {t : SourceTree Nat}

/-- Where there is no such file nothing changes. -/
theorem perform_unknown {operation : Operation} {file : Nat}
    (about : operation.file? = some file) (unknown : t.files[file]? = none) (d : Disk) :
    (perform Disk.fileSystem operation t d).1.2 = t ∧
      (perform Disk.fileSystem operation t d).2 = d := by
  cases stays : operation.discards with
  | false =>
    rw [perform_late _ stays about (by simp [target?, unknown])]
    exact ⟨rfl, rfl⟩
  | true =>
    obtain rfl := Operation.eq_discard about stays
    have same : t.setTarget file none = t := by
      apply setTarget_of_target
      intro f there
      rw [unknown] at there
      cases there
    have performed : perform Disk.fileSystem (.discard file) t d =
        ((.done (.error Fault.notFound), t), d) := by
      simp only [perform, SourceTree.discard, bind_apply, get_apply, set_apply, unknown,
        pure_apply, same]
    rw [performed]
    exact ⟨rfl, rfl⟩

/-- A new class is refused its file, and at most directories come to be, or its file is opened. -/
theorem create_step {d : Disk} (whole : d.WellFormed) {fqcn : String} (new : fqcn ∉ t.created)
    {answer : Except Fault Unit} {e : Disk}
    (made : Disk.makeDirs (Path.parent (t.sourcePath fqcn)) d = (answer, e)) :
    let noted := { t with created := t.created.insert fqcn }
    (∃ fault, create Disk.fileSystem fqcn t d = ((.error fault, noted), e)) ∨
    ∃ target handle number d', create Disk.fileSystem fqcn t d =
        ((.ok t.files.size, { noted with
          files := t.files.push ⟨t.sourcePath fqcn, some ⟨handle, []⟩⟩ }), d') ∧
      e.locate (t.sourcePath fqcn) = .ok target ∧ d'.Holds target handle number [] ∧
        e.Alone d' target := by
  intro noted
  have whole' : e.WellFormed := by
    have grown := Disk.grown_makeDirs (Path.parent (t.sourcePath fqcn)) d
    rw [made] at grown
    exact grown.wellFormed whole
  rw [create_new Disk.fileSystem new]
  simp only [Disk.fileSystem, made]
  rcases answer with fault | _
  · exact .inl ⟨fault, rfl⟩
  dsimp only
  cases located : e.locate (t.sourcePath fqcn) with
  | error fault =>
    have no : Disk.create (t.sourcePath fqcn) e = (.error fault, e) := by
      simp only [Disk.create, located]
    simp only [no]
    exact .inl ⟨fault, rfl⟩
  | ok target =>
    by_cases clear : e.kind? target = some true
    · have no : Disk.create (t.sourcePath fqcn) e = (.error Fault.isADirectory, e) := by
        simp only [Disk.create, located, Disk.kind?_eq_true.1 clear]
      simp only [no]
      exact .inl ⟨_, rfl⟩
    · obtain ⟨handle, number, answer, holds, alone⟩ := Disk.create_alone whole' located clear
      rcases opened : Disk.create (t.sourcePath fqcn) e with ⟨result, d'⟩
      rw [opened] at answer holds alone
      obtain rfl : result = .ok handle := answer
      exact .inr ⟨target, handle, number, d', rfl, rfl, holds, alone⟩

end Perform

/-- What is so of every run on a disk. -/
structure Sound (root : String) (run : Run Disk Nat) : Prop where
  whole : run.outside.WellFormed
  below : run.tree.root = root
  proper : ∀ fqcn ∈ run.tree.created, Name.WellFormed fqcn
  /-- Every file was given to a class. -/
  known : ∀ file < run.tree.files.size, ∃ fqcn later, HandedOut fqcn file later run.events
  noted : ∀ {fqcn file later}, HandedOut fqcn file later run.events → fqcn ∈ run.tree.created
  single : ∀ {fqcn file file' later later'}, HandedOut fqcn file later run.events →
    HandedOut fqcn file' later' run.events → file = file'
  stored : ∀ {fqcn file later}, HandedOut fqcn file later run.events → ∃ target b,
    Stored root run.tree run.outside fqcn file (story file later) target b

/-- An operation leaves a disk whole, and leaves the files alone that it is not about. -/
structure Spared (root : String) (run : Run Disk Nat) (operation : Operation)
    (ended : (Answer × SourceTree Nat) × Disk) : Prop where
  whole : ended.2.WellFormed
  keeps : run.outside.Keeps ended.2
  others : ∀ {fqcn file later target b}, HandedOut fqcn file later run.events →
    Stored root run.tree run.outside fqcn file (story file later) target b →
      operation.file? ≠ some file →
        ended.1.2.files[file]? = run.tree.files[file]? ∧ run.outside.Leaves ended.2 target

namespace Sound

section Step

variable {root : String} {run : Run Disk Nat} (sound : Sound root run)

include sound

theorem spares_idle {operation : Operation} {ended : (Answer × SourceTree Nat) × Disk}
    (files : ended.1.2.files = run.tree.files) (disk : ended.2 = run.outside) :
    Spared root run operation ended := by
  obtain ⟨⟨answer, t⟩, d⟩ := ended
  obtain rfl : d = run.outside := disk
  refine ⟨sound.whole, ⟨rfl, fun _ there => there⟩, fun _ _ _ => ⟨?_, .refl _ _⟩⟩
  exact congrArg (·[_]?) files

/-- A file shares its place with no file of another class. -/
theorem spares_own {operation : Operation} {file : Nat} (about : operation.file? = some file) :
    Spared root run operation (perform Disk.fileSystem operation run.tree run.outside) := by
  by_cases inside : file < run.tree.files.size
  · obtain ⟨fqcn, later, handedOut⟩ := sound.known file inside
    obtain ⟨target, b, stored⟩ := sound.stored handedOut
    obtain ⟨⟨b', tree, -⟩, alone, -⟩ := stored.step sound.whole about
    refine ⟨alone.whole, alone.keeps, fun {fqcn' _ _ target' _} handedOut' stored' other => ?_⟩
    rw [about, ne_eq, Option.some.injEq] at other
    rw [tree]
    refine ⟨file_setTarget_ne run.tree other b', alone.others target' ?_⟩
    -- At one place the classes would be the same, and a class has one file.
    rintro rfl
    obtain rfl := Disk.locate_injective (sound.proper fqcn (sound.noted handedOut))
      (sound.proper fqcn' (sound.noted handedOut')) stored.located stored'.located
    exact other (sound.single handedOut handedOut')
  · have unknown : run.tree.files[file]? = none :=
      Array.getElem?_eq_none_iff.2 (Nat.le_of_not_lt inside)
    obtain ⟨tree, disk⟩ := perform_unknown about unknown run.outside
    exact sound.spares_idle (by rw [tree]) disk

/-- A new file has a place of its own, and so have its directories. -/
theorem spares_create {fqcn : String} (well : Name.WellFormed fqcn) :
    Spared root run (.create fqcn)
      (perform Disk.fileSystem (.create fqcn) run.tree run.outside) := by
  by_cases known : fqcn ∈ run.tree.created
  · simp only [perform, bind_apply, create_known Disk.fileSystem known, pure_apply]
    exact sound.spares_idle rfl rfl
  have path : run.tree.sourcePath fqcn = pathBelow root fqcn := by rw [sourcePath, sound.below]
  have grown := Disk.grown_makeDirs (Path.parent (pathBelow root fqcn)) run.outside
  have beside {fqcn' : String} {target : Location} (well' : Name.WellFormed fqcn')
      (located : run.outside.locate (pathBelow root fqcn') = .ok target) :=
    Disk.leaves_makeDirs well.slash well'.slash located
  rcases made : Disk.makeDirs (Path.parent (pathBelow root fqcn)) run.outside with ⟨answer, e⟩
  rw [made] at grown beside
  rw [← path] at made
  rcases create_step sound.whole known made with ⟨fault, refused⟩ |
    ⟨target, handle, number, d', opened, located, holds, alone⟩
  · simp only [perform, bind_apply, refused, pure_apply]
    refine ⟨grown.wellFormed sound.whole, grown.keeps, fun handedOut stored _ => ⟨rfl, ?_⟩⟩
    exact beside (sound.proper _ (sound.noted handedOut)) stored.located
  · simp only [perform, bind_apply, opened, pure_apply]
    have keeps := grown.keeps
    refine ⟨alone.whole, keeps.trans alone.keeps, fun {_ _ _ target' _} handedOut stored _ => ?_⟩
    have well' := sound.proper _ (sound.noted handedOut)
    refine ⟨(Disk.getElem?_push_of_getElem? stored.there _).trans stored.there.symm, ?_⟩
    refine (beside well' stored.located).trans (alone.others target' ?_)
    -- At one place the class would be one that has a file already.
    rintro rfl
    rw [path] at located
    have located' := Disk.locate_of_keeps keeps stored.located
    obtain rfl := Disk.locate_injective well well' located located'
    exact known (sound.noted handedOut)

theorem spares {operation : Operation} (proper : operation.Proper) :
    Spared root run operation (perform Disk.fileSystem operation run.tree run.outside) := by
  cases about : operation.file? with
  | some file => exact sound.spares_own about
  | none =>
    cases operation with
    | create fqcn => exact sound.spares_create proper
    | report message origin => exact sound.spares_idle rfl rfl
    | _ => cases about

/-- A class is given a file that is new and empty. -/
theorem opens {fqcn : String} {file : Nat}
    (given : (perform Disk.fileSystem (.create fqcn) run.tree run.outside).1.1 =
      .created (.ok file)) :
    let ended := perform Disk.fileSystem (.create fqcn) run.tree run.outside
    fqcn ∉ run.tree.created ∧
      ∃ target b, Stored root ended.1.2 ended.2 fqcn file [] target b := by
  have path : run.tree.sourcePath fqcn = pathBelow root fqcn := by rw [sourcePath, sound.below]
  have new : fqcn ∉ run.tree.created := by
    intro known
    simp only [perform, bind_apply, create_known Disk.fileSystem known, pure_apply] at given
    cases given
  rcases made : Disk.makeDirs (Path.parent (run.tree.sourcePath fqcn)) run.outside with ⟨answer, e⟩
  rcases create_step sound.whole new made with ⟨fault, refused⟩ |
    ⟨target, handle, number, d', opened, located, holds, alone⟩
  · simp only [perform, bind_apply, refused, pure_apply] at given
    cases given
  · simp only [perform, bind_apply, opened, pure_apply] at given ⊢
    obtain rfl : run.tree.files.size = file := by simpa using given
    rw [path] at located ⊢
    refine ⟨new, target, some ⟨handle, []⟩, by simp, ?_, ?_⟩
    · exact Disk.locate_of_keeps alone.keeps located
    · exact .opened holds rfl (fun _ => rfl) rfl

theorem next {operation : Operation} (proper : operation.Proper) :
    Sound root (run.next Disk.fileSystem operation) := by
  have spared := sound.spares proper
  have names := mem_created_perform Disk.fileSystem operation run.tree run.outside
  obtain ⟨below, size⟩ := perform_tree Disk.fileSystem operation run.tree run.outside
  have given {fqcn : String} {file : Nat}
      (same : (⟨operation, (perform Disk.fileSystem operation run.tree run.outside).1.1⟩ : Event) =
        ⟨.create fqcn, .created (.ok file)⟩) :
      operation = .create fqcn ∧ fqcn ∉ run.tree.created ∧
        ∃ target b, Stored root (run.next Disk.fileSystem operation).tree
          (run.next Disk.fileSystem operation).outside fqcn file [] target b := by
    obtain ⟨rfl, answer⟩ := Event.mk.inj same
    exact ⟨rfl, sound.opens answer⟩
  constructor
  case whole => exact spared.whole
  case below => exact below.trans sound.below
  case proper =>
    intro fqcn mem
    rcases (names fqcn).1 mem with rfl | mem
    · exact proper
    · exact sound.proper fqcn mem
  case known =>
    intro file inside
    have goesOn {file : Nat} (earlier : file < run.tree.files.size) : ∃ fqcn later,
        HandedOut fqcn file later (run.next Disk.fileSystem operation).events := by
      obtain ⟨fqcn, later, old⟩ := sound.known file earlier
      exact ⟨fqcn, _, handedOut_concat.2 (.inr ⟨later, rfl, old⟩)⟩
    rcases size with same | ⟨fqcn, rfl, answer, more⟩
    · exact goesOn (same ▸ inside)
    · rcases Nat.lt_succ_iff_lt_or_eq.1 (more ▸ inside) with earlier | rfl
      · exact goesOn earlier
      · exact ⟨fqcn, [], handedOut_concat.2 (.inl ⟨rfl, by rw [answer]⟩)⟩
  case noted =>
    intro fqcn file later handedOut
    refine (names fqcn).2 ?_
    rcases handedOut_concat.1 handedOut with ⟨-, same⟩ | ⟨later', -, old⟩
    · exact .inl (given same).1
    · exact .inr (sound.noted old)
  case single =>
    intro fqcn file file' later later' handedOut handedOut'
    -- The name was not taken down before the attempt that has succeeded now.
    rcases handedOut_concat.1 handedOut with ⟨-, same⟩ | ⟨_, -, old⟩ <;>
      rcases handedOut_concat.1 handedOut' with ⟨-, same'⟩ | ⟨_, -, old'⟩
    · have both := congrArg Event.answer (same.symm.trans same')
      simpa using both
    · exact absurd (sound.noted old') (given same).2.1
    · exact absurd (sound.noted old) (given same').2.1
    · exact sound.single old old'
  case stored =>
    intro fqcn file later handedOut
    rcases handedOut_concat.1 handedOut with ⟨rfl, same⟩ | ⟨later, rfl, old⟩
    · exact (given same).2.2
    · obtain ⟨target, b, stored⟩ := sound.stored old
      rw [story_concat]
      by_cases about : operation.file? = some file
      · obtain ⟨⟨b', tree, stands⟩, alone, -⟩ := stored.step sound.whole about
        rw [if_pos about]
        refine ⟨target, b', ?_, Disk.locate_of_keeps alone.keeps stored.located, stands⟩
        exact (congrArg (·.files[file]?) tree).trans (file_setTarget stored.there b')
      · obtain ⟨files, leaves⟩ := spared.others old stored about
        rw [if_neg about]
        exact ⟨target, b, files.trans stored.there,
          Disk.locate_of_keeps spared.keeps stored.located, stored.stands.of_leaves leaves⟩

end Step

theorem start (root : String) {d : Disk} (whole : d.WellFormed) : Sound root (.start root d) := by
  have none {fqcn : String} {file : Nat} {later : List Event} :
      ¬ HandedOut fqcn file later [] := fun handedOut =>
    absurd (List.suffix_nil.1 handedOut) (List.cons_ne_nil _ _)
  constructor
  case whole => exact whole
  case below => rfl
  case proper => exact fun fqcn mem => absurd mem List.not_mem_nil
  case known => exact fun file inside => absurd inside (Nat.not_lt_zero file)
  case noted => exact fun handedOut => absurd handedOut none
  case single => exact fun handedOut _ => absurd handedOut none
  case stored => exact fun handedOut => absurd handedOut none

theorem after (root : String) {d : Disk} (whole : d.WellFormed) {operations : List Operation}
    (proper : ∀ operation ∈ operations, operation.Proper) :
    Sound root ((Run.start root d).after Disk.fileSystem operations) := by
  induction operations using List.reverseRecOn with
  | nil => exact .start root whole
  | append_singleton operations operation ih =>
    rw [Run.after_concat]
    have sound := ih fun earlier mem => proper earlier (List.mem_append_left _ mem)
    exact sound.next (proper operation (by simp))

end Sound

/-- What is so of a file at `target` that was given to a class. `own` is what has happened to it
since. -/
structure Intact (run : Run Disk Nat) (file : Nat) (target : Location) (own : List Event) :
    Prop where
  /-- The disk has a beginning of what the file has taken. -/
  begins : discarded own = false →
    ∃ text, run.outside.content? target = some text ∧ text <+: written own
  /-- It has all of it behind a flush, and once the file was closed or dropped. -/
  all : discarded own = false → settled own ∨ closed own →
    run.outside.content? target = some (written own)
  /-- An open file takes everything. -/
  takes : closed own = false → ∀ operation : Operation, operation.file? = some file →
    (run.next Disk.fileSystem operation).events = run.events ++ [⟨operation, .done (.ok ())⟩]
  /-- A closed file takes nothing more, and nothing changes. -/
  late : closed own → ∀ operation : Operation, operation.file? = some file →
    operation.discards = false →
      run.next Disk.fileSystem operation = run.answered operation operation.late
  /-- A discarded file stays away. -/
  gone : discarded own → run.outside.node? target = none
  /-- Discarding removes the file and nothing else. -/
  removes : let d := (run.next Disk.fileSystem (.discard file)).outside
    d.node? target = none ∧ ∀ l, l ≠ target →
      d.node? l = run.outside.node? l ∧ d.content? l = run.outside.content? l
  /-- Whatever other files are asked for, and whatever further files, this one is as it was. -/
  others : ∀ operation : Operation, operation.Proper → operation.file? ≠ some file →
    let d := (run.next Disk.fileSystem operation).outside
    d.node? target = run.outside.node? target ∧ d.content? target = run.outside.content? target

theorem Sound.intact {root : String} {run : Run Disk Nat} (sound : Sound root run) {fqcn : String}
    {file : Nat} {later : List Event} (handedOut : HandedOut fqcn file later run.events) :
    ∃ target, run.outside.locate (pathBelow root fqcn) = .ok target ∧
      Intact run file target (story file later) := by
  obtain ⟨target, b, stored⟩ := sound.stored handedOut
  have stands := stored.stands
  refine ⟨target, stored.located, ?_⟩
  constructor
  case begins => exact stands.begins
  case all => exact stands.content?
  case takes =>
    intro unclosed operation about
    rw [Run.events_next, (stored.step sound.whole about).takes unclosed]
  case late =>
    intro closed operation about stays
    have there := stored.there
    rw [stands.none_of_closed closed] at there
    simp only [Run.next, perform_late _ stays about (target?_eq there), Run.answered]
  case gone => exact stands.node?_of_discarded
  case removes =>
    have about : (Operation.discard file).file? = some file := rfl
    obtain ⟨⟨b', -, stands'⟩, alone, -⟩ := stored.step sound.whole about
    refine ⟨stands'.node?_of_discarded (by simp [Operation.discards]), fun l other => ?_⟩
    exact ⟨(alone.others l other).node, (alone.others l other).content?⟩
  case others =>
    intro operation proper other
    obtain ⟨-, leaves⟩ := (sound.spares proper).others handedOut stored other
    exact ⟨leaves.node, leaves.content?⟩

/-- However operations on the files of several classes take turns, no file is disturbed by another
one, and nothing is lost of what was written to it. -/
theorem open_files_intact (root : String) {d : Disk} (whole : d.WellFormed)
    {operations : List Operation} (proper : ∀ operation ∈ operations, operation.Proper)
    {fqcn : String} {file : Nat} {later : List Event} :
    let run := (Run.start root d).after Disk.fileSystem operations
    HandedOut fqcn file later run.events →
      ∃ target, run.outside.locate (pathBelow root fqcn) = .ok target ∧
        Intact run file target (story file later) :=
  (Sound.after root whole proper).intact

/-- Two files in turns, of which one is discarded. -/
theorem open_files_intact_in_turns :
    let operations : List Operation := [.create "A", .create "p.B", .write 0 [97], .write 1 [98],
      .flush 0, .discard 1, .write 0 [99], .drop 0, .write 0 [100]]
    let run := (Run.start "o" .empty).after Disk.fileSystem operations
    let later := run.events.drop 1
    (∀ operation ∈ operations, operation.Proper) ∧ HandedOut "A" 0 later run.events ∧
      (∃ target, run.outside.locate (pathBelow "o" "A") = .ok target ∧
        Intact run 0 target (story 0 later)) ∧
      run.outside.content? ["A.java", "o"] = some [97, 99] ∧
        run.outside.content? ["B.java", "p", "o"] = none := by
  intro operations run later
  have whole : Disk.empty.WellFormed := by
    have none (l : Location) (number : Nat) : Disk.empty.node? l ≠ some (.file number) := by
      unfold Disk.node?
      split <;> simp [Disk.empty]
    exact ⟨fun l n there => absurd there (none l n), fun l _ n there => absurd there (none l n)⟩
  have proper : ∀ operation ∈ operations, operation.Proper := by decide +kernel
  have handedOut : HandedOut "A" 0 later run.events := by decide +kernel
  exact ⟨proper, handedOut, open_files_intact "o" whole proper handedOut, by decide +kernel⟩

end OperationStubs.SourceTree
