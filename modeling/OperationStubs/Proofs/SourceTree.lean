import OperationStubs.SourceTree
import OperationStubs.Proofs.Disk
import OperationStubs.Proofs.Generation

/-!
# Source files on a disk

A source file on a disk takes every byte: what was handed on and what waits make up what was
written (`Opened.write`). So a class is rendered into its file as it is into memory
(`Opened.render`), and its file ends up with the whole text or does not stay
(`generate_all_or_nothing`).
-/

namespace OperationStubs

namespace Buffered

variable {d : Disk} {handle number : Nat} (small : number < d.contents.size)
variable (open_ : handle < d.descriptors.size) (held waiting : List UInt8)

include small open_

theorem drain_holding :
    drain Disk.fileSystem ⟨handle, waiting⟩ (d.holding handle number held) =
      ((.ok (), ⟨handle, []⟩), d.holding handle number (held ++ waiting)) := by
  unfold drain
  cases waiting with
  | nil =>
    rw [List.append_nil]
    rfl
  | cons b rest =>
    have written := Disk.write_holding small open_ held (b :: rest)
    simp only [List.isEmpty_cons, Bool.false_eq_true, if_false, bind_apply, Disk.fileSystem,
      written]
    rfl

theorem write_holding (bytes : List UInt8) :
    ∃ held' waiting', held' ++ waiting' = held ++ waiting ++ bytes ∧
      write Disk.fileSystem ⟨handle, waiting⟩ bytes (d.holding handle number held) =
        ((.ok (), ⟨handle, waiting'⟩), d.holding handle number held') := by
  have drained := drain_holding small open_ held waiting
  unfold write
  by_cases fits : bytes.length < capacity - waiting.length
  · refine ⟨held, waiting ++ bytes, (List.append_assoc ..).symm, ?_⟩
    simp only [fits, if_true]
    rfl
  simp only [fits, if_false]
  by_cases spills : capacity - waiting.length < bytes.length
  · simp only [spills, if_true, bind_apply, drained]
    by_cases large : capacity ≤ bytes.length
    · have written := Disk.write_holding small open_ (held ++ waiting) bytes
      refine ⟨held ++ waiting ++ bytes, [], List.append_nil _, ?_⟩
      simp only [large, if_true, bind_apply, Disk.fileSystem, written]
      rfl
    · refine ⟨held ++ waiting, bytes, rfl, ?_⟩
      simp only [large, if_false]
      rfl
  · simp only [spills, if_false, bind_apply]
    by_cases large : capacity ≤ bytes.length
    · -- A write as large as the buffer only fits where nothing waits.
      have none : waiting = [] := by
        apply List.eq_nil_of_length_eq_zero
        have : capacity = 8192 := rfl
        omega
      subst none
      have written := Disk.write_holding small open_ held bytes
      refine ⟨held ++ bytes, [], by simp, ?_⟩
      simp only [large, if_true, pure_apply, bind_apply, Disk.fileSystem, written]
    · refine ⟨held, waiting ++ bytes, (List.append_assoc ..).symm, ?_⟩
      simp only [large, if_false]
      rfl

end Buffered

namespace SourceTree

section Apply

variable {σ h α β : Type}

theorem bind_apply (a : Action (StateM σ) h α) (f : α → Action (StateM σ) h β)
    (t : SourceTree h) (o : σ) : (a >>= f) t o = f (a t o).1.1 (a t o).1.2 (a t o).2 := rfl

theorem pure_apply (x : α) (t : SourceTree h) (o : σ) :
    (pure x : Action (StateM σ) h α) t o = ((x, t), o) := rfl

theorem get_apply (t : SourceTree h) (o : σ) :
    (get : Action (StateM σ) h (SourceTree h)) t o = ((t, t), o) := rfl

theorem set_apply (t' t : SourceTree h) (o : σ) :
    (set t' : Action (StateM σ) h PUnit) t o = (((), t'), o) := rfl

theorem modify_apply (f : SourceTree h → SourceTree h) (t : SourceTree h) (o : σ) :
    (modify f : Action (StateM σ) h PUnit) t o = (((), f t), o) := rfl

theorem lift_apply (a : StateM σ α) (t : SourceTree h) (o : σ) :
    (liftM a : Action (StateM σ) h α) t o = (((a o).1, t), (a o).2) := rfl

end Apply

section Create

variable {σ h : Type} (fs : FileSystem (StateM σ) h) {fqcn : String} {t : SourceTree h}

/-- A name that was taken down is refused, and nothing changes. -/
theorem create_known (known : fqcn ∈ t.created) (o : σ) :
    create fs fqcn t o = ((.error (Fault.alreadyGenerated fqcn), t), o) := by
  unfold create
  rw [bind_apply, get_apply]
  simp only [if_pos known, pure_apply]

/-- A new name is taken down first, also where no file comes of it. -/
theorem create_new (new : fqcn ∉ t.created) (o : σ) :
    create fs fqcn t o =
      let noted := { t with created := t.created.insert fqcn }
      match fs.makeDirs (Path.parent (t.sourcePath fqcn)) o with
      | (.error fault, o) => ((.error fault, noted), o)
      | (.ok (), o) =>
        match fs.create (t.sourcePath fqcn) o with
        | (.error fault, o) => ((.error fault, noted), o)
        | (.ok handle, o) =>
          ((.ok t.files.size, { noted with
            files := t.files.push ⟨t.sourcePath fqcn, some ⟨handle, []⟩⟩ }), o) := by
  unfold create
  rw [bind_apply, get_apply]
  simp only [if_neg new, bind_apply, set_apply, lift_apply]
  rcases fs.makeDirs _ o with ⟨_ | _, o₁⟩
  · rfl
  · simp only [bind_apply, lift_apply]
    rcases fs.create _ o₁ with ⟨_ | _, o₂⟩ <;> rfl

/-- Of the rest of the tree nothing but the names taken down changes. -/
theorem create_tree (fqcn : String) (t : SourceTree h) (o : σ) :
    let t' := (create fs fqcn t o).1.2
    t'.root = t.root ∧ t'.diagnostics = t.diagnostics ∧
      t'.created = if fqcn ∈ t.created then t.created else t.created.insert fqcn := by
  by_cases known : fqcn ∈ t.created
  · rw [create_known fs known, if_pos known]
    exact ⟨rfl, rfl, rfl⟩
  · rw [create_new fs known, if_neg known]
    dsimp only
    rcases fs.makeDirs _ o with ⟨_ | _, o₁⟩
    · exact ⟨rfl, rfl, rfl⟩
    · dsimp only
      rcases fs.create _ o₁ with ⟨_ | _, o₂⟩ <;> exact ⟨rfl, rfl, rfl⟩

end Create

/-- Files on a disk against an output in memory. -/
def lockstep (R : SourceTree Nat → Disk → Output → Prop) :
    Lockstep (Action (StateM Disk) Nat) (StateM Output) where
  Rel a a' := ∀ t d o, R t d o →
    (a t d).1.1 = (a' o).1 ∧ R (a t d).1.2 (a t d).2 (a' o).2
  pure _ _ _ _ related := ⟨rfl, related⟩
  bind := by
    intro α β a a' f f' first rest t d o related
    obtain ⟨same, after⟩ := first t d o related
    have next := rest (a t d).1.1 _ _ _ after
    rw [bind_apply, OperationStubs.bind_apply, ← same]
    exact next

theorem setTarget_setTarget (t : SourceTree Nat) (file : Nat) (a b : Option (Buffered Nat)) :
    (t.setTarget file a).setTarget file b = t.setTarget file b := by
  have files : (t.files.modify file fun f => { f with target := a }).modify file
      (fun f => { f with target := b }) = t.files.modify file fun f => { f with target := b } := by
    apply Array.ext_getElem?
    intro i
    by_cases same : file = i
    · simp only [Array.getElem?_modify, same, if_true, Option.map_map, Function.comp_def]
    · simp only [Array.getElem?_modify, same, if_false]
  simp only [setTarget, files]

theorem setTarget_of_target {t : SourceTree Nat} {file : Nat} {b : Option (Buffered Nat)}
    (same : ∀ f, t.files[file]? = some f → f.target = b) : t.setTarget file b = t := by
  have files : (t.files.modify file fun f => { f with target := b }) = t.files := by
    apply Array.ext_getElem?
    intro i
    by_cases here : file = i
    · subst here
      rw [Array.getElem?_modify, if_pos rfl]
      cases there : t.files[file]? with
      | none => rfl
      | some f => rw [Option.map_some, ← same f there]
    · rw [Array.getElem?_modify, if_neg here]
  simp only [setTarget, files]

theorem file_setTarget_ne (t : SourceTree Nat) {file file' : Nat} (other : file' ≠ file)
    (b : Option (Buffered Nat)) : (t.setTarget file' b).files[file]? = t.files[file]? := by
  simp [setTarget, Array.getElem?_modify, other]

section Target

variable {t : SourceTree Nat} {file : Nat} {path : String} {b : Option (Buffered Nat)}
variable (there : t.files[file]? = some ⟨path, b⟩)

include there

theorem target?_eq : t.target? file = b := by
  simp [target?, there]

theorem file_setTarget (b' : Option (Buffered Nat)) :
    (t.setTarget file b').files[file]? = some ⟨path, b'⟩ := by
  simp [setTarget, Array.getElem?_modify, there]

theorem setTarget_self : t.setTarget file b = t := by
  apply setTarget_of_target
  intro f same
  rw [there] at same
  rw [← Option.some.inj same]

/-- A file is removed whether it is open or not. -/
theorem discard_removes {d : Disk} {target : Location} {number : Nat}
    (located : d.locate path = .ok target) (node : d.node? target = some (.file number)) :
    discard Disk.fileSystem file t d = ((.ok (), t.setTarget file none), d.without target) := by
  have removed := Disk.remove_file located node
  simp only [discard, bind_apply, get_apply, set_apply, there, lift_apply, Disk.fileSystem, removed]

end Target

theorem close_closed {t : SourceTree Nat} {file : Nat} {path : String}
    (there : t.files[file]? = some ⟨path, none⟩) (d : Disk) :
    close Disk.fileSystem file t d = ((.ok (), t), d) := by
  simp only [close, bind_apply, get_apply, target?_eq there, pure_apply]

section Open

variable {t : SourceTree Nat} {file : Nat} {path : String} {handle : Nat} {waiting : List UInt8}
variable (there : t.files[file]? = some ⟨path, some ⟨handle, waiting⟩⟩)

variable {d : Disk} {target : Location} {number : Nat} {held : List UInt8}
variable (holds : d.Holds target handle number held)

include there holds

/-- Of what was written some may wait, behind what the file has received. -/
theorem write_open (bytes : List UInt8) :
    ∃ held' waiting', held' ++ waiting' = held ++ waiting ++ bytes ∧
      write Disk.fileSystem file bytes t d =
        ((.ok (), t.setTarget file (some ⟨handle, waiting'⟩)), d.holding handle number held') := by
  obtain ⟨held', waiting', all, written⟩ :=
    Buffered.write_holding holds.small holds.open_ held waiting bytes
  rw [holds.holding_self] at written
  refine ⟨held', waiting', all, ?_⟩
  simp only [write, bind_apply, get_apply, target?_eq there, lift_apply, written, modify_apply,
    pure_apply]

theorem flush_open : flush Disk.fileSystem file t d =
    ((.ok (), t.setTarget file (some ⟨handle, []⟩)),
      d.holding handle number (held ++ waiting)) := by
  have drained := Buffered.drain_holding holds.small holds.open_ held waiting
  rw [holds.holding_self] at drained
  simp only [flush, bind_apply, get_apply, target?_eq there, lift_apply, drained, modify_apply,
    pure_apply]

theorem close_open : close Disk.fileSystem file t d =
    ((.ok (), t.setTarget file none), d.holding handle number (held ++ waiting)) := by
  have drained := Buffered.drain_holding holds.small holds.open_ held waiting
  rw [holds.holding_self] at drained
  simp only [close, bind_apply, get_apply, target?_eq there, lift_apply, drained, modify_apply,
    pure_apply]

end Open

/-- A file of a tree, opened on a disk and still empty. -/
structure Opened (t : SourceTree Nat) (d : Disk) (file : Nat) (path : String) (handle : Nat)
    (target : Location) (number : Nat) : Prop where
  file : t.files[file]? = some ⟨path, some ⟨handle, []⟩⟩
  blank : d.Blank path handle target number

namespace Opened

variable {t : SourceTree Nat} {d : Disk} {file : Nat} {path : String} {handle : Nat}
variable {target : Location} {number : Nat} (opened : Opened t d file path handle target number)

include opened

theorem inside : file < t.files.size := (Array.getElem?_eq_some_iff.1 opened.file).1

theorem file_setTarget (b : Option (Buffered Nat)) :
    (t.setTarget file b).files[file]? = some ⟨path, b⟩ :=
  SourceTree.file_setTarget opened.file b

/-- Nothing has been written to an open file yet. -/
theorem setTarget_nil : t.setTarget file (some ⟨handle, []⟩) = t :=
  setTarget_self opened.file

theorem holds (held : List UInt8) :
    (d.holding handle number held).Holds target handle number held :=
  opened.blank.holds.holding held

theorem write (held waiting bytes : List UInt8) :
    ∃ held' waiting', held' ++ waiting' = held ++ waiting ++ bytes ∧
      SourceTree.write Disk.fileSystem file bytes (t.setTarget file (some ⟨handle, waiting⟩))
          (d.holding handle number held) =
        ((.ok (), t.setTarget file (some ⟨handle, waiting'⟩)),
          d.holding handle number held') := by
  obtain ⟨held', waiting', all, written⟩ :=
    write_open (opened.file_setTarget _) (opened.holds held) bytes
  rw [setTarget_setTarget, Disk.holding_holding] at written
  exact ⟨held', waiting', all, written⟩

theorem flush (held waiting : List UInt8) :
    SourceTree.flush Disk.fileSystem file (t.setTarget file (some ⟨handle, waiting⟩))
        (d.holding handle number held) =
      ((.ok (), t.setTarget file (some ⟨handle, []⟩)),
        d.holding handle number (held ++ waiting)) := by
  rw [flush_open (opened.file_setTarget _) (opened.holds held), setTarget_setTarget,
    Disk.holding_holding]

theorem close (held waiting : List UInt8) :
    SourceTree.close Disk.fileSystem file (t.setTarget file (some ⟨handle, waiting⟩))
        (d.holding handle number held) =
      ((.ok (), t.setTarget file none), d.holding handle number (held ++ waiting)) := by
  rw [close_open (opened.file_setTarget _) (opened.holds held), setTarget_setTarget,
    Disk.holding_holding]

/-- A discarded file is gone, and what waits for it is never written. -/
theorem discard (held waiting : List UInt8) :
    SourceTree.discard Disk.fileSystem file (t.setTarget file (some ⟨handle, waiting⟩))
        (d.holding handle number held) =
      ((.ok (), t.setTarget file none), (d.holding handle number held).without target) := by
  have located : (d.holding handle number held).locate path = .ok target :=
    Disk.locate_congr opened.blank.located rfl rfl
  rw [discard_removes (opened.file_setTarget _) located opened.blank.node, setTarget_setTarget]

theorem close_discarded (d : Disk) :
    SourceTree.close Disk.fileSystem file (t.setTarget file none) d =
      ((.ok (), t.setTarget file none), d) :=
  close_closed (opened.file_setTarget none) d

/-- The disk where a file was filled. -/
theorem filled (whole : d.WellFormed) (text : List UInt8) :
    let d' := d.holding handle number text
    d'.WellFormed ∧ d'.locate path = .ok target ∧ d'.content? target = some text ∧
      d.Spares d' target := by
  refine ⟨whole.holding handle number text, ?_, ?_, ?_⟩
  · exact Disk.locate_congr opened.blank.located rfl rfl
  · exact (opened.holds text).content?
  · exact Disk.spares_holding whole opened.blank.node handle text

/-- The disk where a file was discarded. -/
theorem discarded (whole : d.WellFormed) (held : List UInt8) :
    let d' := (d.holding handle number held).without target
    d'.WellFormed ∧ d'.locate path = .ok target ∧ d'.node? target = none ∧
      d.Spares d' target := by
  obtain ⟨whole, located, _, spares⟩ := opened.filled whole held
  have node : (d.holding handle number held).node? target = some (.file number) :=
    opened.blank.node
  refine ⟨whole.without node, ?_, ?_, ?_⟩
  · exact Disk.locate_of_keeps (Disk.keeps_without node) located
  · exact (Disk.node?_without (Disk.ne_nil_of_file node) target).trans (if_pos rfl)
  · exact spares.trans (Disk.spares_without node)

/-- A class is rendered into its file as it is into memory. -/
theorem render (g : Generator) (options : Options) (time : Timestamp) (s : Session) :
    let rendered := g.render Output.write options time s (.empty none)
    ∃ held waiting, held ++ waiting = rendered.2.accepted.toList ∧
      g.render (SourceTree.write Disk.fileSystem file) options time s t d =
        ((rendered.1, t.setTarget file (some ⟨handle, waiting⟩)),
          d.holding handle number held) := by
  let L := lockstep fun t' d' o => ∃ held waiting, held ++ waiting = o.accepted.toList ∧
    o.room = none ∧ t' = t.setTarget file (some ⟨handle, waiting⟩) ∧
      d' = d.holding handle number held
  have sinks : L.Sinks (SourceTree.write Disk.fileSystem file) Output.write := by
    rintro bytes _ _ o ⟨held, waiting, all, room, rfl, rfl⟩
    obtain ⟨held', waiting', all', written⟩ := opened.write held waiting bytes
    have taken : Output.write bytes o = (.ok (), { o with accepted := o.accepted ++ bytes }) := by
      simp only [Output.write, room]
    rw [written, taken]
    exact ⟨rfl, held', waiting', by simp [all', all], room, rfl, rfl⟩
  have start : ∃ held waiting, held ++ waiting = (Output.empty none).accepted.toList ∧
      (Output.empty none).room = none ∧ t = t.setTarget file (some ⟨handle, waiting⟩) ∧
        d = d.holding handle number held :=
    ⟨[], [], rfl, rfl, opened.setTarget_nil.symm, opened.blank.holds.holding_self.symm⟩
  obtain ⟨same, held, waiting, all, _, tree, disk⟩ :=
    Lockstep.render sinks g options time s t d (.empty none) start
  exact ⟨held, waiting, all, Prod.ext (Prod.ext same tree) disk⟩

end Opened

/-- What asking for the file of a class comes to. -/
inductive Created (d : Disk) (path : String) :
    (Except Fault Nat × SourceTree Nat) × Disk → Prop
  | refused (fault : Fault) (t' : SourceTree Nat) (d' : Disk) (whole : d'.WellFormed)
      (same : ∀ l, d'.content? l = d.content? l) : Created d path ((.error fault, t'), d')
  | opened (file : Nat) (t' : SourceTree Nat) (d' : Disk) (handle : Nat) (target : Location)
      (number : Nat) (opened : Opened t' d' file path handle target number)
      (whole : d'.WellFormed) (spares : d.Spares d' target) : Created d path ((.ok file, t'), d')

theorem created_create (t : SourceTree Nat) {d : Disk} (whole : d.WellFormed) (fqcn : String) :
    Created d (t.sourcePath fqcn) (create Disk.fileSystem fqcn t d) := by
  by_cases known : fqcn ∈ t.created
  · rw [create_known Disk.fileSystem known]
    exact .refused _ _ d whole fun _ => rfl
  rw [create_new Disk.fileSystem known]
  have grown := Disk.grown_makeDirs (Path.parent (t.sourcePath fqcn)) d
  rcases made : Disk.makeDirs (Path.parent (t.sourcePath fqcn)) d with ⟨answer, d₁⟩
  rw [made] at grown
  have whole₁ : d₁.WellFormed := grown.wellFormed whole
  simp only [Disk.fileSystem, made]
  rcases answer with fault | _ <;> dsimp only
  · exact .refused _ _ d₁ whole₁ grown.content?
  rcases Disk.create_cases whole₁ (t.sourcePath fqcn) with ⟨fault, refused⟩ |
    ⟨handle, target, number, answer, blank, whole₂, spares⟩
  · simp only [refused]
    exact .refused _ _ d₁ whole₁ grown.content?
  · rcases opened : Disk.create (t.sourcePath fqcn) d₁ with ⟨result, d₂⟩
    rw [opened] at answer blank whole₂ spares
    obtain rfl : result = .ok handle := answer
    refine .opened _ _ _ handle target number ⟨by simp, blank⟩ whole₂ fun l other => ?_
    exact (spares l other).trans (grown.content? l)

/-- Source files on a disk, at a given time. -/
def onDisk (time : Timestamp) : Environment (Action (StateM Disk) Nat) Nat :=
  environment Disk.fileSystem (pure time)

section End

variable (time : Timestamp) (g : Generator) (failure : ClassFailure) (s : Session)

theorem complain_onDisk (t : SourceTree Nat) (d : Disk) :
    (g.complain (onDisk time) failure s t d).1.1.1 = .failed ∧
      (g.complain (onDisk time) failure s t d).2 = d := ⟨rfl, rfl⟩

variable {t : SourceTree Nat} {d : Disk} {file : Nat} {path : String} {handle : Nat}
variable {target : Location} {number : Nat} (opened : Opened t d file path handle target number)
variable (held : List UInt8)

include opened

theorem Opened.giveUp (waiting : List UInt8) :
    let ended := g.giveUp (onDisk time) file failure s (t.setTarget file (some ⟨handle, waiting⟩))
      (d.holding handle number held)
    ended.1.1.1 = .failed ∧ ended.2 = (d.holding handle number held).without target := by
  have discarded := opened.discard held waiting
  have closed := opened.close_discarded ((d.holding handle number held).without target)
  simp only [Generator.giveUp, bind_apply, onDisk, environment, discarded, closed]
  exact complain_onDisk time g failure _ _ _

theorem Opened.finish :
    let ended := g.finish (onDisk time) file s (t.setTarget file (some ⟨handle, []⟩))
      (d.holding handle number held)
    ended.1.1.1 = .generated ∧ ended.2 = d.holding handle number held := by
  have closed := opened.close held []
  simp only [Generator.finish, bind_apply, onDisk, environment, closed, List.append_nil]
  exact ⟨rfl, rfl⟩

end End

/-- Generates a class on a disk. -/
def generateAt (time : Timestamp) (options : Options) (g : Generator) (s : Session)
    (t : SourceTree Nat) (d : Disk) : ((Status × Session) × SourceTree Nat) × Disk :=
  (g.generate (onDisk time) options).run s t d

/-- What earlier generations can leave, on a disk that was there before. -/
inductive Reached : SourceTree Nat → Disk → Prop
  | start (root : String) {d : Disk} (whole : d.WellFormed) : Reached (.empty root) d
  | next {t : SourceTree Nat} {d : Disk} (time : Timestamp) (options : Options) (g : Generator)
      (s : Session) (before : Reached t d) :
      Reached (generateAt time options g s t d).1.2 (generateAt time options g s t d).2

/-- What becomes of a disk `d` when the class with the file at `path` is generated, by how the file
was opened and how the class is rendered. -/
inductive Settled (d : Disk) (path : String) (text : List UInt8) :
    Except Fault Nat → Except Fault Unit → Status → Disk → Prop
  | refused (fault : Fault) (rendered : Except Fault Unit) (d' : Disk)
      (same : ∀ l, d'.content? l = d.content? l) :
      Settled d path text (.error fault) rendered .failed d'
  | removed (file : Nat) (fault : Fault) (d' : Disk) (target : Location)
      (located : d'.locate path = .ok target) (gone : d'.node? target = none)
      (spares : d.Spares d' target) : Settled d path text (.ok file) (.error fault) .failed d'
  | written (file : Nat) (d' : Disk) (target : Location) (located : d'.locate path = .ok target)
      (whole : d'.content? target = some text) (spares : d.Spares d' target) :
      Settled d path text (.ok file) (.ok ()) .generated d'

theorem settled_generateAt (time : Timestamp) (options : Options) (g : Generator) (s : Session)
    (t : SourceTree Nat) {d : Disk} (whole : d.WellFormed) :
    let opened := (create Disk.fileSystem g.model.fqcn t d).1.1
    let rendered := g.render Output.write options time s (.empty none)
    let ended := generateAt time options g s t d
    ended.2.WellFormed ∧ Settled d (t.sourcePath g.model.fqcn) rendered.2.accepted.toList opened
      rendered.1.1 ended.1.1.1 ended.2 := by
  have run := congrFun (congrFun (g.run_generate (onDisk time) options s) t) d
  have create_eq : (onDisk time).create g.model.fqcn g.model.source.origin =
    create Disk.fileSystem g.model.fqcn := rfl
  have created := created_create t whole g.model.fqcn
  simp only [bind_apply, create_eq] at run
  rcases made : create Disk.fileSystem g.model.fqcn t d with ⟨⟨answer, t₁⟩, d₁⟩
  rw [made] at created run
  simp only [generateAt, run]
  cases created with
  | refused fault _ _ whole₁ same => exact ⟨whole₁, .refused fault _ d₁ same⟩
  | opened file _ _ handle target number opened whole₁ spares =>
    obtain ⟨held, waiting, text, written⟩ := opened.render g options time s
    have now_eq : (onDisk time).now = liftM (pure time : StateM Disk Timestamp) := rfl
    have write_eq : (onDisk time).write file = write Disk.fileSystem file := rfl
    have time_eq : (pure time : StateM Disk Timestamp) d₁ = (time, d₁) := rfl
    simp only [bind_apply, now_eq, lift_apply, write_eq, time_eq, written]
    rcases rendered : g.render Output.write options time s (.empty none) with ⟨⟨fault | _, s₁⟩, o⟩
    · obtain ⟨status, disk⟩ :=
        opened.giveUp time g (.cannotWrite g.model.fqcn fault) s₁ held waiting
      obtain ⟨whole₂, located, gone, others⟩ := opened.discarded whole₁ held
      simp only [status, disk]
      exact ⟨whole₂, .removed file fault _ target located gone (spares.trans others)⟩
    · have flush_eq : (onDisk time).flush file = flush Disk.fileSystem file := rfl
      obtain ⟨status, disk⟩ := opened.finish time g s₁ (held ++ waiting)
      obtain ⟨whole₂, located, content, others⟩ := opened.filled whole₁ (held ++ waiting)
      simp only [bind_apply, flush_eq, opened.flush held waiting, status, disk]
      rw [rendered] at text
      refine ⟨whole₂, .written file _ target located ?_ (spares.trans others)⟩
      rw [content, text]

theorem Reached.wellFormed {t : SourceTree Nat} {d : Disk} (reached : Reached t d) :
    d.WellFormed := by
  induction reached with
  | start root whole => exact whole
  | next time options g s _ ih => exact (settled_generateAt time options g s _ ih).1

/-- Whatever earlier generations have left, generating a class puts its whole text into its file,
or takes the file away, or was refused the file and touches none. No other file changes. -/
theorem generate_all_or_nothing {t : SourceTree Nat} {d : Disk} (reached : Reached t d)
    (time : Timestamp) (options : Options) (g : Generator) (s : Session) :
    let opened := (create Disk.fileSystem g.model.fqcn t d).1.1
    let rendered := g.render Output.write options time s (.empty none)
    let ended := generateAt time options g s t d
    Settled d (t.sourcePath g.model.fqcn) rendered.2.accepted.toList opened rendered.1.1
      ended.1.1.1 ended.2 :=
  (settled_generateAt time options g s t reached.wellFormed).2

/-- A class in place of an older and longer file. -/
theorem generate_all_or_nothing_overwrite :
    let d : Disk := ⟨[(["AX.java", "o"], .file 0), (["o"], .directory)],
      #[List.replicate 100 65], #[], []⟩
    let g : Generator := ⟨⟨⟨"A", "", ∅, none⟩, [], "X", ∅, none⟩, pure (), pure ()⟩
    let time : Timestamp := ⟨2024, 1, 1, 0, 0, 0⟩
    Reached (.empty "o") d ∧
      Settled d ((SourceTree.empty "o" : SourceTree Nat).sourcePath g.model.fqcn)
        (g.render Output.write { } time .empty (.empty none)).2.accepted.toList
        (create Disk.fileSystem g.model.fqcn (.empty "o") d).1.1
        (g.render Output.write { } time .empty (.empty none)).1.1
        (generateAt time { } g .empty (.empty "o") d).1.1.1
        (generateAt time { } g .empty (.empty "o") d).2 ∧
      (generateAt time { } g .empty (.empty "o") d).1.1.1 = .generated := by
  intro d g time
  have only (l : Location) (number : Nat) (there : d.node? l = some (.file number)) :
      l = ["AX.java", "o"] ∧ number = 0 := by
    by_cases file : l = ["AX.java", "o"]
    · subst file
      have node : d.node? ["AX.java", "o"] = some (.file 0) := by decide
      exact ⟨rfl, (Node.file.inj (Option.some.inj (node.symm.trans there))).symm⟩
    · by_cases above : l = ["o"]
      · subst above
        have node : d.node? ["o"] = some .directory := by decide
        exact nomatch Option.some.inj (node.symm.trans there)
      · simp [d, Disk.node?, List.lookup_cons, beq_eq_false_iff_ne.2 file,
          beq_eq_false_iff_ne.2 above] at there
  have whole : d.WellFormed := by
    constructor
    · intro l number there
      rw [(only l number there).2]
      decide
    · intro l l' number there there'
      rw [(only l number there).1, (only l' number there').1]
  have reached : Reached (.empty "o") d := .start "o" whole
  exact ⟨reached, generate_all_or_nothing reached time { } g .empty, by decide +kernel⟩

end SourceTree
end OperationStubs
