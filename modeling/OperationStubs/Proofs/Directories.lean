import Mathlib.Data.List.Induction
import OperationStubs.Proofs.Disk
import OperationStubs.Proofs.Path

/-!
# Making directories

Where no file is in the way, the directories of a path can be made (`makeDirs_made`). Of the
directories below the one that a root leads to, these and no others come to be there, and then a
file in them can be located (`locate_made`).
-/

namespace OperationStubs.Disk

/-- The directory that a row of pieces leads to. -/
def walk (d : Disk) (l : Location) (pieces : List String) : Except Fault Location :=
  pieces.foldlM d.enter l

/-- A piece that names something in a directory. -/
structure IsName (piece : String) : Prop where
  here : Path.isHere piece = false
  up : piece ≠ ".."
  short : (utf8 piece).length ≤ maxNameBytes

section Walk

variable {d d' : Disk} {l : Location}

theorem walk_cons (piece : String) (rest : List String) :
    d.walk l (piece :: rest) = d.enter l piece >>= fun l => d.walk l rest := rfl

theorem walk_append (pieces more : List String) :
    d.walk l (pieces ++ more) = d.walk l pieces >>= fun l => d.walk l more :=
  List.foldlM_append

theorem ok_bind {α β : Type} (x : α) (f : α → Except Fault β) : Except.ok x >>= f = f x := rfl

theorem error_bind {α β : Type} (fault : Fault) (f : α → Except Fault β) :
    Except.error fault >>= f = .error fault := rfl

/-- Pieces that stay where they are make no difference. -/
theorem walk_filter (pieces : List String) :
    d.walk l (pieces.filter fun piece => !Path.isHere piece) = d.walk l pieces := by
  induction pieces generalizing l with
  | nil => rfl
  | cons piece pieces ih =>
    by_cases here : Path.isHere piece
    · have stays : d.enter l piece = .ok l := by simp [enter, here]
      rw [List.filter_cons_of_neg (by simp [here]), ih, walk_cons, stays, ok_bind]
    · rw [List.filter_cons_of_pos (by simp [here]), walk_cons, walk_cons]
      exact bind_congr fun l => ih

theorem walk_of_keeps (keeps : d.Keeps d') {pieces : List String} {target : Location}
    (h : d.walk l pieces = .ok target) : d'.walk l pieces = .ok target := by
  induction pieces generalizing l with
  | nil => exact h
  | cons piece pieces ih =>
    rw [walk_cons] at h ⊢
    cases entered : d.enter l piece with
    | error fault => simp [entered, error_bind] at h
    | ok l' =>
      rw [entered, ok_bind] at h
      rw [enter_of_keeps keeps entered, ok_bind]
      exact ih h

theorem locateFrom_concat (pieces : List String) (last : String) :
    d.locateFrom l (pieces ++ [last]) =
      d.walk l pieces >>= fun l => d.locateFrom l [last] := by
  induction pieces generalizing l with
  | nil => rfl
  | cons piece pieces ih =>
    obtain ⟨next, rest, eq⟩ : ∃ next rest, pieces ++ [last] = next :: rest :=
      List.exists_cons_of_ne_nil (by simp)
    rw [walk_cons, bind_assoc, List.cons_append, eq]
    simp only [← ih, eq]
    rfl

variable {piece : String} (is : IsName piece)

include is

theorem locateFrom_name : d.locateFrom l [piece] = .ok (piece :: l) := by
  have short : ¬ maxNameBytes < (utf8 piece).length := Nat.not_lt.2 is.short
  simp [locateFrom, is.here, is.up, short]

theorem enter_directory (there : d.node? (piece :: l) = some .directory) :
    d.enter l piece = .ok (piece :: l) := by
  have short : ¬ maxNameBytes < (utf8 piece).length := Nat.not_lt.2 is.short
  simp [enter, is.here, is.up, short, there]

theorem enter_free (free : d.node? (piece :: l) = none) :
    d.enter l piece = .error Fault.notFound := by
  have short : ¬ maxNameBytes < (utf8 piece).length := Nat.not_lt.2 is.short
  simp [enter, is.here, is.up, short, free]

end Walk

section Locate

variable {d : Disk} {l target : Location}

/-- Where one piece leads, it leads into a directory. -/
theorem locateFrom_single_iff {piece : String} (directory : d.node? target = some .directory) :
    d.locateFrom l [piece] = .ok target ↔ d.enter l piece = .ok target := by
  unfold locateFrom enter
  by_cases here : Path.isHere piece
  · simp [here]
  by_cases up : piece = ".."
  · simp [up]
  by_cases long : maxNameBytes < (utf8 piece).length
  · simp [here, up, long]
  simp only [here, up, long, if_false, Bool.false_or, beq_iff_eq, Bool.false_eq_true]
  cases node : d.node? (piece :: l) with
  | none =>
    simp only [Except.ok.injEq, reduceCtorEq, iff_false]
    rintro rfl
    simp [directory] at node
  | some there =>
    cases there with
    | directory => rfl
    | file number =>
      simp only [Except.ok.injEq, reduceCtorEq, iff_false]
      rintro rfl
      simp [directory] at node

/-- A directory can be located if and only if it can be walked to. -/
theorem locateFrom_iff_walk {pieces : List String} (directory : d.node? target = some .directory) :
    d.locateFrom l pieces = .ok target ↔ d.walk l pieces = .ok target := by
  rcases List.eq_nil_or_concat pieces with rfl | ⟨above, last, rfl⟩
  · exact Iff.rfl
  rw [List.concat_eq_append, walk_append, locateFrom_concat]
  cases walked : d.walk l above with
  | error fault => exact Iff.rfl
  | ok l' =>
    have single : d.walk l' [last] = d.enter l' last := by
      rw [walk_cons]
      cases d.enter l' last <;> rfl
    rw [ok_bind, ok_bind, single]
    exact locateFrom_single_iff directory

end Locate

/-- A path leads to a directory. The empty path leads to the working directory. -/
def Leads (d : Disk) (path : String) (l : Location) : Prop :=
  d.node? l = some .directory ∧ if path = "" then l = d.here else d.locate path = .ok l

theorem start_of_keeps {d d' : Disk} (keeps : d.Keeps d') (path : String) :
    d'.start path = d.start path := by
  simp [start, keeps.1]

namespace Leads

variable {d : Disk} {root : String} {base : Location} (leads : d.Leads root base)

include leads

theorem keeps {d' : Disk} (keeps : d.Keeps d') : d'.Leads root base := by
  obtain ⟨directory, leads⟩ := leads
  refine ⟨keeps.2 base directory, ?_⟩
  split at leads
  · rename_i blank
    rw [if_pos blank, leads, keeps.1]
  · rename_i named
    rw [if_neg named]
    exact locate_of_keeps keeps leads

theorem walk : d.walk (d.start root) (Path.names root) = .ok base := by
  obtain ⟨directory, leads⟩ := leads
  rw [Path.names, walk_filter, ← locateFrom_iff_walk directory]
  split at leads
  · rename_i blank
    rw [blank, leads]
    rfl
  · unfold locate at leads
    split at leads
    · simp at leads
    · split at leads
      · simp at leads
      · exact leads

theorem nul_notMem : '\x00' ∉ root.toList := by
  obtain ⟨_, leads⟩ := leads
  split at leads
  · rename_i blank
    simp [blank]
  · intro mem
    simp [locate, mem] at leads

end Leads

theorem Grown.keeps {d d' : Disk} (h : Grown d d') : d.Keeps d' := by
  refine ⟨h.here, fun l directory => ?_⟩
  rcases h.node l with same | ⟨free, _⟩
  · exact same.trans directory
  · simp [directory] at free

/-- `d'` is `d` with the directories of a path below `base`. -/
structure Made (d d' : Disk) (base : Location) (folders : List String) : Prop where
  grown : Grown d d'
  way : d'.walk base folders = .ok (folders.reverse ++ base)
  only : ∀ l, d'.node? l = d.node? l ∨
    ∃ above, above <+: folders ∧ above ≠ [] ∧ l = above.reverse ++ base

/-- No file is where a directory of a path is to be. -/
def Clear (d : Disk) (base : Location) (folders : List String) : Prop :=
  ∀ above, above <+: folders → above ≠ [] → ∀ number,
    d.node? (above.reverse ++ base) ≠ some (.file number)

section Make

variable {d : Disk} {l base : Location}

theorem walk_clear {folders : List String} (names : ∀ folder ∈ folders, IsName folder)
    (clear : d.Clear base folders) :
    d.walk base folders = .ok (folders.reverse ++ base) ∨
      d.walk base folders = .error Fault.notFound := by
  induction folders generalizing base with
  | nil => exact .inl rfl
  | cons folder folders ih =>
    obtain ⟨is, names⟩ := List.forall_mem_cons.1 names
    rw [walk_cons]
    cases node : d.node? (folder :: base) with
    | none =>
      rw [enter_free is node]
      exact .inr rfl
    | some there =>
      cases there with
      | file number =>
        refine absurd node (clear [folder] ?_ (by simp) number)
        exact ⟨folders, rfl⟩
      | directory =>
        rw [enter_directory is node, ok_bind, List.reverse_cons, List.append_assoc]
        refine ih names fun above begins _ number => ?_
        have further := clear (folder :: above) (by simpa using begins) (by simp) number
        rwa [List.reverse_cons, List.append_assoc] at further

/-- A directory in a directory that is there can be made. -/
theorem settle_makeDir {path : List String} {target : Location}
    (located : d.locateFrom l path = .ok target)
    (clear : ∀ number, d.node? target ≠ some (.file number)) :
    ∃ d', settle path l (makeDir path l d) = (.ok (), d') ∧
      d'.node? target = some .directory ∧ ∀ l, l ≠ target → d'.node? l = d.node? l := by
  unfold makeDir
  simp only [located]
  cases node : d.node? target with
  | none =>
    have nodes := node?_addNode node .directory
    exact ⟨_, rfl, (nodes target).trans (if_pos rfl), fun l ne => (nodes l).trans (if_neg ne)⟩
  | some there =>
    cases there with
    | file number => exact absurd node (clear number)
    | directory =>
      refine ⟨d, ?_, node, fun _ _ => rfl⟩
      simp [settle, located, isDirectory, node]

theorem makeDirsFrom_located {piece : String} {above : List String} {target : Location}
    (located : d.locateFrom l (piece :: above).reverse = .ok target) :
    makeDirsFrom l (piece :: above) d =
      settle (piece :: above).reverse l (makeDir (piece :: above).reverse l d) := by
  have ne : Fault.fileExists ≠ Fault.notFound := by decide
  simp only [makeDirsFrom, makeDir, located]
  cases d.node? target with
  | none => rfl
  | some there => simp [ne]

theorem makeDirsFrom_missing {piece : String} {above : List String} {d' : Disk}
    (missing : d.locateFrom l (piece :: above).reverse = .error Fault.notFound)
    (made : makeDirsFrom l above d = (.ok (), d')) :
    makeDirsFrom l (piece :: above) d =
      settle (piece :: above).reverse l (makeDir (piece :: above).reverse l d') := by
  have first : makeDir (piece :: above).reverse l d = (.error Fault.notFound, d) := by
    unfold makeDir
    rw [missing]
  simp only [makeDirsFrom, first, if_true, made]

theorem Made.refl {folders : List String}
    (way : d.walk base folders = .ok (folders.reverse ++ base)) :
    Made d d base folders :=
  ⟨.refl d, way, fun _ => .inl rfl⟩

/-- One directory further down. -/
theorem Made.concat {d₀ : Disk} {known folders : List String} {folder : String}
    (made : Made d d₀ base folders) (walked : d.walk l known = .ok base) (is : IsName folder)
    (clear : ∀ number, d.node? (folder :: (folders.reverse ++ base)) ≠ some (.file number)) :
    let path := known ++ folders ++ [folder]
    ∃ d', settle path l (makeDir path l d₀) = (.ok (), d') ∧
      Made d d' base (folders ++ [folder]) := by
  intro path
  have located : d₀.locateFrom l path = .ok (folder :: (folders.reverse ++ base)) := by
    rw [locateFrom_concat, walk_append, walk_of_keeps made.grown.keeps walked, ok_bind, made.way]
    exact locateFrom_name is
  obtain ⟨d', settled, there, others⟩ := settle_makeDir located
    fun number node => clear number (made.grown.file node)
  have grown : Grown d₀ d' := by
    have all := grown_makeDir path l d₀
    rwa [← settle_snd path l, settled] at all
  refine ⟨d', settled, made.grown.trans grown, ?_, fun l' => ?_⟩
  · rw [walk_append, walk_of_keeps grown.keeps made.way, ok_bind, walk_cons,
      enter_directory is there, List.reverse_append]
    rfl
  · by_cases target : l' = folder :: (folders.reverse ++ base)
    · exact .inr ⟨folders ++ [folder], List.prefix_refl _, by simp, by simp [target]⟩
    · rw [others l' target]
      refine (made.only l').imp_right ?_
      rintro ⟨above, begins, some, eq⟩
      exact ⟨above, begins.trans (List.prefix_append _ _), some, eq⟩

theorem makeDirsFrom_made {known folders : List String} (walked : d.walk l known = .ok base)
    (directory : d.node? base = some .directory) (names : ∀ folder ∈ folders, IsName folder)
    (clear : d.Clear base folders) :
    ∃ d', makeDirsFrom l (known ++ folders).reverse d = (.ok (), d') ∧
      Made d d' base folders := by
  induction folders using List.reverseRecOn with
  | nil =>
    rw [List.append_nil]
    refine ⟨d, ?_, .refl rfl⟩
    rcases reversed : known.reverse with _ | ⟨last, above⟩
    · rfl
    · have located : d.locateFrom l (last :: above).reverse = .ok base := by
        rw [locateFrom_iff_walk directory, ← reversed, List.reverse_reverse]
        exact walked
      rw [makeDirsFrom_located located]
      simp only [makeDir, located, directory, settle, isDirectory, BEq.rfl, if_true]
  | append_singleton folders folder ih =>
    have is := names folder (by simp)
    have names' : ∀ folder ∈ folders, IsName folder := fun folder mem =>
      names folder (by simp [mem])
    have clear' : d.Clear base folders := fun above begins =>
      clear above (begins.trans (List.prefix_append _ _))
    have free : ∀ number, d.node? (folder :: (folders.reverse ++ base)) ≠ some (.file number) := by
      intro number
      have last := clear (folders ++ [folder]) (List.prefix_refl _) (by simp) number
      simpa using last
    have reversed : (known ++ (folders ++ [folder])).reverse =
        folder :: (known ++ folders).reverse := by simp
    have path : (folder :: (known ++ folders).reverse).reverse = known ++ folders ++ [folder] := by
      simp
    rw [reversed]
    rcases walk_clear names' clear' with way | missing
    · have located : d.locateFrom l (folder :: (known ++ folders).reverse).reverse =
          .ok (folder :: (folders.reverse ++ base)) := by
        rw [path, locateFrom_concat, walk_append, walked, ok_bind, way]
        exact locateFrom_name is
      rw [makeDirsFrom_located located, path]
      exact (Made.refl way).concat walked is free
    · have missing : d.locateFrom l (folder :: (known ++ folders).reverse).reverse =
          .error Fault.notFound := by
        rw [path, locateFrom_concat, walk_append, walked, ok_bind, missing, error_bind]
      obtain ⟨d₀, above, made⟩ := ih names' clear'
      rw [makeDirsFrom_missing missing above, path]
      exact made.concat walked is free

end Make

/-- A path that keeps to the limits. -/
def Fits (path : String) : Prop :=
  (utf8 path).length ≤ maxPathBytes ∧
    ∀ piece ∈ Path.pieces path, (utf8 piece).length ≤ maxNameBytes

instance (path : String) : Decidable (Fits path) := inferInstanceAs (Decidable (_ ∧ _))

/-- A class file and its directories, as names. -/
structure Below (folders : List String) (file : String) : Prop where
  folders : ∀ folder ∈ folders, Path.Plain folder ∧ folder ≠ ".." ∧ '\x00' ∉ folder.toList
  file : Path.Plain file ∧ file ≠ ".." ∧ '\x00' ∉ file.toList

namespace Below

variable {d : Disk} {root : String} {base : Location} {folders : List String} {file : String}
variable (below : Below folders file) (fits : Fits (Path.push (folders.foldl Path.push root) file))

include below

theorem plain : ∀ folder ∈ folders, Path.Plain folder := fun folder mem =>
  (below.folders folder mem).1

theorem relative : ∀ folder ∈ folders, Path.isAbsolute folder = false := fun folder mem =>
  (below.plain folder mem).relative

theorem nul_notMem (leads : d.Leads root base) :
    '\x00' ∉ (Path.push (folders.foldl Path.push root) file).toList := by
  refine Path.notMem_push (by decide) below.file.1 ?_ below.file.2.2
  exact Path.notMem_foldl_push (by decide) below.plain leads.nul_notMem
    fun folder mem => (below.folders folder mem).2.2

theorem names : Path.names (Path.push (folders.foldl Path.push root) file) =
    Path.names root ++ folders ++ [file] := by
  rw [Path.names_push _ below.file.1, Path.names_foldl_push _ below.plain]

include fits

theorem isName {name : String} (mem : name ∈ folders ++ [file]) : IsName name := by
  have plain : Path.Plain name ∧ name ≠ ".." ∧ '\x00' ∉ name.toList := by
    rcases List.mem_append.1 mem with mem | mem
    · exact below.folders name mem
    · exact List.mem_singleton.1 mem ▸ below.file
  refine ⟨plain.1.here, plain.2.1, fits.2 name ?_⟩
  have among : name ∈ Path.names (Path.push (folders.foldl Path.push root) file) := by
    rw [below.names, List.append_assoc]
    exact List.mem_append_right _ mem
  exact (List.mem_filter.1 among).1

/-- The directories that a class file is to go to can be made. -/
theorem makeDirs_made (leads : d.Leads root base) (clear : d.Clear base folders) :
    ∃ d', makeDirs (Path.parent (Path.push (folders.foldl Path.push root) file)) d = (.ok (), d') ∧
      Made d d' base folders := by
  obtain ⟨names, absolute⟩ := Path.parent_push (folders.foldl Path.push root) below.file.1
  have beginning := Path.parent_prefix (Path.push (folders.foldl Path.push root) file)
  have nul : '\x00' ∉ (Path.parent (Path.push (folders.foldl Path.push root) file)).toList :=
    fun mem => below.nul_notMem leads (beginning.subset mem)
  have short : (utf8 (Path.parent (Path.push (folders.foldl Path.push root) file))).length ≤
      maxPathBytes := by
    obtain ⟨rest, whole⟩ := beginning
    refine Nat.le_trans ?_ fits.1
    rw [utf8, utf8, ← whole, List.flatMap_append, List.length_append]
    exact Nat.le_add_right _ _
  have start : d.start (Path.parent (Path.push (folders.foldl Path.push root) file)) =
      d.start root := by
    rw [Disk.start, absolute, Path.isAbsolute_foldl_push _ below.relative]
    rfl
  obtain ⟨d', made, all⟩ := makeDirsFrom_made leads.walk leads.1
    (fun folder mem => below.isName fits (List.mem_append_left _ mem)) clear
  refine ⟨d', ?_, all⟩
  rw [← made, ← Path.names_foldl_push _ below.plain, ← names, ← start]
  simp only [makeDirs, List.contains_eq_mem, nul, decide_false, Bool.false_eq_true, if_false,
    Nat.not_lt.2 short]
  rfl

/-- In its directories a class file can be located. -/
theorem locate_made {d' : Disk} (leads : d.Leads root base) (made : Made d d' base folders) :
    d'.locate (Path.push (folders.foldl Path.push root) file) =
      .ok (file :: (folders.reverse ++ base)) := by
  have nul := below.nul_notMem leads
  obtain ⟨above, pieces, filtered⟩ := Path.pieces_push (folders.foldl Path.push root) below.file.1
  have named : Path.push (folders.foldl Path.push root) file ≠ "" := by
    intro blank
    have none : Path.names (Path.push (folders.foldl Path.push root) file) = _ := below.names
    rw [blank] at none
    simp [Path.names, Path.pieces, Text.pieces, Path.isHere] at none
  have start : d'.start (Path.push (folders.foldl Path.push root) file) = d.start root := by
    rw [start_of_keeps made.grown.keeps, Disk.start, Path.isAbsolute_push _ below.file.1.relative,
      Path.isAbsolute_foldl_push _ below.relative]
    rfl
  have walked : d'.walk (d.start root) above = .ok (folders.reverse ++ base) := by
    rw [← walk_filter, filtered, Path.names_foldl_push _ below.plain, walk_append,
      walk_of_keeps made.grown.keeps leads.walk, ok_bind, made.way]
  unfold locate
  rw [start, pieces, locateFrom_concat, walked, ok_bind,
    locateFrom_name (below.isName fits (List.mem_append_right _ (List.mem_singleton_self file)))]
  simp [nul, named, Nat.not_lt.2 fits.1]

end Below

end OperationStubs.Disk
