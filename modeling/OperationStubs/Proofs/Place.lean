import OperationStubs.SourceTree
import OperationStubs.Proofs.Directories

/-!
# The place of a class below the root

A class goes to a directory for each part of its package and to a file there (`Name.place`). Where
its path can be located it leads to that place below the directory that the root leads to
(`locate_place`). Directories have no dot in their names and class files do. The place of a class
with a proper name tells the name (`place_injective`).
-/

namespace OperationStubs

namespace Name

/-- The directories of a class, from the top. Empty parts of its package lead nowhere. -/
def folders (fqcn : String) : List String :=
  ((Text.pieces '.' (qualifier fqcn).toList).filter (· != [])).map String.ofList

def fileName (fqcn : String) : String := simple fqcn ++ ".java"

/-- Where the file of a class stands, seen from the directory `base`. -/
def place (base : Location) (fqcn : String) : Location :=
  fileName fqcn :: ((folders fqcn).reverse ++ base)

theorem pathBelow_eq (root fqcn : String) : SourceTree.pathBelow root fqcn =
    Path.push ((folders fqcn).foldl Path.push root) (fileName fqcn) := rfl

theorem fileName_ne (fqcn : String) {piece : String} (short : piece.toList.length < 5) :
    fileName fqcn ≠ piece := by
  rintro rfl
  simp only [fileName, String.toList_append, List.length_append] at short
  have java : ".java".toList.length = 5 := rfl
  omega

theorem dot_mem_fileName (fqcn : String) : '.' ∈ (fileName fqcn).toList := by
  simp [fileName]

section Slash

variable {fqcn : String} (slash : '/' ∉ fqcn.toList)

include slash

theorem plain_fileName : Path.Plain (fileName fqcn) := by
  constructor
  · have free := (notMem_parts slash).2
    simpa [fileName] using free
  · have ne_blank : fileName fqcn ≠ "" := fileName_ne fqcn (by decide)
    have ne_here : fileName fqcn ≠ "." := fileName_ne fqcn (by decide)
    simp [Path.isHere, ne_blank, ne_here]

/-- A directory of a class has a proper name without a dot. -/
theorem plain_folder {folder : String} (mem : folder ∈ folders fqcn) :
    Path.Plain folder ∧ '.' ∉ folder.toList := by
  obtain ⟨segment, among, rfl⟩ := List.mem_map.1 mem
  obtain ⟨among, some⟩ := List.mem_filter.1 among
  have dot := Text.notMem_of_mem_pieces among
  have ne_blank : String.ofList segment ≠ "" := by
    intro eq
    have : segment = [] := by simpa using congrArg String.toList eq
    simp [this] at some
  have ne_here : String.ofList segment ≠ "." := by
    intro eq
    have : segment = ['.'] := by simpa using congrArg String.toList eq
    simp [this] at dot
  refine ⟨⟨?_, by simp [Path.isHere, ne_blank, ne_here]⟩, by simpa using dot⟩
  intro inside
  have inside : '/' ∈ segment := by simpa using inside
  exact (notMem_parts slash).1 (Text.mem_of_mem_pieces among inside)

end Slash

/-- A name of proper parts. -/
def WellFormed (fqcn : String) : Prop :=
  ∀ segment ∈ Text.pieces '.' fqcn.toList, segment ≠ [] ∧ '/' ∉ segment

instance (fqcn : String) : Decidable (WellFormed fqcn) :=
  inferInstanceAs (Decidable (∀ _ ∈ _, _))

namespace WellFormed

variable {fqcn fqcn' : String} (well : WellFormed fqcn) (well' : WellFormed fqcn')

include well

theorem slash : '/' ∉ fqcn.toList :=
  Text.notMem_of_pieces (by decide) fun segment among => (well segment among).2

/-- The name, read off its directories and its last part. -/
theorem eq_join : fqcn = String.join ((folders fqcn).map (· ++ ".")) ++ simple fqcn := by
  rcases qualifier_simple fqcn with ⟨none, whole⟩ | split
  · simp [folders, none, whole, Text.pieces]
  · have parts : Text.pieces '.' fqcn.toList =
        Text.pieces '.' (qualifier fqcn).toList ++ Text.pieces '.' (simple fqcn).toList := by
      rw [← Text.pieces_append]
      refine congrArg (Text.pieces '.') ((congrArg String.toList split).trans ?_)
      simp
    have all : (folders fqcn) = (Text.pieces '.' (qualifier fqcn).toList).map String.ofList := by
      rw [folders, List.filter_eq_self.2]
      intro segment among
      have some := (well segment (parts ▸ List.mem_append_left _ among)).1
      simpa using some
    have joined : (Text.pieces '.' (qualifier fqcn).toList).flatMap (· ++ ['.']) =
        (qualifier fqcn).toList ++ ['.'] := Text.flatMap_pieces _
    apply String.toList_inj.1
    refine (congrArg String.toList split).trans ?_
    rw [all, String.toList_append, String.toList_append, String.toList_append, String.toList_join]
    have rows : (((Text.pieces '.' (qualifier fqcn).toList).map String.ofList).map
        (· ++ ".")).flatMap String.toList = (qualifier fqcn).toList ++ ['.'] := by
      simpa [List.flatMap_map, Function.comp_def] using joined
    rw [rows]
    rfl

include well'

/-- The place of a class tells its name. -/
theorem place_injective {base : Location} (same : place base fqcn = place base fqcn') :
    fqcn = fqcn' := by
  obtain ⟨file, rest⟩ := List.cons.inj same
  have folders : folders fqcn = folders fqcn' :=
    List.reverse_inj.1 (List.append_cancel_right rest)
  have simple : simple fqcn = simple fqcn' := by
    have text := congrArg String.toList file
    simp only [fileName, String.toList_append] at text
    exact String.toList_inj.1 (List.append_cancel_right text)
  rw [well.eq_join, well'.eq_join, folders, simple]

end WellFormed

end Name

namespace Disk

variable {d : Disk} {l : Location}

/-- Pieces that name something lead further down. -/
theorem walk_names {pieces : List String} (names : ∀ piece ∈ pieces, Path.isHere piece = false)
    (up : ∀ piece ∈ pieces, piece ≠ "..") {target : Location}
    (h : d.walk l pieces = .ok target) : target = pieces.reverse ++ l := by
  induction pieces generalizing l with
  | nil => exact (Except.ok.inj h).symm
  | cons piece pieces ih =>
    obtain ⟨here, names⟩ := List.forall_mem_cons.1 names
    obtain ⟨ne, up⟩ := List.forall_mem_cons.1 up
    rw [walk_cons] at h
    have entered : d.enter l piece = .ok (piece :: l) ∨
        ∃ fault, d.enter l piece = .error fault := by
      unfold enter
      simp only [here, ne, if_false, Bool.false_eq_true]
      split
      · exact .inr ⟨_, rfl⟩
      · split
        · exact .inl rfl
        · exact .inr ⟨_, rfl⟩
        · exact .inr ⟨_, rfl⟩
    rcases entered with entered | ⟨fault, entered⟩
    · rw [entered, ok_bind] at h
      rw [ih names up h, List.reverse_cons, List.append_assoc]
      rfl
    · rw [entered, error_bind] at h
      cases h

section Paths

variable (d : Disk) (root : String) {fqcn : String} (slash : '/' ∉ fqcn.toList)

include slash

theorem names_above : Path.names ((Name.folders fqcn).foldl Path.push root) =
    Path.names root ++ Name.folders fqcn :=
  Path.names_foldl_push _ fun _ mem => (Name.plain_folder slash mem).1

theorem start_above :
    d.start ((Name.folders fqcn).foldl Path.push root) = d.start root := by
  rw [start, Path.isAbsolute_foldl_push _ fun _ mem => (Name.plain_folder slash mem).1.relative]
  rfl

/-- The directories of a class are made below the root, unless their path is refused as a text. -/
theorem makeDirs_parent : makeDirs (Path.parent (SourceTree.pathBelow root fqcn)) d =
    if (Path.parent (SourceTree.pathBelow root fqcn)).toList.contains '\x00' then
      (.error Fault.nulInPath, d)
    else if maxPathBytes < (utf8 (Path.parent (SourceTree.pathBelow root fqcn))).length then
      (.error Fault.nameTooLong, d)
    else makeDirsFrom (d.start root) (Path.names root ++ Name.folders fqcn).reverse d := by
  obtain ⟨names, absolute⟩ := Path.parent_push ((Name.folders fqcn).foldl Path.push root)
    (Name.plain_fileName slash)
  rw [← Name.pathBelow_eq] at names absolute
  have start : d.start (Path.parent (SourceTree.pathBelow root fqcn)) = d.start root := by
    rw [Disk.start, absolute]
    exact start_above d root slash
  rw [← names_above root slash, ← names, ← start]
  rfl

/-- The path of a class leads to its directories and there to its file, unless it is refused as a
text. -/
theorem locate_pathBelow : d.locate (SourceTree.pathBelow root fqcn) =
    if (SourceTree.pathBelow root fqcn).toList.contains '\x00' then .error Fault.nulInPath
    else if maxPathBytes < (utf8 (SourceTree.pathBelow root fqcn)).length then
      .error Fault.nameTooLong
    else d.walk (d.start root) (Path.names root ++ Name.folders fqcn) >>= fun l =>
      d.locateFrom l [Name.fileName fqcn] := by
  have plain := Name.plain_fileName slash
  obtain ⟨above, pieces, filtered⟩ :=
    Path.pieces_push ((Name.folders fqcn).foldl Path.push root) plain
  rw [← Name.pathBelow_eq] at pieces
  have named : SourceTree.pathBelow root fqcn ≠ "" := by
    intro blank
    have names := Path.names_push ((Name.folders fqcn).foldl Path.push root) plain
    rw [← Name.pathBelow_eq, blank] at names
    simp [Path.names, Path.pieces, Text.pieces, Path.isHere] at names
  have start : d.start (SourceTree.pathBelow root fqcn) = d.start root := by
    rw [Disk.start, Name.pathBelow_eq, Path.isAbsolute_push _ plain.relative]
    exact start_above d root slash
  have walked (l : Location) :
      d.walk l above = d.walk l (Path.names root ++ Name.folders fqcn) := by
    rw [← walk_filter, filtered, names_above root slash]
  simp only [locate, named, if_false, start, pieces, locateFrom_concat, walked]

end Paths

theorem locateFrom_plain (d : Disk) (l : Location) {piece : String} (plain : Path.Plain piece)
    (up : piece ≠ "..") : d.locateFrom l [piece] =
      if maxNameBytes < (utf8 piece).length then .error Fault.nameTooLong
      else .ok (piece :: l) := by
  simp [locateFrom, plain.here, up]

theorem locateFrom_fileName (d : Disk) (l : Location) {fqcn : String} (slash : '/' ∉ fqcn.toList) :
    d.locateFrom l [Name.fileName fqcn] =
      if maxNameBytes < (utf8 (Name.fileName fqcn)).length then .error Fault.nameTooLong
      else .ok (Name.fileName fqcn :: l) :=
  locateFrom_plain d l (Name.plain_fileName slash) (Name.fileName_ne fqcn (by decide))

/-- The path of a class leads to its place, below the directory that the root leads to. -/
theorem locate_place {d : Disk} {root fqcn : String} {target : Location}
    (slash : '/' ∉ fqcn.toList) (located : d.locate (SourceTree.pathBelow root fqcn) = .ok target) :
    ∃ base, d.walk (d.start root) (Path.names root) = .ok base ∧ target = Name.place base fqcn := by
  rw [locate_pathBelow d root slash] at located
  split at located
  · cases located
  split at located
  · cases located
  rw [walk_append, bind_assoc] at located
  cases walked : d.walk (d.start root) (Path.names root) with
  | error fault =>
    rw [walked, error_bind] at located
    cases located
  | ok base =>
    rw [walked, ok_bind] at located
    cases inner : d.walk base (Name.folders fqcn) with
    | error fault =>
      rw [inner, error_bind] at located
      cases located
    | ok l =>
      have below : l = (Name.folders fqcn).reverse ++ base := by
        apply walk_names ?_ ?_ inner
        · exact fun folder mem => (Name.plain_folder slash mem).1.here
        · rintro folder mem rfl
          have dot := (Name.plain_folder slash mem).2
          simp at dot
      rw [inner, ok_bind, locateFrom_fileName d l slash, below] at located
      split at located
      · cases located
      · exact ⟨base, rfl, (Except.ok.inj located).symm⟩

/-- Classes with different proper names have different places. -/
theorem locate_injective {d : Disk} {root fqcn fqcn' : String} {target : Location}
    (well : Name.WellFormed fqcn) (well' : Name.WellFormed fqcn')
    (located : d.locate (SourceTree.pathBelow root fqcn) = .ok target)
    (located' : d.locate (SourceTree.pathBelow root fqcn') = .ok target) : fqcn = fqcn' := by
  obtain ⟨base, walked, rfl⟩ := locate_place well.slash located
  obtain ⟨base', walked', same⟩ := locate_place well'.slash located'
  obtain rfl : base = base' := Except.ok.inj (walked.symm.trans walked')
  exact well.place_injective well' same

end Disk
end OperationStubs
