import OperationStubs.Proofs.Place

/-!
# Where the files of classes land

The path of a class is the root with the class's route behind it, piece by piece. No piece of a
route leads up, since a `..` has two dots and a piece at most one. So the path stays below the root
(`Path.Below`), unless a part of the name begins with a slash: then the root does not matter. All
this is said of paths as texts, whatever stands on the disk (`lands`).
-/

namespace OperationStubs

/-- A piece is the text with some of it left out. -/
theorem Text.sublist_of_mem_pieces {c : Char} {xs piece : List Char} (h : piece ∈ pieces c xs) :
    piece.Sublist xs := by
  induction xs generalizing piece with
  | nil => simp_all [pieces]
  | cons x xs ih =>
    by_cases cut : x = c
    · simp only [pieces, cut, if_true, List.mem_cons] at h
      rcases h with rfl | h
      · exact List.nil_sublist _
      · exact (ih h).cons _
    · simp only [pieces, cut, if_false] at h
      rcases some : pieces c xs with _ | ⟨first, rest⟩
      · exact absurd some (pieces_ne_nil xs)
      · rw [some] at h ih
        rcases List.mem_cons.1 h with rfl | h
        · exact (ih List.mem_cons_self).cons_cons x
        · exact (ih (List.mem_cons_of_mem _ h)).cons x

namespace Path

/-- A path with a piece behind it. A slash is added where the path is not empty and does not end in
one. -/
def join (path piece : String) : String :=
  if path ≠ "" ∧ path.toList.getLast? ≠ some '/' then path ++ "/" ++ piece else path ++ piece

def extend (path : String) (pieces : List String) : String :=
  pieces.foldl join path

/-- A path that leads where the root does and from there further down, as far as can be told from
the texts. -/
structure Below (root path : String) : Prop where
  start : isAbsolute path = isAbsolute root
  down : ∃ added, names path = names root ++ added ∧ added ≠ [] ∧ ".." ∉ added

theorem push_of_relative (path : String) {piece : String} (relative : isAbsolute piece = false) :
    push path piece = join path piece := by
  have head : piece.toList.head? ≠ some '/' := of_decide_eq_false relative
  unfold push join
  rw [if_neg head]
  by_cases blank : path = ""
  · simp [blank]
  · by_cases slash : path.toList.getLast? = some '/'
    · simp [slash]
    · simp [blank, slash]

theorem push_of_absolute (path : String) {piece : String} (absolute : isAbsolute piece = true) :
    push path piece = piece :=
  if_pos (of_decide_eq_true absolute)

theorem foldl_push_of_relative (path : String) {added : List String}
    (relative : ∀ piece ∈ added, isAbsolute piece = false) :
    added.foldl push path = extend path added := by
  induction added generalizing path with
  | nil => rfl
  | cons piece added ih =>
    obtain ⟨first, rest⟩ := List.forall_mem_cons.1 relative
    rw [List.foldl_cons, push_of_relative path first, ih _ rest]
    rfl

/-- Behind a piece that stands for itself nothing is left of the path before it. -/
theorem foldl_push_of_absolute (path path' : String) {added : List String}
    (absolute : ∃ piece ∈ added, isAbsolute piece = true) :
    added.foldl push path = added.foldl push path' := by
  induction added generalizing path path' with
  | nil => simp at absolute
  | cons piece added ih =>
    by_cases first : isAbsolute piece = true
    · rw [List.foldl_cons, List.foldl_cons, push_of_absolute path first,
        push_of_absolute path' first]
    · obtain ⟨other, mem, stands⟩ := absolute
      rcases List.mem_cons.1 mem with rfl | behind
      · exact absurd stands first
      · exact ih _ _ ⟨other, behind, stands⟩

/-- Pieces with one dot at most do not lead up. -/
theorem up_notMem_names {piece : String} (few : piece.toList.count '.' ≤ 1) :
    ".." ∉ names piece := by
  intro mem
  obtain ⟨up, among, eq⟩ := List.mem_map.1 (List.mem_filter.1 mem).1
  have two : up.count '.' = 2 := by
    rw [← String.toList_ofList (l := up), eq]
    decide
  have fewer := (Text.sublist_of_mem_pieces among).count_le '.'
  omega

/-- A piece with a character that is neither slash nor dot leads somewhere. -/
theorem names_ne_nil {piece : String} {c : Char} (mem : c ∈ piece.toList) (slash : c ≠ '/')
    (dot : c ≠ '.') : names piece ≠ [] := by
  intro none
  refine Text.notMem_of_pieces slash (fun part among inside => ?_) mem
  have here := List.filter_eq_nil_iff.1 none (String.ofList part) (List.mem_map_of_mem among)
  have blank_or_dot : part = [] ∨ part = ['.'] := by
    simpa [isHere, ← String.toList_inj, or_iff_not_imp_left] using here
  rcases blank_or_dot with rfl | rfl
  · cases inside
  · exact dot (List.mem_singleton.1 inside)

end Path

namespace Name

/-- The parts of a name between its dots. -/
def parts (fqcn : String) : List String :=
  (Text.pieces '.' fqcn.toList).map String.ofList

/-- The pieces of a class's path behind the root: the parts of its name before the last dot, where
there is anything in them, and the last part with its ending. -/
def route (fqcn : String) : List String :=
  (parts fqcn).dropLast.filter (· ≠ "") ++ [(parts fqcn).getLastD "" ++ ".java"]

theorem filter_map_ofList (texts : List (List Char)) :
    (texts.map String.ofList).filter (· ≠ "") = (texts.filter (· != [])).map String.ofList := by
  rw [List.filter_map]
  refine congrArg _ (List.filter_congr fun text _ => ?_)
  by_cases blank : text = []
  · rw [blank]
    rfl
  · have some : String.ofList text ≠ "" :=
      fun eq => blank (by simpa using congrArg String.toList eq)
    simp [blank, some]

theorem route_eq (fqcn : String) : route fqcn = folders fqcn ++ [fileName fqcn] := by
  have dot : '.' ∉ (simple fqcn).toList := dot_notMem_simple fqcn
  rcases qualifier_simple fqcn with ⟨default, whole⟩ | split
  · have own : parts fqcn = [fqcn] := by
      rw [whole] at dot
      simp [parts, Text.pieces_of_notMem dot]
    rw [route, folders, fileName, own, default, whole]
    rfl
  · have all : parts fqcn =
        (Text.pieces '.' (qualifier fqcn).toList).map String.ofList ++ [simple fqcn] := by
      have text : fqcn.toList = (qualifier fqcn).toList ++ '.' :: (simple fqcn).toList := by
        refine (congrArg String.toList split).trans ?_
        simp
      simp [parts, text, Text.pieces_append, Text.pieces_of_notMem dot]
    rw [route, all, List.dropLast_concat, List.getLastD_concat, filter_map_ofList]
    rfl

theorem pathBelow_eq_foldl (root fqcn : String) :
    SourceTree.pathBelow root fqcn = (route fqcn).foldl Path.push root := by
  rw [pathBelow_eq, route_eq, List.foldl_append]
  rfl

theorem isAbsolute_ended (part : String) :
    Path.isAbsolute (part ++ ".java") = Path.isAbsolute part := by
  by_cases blank : part = ""
  · subst blank
    decide
  · exact Path.isAbsolute_append blank ".java"

theorem parts_eq (fqcn : String) :
    parts fqcn = (parts fqcn).dropLast ++ [(parts fqcn).getLastD ""] := by
  have some : parts fqcn ≠ [] := by simp [parts, Text.pieces_ne_nil]
  rw [List.getLastD_eq_getLast?, List.getLast?_eq_some_getLast some, Option.getD_some,
    List.dropLast_concat_getLast some]

/-- A route has a piece that stands for itself if the name has such a part. -/
theorem exists_isAbsolute_iff (fqcn : String) :
    (∃ piece ∈ route fqcn, Path.isAbsolute piece = true) ↔
      ∃ part ∈ parts fqcn, Path.isAbsolute part = true := by
  rw [parts_eq, route]
  have blank : Path.isAbsolute "" = false := rfl
  simp only [List.mem_append, List.mem_filter, List.mem_singleton, or_and_right, exists_or,
    exists_eq_left, isAbsolute_ended]
  refine or_congr_left ⟨?_, ?_⟩
  · rintro ⟨piece, ⟨among, -⟩, absolute⟩
    exact ⟨piece, among, absolute⟩
  · rintro ⟨piece, among, absolute⟩
    have some : piece ≠ "" := fun eq => by simp [eq, blank] at absolute
    exact ⟨piece, ⟨among, by simpa using some⟩, absolute⟩

/-- A piece of a route has at most the dot of its ending. -/
theorem count_dot_le {fqcn piece : String} (mem : piece ∈ route fqcn) :
    piece.toList.count '.' ≤ 1 := by
  have free {part : String} (among : part ∈ parts fqcn) : part.toList.count '.' = 0 := by
    obtain ⟨text, inside, rfl⟩ := List.mem_map.1 among
    rw [String.toList_ofList]
    exact List.count_eq_zero.2 (Text.notMem_of_mem_pieces inside)
  rcases List.mem_append.1 mem with before | last
  · have among := (List.dropLast_sublist _).subset (List.mem_filter.1 before).1
    rw [free among]
    exact Nat.zero_le 1
  · have among : (parts fqcn).getLastD "" ∈ parts fqcn := by
      rw [parts_eq fqcn]
      simp
    have ending : ".java".toList.count '.' = 1 := by decide
    have one : piece.toList.count '.' = 1 := by
      rw [List.mem_singleton.1 last, String.toList_append, List.count_append, free among, ending]
    exact Nat.le_of_eq one

end Name

namespace SourceTree

variable {h : Type}

theorem below_sourcePath (tree : SourceTree h) {fqcn : String}
    (relative : ∀ piece ∈ Name.route fqcn, Path.isAbsolute piece = false) :
    Path.Below tree.root (tree.sourcePath fqcn) := by
  rw [sourcePath, Name.pathBelow_eq_foldl]
  refine ⟨Path.isAbsolute_foldl_push _ relative, _, Path.names_foldl_push_of_relative _ relative,
    ?_, ?_⟩
  · intro none
    have file : Path.names ((Name.parts fqcn).getLastD "" ++ ".java") ≠ [] :=
      Path.names_ne_nil (c := 'j') (by simp) (by decide) (by decide)
    exact file (List.flatMap_eq_nil_iff.1 none _ (by simp [Name.route]))
  · intro up
    obtain ⟨piece, mem, leads⟩ := List.mem_flatMap.1 up
    exact Path.up_notMem_names (Name.count_dot_le mem) leads

/-- A class whose name has no part that begins with a slash lands below the root, at the end of its
route. Any other class lands at one place, whatever the root is. Of two proper names the paths never
lead along the same pieces. -/
theorem lands (tree : SourceTree h) (fqcn : String) :
    ((∀ part ∈ Name.parts fqcn, Path.isAbsolute part = false) →
      tree.sourcePath fqcn = Path.extend tree.root (Name.route fqcn) ∧
        Path.Below tree.root (tree.sourcePath fqcn)) ∧
    ((∃ part ∈ Name.parts fqcn, Path.isAbsolute part = true) →
      ∀ other : SourceTree h, other.sourcePath fqcn = tree.sourcePath fqcn) ∧
    (Name.WellFormed fqcn → ∀ fqcn', Name.WellFormed fqcn' →
      Path.names (tree.sourcePath fqcn) = Path.names (tree.sourcePath fqcn') → fqcn = fqcn') := by
  refine ⟨fun relative => ?_, fun absolute other => ?_, fun well fqcn' well' same => ?_⟩
  · have none : ∀ piece ∈ Name.route fqcn, Path.isAbsolute piece = false := by
      have iff := not_congr (Name.exists_isAbsolute_iff fqcn)
      simp only [not_exists, not_and, Bool.not_eq_true] at iff
      exact iff.2 relative
    have path : tree.sourcePath fqcn = Path.extend tree.root (Name.route fqcn) :=
      (Name.pathBelow_eq_foldl _ _).trans (Path.foldl_push_of_relative _ none)
    exact ⟨path, tree.below_sourcePath none⟩
  · have some := (Name.exists_isAbsolute_iff fqcn).2 absolute
    rw [sourcePath, sourcePath, Name.pathBelow_eq_foldl, Name.pathBelow_eq_foldl]
    exact Path.foldl_push_of_absolute _ _ some
  · have route {fqcn : String} (well : Name.WellFormed fqcn) :
        Path.names (tree.sourcePath fqcn) =
          Path.names tree.root ++ (Name.folders fqcn ++ [Name.fileName fqcn]) := by
      rw [sourcePath, Name.pathBelow_eq, Path.names_push _ (Name.plain_fileName well.slash),
        Disk.names_above _ well.slash, List.append_assoc]
    rw [route well, route well'] at same
    obtain ⟨folders, file⟩ := List.append_inj' (List.append_cancel_left same) rfl
    have place : Name.place [] fqcn = Name.place [] fqcn' := by
      rw [Name.place, Name.place, folders, List.singleton_inj.1 file]
    exact well.place_injective well' place

/-- With empty parts and a slash inside a part, with a part that begins with one, and two classes of
one simple name. -/
theorem lands_inside_and_out :
    let tree : SourceTree Unit := .empty "out/"
    (∀ part ∈ Name.parts "a..b/c.D", Path.isAbsolute part = false) ∧
      tree.sourcePath "a..b/c.D" = "out/a/b/c/D.java" ∧
      Path.Below "out/" (tree.sourcePath "a..b/c.D") ∧
      (∃ part ∈ Name.parts "a./b.D", Path.isAbsolute part = true) ∧
      (∀ other : SourceTree Unit, other.sourcePath "a./b.D" = "/b/D.java") ∧
      Name.WellFormed "a.D" ∧ Name.WellFormed "a.b.D" ∧
      Path.names (tree.sourcePath "a.D") ≠ Path.names (tree.sourcePath "a.b.D") := by
  intro tree
  have relative : ∀ part ∈ Name.parts "a..b/c.D", Path.isAbsolute part = false := by decide +kernel
  have absolute : ∃ part ∈ Name.parts "a./b.D", Path.isAbsolute part = true := by decide +kernel
  have well : Name.WellFormed "a.D" := by decide +kernel
  have well' : Name.WellFormed "a.b.D" := by decide +kernel
  obtain ⟨path, below⟩ := (lands tree "a..b/c.D").1 relative
  refine ⟨relative, path.trans (by decide +kernel), below, absolute, fun other => ?_, well, well',
    fun same => ?_⟩
  · exact ((lands tree "a./b.D").2.1 absolute other).trans (by decide +kernel)
  · exact absurd ((lands tree "a.D").2.2 well _ well' same) (by decide)

end SourceTree
end OperationStubs
