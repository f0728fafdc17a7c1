import OperationStubs.Path
import OperationStubs.Proofs.Split

/-!
# Paths, piece by piece

Of a path only the pieces that lead elsewhere count (`names`). A path with one more piece has these
pieces and the new one, and its parent has them without it, however many slashes end the path.
-/

namespace OperationStubs.Path

/-- The pieces of a path that lead elsewhere. -/
def names (path : String) : List String :=
  (pieces path).filter fun piece => !isHere piece

/-- A piece that is the name of a file or a directory. -/
structure Plain (piece : String) : Prop where
  slash : '/' ∉ piece.toList
  here : isHere piece = false

theorem pieces_append (path piece : String) :
    pieces (path ++ "/" ++ piece) = pieces path ++ pieces piece := by
  simp only [pieces, String.toList_append, List.append_assoc]
  rw [← List.map_append]
  exact congrArg (List.map String.ofList) (Text.pieces_append path.toList piece.toList)

theorem names_append (path piece : String) :
    names (path ++ "/" ++ piece) = names path ++ names piece := by
  simp only [names, pieces_append, List.filter_append]

/-- A slash at the end leads nowhere. -/
theorem names_slash (path : String) : names (path ++ "/") = names path := by
  have cut := names_append path ""
  rw [String.append_empty] at cut
  exact cut.trans (List.append_nil _)

namespace Plain

variable {piece : String} (plain : Plain piece)

include plain

theorem pieces : pieces piece = [piece] := by
  simp [Path.pieces, Text.pieces_of_notMem plain.slash]

theorem names : names piece = [piece] := by
  simp [Path.names, plain.pieces, plain.here]

theorem relative : isAbsolute piece = false :=
  decide_eq_false fun head => plain.slash (List.mem_of_mem_head? head)

end Plain

/-- A piece is set off by one slash, which may be there. -/
theorem push_cases (path : String) {piece : String} (relative : isAbsolute piece = false) :
    path = "" ∧ push path piece = piece ∨
      ∃ above, (above = path ∧ path ≠ "" ∨ path = above ++ "/") ∧
        push path piece = above ++ "/" ++ piece := by
  unfold push
  rw [if_neg (of_decide_eq_false relative)]
  by_cases blank : path = ""
  · exact .inl ⟨blank, by simp [blank]⟩
  · refine .inr ?_
    by_cases slash : path.toList.getLast? = some '/'
    · obtain ⟨above, eq⟩ := List.getLast?_eq_some_iff.1 slash
      have path_eq : path = String.ofList above ++ "/" := String.toList_inj.1 (by simp [eq])
      exact ⟨String.ofList above, .inr path_eq, by simp [slash, ← path_eq]⟩
    · exact ⟨path, .inl ⟨rfl, blank⟩, by simp [blank, slash]⟩

theorem pieces_push (path : String) {piece : String} (plain : Plain piece) :
    ∃ above, pieces (push path piece) = above ++ [piece] ∧
      above.filter (fun piece => !isHere piece) = names path := by
  rcases push_cases path plain.relative with ⟨rfl, pushed⟩ | ⟨above, which, pushed⟩
  · exact ⟨[], by rw [pushed, plain.pieces]; rfl, rfl⟩
  · refine ⟨pieces above, by rw [pushed, pieces_append, plain.pieces], ?_⟩
    rcases which with ⟨rfl, _⟩ | rfl
    · rfl
    · exact (names_slash above).symm

theorem names_push_of_relative (path : String) {piece : String}
    (relative : isAbsolute piece = false) :
    names (push path piece) = names path ++ names piece := by
  rcases push_cases path relative with ⟨rfl, pushed⟩ | ⟨above, which, pushed⟩
  · rw [pushed]
    rfl
  · rw [pushed, names_append]
    rcases which with ⟨rfl, _⟩ | rfl
    · rfl
    · rw [names_slash]

theorem names_foldl_push_of_relative (path : String) {pieces : List String}
    (relative : ∀ piece ∈ pieces, isAbsolute piece = false) :
    names (pieces.foldl push path) = names path ++ pieces.flatMap names := by
  induction pieces generalizing path with
  | nil => simp
  | cons piece pieces ih =>
    obtain ⟨first, rest⟩ := List.forall_mem_cons.1 relative
    rw [List.foldl_cons, ih _ rest, names_push_of_relative path first, List.append_assoc]
    rfl

theorem names_push (path : String) {piece : String} (plain : Plain piece) :
    names (push path piece) = names path ++ [piece] := by
  rw [names_push_of_relative path plain.relative, plain.names]

theorem names_foldl_push (path : String) {pieces : List String}
    (plain : ∀ piece ∈ pieces, Plain piece) :
    names (pieces.foldl push path) = names path ++ pieces := by
  have own : pieces.map names = pieces.map fun piece => [piece] :=
    List.map_congr_left fun piece mem => (plain piece mem).names
  rw [names_foldl_push_of_relative path fun piece mem => (plain piece mem).relative,
    List.flatMap_def, own, ← List.flatMap_def, List.flatMap_singleton']

theorem isAbsolute_append {path : String} (h : path ≠ "") (more : String) :
    isAbsolute (path ++ more) = isAbsolute path := by
  have some : path.toList ≠ [] := fun nil => h (String.toList_inj.1 nil)
  obtain ⟨c, rest, eq⟩ := List.exists_cons_of_ne_nil some
  simp [isAbsolute, eq]

theorem isAbsolute_push (path : String) {piece : String} (relative : isAbsolute piece = false) :
    isAbsolute (push path piece) = isAbsolute path := by
  rcases push_cases path relative with ⟨rfl, pushed⟩ | ⟨above, which, pushed⟩
  · rw [pushed]
    exact relative
  · rw [pushed]
    rcases which with ⟨rfl, some⟩ | rfl
    · rw [String.append_assoc, isAbsolute_append some]
    · exact isAbsolute_append (by simp) piece

theorem isAbsolute_foldl_push (path : String) {pieces : List String}
    (relative : ∀ piece ∈ pieces, isAbsolute piece = false) :
    isAbsolute (pieces.foldl push path) = isAbsolute path := by
  induction pieces generalizing path with
  | nil => rfl
  | cons piece pieces ih =>
    obtain ⟨first, rest⟩ := List.forall_mem_cons.1 relative
    rw [List.foldl_cons, ih _ rest, isAbsolute_push path first]

theorem parent_prefix (path : String) : (parent path).toList <+: path.toList := by
  unfold parent
  split
  · rename_i after cut
    rw [Text.eq_append_of_cutLast cut]
    exact ⟨after, rfl⟩
  · rename_i before after _ cut
    rw [Text.eq_append_of_cutLast cut, String.toList_ofList]
    exact List.prefix_append _ _
  · exact List.nil_prefix

theorem parent_append {above piece : String} (plain : Plain piece) :
    parent (above ++ "/" ++ piece) = if above = "" then "/" else above := by
  have cut : Text.cutLast '/' (above ++ "/" ++ piece).toList =
      some (above.toList, piece.toList) := by
    rw [String.toList_append, String.toList_append, List.append_assoc]
    exact Text.cutLast_append plain.slash _
  unfold parent
  rw [cut]
  by_cases blank : above = ""
  · simp [blank]
  · simp [blank]

/-- Without its last piece a path leads to where it led before that was added. -/
theorem parent_push (path : String) {piece : String} (plain : Plain piece) :
    names (parent (push path piece)) = names path ∧
      isAbsolute (parent (push path piece)) = isAbsolute path := by
  rcases push_cases path plain.relative with ⟨rfl, pushed⟩ | ⟨above, which, pushed⟩
  · have none : parent piece = "" := by
      unfold parent
      rw [Text.cutLast_of_notMem plain.slash]
    rw [pushed, none]
    exact ⟨rfl, rfl⟩
  · rw [pushed, parent_append plain]
    rcases which with ⟨rfl, some⟩ | rfl
    · rw [if_neg some]
      exact ⟨rfl, rfl⟩
    · by_cases blank : above = ""
      · rw [if_pos blank, blank]
        exact ⟨rfl, rfl⟩
      · rw [if_neg blank]
        exact ⟨(names_slash above).symm, (isAbsolute_append blank "/").symm⟩

/-- A character that stands in none of the pieces, and is no slash, is not in the path. -/
theorem notMem_push {c : Char} (slash : c ≠ '/') {path piece : String} (plain : Plain piece)
    (hpath : c ∉ path.toList) (hpiece : c ∉ piece.toList) : c ∉ (push path piece).toList := by
  rcases push_cases path plain.relative with ⟨rfl, pushed⟩ | ⟨above, which, pushed⟩
  · rwa [pushed]
  · rw [pushed]
    rcases which with ⟨rfl, _⟩ | rfl <;> simp_all

theorem notMem_foldl_push {c : Char} (slash : c ≠ '/') {path : String} {pieces : List String}
    (plain : ∀ piece ∈ pieces, Plain piece) (hpath : c ∉ path.toList)
    (hpieces : ∀ piece ∈ pieces, c ∉ piece.toList) : c ∉ (pieces.foldl push path).toList := by
  induction pieces generalizing path with
  | nil => exact hpath
  | cons piece pieces ih =>
    obtain ⟨first, rest⟩ := List.forall_mem_cons.1 plain
    obtain ⟨here, more⟩ := List.forall_mem_cons.1 hpieces
    exact ih rest (notMem_push slash first hpath here) more

end OperationStubs.Path
