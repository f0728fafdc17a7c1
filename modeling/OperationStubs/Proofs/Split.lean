import OperationStubs.Java.Name

/-!
# Cutting texts

A text is cut where it was put together: the last `c` is the one behind which no other comes, and
the pieces of two texts with a `c` between them are those of both. So a name is its two parts with
a dot between them, if it has a dot (`Name.qualifier_simple`).
-/

namespace OperationStubs

namespace Text

variable {c : Char}

theorem cutLast_of_notMem {xs : List Char} (h : c ∉ xs) : cutLast c xs = none := by
  induction xs with
  | nil => rfl
  | cons x xs ih =>
    obtain ⟨ne, rest⟩ := List.ne_and_not_mem_of_not_mem_cons h
    simp [cutLast, ih rest, ne.symm]

theorem cutLast_append {after : List Char} (h : c ∉ after) (before : List Char) :
    cutLast c (before ++ c :: after) = some (before, after) := by
  induction before with
  | nil => simp [cutLast, cutLast_of_notMem h]
  | cons x before ih => simp [cutLast, ih]

theorem notMem_of_cutLast_eq_none {xs : List Char} (h : cutLast c xs = none) : c ∉ xs := by
  intro mem
  obtain ⟨before, after, rfl⟩ := List.append_of_mem mem
  induction before with
  | nil => cases cut : cutLast c after <;> simp [cutLast, cut] at h
  | cons x before ih =>
    cases cut : cutLast c (before ++ c :: after) with
    | none => exact ih cut (by simp)
    | some parts => simp [cutLast, cut] at h

/-- Behind the last `c` no other comes. -/
theorem notMem_of_cutLast {xs before after : List Char}
    (h : cutLast c xs = some (before, after)) : c ∉ after := by
  fun_induction cutLast c xs generalizing before after with
  | case1 => cases h
  | case2 x xs start rest cut ih =>
    cases h
    exact ih cut
  | case3 xs none ih =>
    cases h
    exact notMem_of_cutLast_eq_none none
  | case4 => cases h

theorem pieces_of_notMem {xs : List Char} (h : c ∉ xs) : pieces c xs = [xs] := by
  induction xs with
  | nil => rfl
  | cons x xs ih =>
    obtain ⟨ne, rest⟩ := List.ne_and_not_mem_of_not_mem_cons h
    simp [pieces, ih rest, ne.symm]

theorem pieces_ne_nil (xs : List Char) : pieces c xs ≠ [] := by
  fun_cases pieces c xs <;> simp

theorem pieces_append (xs ys : List Char) :
    pieces c (xs ++ c :: ys) = pieces c xs ++ pieces c ys := by
  induction xs with
  | nil => simp [pieces]
  | cons x xs ih =>
    by_cases cut : x = c
    · simp [pieces, cut, ih]
    · simp only [List.cons_append, pieces, cut, if_false, ih]
      rcases some : pieces c xs with _ | ⟨piece, rest⟩
      · exact absurd some (pieces_ne_nil xs)
      · rfl

theorem notMem_of_mem_pieces {xs piece : List Char} (h : piece ∈ pieces c xs) : c ∉ piece := by
  induction xs generalizing piece with
  | nil => simp_all [pieces]
  | cons x xs ih =>
    by_cases cut : x = c
    · simp only [pieces, cut, if_true, List.mem_cons] at h
      rcases h with rfl | h
      · exact List.not_mem_nil
      · exact ih h
    · simp only [pieces, cut, if_false] at h
      rcases some : pieces c xs with _ | ⟨first, rest⟩
      · exact absurd some (pieces_ne_nil xs)
      · rw [some] at h ih
        rcases List.mem_cons.1 h with rfl | h
        · exact List.not_mem_cons_of_ne_of_not_mem (Ne.symm cut) (ih List.mem_cons_self)
        · exact ih (List.mem_cons_of_mem _ h)

/-- Each piece with the `c` behind it. -/
theorem flatMap_pieces (xs : List Char) : (pieces c xs).flatMap (· ++ [c]) = xs ++ [c] := by
  induction xs with
  | nil => rfl
  | cons x xs ih =>
    by_cases cut : x = c
    · simp [pieces, cut, ih]
    · simp only [pieces, cut, if_false]
      rcases some : pieces c xs with _ | ⟨first, rest⟩
      · exact absurd some (pieces_ne_nil xs)
      · rw [some] at ih
        simpa using ih

theorem mem_of_mem_pieces {d : Char} {xs piece : List Char} (h : piece ∈ pieces c xs)
    (inside : d ∈ piece) : d ∈ xs := by
  have all : d ∈ (pieces c xs).flatMap (· ++ [c]) :=
    List.mem_flatMap.2 ⟨piece, h, List.mem_append_left _ inside⟩
  rw [flatMap_pieces] at all
  rcases List.mem_append.1 all with mem | last
  · exact mem
  · exact absurd (List.mem_singleton.1 last ▸ inside) (notMem_of_mem_pieces h)

/-- What stands in none of the pieces stands nowhere. -/
theorem notMem_of_pieces {d : Char} (ne : d ≠ c) {xs : List Char}
    (h : ∀ piece ∈ pieces c xs, d ∉ piece) : d ∉ xs := by
  intro mem
  have all : d ∈ (pieces c xs).flatMap (· ++ [c]) := by simp [flatMap_pieces, mem]
  obtain ⟨piece, among, inside⟩ := List.mem_flatMap.1 all
  rcases List.mem_append.1 inside with inside | last
  · exact h piece among inside
  · exact ne (List.mem_singleton.1 last)

theorem after?_append (start rest : List Char) : after? start (start ++ rest) = some rest := by
  induction start with
  | nil => rfl
  | cons x start ih => simp [after?, ih]

theorem eq_append_of_after? {start text rest : List Char} (h : after? start text = some rest) :
    text = start ++ rest := by
  fun_induction after? start text with
  | case1 => exact Option.some.inj h
  | case2 => cases h
  | case3 a start text ih => rw [ih h, List.cons_append]
  | case4 => cases h

end Text

namespace Name

theorem qualifier_simple (name : String) :
    qualifier name = "" ∧ simple name = name ∨ name = qualifier name ++ "." ++ simple name := by
  unfold qualifier simple
  cases cut : Text.cutLast '.' name.toList with
  | none => exact .inl ⟨rfl, rfl⟩
  | some parts =>
    right
    apply String.toList_inj.1
    simp [Text.eq_append_of_cutLast cut]

/-- What begins with its package is the package, a dot and the name within the package. -/
theorem eq_inPackage {package qualified : String}
    (inside : package = "" ∨ ∃ rest, qualified = package ++ "." ++ rest) :
    package = "" ∧ qualified = inPackage package qualified ∨
      package ≠ "" ∧ qualified = package ++ "." ++ inPackage package qualified := by
  unfold inPackage
  by_cases default : package = ""
  · exact .inl ⟨default, by rw [if_pos default]⟩
  · refine .inr ⟨default, ?_⟩
    obtain ⟨rest, name⟩ := inside.resolve_left default
    have cut : Text.after? (package.toList ++ ['.']) qualified.toList = some rest.toList := by
      rw [name, String.toList_append, String.toList_append]
      exact Text.after?_append _ _
    rw [if_neg default, cut]
    simpa using name

/-- The name of a class in its package is cut behind the package, if the class name has no dot. -/
theorem cutLast_fqcn {className : String} (dot : '.' ∉ className.toList) (package : String) :
    Text.cutLast '.' (fqcn package className).toList =
      if package = "" then none else some (package.toList, className.toList) := by
  unfold fqcn
  by_cases default : package = ""
  · rw [if_pos default, if_pos default, Text.cutLast_of_notMem dot]
  · rw [if_neg default, if_neg default, String.toList_append, String.toList_append,
      List.append_assoc]
    exact Text.cutLast_append dot package.toList

theorem parts_fqcn {className : String} (dot : '.' ∉ className.toList) (package : String) :
    qualifier (fqcn package className) = package ∧
      simple (fqcn package className) = className := by
  unfold qualifier simple
  rw [cutLast_fqcn dot]
  by_cases default : package = ""
  · simp [default, fqcn]
  · simp [default]

/-- The simple name of a class has no dot. -/
theorem dot_notMem_simple (name : String) : '.' ∉ (simple name).toList := by
  unfold simple
  cases cut : Text.cutLast '.' name.toList with
  | none => exact Text.notMem_of_cutLast_eq_none cut
  | some parts =>
    rw [String.toList_ofList]
    exact Text.notMem_of_cutLast cut

/-- A character that is not in a name is in neither part of it. -/
theorem notMem_parts {c : Char} {name : String} (h : c ∉ name.toList) :
    c ∉ (qualifier name).toList ∧ c ∉ (simple name).toList := by
  rcases qualifier_simple name with ⟨none, whole⟩ | split
  · rw [none, whole]
    exact ⟨by simp, h⟩
  · rw [split] at h
    simp only [String.toList_append, List.mem_append, not_or] at h
    exact ⟨h.1.1, h.2⟩

end Name
end OperationStubs
