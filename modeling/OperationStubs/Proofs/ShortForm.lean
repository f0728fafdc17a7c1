import OperationStubs.Proofs.Ambiguity
import OperationStubs.Proofs.Separator

/-!
# Short forms

A type in its short form is as short as it gets (`Scope.shorten_shorten`). A simple name begins as
the whole name did, so a text goes on with a name before it after shortening only if it did so
before (`Scope.goesOn_of_short`). So no name is found that was not found before, and the short form
is cut into the short forms of the pieces (`Scope.ofText_short`), each of which is short already.
-/

namespace OperationStubs

namespace Piece

/-- The simple name of a qualified name is its last part. -/
theorem isPart_simple {name : List Char} (is : IsQualified name) :
    IsPart (Name.simple (String.ofList name)).toList := by
  obtain ⟨first, parts, _, are, some, rfl⟩ := is
  obtain ⟨before, last, rfl⟩ : ∃ before last, parts = before ++ [last] :=
    ⟨_, _, (List.dropLast_append_getLast some).symm⟩
  have isLast : IsPart last := are last (List.mem_append_right _ (List.mem_singleton_self last))
  have dot : '.' ∉ last := by
    obtain ⟨c, rest, rfl, start, inner⟩ := isLast
    have all : ∀ d ∈ c :: rest, isInner d = true :=
      List.forall_mem_cons.2 ⟨isInner_of_isStart start, inner⟩
    exact fun mem => absurd (all '.' mem) (by decide)
  have split : (String.ofList (first ++ dotted (before ++ [last]))).toList =
      first ++ dotted before ++ '.' :: last := by simp [dotted]
  have simple : Name.simple (String.ofList (first ++ dotted (before ++ [last]))) =
      String.ofList last := by
    rw [Name.simple, split, Text.cutLast_append dot]
  rwa [simple, String.toList_ofList]

theorem qualified?_of_dot_notMem {text : List Char} (h : '.' ∉ text) : qualified? text = none := by
  cases found : qualified? text with
  | none => rfl
  | some cut =>
    obtain ⟨name, rest⟩ := cut
    obtain ⟨-, rfl⟩ := qualified?_append found
    have dot := dot_mem_of_isQualified (isQualified_of_qualified? found)
    exact absurd (List.mem_append_left rest dot) h

theorem ofText_of_dot_notMem {text : List Char} (h : '.' ∉ text) :
    ofText text = text.map .plain := by
  induction text with
  | nil => rw [ofText]; rfl
  | cons c text ih =>
    rw [ofText_of_none (qualified?_of_dot_notMem h), ih fun mem => h (List.mem_cons_of_mem c mem)]
    rfl

theorem isInner_of_head?_dropWhile (text : List Char) :
    ∀ c ∈ (text.dropWhile isInner).head?, isInner c = false := by
  intro c first
  have last := List.head?_dropWhile_not isInner text
  rwa [first] at last

theorem ofText_singleton (c : Char) : ofText [c] = [.plain c] := by
  have none : qualified? [c] = none := by
    cases start : isStart c <;> simp [qualified?, dottedParts, start]
  rw [ofText_of_none none, ofText]
  rfl

/-- What a row of parts leaves does not go on with it. -/
theorem stops_dottedParts {text : List Char} (h : ∀ c ∈ text.head?, isInner c = false) :
    Stops (dottedParts text).2 := by
  fun_induction dottedParts text with
  | case1 c rest start more left eq ih =>
    rw [eq] at ih
    exact ih (isInner_of_head?_dropWhile rest)
  | case2 c rest start =>
    refine ⟨h, ?_⟩
    rintro ⟨d, after, dot, begins⟩
    rw [dropWhile_eq_self h] at dot
    cases dot
    exact start begins
  | case3 text shape =>
    refine ⟨h, ?_⟩
    rintro ⟨d, after, dot, -⟩
    rw [dropWhile_eq_self h] at dot
    exact shape d after dot

/-- What follows a qualified name does not go on with it. -/
theorem stops_of_qualified? {text name rest : List Char}
    (h : qualified? text = some (name, rest)) : Stops rest := by
  fun_cases qualified? text with
  | case1 => cases h
  | case2 c text start left eq => simp [qualified?, start, eq] at h
  | case3 c text start more left some eq =>
    have stops := stops_dottedParts (isInner_of_head?_dropWhile text)
    simp only [qualified?, start, if_true, eq, Option.some.injEq, Prod.mk.injEq] at h
    rwa [eq, h.2] at stops
  | case4 c text start => simp [qualified?, start] at h

theorem dottedParts_eq_nil_iff {text : List Char} :
    (dottedParts text).1 = [] ↔ ¬ ∃ d rest, text = '.' :: d :: rest ∧ isStart d = true := by
  fun_cases dottedParts text with
  | case1 c rest start more left eq => simp [start]
  | case2 c rest start => simp [start]
  | case3 text shape =>
    simp only [true_iff]
    rintro ⟨d, rest, dot, -⟩
    exact shape d rest dot

/-- A text begins with a qualified name if it begins with a part and goes on with it. -/
theorem qualified?_eq_none_iff {c : Char} {text : List Char} :
    qualified? (c :: text) = none ↔ (isStart c = true → ¬ GoesOn text) := by
  rw [GoesOn, ← dottedParts_eq_nil_iff]
  cases start : isStart c with
  | false => simp [qualified?, start]
  | true =>
    rcases row : dottedParts (text.dropWhile isInner) with ⟨_ | ⟨d, more⟩, left⟩
    · simp [qualified?, start, row]
    · simp [qualified?, start, row]

theorem goesOn_cons_of_isInner {c : Char} (inner : isInner c = true) (text : List Char) :
    GoesOn (c :: text) ↔ GoesOn text := by
  rw [GoesOn, List.dropWhile_cons_of_pos inner, GoesOn]

theorem goesOn_cons_of_not_isInner {c : Char} (outer : isInner c = false) (text : List Char) :
    GoesOn (c :: text) ↔ c = '.' ∧ text.head?.any isStart = true := by
  rw [GoesOn, List.dropWhile_cons_of_neg (by simp [outer])]
  cases text <;> simp

theorem goesOn_of_qualified? {text name rest : List Char}
    (h : qualified? text = some (name, rest)) : GoesOn text := by
  rcases text with _ | ⟨c, text⟩
  · cases h
  have found : ¬ (isStart c = true → ¬ GoesOn text) := by
    rw [← qualified?_eq_none_iff, h]
    exact nofun
  obtain ⟨start, on⟩ : isStart c = true ∧ GoesOn text := by simpa using found
  exact (goesOn_cons_of_isInner (isInner_of_isStart start) text).2 on

/-- The names that a text is cut at are qualified. -/
theorem isQualified_of_mem_ofText {text name : List Char} (h : .qualified name ∈ ofText text) :
    IsQualified name := by
  fun_induction ofText text with
  | case1 text first rest found _ ih =>
    rcases List.mem_cons.1 h with same | mem
    · cases same
      exact isQualified_of_qualified? found
    · exact ih mem
  | case2 => cases h
  | case3 c rest none ih =>
    rcases List.mem_cons.1 h with same | mem
    · cases same
    · exact ih mem

end Piece

namespace Scope

open Piece

variable (scope : Scope)

/-- The short form of a text. -/
def short (text : List Char) : List Char := (ofText text).flatMap scope.shortenPiece

theorem short_of_qualified? {text name rest : List Char}
    (h : qualified? text = some (name, rest)) :
    scope.short text = scope.shortenPiece (.qualified name) ++ scope.short rest := by
  rw [short, ofText_of_qualified? h, List.flatMap_cons, short]

theorem short_of_none {c : Char} {rest : List Char} (h : qualified? (c :: rest) = none) :
    scope.short (c :: rest) = c :: scope.short rest := by
  rw [short, ofText_of_none h, List.flatMap_cons, short]
  rfl

theorem short_nil : scope.short [] = [] := by
  rw [short, ofText]
  rfl

/-- In short or not, a qualified name begins with the start of a part. -/
theorem head?_shortenPiece {name : List Char} (is : IsQualified name) :
    ∃ c rest, scope.shortenPiece (.qualified name) = c :: rest ∧ isStart c = true := by
  simp only [shortenPiece, shortenName]
  split
  · obtain ⟨c, rest, simple, start, -⟩ := isPart_simple is
    exact ⟨c, rest, simple, start⟩
  · obtain ⟨_, parts, ⟨c, rest, rfl, start, -⟩, -, -, rfl⟩ := is
    exact ⟨c, rest ++ dotted parts, String.toList_ofList, start⟩

/-- A text in short begins as it did, as far as a name before it is concerned. -/
theorem any_head?_short {p : Char → Bool} (starts : ∀ c, isStart c = true → p c = true)
    (text : List Char) : (scope.short text).head?.any p = text.head?.any p := by
  cases found : qualified? text with
  | none =>
    cases text with
    | nil => rw [short_nil]
    | cons c rest => rw [short_of_none scope found]; rfl
  | some cut =>
    obtain ⟨name, rest⟩ := cut
    have is := isQualified_of_qualified? found
    obtain ⟨c, more, short, start⟩ := scope.head?_shortenPiece is
    obtain ⟨-, rfl⟩ := qualified?_append found
    obtain ⟨_, parts, ⟨d, behind, rfl, start', -⟩, -, -, rfl⟩ := is
    rw [short_of_qualified? scope found, short]
    simp [starts c start, starts d start']

/-- A text in short goes on with a name before it only if it did so. -/
theorem goesOn_of_short {text : List Char} (h : GoesOn (scope.short text)) : GoesOn text := by
  fun_induction ofText text with
  | case1 text name rest found => exact goesOn_of_qualified? found
  | case2 => rwa [short_nil] at h
  | case3 c rest none ih =>
    rw [short_of_none scope none] at h
    cases inner : isInner c with
    | true =>
      rw [goesOn_cons_of_isInner inner] at h ⊢
      exact ih h
    | false =>
      rw [goesOn_cons_of_not_isInner inner] at h ⊢
      rwa [scope.any_head?_short (fun _ start => start)] at h

theorem stops_short {text : List Char} (stops : Stops text) : Stops (scope.short text) := by
  refine ⟨fun c first => ?_, fun on => stops.part (scope.goesOn_of_short on)⟩
  have same := scope.any_head?_short (fun _ => isInner_of_isStart) text
  have outer : text.head?.any isInner = false := by
    cases head : text.head? with
    | none => rfl
    | some d => exact stops.inner d head
  rw [first, outer] at same
  exact same

/-- A text in short is cut into the short forms of its pieces. -/
theorem ofText_short (text : List Char) :
    ofText (scope.short text) =
      (ofText text).flatMap fun piece => ofText (scope.shortenPiece piece) := by
  fun_induction ofText text with
  | case1 text name rest found _ ih =>
    have stops := scope.stops_short (stops_of_qualified? found)
    rw [short_of_qualified? scope found, stops.ofText_append, ih, List.flatMap_cons]
  | case2 => rw [short_nil, ofText]; rfl
  | case3 c rest none ih =>
    have still : qualified? (c :: scope.short rest) = .none :=
      qualified?_eq_none_iff.2 fun start on =>
        qualified?_eq_none_iff.1 none start (scope.goesOn_of_short on)
    rw [short_of_none scope none, ofText_of_none still, ih, List.flatMap_cons, shortenPiece,
      ofText_singleton]
    rfl

/-- The short form of a piece is short already. -/
theorem short_shortenPiece {text : List Char} {piece : Piece} (mem : piece ∈ ofText text) :
    scope.short (scope.shortenPiece piece) = scope.shortenPiece piece := by
  cases piece with
  | plain c => simp [short, shortenPiece, ofText_singleton]
  | qualified name =>
    have is := isQualified_of_mem_ofText mem
    cases known : scope.knows (String.ofList name) with
    | true =>
      have dot := Name.dot_notMem_simple (String.ofList name)
      simp [short, shortenPiece, shortenName, known, ofText_of_dot_notMem dot, List.flatMap_map]
    | false => simp [short, shortenPiece, shortenName, known, ofText_of_isQualified is]

/-- A text in short is as short as it gets. -/
theorem short_short (text : List Char) : scope.short (scope.short text) = scope.short text := by
  rw [short, ofText_short, List.flatMap_assoc, short]
  exact List.flatMap_congr fun piece mem => scope.short_shortenPiece mem

/-- Shortening what is short already changes nothing, whatever it looks like and whatever is in
scope. -/
theorem shorten_shorten (type : String) :
    scope.shorten (scope.shorten type) = scope.shorten type := by
  have once (type : String) : scope.shorten type = String.ofList (scope.short type.toList) := rfl
  rw [once (scope.shorten type), once type, String.toList_ofList, short_short]

end Scope
end OperationStubs
