import Mathlib.Data.List.TakeWhile
import OperationStubs.Java.Scope

/-!
# Qualified names in a text

What a qualified name is, said by its parts (`IsQualified`), and which names of a text count: from
the left, each as long as it can be (`Scan`). A text is cut in just one such way, and `Piece.ofText`
finds it (`scan_iff`).
-/

namespace OperationStubs.Piece

/-- A part begins as a Java identifier does and goes on with word characters or `$`. -/
def IsPart (part : List Char) : Prop :=
  ∃ c rest, part = c :: rest ∧ isStart c = true ∧ ∀ d ∈ rest, isInner d = true

/-- Some parts, each behind a dot. -/
def dotted (parts : List (List Char)) : List Char :=
  parts.flatMap ('.' :: ·)

/-- At least two parts with dots between them. -/
def IsQualified (name : List Char) : Prop :=
  ∃ first parts, IsPart first ∧ (∀ part ∈ parts, IsPart part) ∧ parts ≠ [] ∧
    name = first ++ dotted parts

theorem dotted_cons (part : List Char) (parts : List (List Char)) :
    dotted (part :: parts) = '.' :: (part ++ dotted parts) := rfl

theorem isInner_dot : isInner '.' = false := by decide

/-- A part that begins a text goes no further than its word characters do. -/
theorem prefix_takeWhile {part text : List Char} (inner : ∀ d ∈ part, isInner d = true)
    (h : part <+: text) : part <+: text.takeWhile isInner := by
  obtain ⟨rest, rfl⟩ := h
  rw [List.takeWhile_append_of_pos inner]
  exact List.prefix_append _ _

/-- A part with a dot behind it is all the word characters that stand there. -/
theorem eq_takeWhile {part text rest : List Char} (inner : ∀ d ∈ part, isInner d = true)
    (h : part ++ '.' :: rest <+: text) :
    text.takeWhile isInner = part ∧ '.' :: rest <+: text.dropWhile isInner := by
  obtain ⟨more, rfl⟩ := h
  rw [List.append_assoc, List.cons_append, List.takeWhile_append_of_pos inner,
    List.dropWhile_append_of_pos inner]
  simp [isInner_dot]

theorem isPart_takeWhile {c : Char} (start : isStart c = true) (text : List Char) :
    IsPart (c :: text.takeWhile isInner) :=
  ⟨c, _, rfl, start, fun _ mem => List.mem_takeWhile_imp mem⟩

/-- What `dottedParts` takes are parts, each behind a dot. -/
theorem dottedParts_eq_dotted (text : List Char) :
    ∃ parts, (∀ part ∈ parts, IsPart part) ∧ (dottedParts text).1 = dotted parts := by
  fun_induction dottedParts text with
  | case1 c rest start more left eq ih =>
    obtain ⟨parts, are, row⟩ := ih
    obtain rfl : more = dotted parts := by rw [← row, eq]
    refine ⟨(c :: rest.takeWhile isInner) :: parts, ?_, by simp [dotted_cons]⟩
    exact List.forall_mem_cons.2 ⟨isPart_takeWhile start rest, are⟩
  | case2 | case3 => exact ⟨[], by simp, rfl⟩

/-- No longer row of parts begins the text. -/
theorem dotted_prefix_dottedParts {text : List Char} {parts : List (List Char)}
    (are : ∀ part ∈ parts, IsPart part) (h : dotted parts <+: text) :
    dotted parts <+: (dottedParts text).1 := by
  fun_induction dottedParts text generalizing parts with
  | case1 c rest start more left eq ih =>
    rcases parts with _ | ⟨part, parts⟩
    · exact List.nil_prefix
    obtain ⟨⟨d, inner, rfl, _, within⟩, others⟩ := List.forall_mem_cons.1 are
    rw [dotted_cons, List.cons_append, List.cons_prefix_cons, List.cons_prefix_cons] at h
    obtain ⟨-, rfl, h⟩ := h
    rw [dotted_cons, List.cons_append, List.cons_append, List.cons_append,
      List.cons_prefix_cons, List.cons_prefix_cons]
    refine ⟨rfl, rfl, ?_⟩
    rcases parts with _ | ⟨next, parts⟩
    · rw [show dotted [] = [] from rfl, List.append_nil] at h ⊢
      exact (prefix_takeWhile within h).trans (List.prefix_append _ _)
    · obtain ⟨all, behind⟩ := eq_takeWhile within h
      have longest := ih others behind
      rw [eq] at longest
      rw [all]
      exact (List.prefix_append_right_inj _).2 longest
  | case2 c rest start =>
    rcases parts with _ | ⟨part, parts⟩
    · exact List.nil_prefix
    obtain ⟨⟨d, inner, rfl, begins, _⟩, _⟩ := List.forall_mem_cons.1 are
    rw [dotted_cons, List.cons_append, List.cons_prefix_cons, List.cons_prefix_cons] at h
    obtain ⟨-, rfl, -⟩ := h
    exact absurd begins start
  | case3 text shape =>
    rcases parts with _ | ⟨part, parts⟩
    · exact List.nil_prefix
    obtain ⟨⟨d, inner, rfl, _⟩, _⟩ := List.forall_mem_cons.1 are
    obtain ⟨rest, rfl⟩ := h
    exact absurd rfl (shape d _)

theorem isQualified_of_qualified? {text name rest : List Char}
    (h : qualified? text = some (name, rest)) : IsQualified name := by
  fun_cases qualified? text with
  | case1 => simp [qualified?] at h
  | case2 c text start left eq => simp [qualified?, start, eq] at h
  | case3 c text start more left more_ne eq =>
    obtain ⟨parts, are, row⟩ := dottedParts_eq_dotted (text.dropWhile isInner)
    obtain rfl : more = dotted parts := by rw [← row, eq]
    simp only [qualified?, start, if_true, eq, Option.some.injEq, Prod.mk.injEq] at h
    refine ⟨c :: text.takeWhile isInner, parts, isPart_takeWhile start text, are, ?_, h.1.symm⟩
    rintro rfl
    exact more_ne rfl
  | case4 c text start => simp [qualified?, start] at h

/-- Where a qualified name begins a text, one is found that is no shorter. -/
theorem exists_qualified? {text other : List Char} (is : IsQualified other) (h : other <+: text) :
    ∃ name rest, qualified? text = some (name, rest) ∧ other <+: name := by
  obtain ⟨_, parts, ⟨c, inner, rfl, start, within⟩, are, some, rfl⟩ := is
  obtain ⟨next, more, rfl⟩ := List.exists_cons_of_ne_nil some
  obtain ⟨behind, rfl⟩ := h
  rw [List.cons_append, List.cons_append]
  have whole : inner ++ '.' :: (next ++ dotted more) <+: inner ++ dotted (next :: more) ++ behind :=
    List.prefix_append _ _
  obtain ⟨all, after⟩ := eq_takeWhile within whole
  have longest := dotted_prefix_dottedParts are after
  simp only [qualified?, start, if_true, all]
  rcases row : dottedParts (List.dropWhile isInner _) with ⟨_ | ⟨d, rest⟩, left⟩
  · rw [row] at longest
    exact absurd (List.prefix_nil.1 longest) (by simp [dotted_cons])
  · rw [row] at longest
    refine ⟨_, _, rfl, ?_⟩
    rw [List.cons_append, List.cons_prefix_cons]
    exact ⟨rfl, (List.prefix_append_right_inj _).2 longest⟩

/-- Cutting a text at its qualified names: where one begins, the longest is taken, and all else
stays single characters. -/
inductive Scan : List Char → List Piece → Prop
  | nil : Scan [] []
  | qualified {name rest : List Char} {pieces : List Piece} (is : IsQualified name)
      (longest : ∀ other, IsQualified other → other <+: name ++ rest → other <+: name)
      (more : Scan rest pieces) : Scan (name ++ rest) (.qualified name :: pieces)
  | plain {c : Char} {rest : List Char} {pieces : List Piece}
      (none : ∀ name, IsQualified name → ¬ name <+: c :: rest)
      (more : Scan rest pieces) : Scan (c :: rest) (.plain c :: pieces)

theorem ofText_of_qualified? {text name rest : List Char}
    (h : qualified? text = some (name, rest)) : ofText text = .qualified name :: ofText rest := by
  rw [ofText]
  split
  · simp_all
  · simp_all

theorem ofText_of_none {c : Char} {rest : List Char} (h : qualified? (c :: rest) = none) :
    ofText (c :: rest) = .plain c :: ofText rest := by
  rw [ofText]
  split
  · simp_all
  · rfl

theorem scan_ofText (text : List Char) : Scan text (ofText text) := by
  fun_induction ofText text with
  | case1 text name rest found _ ih =>
    obtain ⟨_, rfl⟩ := qualified?_append found
    refine .qualified (isQualified_of_qualified? found) (fun other is begins => ?_) ih
    obtain ⟨name', rest', found', no_longer⟩ := exists_qualified? is begins
    rw [found] at found'
    obtain ⟨rfl, -⟩ : name = name' ∧ rest = rest' := by simpa using found'
    exact no_longer
  | case2 => exact .nil
  | case3 c rest none ih =>
    refine .plain (fun name is begins => ?_) ih
    obtain ⟨_, _, found, _⟩ := exists_qualified? is begins
    exact nomatch none.symm.trans found

/-- There is one way to cut a text. -/
theorem scan_iff {text : List Char} {pieces : List Piece} :
    Scan text pieces ↔ ofText text = pieces := by
  constructor
  · intro scan
    induction scan with
    | nil => rw [ofText]; rfl
    | @qualified name rest pieces is longest more ih =>
      obtain ⟨name', rest', found, reaches⟩ := exists_qualified? is (List.prefix_append name rest)
      obtain ⟨_, same⟩ := qualified?_append found
      have back := longest name' (isQualified_of_qualified? found) ⟨rest', same⟩
      obtain rfl : name = name' := reaches.eq_of_length_le back.length_le
      obtain rfl : rest' = rest := List.append_cancel_left same
      rw [ofText_of_qualified? found, ih]
    | @plain c rest pieces none more ih =>
      rw [ofText_of_none, ih]
      cases found : qualified? (c :: rest) with
      | none => rfl
      | some cut =>
        obtain ⟨name, left⟩ := cut
        obtain ⟨_, same⟩ := qualified?_append found
        exact absurd ⟨left, same⟩ (none name (isQualified_of_qualified? found))
  · rintro rfl
    exact scan_ofText text

end OperationStubs.Piece
