import OperationStubs.Proofs.QualifiedName

/-!
# Types inside a type

A text that begins neither with more of a part nor with a dot and another part adds nothing to the
names of a text before it, so the two are cut as if each stood alone (`Piece.Stops.ofText_append`).
A character that is neither part of a name nor a dot is the beginning of such a text, whatever
stands behind it, so it separates what stands on its two sides (`Scope.shorten_append_separator`).
-/

namespace OperationStubs

namespace Piece

/-- Neither a word character nor `$` nor a dot. -/
structure Separates (c : Char) : Prop where
  word : Text.isWord c = false
  dollar : c ≠ '$'
  dot : c ≠ '.'

/-- What may begin a part may stand anywhere in it. -/
theorem isInner_of_isStart {c : Char} (start : isStart c = true) : isInner c = true := by
  simp only [isStart, Bool.or_eq_true, beq_iff_eq] at start
  rcases start with (letter | rfl) | rfl
  · have ascii : c.toNat < 0x80 := by
      change (decide ('A'.val ≤ c.val ∧ c.val ≤ 'Z'.val) ||
        decide ('a'.val ≤ c.val) && decide (c.val ≤ 'z'.val)) = true at letter
      simp only [Bool.or_eq_true, Bool.and_eq_true, decide_eq_true_eq,
        UInt32.le_iff_toNat_le] at letter
      change c.val.toNat < 0x80
      have upper : 'Z'.val.toNat = 90 := rfl
      have lower : 'z'.val.toNat = 122 := rfl
      omega
    simp [isInner, Text.isWord, ascii, Char.isAlphanum, letter]
  · decide
  · decide

theorem dottedParts_of_ne {d : Char} (ne : d ≠ '.') (text : List Char) :
    dottedParts (d :: text) = ([], d :: text) := by
  rw [dottedParts]
  rintro _ _ ⟨⟩
  exact ne rfl

theorem dottedParts_of_not_isStart {d : Char} (start : isStart d = false) (text : List Char) :
    dottedParts ('.' :: d :: text) = ([], '.' :: d :: text) := by
  simp [dottedParts, start]

/-- The word characters that begin a text have a dot and the start of a part behind them. -/
def GoesOn (text : List Char) : Prop :=
  ∃ d rest, text.dropWhile isInner = '.' :: d :: rest ∧ isStart d = true

/-- A text that adds nothing to a name before it: neither more of its last part nor a part. -/
structure Stops (text : List Char) : Prop where
  inner : ∀ c ∈ text.head?, isInner c = false
  part : ¬ GoesOn text

theorem dropWhile_eq_self {text : List Char} (h : ∀ c ∈ text.head?, isInner c = false) :
    text.dropWhile isInner = text := by
  cases text with
  | nil => rfl
  | cons c text => simp [h c rfl]

namespace Stops

variable {b : List Char} (stops : Stops b)

include stops

theorem takeWhile_append (a : List Char) :
    (a ++ b).takeWhile isInner = a.takeWhile isInner := by
  induction a with
  | nil =>
    cases b with
    | nil => rfl
    | cons c b => simp [stops.inner c rfl]
  | cons d a ih => simp only [List.cons_append, List.takeWhile_cons, ih]

theorem dropWhile_append (a : List Char) :
    (a ++ b).dropWhile isInner = a.dropWhile isInner ++ b := by
  induction a with
  | nil => exact dropWhile_eq_self stops.inner
  | cons d a ih =>
    simp only [List.cons_append, List.dropWhile_cons, ih]
    split <;> rfl

/-- No part stands behind a dot before it. -/
theorem dottedParts_dot : dottedParts ('.' :: b) = ([], '.' :: b) := by
  cases b with
  | nil => simp [dottedParts]
  | cons c b =>
    apply dottedParts_of_not_isStart
    cases start : isStart c with
    | false => rfl
    | true => exact (isInner_of_isStart start).symm.trans (stops.inner c rfl)

theorem dottedParts_eq : dottedParts b = ([], b) := by
  cases b with
  | nil => simp [dottedParts]
  | cons c b =>
    by_cases dot : c = '.'
    · subst dot
      cases b with
      | nil => simp [dottedParts]
      | cons d b =>
        apply dottedParts_of_not_isStart
        rw [← Bool.not_eq_true]
        exact fun start => stops.part ⟨d, b, dropWhile_eq_self stops.inner, start⟩
    · exact dottedParts_of_ne dot b

/-- A row of parts does not go over the seam. -/
theorem dottedParts_append (a : List Char) :
    dottedParts (a ++ b) = ((dottedParts a).1, (dottedParts a).2 ++ b) := by
  fun_induction dottedParts a with
  | case1 d rest start more left eq ih =>
    rw [← stops.dropWhile_append, eq] at ih
    simp only [List.cons_append, dottedParts, start, if_true, stops.takeWhile_append, ih]
  | case2 d rest start => exact dottedParts_of_not_isStart (Bool.eq_false_iff.2 start) _
  | case3 text shape =>
    rcases text with _ | ⟨first, rest⟩
    · exact stops.dottedParts_eq
    by_cases dot : first = '.'
    · -- A dot with nothing behind it: what follows begins no part.
      obtain rfl : rest = [] := by
        rcases rest with _ | ⟨second, rest⟩
        · rfl
        · exact (shape second rest (by rw [dot])).elim
      rw [dot]
      exact stops.dottedParts_dot
    · exact dottedParts_of_ne dot _

/-- Before the seam the same qualified name is found, or none. -/
theorem qualified?_append {a : List Char} (ne : a ≠ []) :
    qualified? (a ++ b) = (qualified? a).map fun (name, rest) => (name, rest ++ b) := by
  fun_cases qualified? a with
  | case1 => exact absurd rfl ne
  | case2 d rest start left eq =>
    simp [qualified?, start, stops.dropWhile_append, stops.dottedParts_append, eq]
  | case3 d rest start more left some eq =>
    simp [qualified?, start, stops.takeWhile_append, stops.dropWhile_append,
      stops.dottedParts_append, eq]
  | case4 d rest start => simp [qualified?, start]

/-- A text is cut on both sides of the seam as if each side stood alone. -/
theorem ofText_append (a : List Char) : ofText (a ++ b) = ofText a ++ ofText b := by
  fun_induction ofText a with
  | case1 text name rest found _ ih =>
    have some : text ≠ [] := by
      rintro rfl
      cases found
    have same : qualified? (text ++ b) = .some (name, rest ++ b) := by
      rw [stops.qualified?_append some, found]
      rfl
    rw [ofText_of_qualified? same, ih]
    rfl
  | case2 => rfl
  | case3 d rest none ih =>
    have none : qualified? (d :: (rest ++ b)) = .none := by
      have same := stops.qualified?_append (List.cons_ne_nil d rest)
      rw [none] at same
      exact same
    rw [List.cons_append, ofText_of_none none, ih]
    rfl

end Stops

section Separates

variable {c : Char} (separates : Separates c)

include separates

theorem Separates.isInner : isInner c = false := by
  simp [Piece.isInner, separates.word, separates.dollar]

theorem Separates.isStart : isStart c = false := by
  cases start : Piece.isStart c with
  | false => rfl
  | true => exact (isInner_of_isStart start).symm.trans separates.isInner

theorem Separates.stops (b : List Char) : Stops (c :: b) := by
  constructor
  · rintro _ ⟨⟩
    exact separates.isInner
  · rintro ⟨d, rest, dot, _⟩
    rw [List.dropWhile_cons_of_neg (by simp [separates.isInner])] at dot
    exact separates.dot (List.cons.inj dot).1

/-- A text is cut on both sides of a separator as if each side stood alone. -/
theorem ofText_append_cons (a b : List Char) :
    ofText (a ++ c :: b) = ofText a ++ .plain c :: ofText b := by
  have none : qualified? (c :: b) = none := by simp [qualified?, separates.isStart]
  rw [(separates.stops b).ofText_append, ofText_of_none none]

end Separates
end Piece

namespace Scope

/-- Types on both sides of a separator are shortened each as it would be alone, whatever they look
like and whatever is in scope. -/
theorem shorten_append_separator (scope : Scope) (a b : String) {c : Char}
    (separates : Piece.Separates c) :
    scope.shorten (a ++ String.singleton c ++ b) =
      scope.shorten a ++ String.singleton c ++ scope.shorten b := by
  have cut := Piece.ofText_append_cons separates a.toList b.toList
  apply String.toList_inj.1
  simp [shorten, cut, shortenPiece]

/-- Between two types that are shortened, each with something next to the separator that looks like
more of a name. -/
theorem shorten_append_separator_generics :
    let scope : Scope := ⟨"p", .ofList ["java.util.Map"]⟩
    Piece.Separates '<' ∧
      scope.shorten ("java.util.Map." ++ String.singleton '<' ++ ".java.lang.String, p.é, p.T>") =
        scope.shorten "java.util.Map." ++ String.singleton '<' ++
          scope.shorten ".java.lang.String, p.é, p.T>" ∧
      scope.shorten "java.util.Map." = "Map." ∧
      scope.shorten ".java.lang.String, p.é, p.T>" = ".String, p.é, T>" := by
  intro scope
  have separates : Piece.Separates '<' := ⟨by decide, by decide, by decide⟩
  exact ⟨separates, shorten_append_separator scope _ _ separates, by decide +kernel,
    by decide +kernel⟩

end Scope
end OperationStubs
