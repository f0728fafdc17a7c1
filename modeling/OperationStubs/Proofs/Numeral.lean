import OperationStubs.Proofs.Layout

/-!
# Numbers in a written text

A number can be read back from the bytes of a text: where two texts agree up to a number and the
number is not cut off, they hold the same number (`Layout.number_eq_of_prefix`).
-/

namespace OperationStubs

/-- The bytes of a number. -/
def numeral (n : Nat) : List UInt8 := utf8 (toString n)

def isDigit (b : UInt8) : Bool := 48 ≤ b && b ≤ 57

theorem utf8EncodeChar_of_isDigit {c : Char} (h : c.isDigit) :
    String.utf8EncodeChar c = [c.val.toUInt8] := by
  refine String.utf8EncodeChar_eq_singleton ?_
  simp only [Char.isDigit, Bool.and_eq_true, decide_eq_true_eq, ge_iff_le] at h
  have small : c.val ≤ 127 := UInt32.le_trans h.2 (by decide)
  simp [Char.utf8Size, small]

theorem numeral_eq_map (n : Nat) :
    numeral n = (Nat.toDigits 10 n).map fun c => c.val.toUInt8 := by
  have digits : ∀ c ∈ Nat.toDigits 10 n, c.isDigit :=
    fun c hc => Nat.isDigit_of_mem_toDigits (by decide) (by decide) hc
  rw [numeral, utf8, Nat.toString_eq_repr, Nat.toList_repr]
  generalize Nat.toDigits 10 n = cs at digits
  induction cs with
  | nil => rfl
  | cons c cs ih =>
    rw [List.flatMap_cons, utf8EncodeChar_of_isDigit (digits c List.mem_cons_self),
      ih fun c hc => digits c (List.mem_cons_of_mem _ hc)]
    rfl

theorem isDigit_of_mem_numeral {n : Nat} {b : UInt8} (h : b ∈ numeral n) : isDigit b := by
  rw [numeral_eq_map] at h
  obtain ⟨c, hc, rfl⟩ := List.mem_map.1 h
  have digit := Nat.isDigit_of_mem_toDigits (by decide) (by decide) hc
  simp only [Char.isDigit, Bool.and_eq_true, decide_eq_true_eq, ge_iff_le] at digit
  have lo : 48 ≤ c.val.toNat := digit.1
  have hi : c.val.toNat ≤ 57 := digit.2
  simp only [isDigit, Bool.and_eq_true, decide_eq_true_eq, UInt8.le_iff_toNat_le,
    UInt32.toNat_toUInt8]
  constructor
  · change 48 ≤ _ % 256
    omega
  · change _ % 256 ≤ 57
    omega

theorem numeral_injective {a b : Nat} (h : numeral a = numeral b) : a = b := by
  have decode (n : Nat) : (numeral n).map (fun x => Char.ofNat x.toNat) = Nat.toDigits 10 n := by
    rw [numeral_eq_map, List.map_map]
    refine (List.map_congr_left fun c hc => ?_).trans (List.map_id _)
    have digit := Nat.isDigit_of_mem_toDigits (by decide) (by decide) hc
    simp only [Char.isDigit, Bool.and_eq_true, decide_eq_true_eq, ge_iff_le] at digit
    have hi : c.val.toNat ≤ 57 := digit.2
    have same : c.val.toNat % 256 = c.toNat := Nat.mod_eq_of_lt (by omega)
    simp only [Function.comp, UInt32.toNat_toUInt8, id]
    exact same ▸ Char.ofNat_toNat c
  have digits := decode a
  rw [h, decode b] at digits
  rw [← Nat.ofDigitChars_ten_toDigits (n := a), ← digits, Nat.ofDigitChars_ten_toDigits]

/-- The digits that begin a text are the number that stands there. -/
theorem takeWhile_numeral (n : Nat) {x : UInt8} (hx : isDigit x = false) (xs : List UInt8) :
    (numeral n ++ x :: xs).takeWhile isDigit = numeral n := by
  rw [List.takeWhile_append_of_pos fun b hb => isDigit_of_mem_numeral hb]
  simp [hx]

theorem numeral_eq_of_prefix {a b : Nat} {x y : UInt8} {xs ys : List UInt8}
    (hx : isDigit x = false) (hy : isDigit y = false)
    (h : numeral a ++ x :: xs <+: numeral b ++ y :: ys) : a = b := by
  obtain ⟨more, eq⟩ := h
  have first := takeWhile_numeral a hx (xs ++ more)
  have second := takeWhile_numeral b hy ys
  rw [← eq, List.append_assoc, List.cons_append, first] at second
  exact numeral_injective second

namespace Layout

/-- A character that can stand right behind a number. -/
def Closes (d : Char) : Prop :=
  d ≠ '\n' ∧ isDigit ((String.utf8EncodeChar d).headD 0) = false

instance (d : Char) : Decidable (Closes d) := inferInstanceAs (Decidable (_ ∧ _))

/-- A number within a line is written as it is. -/
theorem bytes_number (l : Layout) (before after : List Char) {c : Char} (hc : c ≠ '\n') (n : Nat) :
    l.bytes (before ++ [c] ++ (toString n).toList ++ after) =
      l.bytes (before ++ [c]) ++ numeral n ++ (l.past (before ++ [c])).bytes after := by
  have inside : (l.past (before ++ [c])).atLineStart = false := by simp [past_concat, hc]
  have digits : '\n' ∉ (toString n).toList := by
    rw [Nat.toString_eq_repr, Nat.toList_repr]
    intro mem
    exact absurd (Nat.isDigit_of_mem_toDigits (by decide) (by decide) mem) (by decide)
  rw [bytes_append, bytes_append, past_append (a := before ++ [c]), bytes_of_notMem inside digits,
    past_of_notMem inside digits]
  rfl

theorem number_eq_of_prefix {l : Layout} {before after after' : List Char} {c d d' : Char}
    (hc : c ≠ '\n') (hd : Closes d) (hd' : Closes d') {a b : Nat} {xs ys : List UInt8}
    (h : l.bytes (before ++ [c] ++ (toString a).toList ++ d :: after) ++ xs <+:
      l.bytes (before ++ [c] ++ (toString b).toList ++ d' :: after') ++ ys) : a = b := by
  have inside : (l.past (before ++ [c])).atLineStart = false := by simp [past_concat, hc]
  have closed {d : Char} (hd : Closes d) (after : List Char) :
      ∃ x rest, (l.past (before ++ [c])).bytes (d :: after) = x :: rest ∧ isDigit x = false := by
    obtain ⟨newline, digit⟩ := hd
    rcases code : String.utf8EncodeChar d with _ | ⟨x, rest⟩
    · exact absurd code String.utf8EncodeChar_ne_nil
    · refine ⟨x, rest ++ ((l.past (before ++ [c])).pastChar d).bytes after, ?_, ?_⟩
      · simp only [bytes, charBytes, newline, if_false, margin, inside, code, List.nil_append,
          Bool.false_eq_true, List.cons_append]
      · simpa [code] using digit
  obtain ⟨x, rest, eq, hx⟩ := closed hd after
  obtain ⟨y, rest', eq', hy⟩ := closed hd' after'
  rw [bytes_number l before _ hc, bytes_number l before _ hc, eq, eq'] at h
  simp only [List.append_assoc, List.cons_append] at h
  exact numeral_eq_of_prefix hx hy ((List.prefix_append_right_inj _).1 h)

end Layout
end OperationStubs
