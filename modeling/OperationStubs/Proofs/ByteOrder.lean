import Mathlib.Tactic.SplitIfs
import OperationStubs.Text.Utf8

/-!
# The order of names is the order of their bytes

Names are put in order by their characters. UTF-8 keeps that order: of two characters the smaller
one has the smaller bytes, also where their numbers of bytes differ (`utf8EncodeChar_append_lt`), so
the bytes of two texts are in the order of the texts (`utf8_lt_utf8`).
-/

namespace OperationStubs

theorem ofNat_cons_lt_iff {a b : Nat} (ha : a < 256) (hb : b < 256) (xs ys : List UInt8) :
    UInt8.ofNat a :: xs < UInt8.ofNat b :: ys ↔ a < b ∨ a = b ∧ xs < ys := by
  rw [List.cons_lt_cons_iff, UInt8.ofNat_lt_iff_lt ha hb, ← UInt8.toNat_inj,
    UInt8.toNat_ofNat_of_lt' ha, UInt8.toNat_ofNat_of_lt' hb]

/-- A number by its digits to the base of 64, the first of which may be larger. -/
theorem eq_digits (v : Nat) :
    v = ((v / 262144 * 64 + v / 4096 % 64) * 64 + v / 64 % 64) * 64 + v % 64 := by
  have high : v / 262144 = v / 4096 / 64 := (Nat.div_div_eq_div_mul v 4096 64).symm
  have middle : v / 4096 = v / 64 / 64 := (Nat.div_div_eq_div_mul v 64 64).symm
  omega

/-- The first byte in which two characters differ decides, whatever follows. -/
theorem utf8EncodeChar_append_lt {c d : Char} (h : c < d) (xs ys : List UInt8) :
    String.utf8EncodeChar c ++ xs < String.utf8EncodeChar d ++ ys := by
  have less : c.val.toNat < d.val.toNat := UInt32.lt_iff_toNat_lt.1 h
  have high : d.val.toNat < 0x110000 := by
    rcases d.valid with low | ⟨_, high⟩
    · exact Nat.lt_trans low (by decide)
    · exact high
  unfold String.utf8EncodeChar
  generalize c.val.toNat = v at less
  generalize d.val.toNat = w at less high
  have lower := eq_digits v
  have upper := eq_digits w
  have small : v / 262144 % 8 = v / 262144 ∧ w / 262144 % 8 = w / 262144 := by omega
  dsimp only
  -- By the numbers of bytes of the two. Between equal numbers the digits decide.
  split_ifs
  all_goals
    simp (disch := omega) only [List.cons_append, List.nil_append, ofNat_cons_lt_iff, small]
    generalize v / 262144 = v₃, v / 4096 = v₂, v / 64 = v₁ at *
    generalize w / 262144 = w₃, w / 4096 = w₂, w / 64 = w₁ at *
    omega

theorem flatMap_utf8EncodeChar_lt {a b : List Char} (h : a < b) :
    a.flatMap String.utf8EncodeChar < b.flatMap String.utf8EncodeChar := by
  induction h with
  | @nil d b =>
    cases bytes : String.utf8EncodeChar d with
    | nil => exact absurd bytes String.utf8EncodeChar_ne_nil
    | cons byte rest =>
      rw [List.flatMap_cons, bytes]
      exact List.nil_lt_cons _ _
  | @cons c a b _ ih =>
    rw [List.flatMap_cons, List.flatMap_cons]
    exact List.append_left_lt ih
  | @rel c a d b less =>
    rw [List.flatMap_cons, List.flatMap_cons]
    exact utf8EncodeChar_append_lt less _ _

/-- A smaller text has smaller bytes. -/
theorem utf8_lt_utf8 {a b : String} (h : a < b) : utf8 a < utf8 b :=
  flatMap_utf8EncodeChar_lt (String.lt_iff.1 h)

/-- No two texts have the same bytes. -/
theorem utf8_inj {a b : String} : utf8 a = utf8 b ↔ a = b := by
  refine ⟨fun same => ?_, congrArg utf8⟩
  have apart {a b : String} (same : utf8 a = utf8 b) : ¬ a < b := by
    intro less
    have bytes := utf8_lt_utf8 less
    rw [same] at bytes
    exact List.lt_irrefl _ bytes
  exact String.le_antisymm (String.not_lt.1 (apart same.symm)) (String.not_lt.1 (apart same))

end OperationStubs
