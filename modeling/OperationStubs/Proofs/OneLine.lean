import OperationStubs.Generator
import OperationStubs.Manifest
import OperationStubs.Proofs.QualifiedName
import OperationStubs.Proofs.Split
import OperationStubs.Stub.Loader

/-!
# Texts without a newline

A text that is made of texts without a newline has none either: not when it is put together, not
when names in it are shortened, and not when it is turned to upper case. Numbers, points in time and
modifiers have none of their own.
-/

namespace OperationStubs

namespace Text

/-- A text without a newline. -/
def OneLine (text : String) : Prop := '\n' ∉ text.toList

instance (text : String) : Decidable (OneLine text) :=
  inferInstanceAs (Decidable ('\n' ∉ text.toList))

@[simp] theorem oneLine_append {a b : String} : OneLine (a ++ b) ↔ OneLine a ∧ OneLine b := by
  simp [OneLine]

theorem oneLine_join {texts : List String} (all : ∀ text ∈ texts, OneLine text) :
    OneLine (String.join texts) := by
  induction texts with
  | nil => decide
  | cons text texts ih =>
    rw [String.join_cons, oneLine_append]
    constructor
    · exact all text List.mem_cons_self
    · exact ih fun other mem => all other (List.mem_cons_of_mem text mem)

theorem oneLine_intercalate {separator : String} (between : OneLine separator) {texts : List String}
    (all : ∀ text ∈ texts, OneLine text) : OneLine (separator.intercalate texts) := by
  induction texts with
  | nil =>
    rw [String.intercalate_nil]
    decide
  | cons text texts ih =>
    have first := all text List.mem_cons_self
    have rest := ih fun other mem => all other (List.mem_cons_of_mem text mem)
    cases texts with
    | nil => rwa [String.intercalate_singleton]
    | cons next texts =>
      simp only [String.intercalate_cons_cons, oneLine_append]
      exact ⟨⟨first, between⟩, rest⟩

theorem oneLine_pushn {text : String} (h : OneLine text) {c : Char} (ne : c ≠ '\n') (n : Nat) :
    OneLine (text.pushn c n) := by
  rw [String.pushn_eq_repeat_push]
  induction n with
  | zero => exact h
  | succ n ih =>
    simp only [Nat.repeat, OneLine, String.toList_push, List.mem_append, not_or]
    exact ⟨ih, by simpa using ne.symm⟩

/-- The lines of a text are its pieces between newlines, without a carriage return where a newline
follows, and without the last piece if that is empty. -/
theorem lineList_eq (text : List Char) : ∃ ended last, pieces '\n' text = ended ++ [last] ∧
    lineList text = ended.map lineList.dropReturn ++ if last = [] then [] else [last] := by
  have all (piece : List Char) (rest : List (List Char)) : ∃ ended last,
      piece :: rest = ended ++ [last] ∧ lineList.go piece rest =
        ended.map lineList.dropReturn ++ if last = [] then [] else [last] := by
    induction rest generalizing piece with
    | nil => exact ⟨[], piece, rfl, rfl⟩
    | cons next rest ih =>
      obtain ⟨ended, last, split, lines⟩ := ih next
      exact ⟨piece :: ended, last, congrArg (piece :: ·) split,
        congrArg (lineList.dropReturn piece :: ·) lines⟩
  obtain ⟨piece, rest, cut⟩ := List.exists_cons_of_ne_nil (pieces_ne_nil (c := '\n') text)
  rw [lineList, cut]
  exact all piece rest

theorem dropReturn_subset (line : List Char) : lineList.dropReturn line ⊆ line := by
  unfold lineList.dropReturn
  split
  · exact List.dropLast_subset line
  · exact List.Subset.refl line

theorem oneLine_of_mem_lines {text line : String} (mem : line ∈ lines text) : OneLine line := by
  obtain ⟨own, among, rfl⟩ := List.mem_map.1 mem
  obtain ⟨ended, last, cut, all⟩ := lineList_eq text.toList
  have inside {piece : List Char} (here : piece ∈ ended ++ [last]) : '\n' ∉ piece :=
    notMem_of_mem_pieces (cut ▸ here)
  rw [OneLine, String.toList_ofList]
  rw [all, List.mem_append] at among
  rcases among with before | behind
  · obtain ⟨piece, here, rfl⟩ := List.mem_map.1 before
    exact fun newline => inside (List.mem_append_left _ here) (dropReturn_subset piece newline)
  · split at behind
    · cases behind
    · exact inside (List.mem_append_right _ behind)

theorem oneLine_number (n : Nat) : OneLine (toString n) := by
  intro mem
  rw [Nat.toString_eq_repr, Nat.toList_repr] at mem
  have digit := Nat.isDigit_of_mem_toDigits (by decide) (by decide) mem
  exact absurd digit (by decide)

theorem toUpper_ne_newline {c : Char} (ne : c ≠ '\n') : c.toUpper ≠ '\n' := by
  unfold Char.toUpper
  split
  · rename_i lower
    intro same
    have val : (c.val + ('A'.val - 'a'.val)).toNat = 10 :=
      congrArg (fun c => c.val.toNat) same
    have low : 97 ≤ c.val.toNat := lower.1
    have high : c.val.toNat ≤ 122 := lower.2
    have down : ('A'.val - 'a'.val).toNat = 2 ^ 32 - 32 := by decide
    rw [UInt32.toNat_add, down] at val
    omega
  · exact ne

theorem ofNat_ne_newline {code : Nat} (far : 10 < code) : Char.ofNat code ≠ '\n' := by
  intro same
  by_cases valid : code.isValidChar
  · have made : Char.ofNat code = Char.ofNatAux code valid := dif_pos valid
    have val : code = 10 := congrArg Char.toNat (made.symm.trans same)
    omega
  · have made : Char.ofNat code = '\x00' := dif_neg valid
    exact absurd (made.symm.trans same) (by decide)

/-- No character but the newline has one in its upper-case form. -/
theorem newline_notMem_upper {c : Char} (ne : c ≠ '\n') : '\n' ∉ upper c := by
  have texts : ∀ entry ∈ upperTexts, '\n' ∉ entry.2 := by decide +kernel
  have shifts : ∀ entry ∈ upperShifts, 10 < entry.2 := by decide +kernel
  unfold upper
  split
  · rw [List.mem_singleton]
    exact (toUpper_ne_newline ne).symm
  · split
    · rename_i found
      exact texts _ (List.mem_of_find?_eq_some found)
    · split
      · rename_i run first found
        have far : 10 < first := shifts _ (List.mem_of_find?_eq_some found)
        rw [List.mem_singleton]
        exact (ofNat_ne_newline (Nat.lt_add_right _ far)).symm
      · rw [List.mem_singleton]
        exact ne.symm

end Text

open Text

theorem Loader.newline_notMem_upperSnake {name : List Char} (h : '\n' ∉ name) :
    '\n' ∉ upperSnake name := by
  cases name with
  | nil => exact h
  | cons c rest =>
    obtain ⟨first, others⟩ := List.ne_and_not_mem_of_not_mem_cons h
    have upper : ∀ d ∈ rest, '\n' ∉ Text.upper d := by
      intro d mem
      apply newline_notMem_upper
      rintro rfl
      exact others mem
    simp only [upperSnake, List.mem_append, List.mem_flatMap, not_or, not_exists, not_and]
    refine ⟨newline_notMem_upper first.symm, fun d mem => ?_⟩
    split
    · exact List.not_mem_cons_of_ne_of_not_mem (by decide) (upper d mem)
    · exact upper d mem

theorem Timestamp.oneLine_padded (width n : Nat) : OneLine (padded width n) := by
  have zeros : OneLine ("".pushn '0' (width - (toString n).length)) :=
    oneLine_pushn (by decide) (by decide) _
  rw [padded, oneLine_append]
  exact ⟨zeros, oneLine_number n⟩

theorem Timestamp.oneLine_text (time : Timestamp) : OneLine time.text := by
  have year : OneLine (yearText time.year) := by
    unfold yearText
    split
    · exact oneLine_padded 4 _
    · rw [oneLine_append]
      refine ⟨?_, oneLine_padded 4 _⟩
      split <;> decide
  simp only [text, oneLine_append]
  simp only [year, oneLine_padded, true_and, and_true]
  decide

theorem ModifierSet.oneLine_text (modifiers : ModifierSet) : OneLine modifiers.text := by
  refine oneLine_join fun text mem => ?_
  obtain ⟨modifier, -, rfl⟩ := List.mem_map.1 mem
  cases modifier <;> decide

/-- The name of a class has no newline that is not in the type's name or in the suffix. -/
theorem Name.oneLine_generated (package : String) {qualified suffix : String}
    (name : OneLine qualified) (ending : OneLine suffix) :
    OneLine (generated package qualified suffix) := by
  have inner : OneLine (inPackage package qualified) := by
    unfold inPackage
    split
    · exact name
    · split
      · rename_i rest cut
        rw [OneLine, eq_append_of_after? cut, List.mem_append, not_or] at name
        rw [OneLine, String.toList_ofList]
        exact name.2
      · exact name
  rw [generated, oneLine_append]
  refine ⟨?_, ending⟩
  rw [OneLine, String.toList_map, List.mem_map]
  rintro ⟨c, mem, same⟩
  split at same
  · cases same
  · exact inner (same ▸ mem)

namespace Scope

variable (scope : Scope)

theorem oneLine_shortenName {name : String} (h : OneLine name) :
    OneLine (scope.shortenName name) := by
  unfold shortenName
  split
  · exact (Name.notMem_parts h).2
  · exact h

/-- No newline comes of shortening names. -/
theorem oneLine_shorten {type : String} (h : OneLine type) : OneLine (scope.shorten type) := by
  have scan := Piece.scan_ofText type.toList
  rw [OneLine, shorten, String.toList_ofList]
  rw [OneLine] at h
  generalize type.toList = text, Piece.ofText type.toList = pieces at *
  induction scan with
  | nil => exact h
  | @qualified name rest pieces is longest more ih =>
    rw [List.mem_append, not_or] at h
    have short : OneLine (scope.shortenName (String.ofList name)) :=
      scope.oneLine_shortenName (by rw [OneLine, String.toList_ofList]; exact h.1)
    rw [List.flatMap_cons, List.mem_append, not_or]
    exact ⟨short, ih h.2⟩
  | plain none more ih =>
    obtain ⟨ne, rest⟩ := List.ne_and_not_mem_of_not_mem_cons h
    exact List.not_mem_cons_of_ne_of_not_mem ne (ih rest)

end Scope
end OperationStubs
