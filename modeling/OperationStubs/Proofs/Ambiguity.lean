import Mathlib.Data.List.Nodup
import OperationStubs.Proofs.QualifiedName
import OperationStubs.Proofs.Split

/-!
# Types that look alike in short

A qualified name is shown whole or as its simple name. Where no two imports have one simple name, a
class that is imported looks like no other, since its import takes the simple name away from all
that need none. Of those that need none, two can look alike: a class of `java.lang` and one of the
file's own package with the same simple name (`Scope.Twins`). No other types do (`shorten_eq_iff`).
-/

namespace OperationStubs

namespace Piece

/-- A qualified name is one piece. -/
theorem ofText_of_isQualified {name : List Char} (is : IsQualified name) :
    ofText name = [.qualified name] := by
  have longest : ∀ other, IsQualified other → other <+: name ++ [] → other <+: name := by
    intro other _ begins
    rwa [List.append_nil] at begins
  have scan := Scan.qualified is longest .nil
  rw [List.append_nil] at scan
  exact scan_iff.1 scan

theorem dot_mem_of_isQualified {name : List Char} (is : IsQualified name) : '.' ∈ name := by
  obtain ⟨first, parts, _, _, some, rfl⟩ := is
  obtain ⟨next, more, rfl⟩ := List.exists_cons_of_ne_nil some
  simp [dotted_cons]

end Piece

namespace Name

/-- A qualified name is its two parts. -/
theorem eq_of_isQualified {name : String} (is : Piece.IsQualified name.toList) :
    name = qualifier name ++ "." ++ simple name := by
  rcases qualifier_simple name with ⟨-, whole⟩ | split
  · have dot := Piece.dot_mem_of_isQualified is
    rw [← whole] at dot
    exact absurd dot (dot_notMem_simple name)
  · exact split

end Name

namespace Scope

variable {scope : Scope}

theorem shorten_of_isQualified (scope : Scope) {name : String}
    (is : Piece.IsQualified name.toList) : scope.shorten name = scope.shortenName name := by
  simp [shorten, Piece.ofText_of_isQualified is, shortenPiece]

theorem isShadowed_eq_false_iff (name : String) : scope.isShadowed name = false ↔
    ∀ other ∈ scope.imported, Name.simple other ≠ Name.simple name := by
  simp only [isShadowed, List.any_eq_false, beq_iff_eq]
  rfl

theorem isImplicit_iff (name : String) : scope.isImplicit name = true ↔
    Name.qualifier name = "java.lang" ∨
      scope.package ≠ "" ∧ Name.qualifier name = scope.package := by
  simp [isImplicit]

theorem knows_iff (name : String) : scope.knows name = true ↔
    name ∈ scope.imported ∨
      (Name.qualifier name = "java.lang" ∨
        scope.package ≠ "" ∧ Name.qualifier name = scope.package) ∧
      ∀ other ∈ scope.imported, Name.simple other ≠ Name.simple name := by
  simp only [knows, Bool.or_eq_true, Bool.and_eq_true, decide_eq_true_eq, Bool.not_eq_true',
    isShadowed_eq_false_iff, isImplicit_iff]

/-- No two imports have one simple name. -/
def Apart (scope : Scope) : Prop :=
  (scope.imported.toList.map Name.simple).Nodup

theorem Apart.eq (apart : scope.Apart) {a b : String} (ha : a ∈ scope.imported)
    (hb : b ∈ scope.imported) (same : Name.simple a = Name.simple b) : a = b :=
  List.inj_on_of_nodup_map apart ha hb same

/-- A class of `java.lang` and a class of the file's package that have one simple name, and nothing
is imported under it. -/
structure Twins (scope : Scope) (a b : String) : Prop where
  language : Name.qualifier a = "java.lang"
  own : scope.package ≠ "" ∧ Name.qualifier b = scope.package
  same : Name.simple a = Name.simple b
  free : ∀ other ∈ scope.imported, Name.simple other ≠ Name.simple a

theorem Twins.knows {a b : String} (twins : scope.Twins a b) :
    scope.knows a = true ∧ scope.knows b = true := by
  constructor
  · exact (knows_iff a).2 (.inr ⟨.inl twins.language, twins.free⟩)
  · exact (knows_iff b).2 (.inr ⟨.inr twins.own, twins.same ▸ twins.free⟩)

variable {a b : String} (isA : Piece.IsQualified a.toList) (isB : Piece.IsQualified b.toList)

include isA isB

/-- Two names that are shown in short and have one simple name are one name, or twins. -/
theorem twins_of_knows (apart : scope.Apart) (ne : a ≠ b) (knowsA : scope.knows a = true)
    (knowsB : scope.knows b = true) (same : Name.simple a = Name.simple b) :
    scope.Twins a b ∨ scope.Twins b a := by
  have parts : Name.qualifier a ≠ Name.qualifier b := by
    intro qualifiers
    apply ne
    rw [Name.eq_of_isQualified isA, Name.eq_of_isQualified isB, qualifiers, same]
  rcases (knows_iff a).1 knowsA with importA | ⟨implicitA, freeA⟩
  · rcases (knows_iff b).1 knowsB with importB | ⟨-, freeB⟩
    · exact absurd (apart.eq importA importB same) ne
    · exact absurd same (freeB a importA)
  · rcases (knows_iff b).1 knowsB with importB | ⟨implicitB, freeB⟩
    · exact absurd same.symm (freeA b importB)
    · rcases implicitA with languageA | ownA <;> rcases implicitB with languageB | ownB
      · exact absurd (languageA.trans languageB.symm) parts
      · exact .inl ⟨languageA, ownB, same, freeA⟩
      · exact .inr ⟨languageB, ownA, same.symm, freeB⟩
      · exact absurd (ownA.2.trans ownB.2.symm) parts

omit isB in
/-- A simple name is never a qualified name. -/
theorem simple_ne (name : String) : Name.simple name ≠ a := by
  rintro rfl
  exact Name.dot_notMem_simple name (Piece.dot_mem_of_isQualified isA)

/-- Where no two imports have one simple name, two types look alike just if one of them is of
`java.lang`, the other of the file's package, and nothing is imported under their simple name. -/
theorem shorten_eq_iff (apart : scope.Apart) (ne : a ≠ b) :
    scope.shorten a = scope.shorten b ↔ scope.Twins a b ∨ scope.Twins b a := by
  rw [shorten_of_isQualified scope isA, shorten_of_isQualified scope isB]
  constructor
  · intro alike
    unfold shortenName at alike
    split at alike <;> split at alike
    · exact twins_of_knows isA isB apart ne ‹_› ‹_› alike
    · exact absurd alike (simple_ne isB a)
    · exact absurd alike.symm (simple_ne isA b)
    · exact absurd alike ne
  · intro twins
    have known : scope.knows a = true ∧ scope.knows b = true ∧ Name.simple a = Name.simple b := by
      rcases twins with twins | twins
      · exact ⟨twins.knows.1, twins.knows.2, twins.same⟩
      · exact ⟨twins.knows.2, twins.knows.1, twins.same.symm⟩
    simp only [shortenName, known, if_true]

omit isA isB

/-- In a file of `com.example` its own `String` looks like that of `java.lang`. -/
theorem shorten_twins :
    let scope : Scope := ⟨"com.example", ∅⟩
    scope.Apart ∧ Piece.IsQualified "com.example.String".toList ∧
      Piece.IsQualified "java.lang.String".toList ∧
      "com.example.String" ≠ "java.lang.String" ∧
      scope.shorten "com.example.String" = "String" ∧
      scope.shorten "java.lang.String" = "String" := by
  intro scope
  have own : Piece.qualified? "com.example.String".toList =
      some ("com.example.String".toList, []) := by decide +kernel
  have language : Piece.qualified? "java.lang.String".toList =
      some ("java.lang.String".toList, []) := by decide +kernel
  refine ⟨List.nodup_nil, Piece.isQualified_of_qualified? own,
    Piece.isQualified_of_qualified? language, by decide, ?_, ?_⟩
  · decide +kernel
  · decide +kernel

/-- An import takes its simple name from both, and leaves them another. -/
theorem shorten_eq_iff_imported :
    let scope : Scope := ⟨"p", .ofList ["a.Map"]⟩
    scope.Apart ∧ Piece.IsQualified "java.lang.List".toList ∧ Piece.IsQualified "p.List".toList ∧
      "java.lang.List" ≠ "p.List" ∧
      (scope.shorten "java.lang.List" = scope.shorten "p.List" ↔
        scope.Twins "java.lang.List" "p.List" ∨ scope.Twins "p.List" "java.lang.List") ∧
      scope.shorten "p.List" = "List" ∧ scope.shorten "p.Map" = "p.Map" := by
  intro scope
  have apart : scope.Apart := List.nodup_singleton (Name.simple "a.Map")
  have language : Piece.qualified? "java.lang.List".toList =
      some ("java.lang.List".toList, []) := by decide +kernel
  have own : Piece.qualified? "p.List".toList = some ("p.List".toList, []) := by decide +kernel
  have isLanguage := Piece.isQualified_of_qualified? language
  have isOwn := Piece.isQualified_of_qualified? own
  have ne : "java.lang.List" ≠ "p.List" := by decide
  exact ⟨apart, isLanguage, isOwn, ne, shorten_eq_iff isLanguage isOwn apart ne, by decide +kernel,
    by decide +kernel⟩

end Scope
end OperationStubs
