/-! Sets of names, kept in ascending order. -/
namespace OperationStubs

/-- A set of names. The order is that of code points, which is the order of UTF-8 bytes. -/
structure NameSet where
  toList : List String
  ascending : toList.Pairwise (· < ·)
  deriving DecidableEq

namespace NameSet

instance : Membership String NameSet where
  mem names x := x ∈ names.toList

instance (x : String) (names : NameSet) : Decidable (x ∈ names) :=
  inferInstanceAs (Decidable (x ∈ names.toList))

instance : EmptyCollection NameSet where
  emptyCollection := ⟨[], .nil⟩

instance : Inhabited NameSet where
  default := ∅

/-- Puts `x` at its place in an ascending list. -/
def place (x : String) : List String → List String
  | [] => [x]
  | y :: ys => if x < y then x :: y :: ys else if x = y then y :: ys else y :: place x ys

theorem mem_place {x z : String} {ys : List String} : z ∈ place x ys ↔ z = x ∨ z ∈ ys := by
  fun_induction place x ys <;> grind

theorem pairwise_place {x : String} {ys : List String} (h : ys.Pairwise (· < ·)) :
    (place x ys).Pairwise (· < ·) := by
  fun_induction place x ys with
  | case1 => simp
  | case2 y ys lt =>
    refine List.pairwise_cons.2 ⟨fun z hz => ?_, h⟩
    rcases List.mem_cons.1 hz with rfl | hz
    · exact lt
    · exact String.lt_trans lt ((List.pairwise_cons.1 h).1 z hz)
  | case3 => exact h
  | case4 y ys ge ne ih =>
    obtain ⟨first, rest⟩ := List.pairwise_cons.1 h
    refine List.pairwise_cons.2 ⟨fun z hz => ?_, ih rest⟩
    rcases mem_place.1 hz with rfl | hz
    · exact String.not_le.1 fun le => ne (String.le_antisymm le (String.not_lt.1 ge))
    · exact first z hz

def insert (names : NameSet) (x : String) : NameSet :=
  ⟨place x names.toList, pairwise_place names.ascending⟩

def insertAll (names : NameSet) (xs : List String) : NameSet :=
  xs.foldl insert names

def ofList (xs : List String) : NameSet :=
  insertAll ∅ xs

def isEmpty (names : NameSet) : Bool :=
  names.toList.isEmpty

theorem mem_insert {names : NameSet} {x z : String} : z ∈ names.insert x ↔ z = x ∨ z ∈ names :=
  mem_place

theorem mem_insertAll {names : NameSet} {xs : List String} {z : String} :
    z ∈ names.insertAll xs ↔ z ∈ xs ∨ z ∈ names := by
  induction xs generalizing names with
  | nil => simp [insertAll]
  | cons x xs ih =>
    have step : names.insertAll (x :: xs) = (names.insert x).insertAll xs := rfl
    rw [step, ih, mem_insert]
    simp only [List.mem_cons]
    grind

theorem mem_ofList {xs : List String} {z : String} : z ∈ ofList xs ↔ z ∈ xs := by
  have none : ¬ z ∈ (∅ : NameSet) := by intro h; cases h
  simp [ofList, mem_insertAll, none]

end NameSet
end OperationStubs
