import OperationStubs.Proofs.Alike
import OperationStubs.Proofs.SourceTree

/-!
# What happens beside a file

A file is what stands at its place, its content and the descriptors for it. Writing to another
file, removing it, opening one elsewhere and making the directories of a class leave all of this as
it is (`Leaves`).
-/

namespace OperationStubs.Disk

/-- What stands at a location is what it was, and so is every descriptor for it. -/
structure Leaves (d d' : Disk) (l : Location) : Prop where
  node : d'.node? l = d.node? l
  content : ∀ number, d.node? l = some (.file number) → d'.contents[number]? = d.contents[number]?
  descriptor : ∀ (handle : Nat) (descriptor : Descriptor),
    d.node? l = some (.file descriptor.file) →
      d.descriptors[handle]? = some descriptor → d'.descriptors[handle]? = some descriptor

namespace Leaves

variable {d d' : Disk} {l : Location}

theorem refl (d : Disk) (l : Location) : d.Leaves d l := ⟨rfl, fun _ _ => rfl, fun _ _ _ h => h⟩

theorem trans {d'' : Disk} (h : d.Leaves d' l) (h' : d'.Leaves d'' l) : d.Leaves d'' l := by
  refine ⟨h'.node.trans h.node, fun number node => ?_, fun handle descriptor node there => ?_⟩
  · exact (h'.content number (h.node.trans node)).trans (h.content number node)
  · exact h'.descriptor handle descriptor (h.node.trans node)
      (h.descriptor handle descriptor node there)

theorem content? (h : d.Leaves d' l) : d'.content? l = d.content? l := by
  simp only [Disk.content?, h.node]
  cases node : d.node? l with
  | none => rfl
  | some there =>
    cases there with
    | directory => rfl
    | file number => exact h.content number node

theorem holds (h : d.Leaves d' l) {handle number : Nat} {held : List UInt8}
    (holds : d.Holds l handle number held) : d'.Holds l handle number held :=
  ⟨h.node.trans holds.node, (h.content number holds.node).trans holds.content,
    h.descriptor handle _ holds.node holds.descriptor⟩

end Leaves

/-- Only the file at `target` has changed. -/
structure Alone (d d' : Disk) (target : Location) : Prop where
  whole : d'.WellFormed
  keeps : d.Keeps d'
  others : ∀ l, l ≠ target → d.Leaves d' l

theorem getElem?_push_of_getElem? {α : Type} {xs : Array α} {i : Nat} {x : α}
    (h : xs[i]? = some x) (y : α) : (xs.push y)[i]? = some x := by
  have small := (Array.getElem?_eq_some_iff.1 h).1
  rw [Array.getElem?_push, if_neg (Nat.ne_of_lt small), h]

section File

variable {d : Disk} (whole : d.WellFormed) {target : Location}

include whole

theorem alone_refl : d.Alone d target := ⟨whole, ⟨rfl, fun _ there => there⟩, fun l _ => .refl d l⟩

theorem alone_holding {handle number : Nat} {held : List UInt8}
    (holds : d.Holds target handle number held) (held' : List UInt8) :
    d.Alone (d.holding handle number held') target := by
  refine ⟨whole.holding handle number held', ⟨rfl, fun _ there => there⟩, fun l other => ?_⟩
  have ne {n : Nat} (node : d.node? l = some (.file n)) : number ≠ n := by
    rintro rfl
    exact other (whole.single l target _ node holds.node)
  refine ⟨rfl, fun n node => ?_, fun h descriptor node there => ?_⟩
  · exact Array.getElem?_setIfInBounds_ne (ne node)
  · have different : handle ≠ h := by
      rintro rfl
      have same := Option.some.inj (holds.descriptor.symm.trans there)
      exact ne node (congrArg Descriptor.file same)
    exact (Array.getElem?_setIfInBounds_ne different).trans there

theorem alone_without {number : Nat} (node : d.node? target = some (.file number)) :
    d.Alone (d.without target) target := by
  refine ⟨whole.without node, keeps_without node, fun l other => ?_⟩
  exact ⟨(node?_without (ne_nil_of_file node) l).trans (if_neg other), fun _ _ => rfl,
    fun _ _ _ there => there⟩

/-- A file that is opened is empty, and has a descriptor of its own. -/
theorem create_alone {path : String} (located : d.locate path = .ok target)
    (clear : d.kind? target ≠ some true) :
    ∃ handle number, (create path d).1 = .ok handle ∧
      (create path d).2.Holds target handle number [] ∧ d.Alone (create path d).2 target := by
  obtain ⟨_, d', number, opened, -, nodes, filed⟩ := create_opens located clear
  obtain rfl : (create path d).2 = d' := congrArg Prod.snd opened
  rw [ne_eq, kind?_eq_true] at clear
  cases there : d.node? target with
  | none =>
    obtain ⟨answer, blank, whole', -⟩ := create_free whole located there
    refine ⟨_, _, answer, blank.holds, whole', filed.keeps, fun l other => ?_⟩
    refine ⟨nodes l other, fun n node => ?_, fun h descriptor _ old => ?_⟩
    · simp only [create, located, there, openFile]
      rw [Array.getElem?_push, if_neg (Nat.ne_of_lt (whole.present l n node))]
    · simp only [create, located, there, openFile]
      exact getElem?_push_of_getElem? old _
  | some node =>
    cases node with
    | directory => exact absurd there clear
    | file number =>
      obtain ⟨answer, blank, whole', -⟩ := create_file whole located there
      refine ⟨_, _, answer, blank.holds, whole', filed.keeps, fun l other => ?_⟩
      refine ⟨nodes l other, fun n node => ?_, fun h descriptor _ old => ?_⟩
      · have different : number ≠ n := by
          rintro rfl
          exact other (whole.single l target _ node there)
        simp only [create, located, there, openFile]
        exact Array.getElem?_setIfInBounds_ne different
      · simp only [create, located, there, openFile]
        exact getElem?_push_of_getElem? old _

end File

/-- The directories of a class do not come to be where class files go. -/
theorem leaves_makeDirs {d : Disk} {root fqcn fqcn' : String} {target : Location}
    (slash : '/' ∉ fqcn.toList) (slash' : '/' ∉ fqcn'.toList)
    (located : d.locate (SourceTree.pathBelow root fqcn') = .ok target) :
    d.Leaves (makeDirs (Path.parent (SourceTree.pathBelow root fqcn)) d).2 target := by
  have grown := grown_makeDirs (Path.parent (SourceTree.pathBelow root fqcn)) d
  have node : (makeDirs (Path.parent (SourceTree.pathBelow root fqcn)) d).2.node? target =
      d.node? target := by
    rcases grown.node target with same | ⟨free, made⟩
    · exact same
    -- With a file at `target` no directory is made there, so none is made without it.
    obtain ⟨base, walked, rfl⟩ := locate_place slash' located
    have alike : Alike root d (d.addNode (Name.place base fqcn') (.file 0)) := by
      refine .inr ⟨base, rfl, walked, fun l => ?_⟩
      rw [kind?_addNode free]
      split
      · rename_i own
        subst own
        exact .inr ⟨isSpot_place base fqcn', by simp [kind?, free], by simp⟩
      · exact .inl rfl
    obtain ⟨-, alike⟩ := alike.makeDirs slash
    have grown' := grown_makeDirs (Path.parent (SourceTree.pathBelow root fqcn))
      (d.addNode (Name.place base fqcn') (.file 0))
    have file := (node?_addNode free (.file 0) (Name.place base fqcn')).trans (if_pos rfl)
    have directory := kind?_eq_true.1 ((alike.directory _).2 (kind?_eq_true.2 made))
    rcases grown'.node (Name.place base fqcn') with same | ⟨none, -⟩
    · rw [same, file] at directory
      cases directory
    · rw [file] at none
      cases none
  exact ⟨node, fun n _ => by rw [grown.contents], fun _ _ _ there => by rwa [grown.descriptors]⟩

end OperationStubs.Disk
