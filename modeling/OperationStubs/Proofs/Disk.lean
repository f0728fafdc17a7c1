import OperationStubs.Disk

/-!
# Files keep to themselves

On a disk where every file has a content of its own, making directories changes no file, and a file
that is created, written and removed changes no other. Locations do not move: where directories
stay, a path leads to the same place (`locate_of_keeps`).
-/

namespace OperationStubs.Disk

/-- Every file has a content, and shares it with no other. -/
structure WellFormed (d : Disk) : Prop where
  present : ∀ l number, d.node? l = some (.file number) → number < d.contents.size
  single : ∀ l l' number, d.node? l = some (.file number) → d.node? l' = some (.file number) →
    l = l'

theorem node?_nil (d : Disk) : d.node? [] = some .directory := rfl

theorem node?_congr {d d' : Disk} (h : d'.nodes = d.nodes) (l : Location) :
    d'.node? l = d.node? l := by
  simp only [node?, h]

theorem node?_addNode {d : Disk} {l : Location} (free : d.node? l = none) (node : Node)
    (l' : Location) : (d.addNode l node).node? l' = if l' = l then some node else d.node? l' := by
  have below : l ≠ [] := by
    rintro rfl
    simp [node?_nil] at free
  by_cases top : l' = []
  · subst top
    simp [node?_nil, below.symm]
  · by_cases same : l' = l
    · simp [node?, addNode, same, below]
    · simp [node?, addNode, top, same, List.lookup_cons, beq_eq_false_iff_ne.2 same]

theorem file_of_content? {d : Disk} {l : Location} {text : List UInt8}
    (content : d.content? l = some text) : ∃ number, d.node? l = some (.file number) := by
  unfold content? at content
  split at content
  · exact ⟨_, ‹_›⟩
  · cases content

/-- Directories that are there stay there. -/
def Keeps (d d' : Disk) : Prop :=
  d'.here = d.here ∧ ∀ l, d.node? l = some .directory → d'.node? l = some .directory

theorem Keeps.trans {a b c : Disk} (h : a.Keeps b) (h' : b.Keeps c) : a.Keeps c :=
  ⟨h'.1.trans h.1, fun l directory => h'.2 l (h.2 l directory)⟩

theorem enter_of_keeps {d d' : Disk} (keeps : d.Keeps d') {l l' : Location} {piece : String}
    (h : d.enter l piece = .ok l') : d'.enter l piece = .ok l' := by
  unfold enter at h ⊢
  by_cases stays : Path.isHere piece
  · simpa [stays] using h
  by_cases up : piece = ".."
  · simpa [stays, up] using h
  by_cases long : maxNameBytes < (utf8 piece).length
  · simp [stays, up, long] at h
  simp only [stays, up, long, if_false, Bool.false_eq_true] at h ⊢
  cases node : d.node? (piece :: l) with
  | none => simp [node] at h
  | some there =>
    cases there with
    | file number => simp [node] at h
    | directory =>
      rw [keeps.2 _ node]
      rw [node] at h
      exact h

theorem locateFrom_of_keeps {d d' : Disk} (keeps : d.Keeps d') {l target : Location}
    {pieces : List String} (h : d.locateFrom l pieces = .ok target) :
    d'.locateFrom l pieces = .ok target := by
  induction pieces generalizing l with
  | nil => exact h
  | cons piece rest ih =>
    cases rest with
    | nil =>
      simp only [locateFrom] at h ⊢
      split at h
      · rename_i inner
        simp only [inner, if_true]
        exact enter_of_keeps keeps h
      · rename_i inner
        simp only [inner]
        exact h
    | cons next rest =>
      simp only [locateFrom] at h ⊢
      cases entered : d.enter l piece with
      | error fault => simp [entered, bind, Except.bind] at h
      | ok l' =>
        rw [entered] at h
        rw [enter_of_keeps keeps entered]
        exact ih h

/-- A path goes on to lead to the same location. -/
theorem locate_of_keeps {d d' : Disk} (keeps : d.Keeps d') {path : String} {target : Location}
    (h : d.locate path = .ok target) : d'.locate path = .ok target := by
  unfold locate at h ⊢
  split
  · simp_all
  · split
    · simp_all
    · split
      · simp_all
      · rename_i nul blank long
        simp only [nul, blank, long, if_false] at h
        have start : d'.start path = d.start path := by simp [start, keeps.1]
        rw [start]
        exact locateFrom_of_keeps keeps h

theorem locate_congr {d d' : Disk} {path : String} {target : Location}
    (h : d.locate path = .ok target) (nodes : d'.nodes = d.nodes) (here : d'.here = d.here) :
    d'.locate path = .ok target :=
  locate_of_keeps ⟨here, fun l kept => (node?_congr nodes l).trans kept⟩ h

/-- Some directories more. -/
structure Grown (d d' : Disk) : Prop where
  contents : d'.contents = d.contents
  descriptors : d'.descriptors = d.descriptors
  here : d'.here = d.here
  node : ∀ l, d'.node? l = d.node? l ∨ d.node? l = none ∧ d'.node? l = some .directory

namespace Grown

theorem refl (d : Disk) : Grown d d := ⟨rfl, rfl, rfl, fun _ => .inl rfl⟩

theorem trans {a b c : Disk} (h : Grown a b) (h' : Grown b c) : Grown a c := by
  refine ⟨h'.contents.trans h.contents, h'.descriptors.trans h.descriptors, h'.here.trans h.here,
    fun l => ?_⟩
  rcases h.node l with same | ⟨free, made⟩
  · rw [← same]
    exact h'.node l
  · rcases h'.node l with same | ⟨free', _⟩
    · exact .inr ⟨free, same.trans made⟩
    · simp [made] at free'

theorem content? {d d' : Disk} (h : Grown d d') (l : Location) : d'.content? l = d.content? l := by
  rcases h.node l with same | ⟨free, made⟩
  · simp only [Disk.content?, same, h.contents]
  · simp only [Disk.content?, free, made]

theorem file {d d' : Disk} (h : Grown d d') {l : Location} {number : Nat}
    (node : d'.node? l = some (.file number)) : d.node? l = some (.file number) := by
  rcases h.node l with same | ⟨_, made⟩
  · exact same ▸ node
  · simp [made] at node

theorem wellFormed {d d' : Disk} (h : Grown d d') (whole : d.WellFormed) : d'.WellFormed := by
  constructor
  · intro l number node
    rw [h.contents]
    exact whole.present l number (h.file node)
  · intro l l' number node node'
    exact whole.single l l' number (h.file node) (h.file node')

end Grown

theorem grown_makeDir (path : List String) (l : Location) (d : Disk) :
    Grown d (makeDir path l d).2 := by
  unfold makeDir
  split
  · exact .refl d
  · rename_i target _
    split
    · exact .refl d
    · rename_i free
      refine ⟨rfl, rfl, rfl, fun l' => ?_⟩
      rw [node?_addNode free]
      split
      · rename_i same
        exact .inr ⟨same ▸ free, rfl⟩
      · exact .inl rfl

theorem settle_snd (path : List String) (l : Location) (made : Except Fault Unit × Disk) :
    (settle path l made).2 = made.2 := by
  rcases made with ⟨_ | _, d⟩
  · simp only [settle]
    split
    · split <;> rfl
    · rfl
  · rfl

theorem grown_makeDirsFrom (l : Location) (path : List String) (d : Disk) :
    Grown d (makeDirsFrom l path d).2 := by
  induction path generalizing d with
  | nil => exact .refl d
  | cons piece above ih =>
    simp only [makeDirsFrom]
    have first := grown_makeDir (piece :: above).reverse l d
    split
    · rename_i fault d₁ made
      rw [made] at first
      split
      · have second := ih d₁
        split
        · rename_i d₂ made
          rw [made] at second
          rw [settle_snd]
          exact (first.trans second).trans (grown_makeDir _ l d₂)
        · exact first.trans second
      · rw [settle_snd]
        exact first
    · exact first

theorem grown_makeDirs (path : String) (d : Disk) : Grown d (makeDirs path d).2 := by
  simp only [makeDirs]
  split
  · exact .refl d
  · split
    · exact .refl d
    · exact grown_makeDirsFrom _ _ d

/-- A file that is open at its start and empty. -/
structure Blank (d : Disk) (path : String) (handle : Nat) (target : Location) (number : Nat) :
    Prop where
  located : d.locate path = .ok target
  node : d.node? target = some (.file number)
  content : d.contents[number]? = some []
  descriptor : d.descriptors[handle]? = some ⟨number, 0⟩

/-- Files other than the one at `target` are what they were. -/
def Spares (d d' : Disk) (target : Location) : Prop :=
  ∀ l, l ≠ target → d'.content? l = d.content? l

/-- A new content for one file number touches no other location. -/
theorem spares_of_single {d d' : Disk} (whole : d.WellFormed) {target : Location} {number : Nat}
    (node : d.node? target = some (.file number))
    (nodes : ∀ l, l ≠ target → d'.node? l = d.node? l)
    (contents : ∀ n, n < d.contents.size → n ≠ number → d'.contents[n]? = d.contents[n]?) :
    Spares d d' target := by
  intro l other
  simp only [content?, nodes l other]
  cases there : d.node? l with
  | none => rfl
  | some n =>
    cases n with
    | directory => rfl
    | file number' =>
      refine contents number' (whole.present l number' there) ?_
      rintro rfl
      exact other (whole.single l target _ there node)

theorem blank_openFile {d : Disk} {path : String} {target : Location} {number : Nat}
    (located : d.locate path = .ok target) (node : d.node? target = some (.file number))
    (content : d.contents[number]? = some []) :
    (openFile d number).2.Blank path d.descriptors.size target number := by
  exact ⟨locate_congr located rfl rfl, node, content, by simp [openFile]⟩

/-- A file that is there is emptied. -/
theorem create_file {d : Disk} (whole : d.WellFormed) {path : String} {target : Location}
    {number : Nat} (located : d.locate path = .ok target)
    (node : d.node? target = some (.file number)) :
    (create path d).1 = .ok d.descriptors.size ∧
      (create path d).2.Blank path d.descriptors.size target number ∧
      (create path d).2.WellFormed ∧ Spares d (create path d).2 target := by
  simp only [create, located, node]
  have small := whole.present target number node
  refine ⟨rfl, blank_openFile (locate_congr located rfl rfl) node (by simp [small]),
    ⟨?_, whole.single⟩, ?_⟩
  · intro l n there
    have := whole.present l n there
    simpa [openFile] using this
  · apply spares_of_single whole node
    · exact fun _ _ => rfl
    · intro n _ other
      simp [openFile, Array.getElem?_setIfInBounds_ne other.symm]

/-- A file that is not there is made. -/
theorem create_free {d : Disk} (whole : d.WellFormed) {path : String} {target : Location}
    (located : d.locate path = .ok target) (free : d.node? target = none) :
    (create path d).1 = .ok d.descriptors.size ∧
      (create path d).2.Blank path d.descriptors.size target d.contents.size ∧
      (create path d).2.WellFormed ∧ Spares d (create path d).2 target := by
  simp only [create, located, free]
  have nodes := node?_addNode free (.file d.contents.size)
  have keeps : d.Keeps (d.addNode target (.file d.contents.size)) := by
    refine ⟨rfl, fun l directory => ?_⟩
    rw [nodes]
    split
    · rename_i same
      simp [← same, directory] at free
    · exact directory
  have fresh (l : Location) : d.node? l ≠ some (.file d.contents.size) := fun there =>
    absurd (whole.present l _ there) (Nat.lt_irrefl _)
  refine ⟨rfl, blank_openFile ?_ ?_ (by simp), ⟨?_, ?_⟩, ?_⟩
  · exact locate_congr (locate_of_keeps keeps located) rfl rfl
  · exact (nodes target).trans (if_pos rfl)
  · intro l n there
    have there := (nodes l).symm.trans there
    split at there
    · obtain rfl : d.contents.size = n := by simpa using there
      simp [openFile]
    · have := whole.present l n there
      simp only [openFile, Array.size_push]
      omega
  · intro l l' n there there'
    have there := (nodes l).symm.trans there
    have there' := (nodes l').symm.trans there'
    split at there <;> split at there'
    · simp_all
    · simp_all
    · simp_all
    · exact whole.single l l' n there there'
  · intro l other
    have same : (openFile { d.addNode target (.file d.contents.size) with
        contents := d.contents.push [] } d.contents.size).2.node? l = d.node? l :=
      (nodes l).trans (if_neg other)
    simp only [content?, same]
    cases there : d.node? l with
    | none => rfl
    | some n =>
      cases n with
      | directory => rfl
      | file number =>
        have := whole.present l number there
        simp [openFile, Array.getElem?_push, Nat.ne_of_lt this]

/-- What creating a file comes to. A file that is refused leaves the disk as it is. -/
theorem create_cases {d : Disk} (whole : d.WellFormed) (path : String) :
    (∃ fault, create path d = (.error fault, d)) ∨
    ∃ handle target number, (create path d).1 = .ok handle ∧
      (create path d).2.Blank path handle target number ∧ (create path d).2.WellFormed ∧
      Spares d (create path d).2 target := by
  cases located : d.locate path with
  | error fault => exact .inl ⟨fault, by simp only [create, located]⟩
  | ok target =>
    cases node : d.node? target with
    | none => exact .inr ⟨_, target, _, create_free whole located node⟩
    | some there =>
      cases there with
      | directory => exact .inl ⟨Fault.isADirectory, by simp only [create, located, node]⟩
      | file number => exact .inr ⟨_, target, number, create_file whole located node⟩

/-- The disk once `held` has been written through a descriptor. -/
def holding (d : Disk) (handle number : Nat) (held : List UInt8) : Disk :=
  { d with
    contents := d.contents.setIfInBounds number held
    descriptors := d.descriptors.setIfInBounds handle ⟨number, held.length⟩ }

theorem setIfInBounds_of_getElem? {α : Type} {xs : Array α} {i : Nat} {x : α}
    (h : xs[i]? = some x) : xs.setIfInBounds i x = xs := by
  obtain ⟨inside, rfl⟩ := Array.getElem?_eq_some_iff.1 h
  simp [Array.setIfInBounds_def, inside]

/-- The file at `target` has the content `held`, and a descriptor stands at its end. -/
structure Holds (d : Disk) (target : Location) (handle number : Nat) (held : List UInt8) :
    Prop where
  node : d.node? target = some (.file number)
  content : d.contents[number]? = some held
  descriptor : d.descriptors[handle]? = some ⟨number, held.length⟩

theorem Blank.holds {d : Disk} {path : String} {handle : Nat} {target : Location} {number : Nat}
    (blank : d.Blank path handle target number) : d.Holds target handle number [] :=
  ⟨blank.node, blank.content, blank.descriptor⟩

namespace Holds

variable {d : Disk} {target : Location} {handle number : Nat} {held : List UInt8}
variable (holds : d.Holds target handle number held)

include holds

theorem small : number < d.contents.size := (Array.getElem?_eq_some_iff.1 holds.content).1

theorem open_ : handle < d.descriptors.size := (Array.getElem?_eq_some_iff.1 holds.descriptor).1

theorem content? : d.content? target = some held := by
  simp only [Disk.content?, holds.node, holds.content]

theorem holding_self : d.holding handle number held = d := by
  have contents : d.contents.setIfInBounds number held = d.contents :=
    setIfInBounds_of_getElem? holds.content
  have descriptors : d.descriptors.setIfInBounds handle ⟨number, held.length⟩ = d.descriptors :=
    setIfInBounds_of_getElem? holds.descriptor
  simp only [holding, contents, descriptors]

theorem holding (held' : List UInt8) :
    (d.holding handle number held').Holds target handle number held' := by
  refine ⟨holds.node, ?_, ?_⟩
  · simp [Disk.holding, holds.small]
  · simp [Disk.holding, holds.open_]

end Holds

theorem holding_holding (d : Disk) (handle number : Nat) (held held' : List UInt8) :
    (d.holding handle number held).holding handle number held' = d.holding handle number held' := by
  simp only [holding, Array.setIfInBounds_setIfInBounds]

theorem overwrite_end (held bytes : List UInt8) :
    overwrite held held.length bytes = held ++ bytes := by
  simp [overwrite]

/-- Writing goes on where it stopped. -/
theorem write_holding {d : Disk} {handle number : Nat} (small : number < d.contents.size)
    (open_ : handle < d.descriptors.size) (held bytes : List UInt8) :
    write handle bytes (d.holding handle number held) =
      (.ok (), d.holding handle number (held ++ bytes)) := by
  have here : (d.holding handle number held).descriptors[handle]? = some ⟨number, held.length⟩ := by
    simp [holding, open_]
  have contents : (d.contents.setIfInBounds number held).modify number
      (fun content => overwrite content held.length bytes) =
        d.contents.setIfInBounds number (held ++ bytes) := by
    apply Array.ext_getElem?
    intro i
    by_cases same : number = i
    · subst same
      rw [Array.getElem?_modify, if_pos rfl, Array.getElem?_setIfInBounds_self_of_lt small,
        Array.getElem?_setIfInBounds_self_of_lt small, Option.map_some, overwrite_end]
    · simp [Array.getElem?_modify, same]
  simp only [write, here]
  simp only [holding, contents, Array.setIfInBounds_setIfInBounds, List.length_append]

/-- The disk without what stands at a location. -/
def without (d : Disk) (target : Location) : Disk :=
  { d with nodes := d.nodes.filter fun entry => entry.1 != target }

theorem lookup_filter_ne {target l : Location} (nodes : List (Location × Node)) :
    (nodes.filter fun entry => entry.1 != target).lookup l =
      if l = target then none else nodes.lookup l := by
  induction nodes with
  | nil => simp
  | cons entry nodes ih =>
    obtain ⟨l', node⟩ := entry
    by_cases gone : l' = target
    · subst gone
      rw [List.filter_cons_of_neg (by simp), ih]
      by_cases same : l = l'
      · simp [same]
      · simp [same, List.lookup_cons, beq_eq_false_iff_ne.2 same]
    · by_cases same : l = l'
      · simp [gone, same]
      · simp [gone, ih, List.lookup_cons, beq_eq_false_iff_ne.2 same]

theorem node?_without {d : Disk} {target : Location} (below : target ≠ []) (l : Location) :
    (d.without target).node? l = if l = target then none else d.node? l := by
  by_cases top : l = []
  · subst top
    simp [node?_nil, below.symm]
  · simp only [node?, without, top, if_false]
    exact lookup_filter_ne d.nodes

theorem remove_file {d : Disk} {path : String} {target : Location} {number : Nat}
    (located : d.locate path = .ok target) (node : d.node? target = some (.file number)) :
    remove path d = (.ok (), d.without target) := by
  simp only [remove, located, node]
  rfl

theorem Spares.trans {a b c : Disk} {target : Location} (h : Spares a b target)
    (h' : Spares b c target) : Spares a c target :=
  fun l other => (h' l other).trans (h l other)

section File

variable {d : Disk} {target : Location} {number : Nat}

theorem ne_nil_of_file (node : d.node? target = some (.file number)) : target ≠ [] := by
  rintro rfl
  simp [node?_nil] at node

theorem spares_holding (whole : d.WellFormed) (node : d.node? target = some (.file number))
    (handle : Nat) (held : List UInt8) : Spares d (d.holding handle number held) target := by
  apply spares_of_single whole node
  · exact fun _ _ => rfl
  · intro n _ other
    simp [holding, Array.getElem?_setIfInBounds_ne other.symm]

theorem WellFormed.holding (whole : d.WellFormed) (handle number : Nat) (held : List UInt8) :
    (d.holding handle number held).WellFormed := by
  refine ⟨fun l n there => ?_, whole.single⟩
  have := whole.present l n there
  simpa [Disk.holding] using this

/-- Removing a file moves nothing. -/
theorem keeps_without (node : d.node? target = some (.file number)) :
    d.Keeps (d.without target) := by
  refine ⟨rfl, fun l directory => ?_⟩
  rw [node?_without (ne_nil_of_file node)]
  split
  · rename_i same
    simp [← same, directory] at node
  · exact directory

theorem spares_without (node : d.node? target = some (.file number)) :
    Spares d (d.without target) target := by
  intro l other
  have same : (d.without target).node? l = d.node? l :=
    (node?_without (ne_nil_of_file node) l).trans (if_neg other)
  simp only [content?, same]
  rfl

theorem WellFormed.without (whole : d.WellFormed) (node : d.node? target = some (.file number)) :
    (d.without target).WellFormed := by
  have kept {l : Location} {n : Nat} (there : (d.without target).node? l = some (.file n)) :
      d.node? l = some (.file n) := by
    rw [node?_without (ne_nil_of_file node)] at there
    split at there
    · simp at there
    · exact there
  exact ⟨fun l n there => whole.present l n (kept there),
    fun l l' n there there' => whole.single l l' n (kept there) (kept there')⟩

end File

end OperationStubs.Disk
