import OperationStubs.Proofs.Place

/-!
# Disks that differ in class files

When a class fails in one run and goes well in another, the disks differ at the place of its file:
there is a file or there is nothing. Directories are the same on both (`Alike`). So on both the
directories of a further class can be made or not (`Alike.makeDirs`), and its path leads to the same
place (`Alike.locate`).
-/

namespace OperationStubs.Disk

/-- Whether a directory stands at a location, if anything does. -/
def kind? (d : Disk) (l : Location) : Option Bool :=
  (d.node? l).map (· == .directory)

section Kind

variable {d d' : Disk} {l : Location}

theorem kind?_eq_true : d.kind? l = some true ↔ d.node? l = some .directory := by
  simp [kind?]

theorem kind?_eq_none : d.kind? l = none ↔ d.node? l = none := by
  simp [kind?]

theorem kind?_congr (nodes : d'.nodes = d.nodes) (l : Location) : d'.kind? l = d.kind? l := by
  rw [kind?, kind?, node?_congr nodes]

theorem kind?_addNode (free : d.node? l = none) (node : Node) (l' : Location) :
    (d.addNode l node).kind? l' = if l' = l then some (node == .directory) else d.kind? l' := by
  rw [kind?, node?_addNode free]
  split <;> rfl

theorem enter_eq (d : Disk) (l : Location) (piece : String) :
    d.enter l piece =
      if Path.isHere piece then .ok l
      else if piece = ".." then .ok l.tail
      else if maxNameBytes < (utf8 piece).length then .error Fault.nameTooLong
      else
        match d.kind? (piece :: l) with
        | some true => .ok (piece :: l)
        | some false => .error Fault.notADirectory
        | none => .error Fault.notFound := by
  unfold enter kind?
  rcases d.node? (piece :: l) with _ | _ | _ <;> rfl

/-- A piece leads the same way where the same kind of thing has its name. -/
theorem enter_congr {piece : String} (same : d'.kind? (piece :: l) = d.kind? (piece :: l)) :
    d'.enter l piece = d.enter l piece := by
  rw [enter_eq, enter_eq, same]

theorem isDirectory_congr (same : d'.kind? l = d.kind? l) : d'.isDirectory l = d.isDirectory l := by
  have both : d'.node? l = some .directory ↔ d.node? l = some .directory := by
    rw [← kind?_eq_true, ← kind?_eq_true, same]
  unfold isDirectory
  by_cases there : d.node? l = some .directory
  · rw [both.2 there, there]
  · have there' := mt both.1 there
    rw [beq_eq_false_iff_ne.2 there, beq_eq_false_iff_ne.2 there']

end Kind

section Related

variable {R : Disk → Disk → Prop} {Q : List String → Prop} {l : Location}

/-- A path leads to the same place on both disks, or is refused alike. The path begins with its last
piece. -/
structure Looks (R : Disk → Disk → Prop) (Q : List String → Prop) (l : Location) (piece : String)
    (above : List String) (d d' : Disk) : Prop where
  same : d'.locateFrom l (piece :: above).reverse = d.locateFrom l (piece :: above).reverse
  up : d.locateFrom l (piece :: above).reverse = .error Fault.notFound → Q above
  kind : ∀ target, d.locateFrom l (piece :: above).reverse = .ok target →
    d'.kind? target = d.kind? target
  added : ∀ target, d.locateFrom l (piece :: above).reverse = .ok target → d.node? target = none →
    R (d.addNode target .directory) (d'.addNode target .directory)

/-- Results that are the same, on disks that stay related. -/
def Agree (R : Disk → Disk → Prop) (a a' : Except Fault Unit × Disk) : Prop :=
  a'.1 = a.1 ∧ R a.2 a'.2

variable {piece : String} {above : List String} {d d' : Disk}

theorem Looks.settle_error (looks : Looks R Q l piece above d d') (related : R d d')
    (fault : Fault) : Agree R (settle (piece :: above).reverse l (.error fault, d))
      (settle (piece :: above).reverse l (.error fault, d')) := by
  simp only [settle, looks.same]
  cases located : d.locateFrom l (piece :: above).reverse with
  | error fault => exact ⟨rfl, related⟩
  | ok target =>
    simp only [isDirectory_congr (looks.kind target located)]
    split <;> exact ⟨rfl, related⟩

theorem Looks.makeDir (looks : Looks R Q l piece above d d') :
    (∃ fault, makeDir (piece :: above).reverse l d = (.error fault, d) ∧
      makeDir (piece :: above).reverse l d' = (.error fault, d') ∧
        (fault = Fault.notFound → Q above)) ∨
    ∃ e e', makeDir (piece :: above).reverse l d = (.ok (), e) ∧
      makeDir (piece :: above).reverse l d' = (.ok (), e') ∧ R e e' := by
  simp only [Disk.makeDir, looks.same]
  cases located : d.locateFrom l (piece :: above).reverse with
  | error fault => exact .inl ⟨fault, rfl, rfl, fun eq => looks.up (eq ▸ located)⟩
  | ok target =>
    have kind := looks.kind target located
    cases node : d.node? target with
    | none =>
      have free : d'.node? target = none := by
        rw [← kind?_eq_none, kind, kind?_eq_none]
        exact node
      simp only [free, node]
      exact .inr ⟨_, _, rfl, rfl, looks.added target located node⟩
    | some there =>
      obtain ⟨there', node'⟩ : ∃ there', d'.node? target = some there' := by
        rw [← Option.ne_none_iff_exists', ne_eq, ← kind?_eq_none, kind, kind?_eq_none, node]
        simp
      simp only [node', node]
      exact .inl ⟨_, rfl, rfl, fun eq => absurd eq (by decide)⟩

/-- Where every path on the way leads to the same place, directories are made alike. -/
theorem makeDirsFrom_agree
    (looks : ∀ {d d'} piece above, R d d' → Q (piece :: above) → Looks R Q l piece above d d')
    {path : List String} (begins : Q path) (related : R d d') :
    Agree R (makeDirsFrom l path d) (makeDirsFrom l path d') := by
  induction path generalizing d d' with
  | nil => exact ⟨rfl, related⟩
  | cons piece above ih =>
    have look := looks piece above related begins
    simp only [makeDirsFrom]
    rcases look.makeDir with ⟨fault, made, made', up⟩ | ⟨e, e', made, made', related⟩
    · simp only [made, made']
      by_cases missing : fault = Fault.notFound
      · simp only [missing, if_true]
        obtain ⟨same, related⟩ := ih (up missing) related
        rcases first : makeDirsFrom l above d with ⟨fault | _, e⟩ <;>
          rcases second : makeDirsFrom l above d' with ⟨fault' | _, e'⟩ <;>
          rw [first, second] at same related <;> cases same
        · exact ⟨rfl, related⟩
        · have look := looks piece above related begins
          rcases look.makeDir with ⟨fault, made, made', -⟩ | ⟨f, f', made, made', related⟩
          · simp only [made, made']
            exact look.settle_error related fault
          · simp only [made, made']
            exact ⟨rfl, related⟩
      · simp only [missing, if_false]
        exact look.settle_error related fault
    · simp only [made, made']
      exact ⟨rfl, related⟩

end Related

/-- Where class files may stand that go below `base`: somewhere below it, with a dot in the name. -/
def IsSpot (base l : Location) : Prop :=
  ∃ name above, l = name :: (above ++ base) ∧ '.' ∈ name.toList

theorem isSpot_place (base : Location) (fqcn : String) : IsSpot base (Name.place base fqcn) :=
  ⟨_, _, rfl, Name.dot_mem_fileName fqcn⟩

theorem not_isSpot_self (base : Location) : ¬ IsSpot base base := by
  rintro ⟨name, above, eq, -⟩
  have length := congrArg List.length eq
  simp only [List.length_cons, List.length_append] at length
  omega

/-- Two disks with directories and files at the same locations. -/
structure SameKinds (d d' : Disk) : Prop where
  here : d'.here = d.here
  kind : ∀ l, d'.kind? l = d.kind? l

/-- Two disks on which a path leads from `start` to the directory `base`, and that differ at most in
the class files below it. -/
structure AlikeBelow (start : Location) (path : List String) (base : Location) (d d' : Disk) :
    Prop where
  here : d'.here = d.here
  way : d.walk start path = .ok base
  kind : ∀ l, d'.kind? l = d.kind? l ∨
    IsSpot base l ∧ d.kind? l ≠ some true ∧ d'.kind? l ≠ some true

/-- Where a path can be walked it leads to the same place. -/
theorem locateFrom_of_walk {d : Disk} {l target : Location} {pieces : List String}
    (walked : d.walk l pieces = .ok target) : d.locateFrom l pieces = .ok target := by
  rcases List.eq_nil_or_concat pieces with rfl | ⟨above, last, rfl⟩
  · exact walked
  rw [List.concat_eq_append, walk_append] at walked
  rw [List.concat_eq_append, locateFrom_concat]
  cases first : d.walk l above with
  | error fault =>
    rw [first, error_bind] at walked
    cases walked
  | ok l' =>
    rw [first, ok_bind, walk_cons] at walked
    rw [ok_bind]
    cases entered : d.enter l' last with
    | error fault =>
      rw [entered, error_bind] at walked
      cases walked
    | ok l'' =>
      rw [entered] at walked
      obtain rfl : l'' = target := Except.ok.inj walked
      unfold locateFrom
      split
      · exact entered
      · rename_i named
        simp only [Bool.or_eq_true, beq_iff_eq, not_or, Bool.not_eq_true] at named
        simp only [enter, named.1, named.2, if_false, Bool.false_eq_true] at entered
        split at entered
        · cases entered
        · rename_i short
          rw [if_neg short]
          split at entered
          · exact entered
          · cases entered
          · cases entered

section SameKinds

variable {d d' : Disk} (same : SameKinds d d')

include same

theorem SameKinds.enter (l : Location) (piece : String) : d'.enter l piece = d.enter l piece :=
  enter_congr (same.kind _)

theorem SameKinds.walk (l : Location) (pieces : List String) :
    d'.walk l pieces = d.walk l pieces := by
  have all : d'.enter = d.enter := by
    funext l piece
    exact same.enter l piece
  rw [Disk.walk, Disk.walk, all]

theorem SameKinds.locateFrom (l : Location) (pieces : List String) :
    d'.locateFrom l pieces = d.locateFrom l pieces := by
  induction pieces generalizing l with
  | nil => rfl
  | cons piece pieces ih =>
    cases pieces with
    | nil => simp only [Disk.locateFrom, same.enter]
    | cons next rest =>
      simp only [Disk.locateFrom, same.enter]
      exact bind_congr fun l => ih l

theorem SameKinds.addNode {target : Location} (free : d.node? target = none) (node : Node) :
    SameKinds (d.addNode target node) (d'.addNode target node) := by
  have free' : d'.node? target = none := by
    rw [← kind?_eq_none, same.kind, kind?_eq_none]
    exact free
  refine ⟨same.here, fun l => ?_⟩
  rw [kind?_addNode free, kind?_addNode free', same.kind]

end SameKinds

/-- A path, from its last piece on, that leads past `known` to some of the folders. -/
def Past (known folders path : List String) : Prop :=
  ∃ above, above <+: folders ∧ path.reverse = known ++ above

section AlikeBelow

variable {d d' : Disk} {start base : Location} {known : List String}
variable (alike : AlikeBelow start known base d d')

include alike

/-- No class file stands where a name has no dot. -/
theorem AlikeBelow.kind_folder {folder : String} (dot : '.' ∉ folder.toList) (l : Location) :
    d'.kind? (folder :: l) = d.kind? (folder :: l) := by
  rcases alike.kind (folder :: l) with same | ⟨⟨name, above, eq, dotted⟩, -⟩
  · exact same
  · rw [(List.cons.inj eq).1] at dot
    exact absurd dotted dot

theorem AlikeBelow.keeps : d.Keeps d' := by
  refine ⟨alike.here, fun l there => ?_⟩
  rw [← kind?_eq_true] at there ⊢
  rcases alike.kind l with same | ⟨-, ne, -⟩
  · rw [same, there]
  · exact absurd there ne

theorem AlikeBelow.way' : d'.walk start known = .ok base :=
  walk_of_keeps alike.keeps alike.way

theorem AlikeBelow.walk {folders : List String} (dotless : ∀ folder ∈ folders, '.' ∉ folder.toList)
    (l : Location) : d'.walk l folders = d.walk l folders := by
  induction folders generalizing l with
  | nil => rfl
  | cons folder folders ih =>
    obtain ⟨dot, dotless⟩ := List.forall_mem_cons.1 dotless
    rw [walk_cons, walk_cons, enter_congr (alike.kind_folder dot l)]
    exact bind_congr fun l => ih dotless l

/-- Behind the path to `base` a path leads on from there. -/
theorem AlikeBelow.walk_names {folders : List String}
    (dotless : ∀ folder ∈ folders, '.' ∉ folder.toList) :
    d.walk start (known ++ folders) = d.walk base folders ∧
      d'.walk start (known ++ folders) = d.walk base folders := by
  rw [walk_append, alike.way, ok_bind, walk_append, alike.way', ok_bind, alike.walk dotless]
  exact ⟨rfl, rfl⟩

theorem AlikeBelow.addNode {target : Location} (same : d'.kind? target = d.kind? target)
    (free : d.node? target = none) :
    AlikeBelow start known base (d.addNode target .directory) (d'.addNode target .directory) := by
  have free' : d'.node? target = none := by
    rw [← kind?_eq_none, same, kind?_eq_none]
    exact free
  have keeps : d.Keeps (d.addNode target .directory) := by
    refine ⟨rfl, fun l there => ?_⟩
    rw [node?_addNode free]
    split
    · rfl
    · exact there
  refine ⟨alike.here, walk_of_keeps keeps alike.way, fun l => ?_⟩
  rw [kind?_addNode free, kind?_addNode free']
  split
  · exact .inl rfl
  · exact alike.kind l

theorem AlikeBelow.looks {folders : List String}
    (plain : ∀ folder ∈ folders, Path.Plain folder ∧ '.' ∉ folder.toList) {piece : String}
    {rest : List String} (past : Past known folders (piece :: rest)) :
    Looks (AlikeBelow start known base) (Past known folders) start piece rest d d' := by
  obtain ⟨above, begins, path⟩ := past
  have dotless : ∀ folder ∈ above, '.' ∉ folder.toList := fun folder mem =>
    (plain folder (begins.subset mem)).2
  rcases List.eq_nil_or_concat above with rfl | ⟨before, last, rfl⟩
  · -- The path leads to `base` on both disks.
    rw [List.append_nil] at path
    have found := locateFrom_of_walk alike.way
    have found' := locateFrom_of_walk alike.way'
    rw [← path] at found found'
    have kind : d'.kind? base = d.kind? base := by
      rcases alike.kind base with same | ⟨spot, -⟩
      · exact same
      · exact absurd spot (not_isSpot_self base)
    constructor
    case same => rw [found, found']
    case up =>
      intro missing
      rw [found] at missing
      cases missing
    case kind =>
      intro target located
      rw [found] at located
      exact Except.ok.inj located ▸ kind
    case added =>
      intro target located
      rw [found] at located
      exact Except.ok.inj located ▸ alike.addNode kind
  · rw [List.concat_eq_append] at path begins dotless
    have plain := plain last (begins.subset (by simp))
    have up : last ≠ ".." := by
      rintro rfl
      exact plain.2 (by decide)
    have above : ∀ folder ∈ before, '.' ∉ folder.toList := fun folder mem =>
      dotless folder (List.mem_append_left _ mem)
    obtain ⟨way, way'⟩ := alike.walk_names above
    have located : d.locateFrom start (piece :: rest).reverse =
        d.walk base before >>= fun l => d.locateFrom l [last] := by
      rw [path, ← List.append_assoc, locateFrom_concat, way]
    have located' : d'.locateFrom start (piece :: rest).reverse =
        d.walk base before >>= fun l => d'.locateFrom l [last] := by
      rw [path, ← List.append_assoc, locateFrom_concat, way']
    have kind (target : Location)
        (found : d.locateFrom start (piece :: rest).reverse = .ok target) :
        d'.kind? target = d.kind? target := by
      rw [located] at found
      cases walked : d.walk base before with
      | error fault =>
        rw [walked, error_bind] at found
        cases found
      | ok l =>
        rw [walked, ok_bind, locateFrom_plain d l plain.1 up] at found
        split at found
        · cases found
        · exact Except.ok.inj found ▸ alike.kind_folder plain.2 l
    constructor
    case same =>
      rw [located, located']
      refine bind_congr fun l => ?_
      rw [locateFrom_plain d l plain.1 up, locateFrom_plain d' l plain.1 up]
    case up =>
      intro _
      rw [List.reverse_cons, ← List.append_assoc] at path
      exact ⟨before, (List.prefix_append _ _).trans begins, List.append_inj_left' path rfl⟩
    case kind => exact kind
    case added => exact fun target found => alike.addNode (kind target found)

end AlikeBelow

/-- Two disks with the same directories. Files differ at most where class files go, below the
directory that the root leads to. -/
def Alike (root : String) (d d' : Disk) : Prop :=
  SameKinds d d' ∨ ∃ base, AlikeBelow (d.start root) (Path.names root) base d d'

section Alike

variable {root : String} {d d' : Disk} (alike : Alike root d d')

include alike

theorem Alike.here : d'.here = d.here := by
  rcases alike with same | ⟨base, alike⟩
  · exact same.here
  · exact alike.here

theorem Alike.start : d'.start root = d.start root := by
  simp only [Disk.start, alike.here]

theorem Alike.directory (l : Location) : d'.kind? l = some true ↔ d.kind? l = some true := by
  rcases alike with same | ⟨base, alike⟩
  · rw [same.kind]
  · rcases alike.kind l with same | ⟨-, ne, ne'⟩
    · rw [same]
    · exact ⟨fun there => absurd there ne', fun there => absurd there ne⟩

variable {fqcn : String} (slash : '/' ∉ fqcn.toList)

include slash

/-- The directories of a class are made alike. -/
theorem Alike.makeDirs :
    Agree (Alike root) (makeDirs (Path.parent (SourceTree.pathBelow root fqcn)) d)
      (Disk.makeDirs (Path.parent (SourceTree.pathBelow root fqcn)) d') := by
  rw [makeDirs_parent d root slash, makeDirs_parent d' root slash, alike.start]
  split
  · exact ⟨rfl, alike⟩
  split
  · exact ⟨rfl, alike⟩
  rcases alike with same | ⟨base, alike⟩
  · have looks {d₁ d₁' : Disk} (piece : String) (above : List String) (same : SameKinds d₁ d₁')
        (_ : True) : Looks SameKinds (fun _ => True) (d.start root) piece above d₁ d₁' :=
      ⟨same.locateFrom _ _, fun _ => trivial, fun _ _ => same.kind _, fun _ _ free =>
        same.addNode free .directory⟩
    exact (makeDirsFrom_agree (Q := fun _ => True) looks trivial same).imp_right .inl
  · have past : Past (Path.names root) (Name.folders fqcn)
        (Path.names root ++ Name.folders fqcn).reverse :=
      ⟨_, List.prefix_refl _, List.reverse_reverse _⟩
    obtain ⟨result, below⟩ := makeDirsFrom_agree
      (fun piece above alike past => alike.looks (fun _ mem => Name.plain_folder slash mem) past)
      past alike
    have here := (grown_makeDirsFrom (d.start root)
      (Path.names root ++ Name.folders fqcn).reverse d).here
    refine ⟨result, .inr ⟨base, ?_⟩⟩
    rwa [Disk.start, here]

/-- The path of a class leads to the same place. -/
theorem Alike.locate :
    d'.locate (SourceTree.pathBelow root fqcn) = d.locate (SourceTree.pathBelow root fqcn) := by
  rw [locate_pathBelow d root slash, locate_pathBelow d' root slash]
  have walked : d'.walk (d'.start root) (Path.names root ++ Name.folders fqcn) =
      d.walk (d.start root) (Path.names root ++ Name.folders fqcn) := by
    rw [alike.start]
    rcases alike with same | ⟨base, alike⟩
    · exact same.walk _ _
    · have dotless : ∀ folder ∈ Name.folders fqcn, '.' ∉ folder.toList := fun folder mem =>
        (Name.plain_folder slash mem).2
      obtain ⟨way, way'⟩ := alike.walk_names dotless
      rw [way, way']
  simp only [walked, locateFrom_fileName _ _ slash]

end Alike

/-- At most the file at `target` has come or gone. -/
structure Filed (d d' : Disk) (target : Location) : Prop where
  here : d'.here = d.here
  before : d.kind? target ≠ some true
  behind : d'.kind? target ≠ some true
  others : ∀ l, l ≠ target → d'.kind? l = d.kind? l

theorem Filed.keeps {d d' : Disk} {target : Location} (filed : Filed d d' target) : d.Keeps d' := by
  refine ⟨filed.here, fun l there => ?_⟩
  rw [← kind?_eq_true] at there ⊢
  have ne : l ≠ target := by
    rintro rfl
    exact filed.before there
  rw [filed.others l ne, there]

theorem Filed.trans {d d' d'' : Disk} {target : Location} (h : Filed d d' target)
    (h' : Filed d' d'' target) : Filed d d'' target :=
  ⟨h'.here.trans h.here, h.before, h'.behind, fun l other =>
    (h'.others l other).trans (h.others l other)⟩

/-- Whatever becomes of the file of a class, the disks do not differ elsewhere. -/
theorem Alike.filed {root fqcn : String} {d d' e e' : Disk} {target : Location}
    (alike : Alike root d d') (slash : '/' ∉ fqcn.toList)
    (located : d.locate (SourceTree.pathBelow root fqcn) = .ok target) (filed : Filed d e target)
    (filed' : Filed d' e' target) : Alike root e e' := by
  obtain ⟨base, walked, rfl⟩ := locate_place slash located
  refine .inr ⟨base, ?_, ?_, fun l => ?_⟩
  · rw [filed'.here, alike.here, filed.here]
  · rw [start_of_keeps filed.keeps]
    exact walk_of_keeps filed.keeps walked
  · by_cases own : l = Name.place base fqcn
    · subst own
      exact .inr ⟨isSpot_place base fqcn, filed.behind, filed'.behind⟩
    · rw [filed.others l own, filed'.others l own]
      rcases alike with same | ⟨base', alike⟩
      · exact .inl (same.kind l)
      · obtain rfl : base = base' := Except.ok.inj (walked.symm.trans alike.way)
        exact alike.kind l

/-- Where no directory is in the way a file is opened. -/
theorem create_opens {d : Disk} {path : String} {target : Location}
    (located : d.locate path = .ok target) (clear : d.kind? target ≠ some true) :
    ∃ handle d' number, create path d = (.ok handle, d') ∧
      d'.node? target = some (.file number) ∧ (∀ l, l ≠ target → d'.node? l = d.node? l) ∧
        Filed d d' target := by
  have filed {d' : Disk} {number : Nat} (here : d'.here = d.here)
      (node : d'.node? target = some (.file number))
      (others : ∀ l, l ≠ target → d'.node? l = d.node? l) : Filed d d' target :=
    ⟨here, clear, by simp [kind?, node], fun l other => congrArg (Option.map _) (others l other)⟩
  simp only [create, located]
  cases node : d.node? target with
  | none =>
    have nodes := node?_addNode node (.file d.contents.size)
    have own := (nodes target).trans (if_pos rfl)
    have others (l : Location) (other : l ≠ target) := (nodes l).trans (if_neg other)
    exact ⟨_, _, d.contents.size, rfl, own, others, filed rfl own others⟩
  | some there =>
    cases there with
    | directory => exact absurd (kind?_eq_true.2 node) clear
    | file number => exact ⟨_, _, number, rfl, node, fun _ _ => rfl, filed rfl node fun _ _ => rfl⟩

end OperationStubs.Disk
