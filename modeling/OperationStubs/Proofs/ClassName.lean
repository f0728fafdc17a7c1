import OperationStubs.SourceTree
import OperationStubs.Proofs.Path
import OperationStubs.Proofs.Stub

/-!
# Where classes go

For a well-named type the name of a class goes to pieces again: the directories of its package, the
name of the type within it, and the suffix (`fqcn_eq`, `pathBelow_fqcn`). So classes of different
types and both classes of one type have different names (`fqcn_injective`). Directories have no dot
in their names, and class files do.
-/

namespace OperationStubs

/-- A part of the name of a type. -/
def IsSegment (segment : List Char) : Prop :=
  segment ≠ [] ∧ '$' ∉ segment ∧ '/' ∉ segment ∧ '\x00' ∉ segment

instance (segment : List Char) : Decidable (IsSegment segment) :=
  inferInstanceAs (Decidable (_ ∧ _))

namespace OperationType

/-- The name of the type is made of proper parts, and its package is left out, empty, or what the
name begins with. -/
structure WellNamed (type : OperationType) : Prop where
  segments : ∀ segment ∈ Text.pieces '.' type.name.toList, IsSegment segment
  package : ∀ package, type.package = some package →
    package = "" ∨ ∃ rest, type.name = package ++ "." ++ rest

/-- The directories of the package, from the top. -/
def folders (type : OperationType) : List String :=
  ((Text.pieces '.' type.packageName.toList).filter (· != [])).map String.ofList

/-- The name of the type within its package. -/
def inner (type : OperationType) : String := Name.inPackage type.packageName type.name

variable {type : OperationType}

theorem packageName_cases (well : type.WellNamed) :
    type.packageName = "" ∨ ∃ rest, type.name = type.packageName ++ "." ++ rest := by
  unfold packageName
  cases given : type.package with
  | some package => exact well.package package given
  | none =>
    simp only [Option.getD_none, Name.qualifier]
    cases cut : Text.cutLast '.' type.name.toList with
    | none => exact .inl rfl
    | some parts =>
      have name := Text.eq_append_of_cutLast cut
      refine .inr ⟨String.ofList parts.2, String.toList_inj.1 ?_⟩
      simp [name]

theorem name_eq (well : type.WellNamed) :
    type.packageName = "" ∧ type.name = type.inner ∨
      type.packageName ≠ "" ∧ type.name = type.packageName ++ "." ++ type.inner :=
  Name.eq_inPackage (packageName_cases well)

theorem segments_inner (well : type.WellNamed) :
    ∀ segment ∈ Text.pieces '.' type.inner.toList, IsSegment segment := by
  rcases name_eq well with ⟨_, name⟩ | ⟨_, name⟩
  · rw [← name]
    exact well.segments
  · intro segment mem
    apply well.segments
    rw [name, String.toList_append, String.toList_append, List.append_assoc]
    exact Text.pieces_append type.packageName.toList _ ▸ List.mem_append_right _ mem

theorem segments_packageName (well : type.WellNamed) (named : type.packageName ≠ "") :
    ∀ segment ∈ Text.pieces '.' type.packageName.toList, IsSegment segment := by
  intro segment mem
  obtain ⟨_, name⟩ := (name_eq well).resolve_left fun h => named h.1
  apply well.segments
  rw [name, String.toList_append, String.toList_append, List.append_assoc]
  exact Text.pieces_append type.packageName.toList _ ▸ List.mem_append_left _ mem

theorem folders_eq (well : type.WellNamed) :
    type.folders = if type.packageName = "" then []
      else (Text.pieces '.' type.packageName.toList).map String.ofList := by
  unfold folders
  by_cases default : type.packageName = ""
  · rw [if_pos default, default]
    rfl
  · rw [if_neg default, List.filter_eq_self.2]
    intro segment mem
    simpa using (segments_packageName well default segment mem).1

/-- A directory of a package. -/
structure IsFolder (folder : String) : Prop where
  plain : Path.Plain folder
  dot : '.' ∉ folder.toList
  dollar : '$' ∉ folder.toList
  nul : '\x00' ∉ folder.toList

theorem isFolder_of_mem (well : type.WellNamed) {folder : String} (mem : folder ∈ type.folders) :
    IsFolder folder := by
  rw [folders_eq well] at mem
  split at mem
  · exact absurd mem List.not_mem_nil
  · rename_i named
    obtain ⟨segment, among, rfl⟩ := List.mem_map.1 mem
    obtain ⟨some, dollar, slash, nul⟩ := segments_packageName well named segment among
    have dot := Text.notMem_of_mem_pieces among
    refine ⟨⟨by simpa using slash, ?_⟩, by simpa using dot, by simpa using dollar,
      by simpa using nul⟩
    have ne_here : String.ofList segment ≠ "." := by
      intro eq
      have : segment = ['.'] := by simpa using congrArg String.toList eq
      simp [this] at dot
    have ne_blank : String.ofList segment ≠ "" := by
      intro eq
      exact some (by simpa using congrArg String.toList eq)
    simp [Path.isHere, ne_here, ne_blank]

/-- The name of the type, read off the directories. -/
theorem join_folders (well : type.WellNamed) :
    String.join (type.folders.map (· ++ ".")) =
      if type.packageName = "" then "" else type.packageName ++ "." := by
  rw [folders_eq well]
  split
  · rfl
  · have all : _ = type.packageName.toList ++ ['.'] := Text.flatMap_pieces _
    apply String.toList_inj.1
    rw [String.toList_join, List.flatMap_map, List.flatMap_map, String.toList_append]
    simpa [Function.comp_def] using all

theorem name_eq_join (well : type.WellNamed) :
    type.name = String.join (type.folders.map (· ++ ".")) ++ type.inner := by
  rw [join_folders well]
  rcases name_eq well with ⟨default, name⟩ | ⟨named, name⟩
  · rw [if_pos default, String.empty_append, ← name]
  · rw [if_neg named]
    exact name

end OperationType

namespace Role

def suffix : Role → String
  | .loader => Loader.suffix
  | .operator => Operator.suffix

variable (role : Role) {type : OperationType}

theorem className_eq (type : OperationType) : (role.generator type).model.className =
    type.inner.map (fun c => if c = '.' then '$' else c) ++ role.suffix := by
  cases role <;> rfl

/-- What must not stand in a part of a type's name does not stand in the name of its classes. -/
theorem notMem_className (well : type.WellNamed) {c : Char} (dollar : c ≠ '$')
    (absent : c = '.' ∨ ∀ segment, IsSegment segment → c ∉ segment)
    (suffix : c ∉ role.suffix.toList) : c ∉ (role.generator type).model.className.toList := by
  rw [className_eq, String.toList_append, String.toList_map, List.mem_append, not_or]
  refine ⟨fun mem => ?_, suffix⟩
  obtain ⟨d, inside, eq⟩ := List.mem_map.1 mem
  by_cases dot : d = '.'
  · rw [if_pos dot] at eq
    exact dollar eq.symm
  · rw [if_neg dot] at eq
    subst eq
    refine Text.notMem_of_pieces dot (fun segment among => ?_) inside
    exact absent.resolve_left dot segment (OperationType.segments_inner well segment among)

theorem dot_notMem_className (well : type.WellNamed) :
    '.' ∉ (role.generator type).model.className.toList :=
  role.notMem_className well (by decide) (.inl rfl) (by cases role <;> decide)

theorem slash_notMem_className (well : type.WellNamed) :
    '/' ∉ (role.generator type).model.className.toList :=
  role.notMem_className well (by decide) (.inr fun _ is => is.2.2.1) (by cases role <;> decide)

theorem nul_notMem_className (well : type.WellNamed) :
    '\x00' ∉ (role.generator type).model.className.toList :=
  role.notMem_className well (by decide) (.inr fun _ is => is.2.2.2) (by cases role <;> decide)

theorem package_generator (type : OperationType) :
    (role.generator type).model.package = type.packageName := by
  cases role <;> rfl

/-- The name of a class begins with the directories it goes to. -/
theorem fqcn_eq (well : type.WellNamed) : (role.generator type).model.fqcn =
    String.join (type.folders.map (· ++ ".")) ++ (role.generator type).model.className := by
  rw [ClassModel.fqcn, Name.fqcn, package_generator, OperationType.join_folders well]
  split
  · rw [String.empty_append]
  · rfl

theorem qualifier_fqcn (well : type.WellNamed) :
    Name.qualifier (role.generator type).model.fqcn = type.packageName ∧
      Name.simple (role.generator type).model.fqcn = (role.generator type).model.className := by
  rw [ClassModel.fqcn, package_generator]
  exact Name.parts_fqcn (role.dot_notMem_className well) type.packageName

/-- The name of a class file. -/
def fileName (type : OperationType) : String := (role.generator type).model.className ++ ".java"

theorem pathBelow_fqcn (well : type.WellNamed) (root : String) :
    SourceTree.pathBelow root (role.generator type).model.fqcn =
      Path.push (type.folders.foldl Path.push root) (role.fileName type) := by
  obtain ⟨qualifier, simple⟩ := role.qualifier_fqcn well
  rw [SourceTree.pathBelow, qualifier, simple]
  rfl

theorem plain_fileName (well : type.WellNamed) : Path.Plain (role.fileName type) := by
  refine ⟨?_, ?_⟩
  · have slash := role.slash_notMem_className well
    simpa [fileName] using slash
  · have long : 5 ≤ (role.fileName type).toList.length := by simp [fileName]
    have ne (piece : String) (short : piece.toList.length < 5) : role.fileName type ≠ piece := by
      rintro rfl
      omega
    simp [Path.isHere, ne "" (by decide), ne "." (by decide)]

/-- Brings back the dots that class names have dollars for. -/
def undot (name : String) : String := name.map fun c => if c = '$' then '.' else c

theorem map_undot {text : List Char} (h : '$' ∉ text) :
    text.map (fun c => if c = '$' then '.' else c) = text := by
  refine (List.map_congr_left fun c mem => ?_).trans (List.map_id text)
  have ne : c ≠ '$' := fun eq => h (eq ▸ mem)
  simp [ne]

theorem map_undot_flat {text : List Char} (h : '$' ∉ text) :
    (text.map fun c => if c = '.' then '$' else c).map (fun c => if c = '$' then '.' else c) =
      text := by
  rw [List.map_map]
  refine (List.map_congr_left fun c mem => ?_).trans (List.map_id text)
  have ne : c ≠ '$' := fun eq => h (eq ▸ mem)
  by_cases dot : c = '.' <;> simp [dot, ne]

theorem undot_fqcn (well : type.WellNamed) :
    undot (role.generator type).model.fqcn = type.name ++ undot role.suffix := by
  have dollar : '$' ∉ type.name.toList :=
    Text.notMem_of_pieces (by decide) fun segment among => (well.segments segment among).2.1
  have name := OperationType.name_eq_join well
  rw [name, String.toList_append, List.mem_append, not_or] at dollar
  rw [role.fqcn_eq well, className_eq, name]
  apply String.toList_inj.1
  simp only [undot, String.toList_map, String.toList_append, List.map_append]
  rw [map_undot dollar.1, map_undot_flat dollar.2, List.append_assoc]

/-- What the suffix ends with. -/
def word : Role → String
  | .loader => "Loader"
  | .operator => "Operator"

theorem undot_suffix : undot role.suffix = ".." ++ role.word := by
  apply String.toList_inj.1
  rw [undot, String.toList_map]
  cases role <;> decide

/-- A class name tells the type it is made for, and which of its classes it is. -/
theorem fqcn_injective {role role' : Role} {type type' : OperationType} (well : type.WellNamed)
    (well' : type'.WellNamed)
    (same : (role.generator type).model.fqcn = (role'.generator type').model.fqcn) :
    role = role' ∧ type.name = type'.name := by
  have cut (role : Role) (name : String) : Text.cutLast '.' (name ++ undot role.suffix).toList =
      some (name.toList ++ ['.'], role.word.toList) := by
    have dot : '.' ∉ role.word.toList := by cases role <;> decide
    rw [undot_suffix]
    simpa using Text.cutLast_append dot (name.toList ++ ['.'])
  have names : type.name ++ undot role.suffix = type'.name ++ undot role'.suffix := by
    rw [← role.undot_fqcn well, same, role'.undot_fqcn well']
  have parts := cut role type.name
  rw [names, cut role' type'.name] at parts
  obtain ⟨name, word⟩ := Prod.mk.inj (Option.some.inj parts)
  refine ⟨?_, String.toList_inj.1 (List.append_cancel_right name).symm⟩
  cases role <;> cases role' <;> first | rfl | exact absurd word (by decide)

end Role
end OperationStubs
