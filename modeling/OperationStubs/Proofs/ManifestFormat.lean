import OperationStubs.Manifest.Decode
import OperationStubs.Proofs.Split
import OperationStubs.Proofs.StrictRecord
import OperationStubs.Toml.Read

/-!
# The format of manifests

The keys of a manifest at every level, which of them are needed, and what lies under each
(`Manifest.format`). Reading a manifest succeeds on just the documents that fit, and what it gives
is what the document tells: every value under a key, and the default where the key is not there. A
document with one undeclared key more is refused, however deep the key stands (`reads_format`).
-/

namespace OperationStubs

open Decode Format

namespace Parameter

def declared : List (Declared Format) :=
  [⟨"name", true, .text⟩, ⟨"type", true, .text⟩]

structure Told (c : Content) (p : Parameter) : Prop where
  name : c.Gives "name" Content.IsText p.name
  type : c.Gives "type" Content.IsText p.type

def slots : List (Slot Parameter) :=
  [.plain "name" true true reads_string (fun p v => { p with name := v }) name fun _ _ => rfl,
    .plain "type" true true reads_string (fun p v => { p with type := v }) type fun _ _ => rfl]

theorem slotted : record.Slotted slots where
  closed := rfl
  fields := rfl
  apart := by simp [slots, Slot.Apart, Slot.plain]
  undated := rfl

theorem reads : Reads record.decode (.record declared) Told where
  iff_fits := slotted.strict.iff_fits
  told sound usual ok := by
    have told := slotted.told sound usual ok
    simp only [slots, List.forall_mem_cons] at told
    obtain ⟨name, type, -⟩ := told
    exact ⟨name.2 rfl, type.2 rfl⟩

end Parameter

namespace OperationMethod

def declared : List (Declared Format) :=
  [⟨"name", true, .text⟩, ⟨"parameters", false, .rows (.record Parameter.declared)⟩,
    ⟨"returns", false, .text⟩]

structure Told (c : Content) (m : OperationMethod) : Prop where
  name : c.Gives "name" Content.IsText m.name
  parameters : c.GivesOr "parameters" (Content.Lists Parameter.Told) [] m.parameters
  returns : c.GivesOr "returns" Content.IsText "void" m.returns

def slots : List (Slot OperationMethod) :=
  [.plain "name" true true reads_string (fun m v => { m with name := v }) name fun _ _ => rfl,
    .plain "parameters" false false (reads_sequence Parameter.reads)
      (fun m v => { m with parameters := v }) parameters fun _ _ => rfl,
    .plain "returns" false false reads_string (fun m v => { m with returns := v }) returns
      fun _ _ => rfl]

theorem slotted : record.Slotted slots where
  closed := rfl
  fields := rfl
  apart := by simp [slots, Slot.Apart, Slot.plain]
  undated := rfl

theorem reads : Reads record.decode (.record declared) Told where
  iff_fits := slotted.strict.iff_fits
  told sound usual ok := by
    have told := slotted.told sound usual ok
    simp only [slots, List.forall_mem_cons] at told
    obtain ⟨name, parameters, returns, -⟩ := told
    exact ⟨name.2 rfl, parameters.1, returns.1⟩

end OperationMethod

namespace Modifier

def format : Format :=
  .oneOf ["public", "protected", "private", "abstract", "default", "static", "final", "transient",
    "volatile", "synchronized", "native", "strictfp"]

def Told (c : Content) (m : Modifier) : Prop := c.IsText m.word

theorem ofWord?_eq_some {w : String} {m : Modifier} : ofWord? w = some m ↔ m.word = w := by
  constructor
  · intro found
    simpa using List.find?_some found
  · rintro rfl
    cases m <;> rfl

theorem mem_words {w : String} : w ∈ words ↔ ∃ m : Modifier, m.word = w := by
  rw [words, List.mem_map]
  exact ⟨fun ⟨m, _, same⟩ => ⟨m, same⟩, fun ⟨m, same⟩ => ⟨m, mem_all m, same⟩⟩

theorem reads : Reads decode format Told :=
  reads_variant ofWord?_eq_some mem_words words

end Modifier

namespace OperationType

def declared : List (Declared Format) :=
  [⟨"name", true, .text⟩, ⟨"package", false, .text⟩, ⟨"modifiers", false, .rows Modifier.format⟩,
    ⟨"location", false, .text⟩, ⟨"operator_base", false, .text⟩,
    ⟨"methods", false, .rows (.record OperationMethod.declared)⟩]

structure Told (c : Content) (t : OperationType) : Prop where
  name : c.Gives "name" Content.IsText t.name
  package : c.GivesOr "package" (Content.Has Content.IsText) none t.package
  modifiers : c.GivesOr "modifiers" (Content.Lists Modifier.Told) [] t.modifiers
  location : c.GivesOr "location" (Content.Has Content.IsText) none t.location
  operatorBase : c.GivesOr "operator_base" (Content.Has Content.IsText) none t.operatorBase
  methods : c.GivesOr "methods" (Content.Lists OperationMethod.Told) [] t.methods

def slots : List (Slot OperationType) :=
  [.plain "name" true true reads_string (fun t v => { t with name := v }) name fun _ _ => rfl,
    .optional "package" false true reads_string (fun t v => { t with package := some v }) package
      fun _ _ => rfl,
    .plain "modifiers" false false (reads_sequence Modifier.reads)
      (fun t v => { t with modifiers := v }) modifiers fun _ _ => rfl,
    .optional "location" false true reads_string (fun t v => { t with location := some v }) location
      fun _ _ => rfl,
    .optional "operator_base" false true reads_string (fun t v => { t with operatorBase := some v })
      operatorBase fun _ _ => rfl,
    .plain "methods" false false (reads_sequence OperationMethod.reads)
      (fun t v => { t with methods := v }) methods fun _ _ => rfl]

theorem slotted : record.Slotted slots where
  closed := rfl
  fields := rfl
  apart := by simp [slots, Slot.Apart, Slot.plain, Slot.optional]
  undated := rfl

theorem reads : Reads record.decode (.record declared) Told where
  iff_fits := slotted.strict.iff_fits
  told sound usual ok := by
    have told := slotted.told sound usual ok
    simp only [slots, List.forall_mem_cons] at told
    obtain ⟨name, package, modifiers, location, operatorBase, methods, -⟩ := told
    exact ⟨name.2 rfl, package.1, modifiers.1, location.1, operatorBase.1, methods.1⟩

end OperationType

/-- What stands before the last dot of a name: nothing if it has no dot. -/
def Name.IsQualifier (before name : String) : Prop :=
  (∃ after : String, name = before ++ "." ++ after ∧ '.' ∉ after.toList) ∨
    '.' ∉ name.toList ∧ before = ""

theorem Name.isQualifier_qualifier (name : String) : IsQualifier (qualifier name) name := by
  have after := dot_notMem_simple name
  rcases qualifier_simple name with ⟨none, whole⟩ | split
  · rw [whole] at after
    exact .inr ⟨after, none⟩
  · exact .inl ⟨simple name, split, after⟩

/-- The package of a type is the one given, else what stands before the last dot of its name. -/
def OperationType.Packaged (t : OperationType) : Prop :=
  match t.package with
  | some given => t.packageName = given
  | none => Name.IsQualifier t.packageName t.name

theorem OperationType.packaged (t : OperationType) : t.Packaged := by
  unfold Packaged packageName
  cases t.package with
  | some given => rfl
  | none => exact Name.isQualifier_qualifier t.name

namespace Manifest

def declared : List (Declared Format) :=
  [⟨"type", false, .rows (.record OperationType.declared)⟩]

def format : Format := .record declared

structure Told (c : Content) (m : Manifest) : Prop where
  types : c.GivesOr "type" (Content.Lists OperationType.Told) [] m.types

def slots : List (Slot Manifest) :=
  [.plain "type" false false (reads_sequence OperationType.reads) (fun _ v => { types := v }) types
    fun _ _ => rfl]

theorem slotted : record.Slotted slots where
  closed := rfl
  fields := rfl
  apart := List.pairwise_singleton _ _
  undated := rfl

theorem reads : Reads decode format Told where
  iff_fits sound usual := by
    simp only [decode, within_eq_ok]
    exact slotted.strict.iff_fits sound usual
  told sound usual ok := by
    have told := slotted.told sound usual (within_eq_ok.1 ok)
    simp only [slots, List.forall_mem_cons] at told
    exact ⟨told.1.1⟩

/-- A manifest is read just where the document fits the format. Every value that the document gives
is in it, and the default is where the document gives none. With one undeclared key more in any of
its tables a document is refused. -/
theorem reads_format {text : String} {d : Datum} (parsed : Toml.parse? text = some d)
    (usual : ¬ Unusual format d.content) :
    ((∃ m, Toml.read decode text = .ok m) ↔ Fits format d.content) ∧
      (∀ m, Toml.read decode text = .ok m →
        Told d.content m ∧ ∀ t ∈ m.types, t.Packaged) ∧
      ∀ text' d', Toml.parse? text' = some d' → Adds format d.content d'.content →
        ∃ error, Toml.read decode text' = .error (.unexpected error) := by
  have sound := Toml.sound_of_parse? parsed
  have read {m : Manifest} : Toml.read decode text = .ok m ↔ decode d = .ok m := by
    simp [Toml.read_eq_ok, parsed]
  refine ⟨?_, fun m ok => ⟨?_, fun t _ => t.packaged⟩, fun text' d' parsed' adds => ?_⟩
  · simp only [read]
    exact reads.iff_fits sound usual
  · exact reads.told sound usual (read.1 ok)
  · have refused : ¬ ∃ m, decode d' = .ok m := fun accepted =>
      adds.not_fits <| (reads.iff_fits (Toml.sound_of_parse? parsed') fun odd =>
        usual (adds.unusual odd)).1 accepted
    cases decoded : decode d' with
    | error error => exact ⟨error, by simp [Toml.read, parsed', decoded]⟩
    | ok m => exact absurd ⟨m, decoded⟩ refused

/-- A method without parameters and without a result, and the same with a key more. -/
theorem reads_format_method :
    (∃ m, Toml.read decode
      "[[type]]\nname = \"a.B\"\n[[type.methods]]\nname = \"m\"\n" = .ok m) ∧
    ∃ error, Toml.read decode
      "[[type]]\nname = \"a.B\"\n[[type.methods]]\nname = \"m\"\nx = true\n" =
        .error (.unexpected error) := by
  have shape : (Toml.parse?
      "[[type]]\nname = \"a.B\"\n[[type.methods]]\nname = \"m\"\n").map Datum.content =
        some (.table [("type", .list [.table [("name", .scalar (.text "a.B")),
          ("methods", .list [.table [("name", .scalar (.text "m"))]])]])]) := by
    decide +kernel
  have wider : (Toml.parse?
      "[[type]]\nname = \"a.B\"\n[[type.methods]]\nname = \"m\"\nx = true\n").map
        Datum.content =
        some (.table [("type", .list [.table [("name", .scalar (.text "a.B")),
          ("methods", .list [.table [("name", .scalar (.text "m")),
            ("x", .scalar (.boolean true))]])]])]) := by
    decide +kernel
  obtain ⟨d, parsed, content⟩ := Option.map_eq_some_iff.1 shape
  obtain ⟨d', parsed', content'⟩ := Option.map_eq_some_iff.1 wider
  have method : Fits (.record OperationMethod.declared)
      (.table [("name", .scalar (.text "m"))]) :=
    fits_record (by simpa using ⟨_, rfl, .text "m"⟩) (by simp [OperationMethod.declared])
  have type : Fits (.record OperationType.declared)
      (.table [("name", .scalar (.text "a.B")),
        ("methods", .list [.table [("name", .scalar (.text "m"))]])]) :=
    fits_record (by simpa using ⟨⟨_, rfl, .text "a.B"⟩, _, rfl, .rows (by simpa using method)⟩)
      (by simp [OperationType.declared])
  have fits : Fits format d.content := by
    rw [content]
    exact fits_record (by simpa using ⟨_, rfl, .rows (by simpa using type)⟩) (by simp [declared])
  have adds : Adds format d.content d'.content := by
    rw [content, content']
    have inMethod : Adds (.record OperationMethod.declared)
        (.table [("name", .scalar (.text "m"))])
        (.table [("name", .scalar (.text "m")), ("x", .scalar (.boolean true))]) :=
      .here rfl [_] [] _
    exact .field rfl (.row (.field rfl (.row inMethod [] []) [_] []) [] []) [] []
  obtain ⟨accepted, -, refused⟩ := reads_format parsed fits.usual
  exact ⟨accepted.2 fits, refused _ d' parsed' adds⟩

end Manifest
end OperationStubs
