import OperationStubs.Disk
import OperationStubs.Proofs.Lockstep
import OperationStubs.Run

/-!
# The documents of a run

Reading a file changes nothing, so a run's configuration and its manifest can be told from the file
system as it stands before the run (`execute_eq`). The directory that classes go to is the one that
the command line names, else the one of the configuration, else `generated` (`outputPath_layered`).
-/

namespace OperationStubs

namespace Decode

variable {α β : Type}

def text? : Datum → Option String
  | .scalar (.text s) _ => some s
  | _ => none

theorem text?_of_string {d : Datum} {s : String} (ok : string d = .ok s) : text? d = some s := by
  unfold string at ok
  split at ok
  · cases ok
    rfl
  · cases ok

/-- What a record is given, each with the name of its field. -/
def Record.given (r : Record α) : Datum → List (String × Datum)
  | .table _ entries _ => entries.map fun e => (e.1.text, e.2)
  | .list items _ | .tables items => r.fieldNames.zip items
  | .scalar .. => []

end Decode

namespace Options

open Decode

/-- The path of a field if it is the one of the output path. -/
def outputPath? (field : String × Datum) : Option String :=
  if field.1 = "output_path" then text? field.2 else none

/-- The directory that a configuration names. -/
def directory? (d : Datum) : Option String :=
  ((record.given d).filterMap outputPath?).getLast?

/-- A field sets the output path if it is the one for it. -/
theorem outputPath_field {field : Decode.Field Options} (mem : field ∈ record.fields) {d : Datum}
    {a b : Options} (ok : field.read d a = .ok b) :
    b.outputPath = (outputPath? (field.name, d)).getD a.outputPath := by
  simp only [record, List.mem_cons, List.not_mem_nil, or_false] at mem
  rcases mem with rfl | rfl | rfl | rfl
  · obtain ⟨marker, -, ⟨⟩⟩ := bind_eq_ok.1 ok
    rfl
  · obtain ⟨indent, -, ⟨⟩⟩ := bind_eq_ok.1 ok
    rfl
  · obtain ⟨path, read, ⟨⟩⟩ := bind_eq_ok.1 ok
    simp [outputPath?, text?_of_string read]
  · obtain ⟨level, -, ⟨⟩⟩ := bind_eq_ok.1 ok
    rfl

theorem outputPath_entry {e : Key × Datum} {a b : Options} (ok : record.entry a e = .ok b) :
    b.outputPath = (outputPath? (e.1.text, e.2)).getD a.outputPath := by
  unfold Record.entry at ok
  split at ok
  · rename_i field found
    have name : field.name = e.1.text := by simpa using List.find?_some found
    rw [within_eq_ok] at ok
    rw [← name]
    exact outputPath_field (List.mem_of_find?_eq_some found) ok
  · cases ok

/-- Of several paths the last one counts. -/
theorem getD_getLast? (first : Option String) (later : List String) (start : String) :
    later.getLast?.getD (first.getD start) = (first.toList ++ later).getLast?.getD start := by
  cases first <;> simp [List.getLast?_cons]

theorem filterMap_outputPath? (field : String × Datum) (fields : List (String × Datum)) :
    (field :: fields).filterMap outputPath? =
      (outputPath? field).toList ++ fields.filterMap outputPath? := by
  rw [List.filterMap_cons]
  cases outputPath? field <;> rfl

theorem outputPath_entries {entries : List (Key × Datum)} {a b : Options}
    (ok : entries.foldlM record.entry a = .ok b) :
    b.outputPath = ((entries.map fun e => (e.1.text, e.2)).filterMap
      outputPath?).getLast?.getD a.outputPath := by
  induction entries generalizing a with
  | nil =>
    cases ok
    rfl
  | cons e entries ih =>
    rw [List.foldlM_cons, bind_eq_ok] at ok
    obtain ⟨next, first, rest⟩ := ok
    rw [ih rest, outputPath_entry first, List.map_cons, filterMap_outputPath?, getD_getLast?]

theorem outputPath_items {fields : List (Decode.Field Options)}
    (among : ∀ field ∈ fields, field ∈ record.fields) {i : Nat} {items : List Datum}
    {a b : Options} (ok : record.ofItems i fields items a = .ok b) :
    b.outputPath =
      (((fields.map (·.name)).zip items).filterMap outputPath?).getLast?.getD a.outputPath := by
  induction fields generalizing i items a with
  | nil =>
    cases ok
    rfl
  | cons field fields ih =>
    obtain ⟨own, others⟩ := List.forall_mem_cons.1 among
    cases items with
    | nil =>
      simp only [Record.ofItems] at ok
      split at ok
      · cases ok
      · rw [ih others ok, List.zip_nil_right, List.zip_nil_right]
    | cons item items =>
      simp only [Record.ofItems, bind_eq_ok, within_eq_ok] at ok
      obtain ⟨next, first, rest⟩ := ok
      rw [ih others rest, outputPath_field own first, List.map_cons, List.zip_cons_cons,
        filterMap_outputPath?, getD_getLast?]

/-- Where a configuration names no directory, the output path is the default. -/
theorem outputPath_decode {d : Datum} {options : Options} (ok : decode d = .ok options) :
    options.outputPath = (directory? d).getD "generated" := by
  rw [decode, within_eq_ok] at ok
  cases d with
  | scalar value span => cases ok
  | list items span => exact outputPath_items (fun _ mem => mem) ok
  | tables items => exact outputPath_items (fun _ mem => mem) ok
  | table form entries span =>
    simp only [Record.decode, Record.ofEntries, bind_eq_ok] at ok
    obtain ⟨a, filled, complete⟩ := ok
    split at complete
    · cases complete
    · cases complete
      exact outputPath_entries filled

end Options

/-- Files are read without a trace. -/
def FileSystem.Quiet {σ h : Type} (fs : FileSystem (StateM σ) h) : Prop :=
  ∀ path o, (fs.read path o).2 = o

theorem Disk.quiet : Disk.fileSystem.Quiet := by
  intro path d
  change (Disk.read path d).2 = d
  unfold Disk.read
  cases d.locate path with
  | error fault => rfl
  | ok target =>
    dsimp only
    split <;> rfl

namespace Run

/-- The data of a document, if it is one. -/
def datum? : Except Fault (List UInt8) → Option Datum
  | .error _ => none
  | .ok bytes => (ofUtf8? bytes).bind Toml.parse?

/-- What a document comes to, from what reading it has answered. -/
def decoded {α : Type} (role : String) (decode : Datum → Except DecodeError α) (path : String) :
    Except Fault (List UInt8) → Except RunError α
  | .error fault => .error (.cannotRead role path fault)
  | .ok bytes =>
    match ofUtf8? bytes with
    | none => .error (.cannotRead role path Fault.notText)
    | some document =>
      match Toml.read decode document with
      | .error error => .error (.cannotParse role path document error)
      | .ok a => .ok a

theorem datum?_of_decoded {α : Type} {role path : String} {decode : Datum → Except DecodeError α}
    {answer : Except Fault (List UInt8)} {a : α} (ok : decoded role decode path answer = .ok a) :
    ∃ d, datum? answer = some d ∧ decode d = .ok a := by
  cases answer with
  | error fault => cases ok
  | ok bytes =>
    simp only [decoded] at ok
    cases text : ofUtf8? bytes with
    | none => simp [text] at ok
    | some document =>
      cases read : Toml.read decode document with
      | error error => simp [text, read] at ok
      | ok b =>
        simp only [text, read] at ok
        cases ok
        obtain ⟨d, parsed, ok⟩ := Toml.read_eq_ok.1 read
        exact ⟨d, by simp [datum?, text, parsed], ok⟩

section Documents

variable {σ h : Type} (fs : FileSystem (StateM σ) h) (arguments : Arguments) (o : σ)

/-- The options of the configuration, or the defaults if none is asked for. -/
def configuration : Except RunError Options :=
  match arguments.config with
  | none => .ok { }
  | some path => decoded "config" Options.decode path (fs.read path o).1

/-- The manifest of a run. -/
def manifest : Except RunError Manifest :=
  decoded "manifest" Manifest.decode arguments.manifest (fs.read arguments.manifest o).1

/-- The directory that classes go to: by the command line, else by the configuration. -/
def root : String :=
  let named := arguments.config.bind fun path =>
    (datum? (fs.read path o).1).bind Options.directory?
  (arguments.output.or named).getD "generated"

end Documents

/-- The command line goes before the configuration. -/
def layered (arguments : Arguments) (config : Options) : Options :=
  { config with
    outputPath := arguments.output.getD config.outputPath
    verbosity := if arguments.verbose then .debug else config.verbosity }

section Quiet

variable {σ h : Type} {fs : FileSystem (StateM σ) h} {arguments : Arguments} (o : σ)

theorem outputPath_layered {config : Options} (ok : configuration fs arguments o = .ok config) :
    (layered arguments config).outputPath = root fs arguments o := by
  simp only [layered, root]
  cases output : arguments.output with
  | some path => rfl
  | none =>
    cases asked : arguments.config with
    | none =>
      simp only [configuration, asked] at ok
      cases ok
      rfl
    | some path =>
      simp only [configuration, asked] at ok
      obtain ⟨d, there, decoded⟩ := datum?_of_decoded ok
      simp [there, Options.outputPath_decode decoded]

theorem run_lift_bind {α β : Type} (a : StateM σ α) (f : α → ExceptT RunError (StateM σ) β) :
    (liftM a >>= f).run o = (f (a o).1).run (a o).2 := rfl

theorem run_bind_return {α β : Type} (a : ExceptT RunError (StateM σ) α) (f : α → β) :
    (do return f (← a) : ExceptT RunError (StateM σ) β).run o =
      ((a.run o).1.map f, (a.run o).2) := by
  change (ExceptT.bindCont _ (a.run o).1 : StateM σ _) (a.run o).2 = _
  cases (a.run o).1 <;> rfl

variable (quiet : fs.Quiet)

include quiet

theorem load_eq {α : Type} (role : String) (decode : Datum → Except DecodeError α)
    (path : String) :
    (load fs role decode path).run o = (decoded role decode path (fs.read path o).1, o) := by
  rw [load, run_lift_bind, quiet path o]
  cases (fs.read path o).1 with
  | error fault => rfl
  | ok bytes =>
    dsimp only [decoded]
    cases ofUtf8? bytes with
    | none => rfl
    | some document =>
      dsimp only
      cases Toml.read decode document <;> rfl

theorem options_eq :
    (options fs arguments).run o = ((configuration fs arguments o).map (layered arguments), o) := by
  cases asked : arguments.config with
  | none =>
    simp only [options, configuration, asked]
    rfl
  | some path =>
    simp only [options, configuration, asked]
    refine (run_bind_return o (load fs "config" Options.decode path) (layered arguments)).trans ?_
    rw [load_eq o quiet]

variable (now : StateM σ Timestamp)

theorem execute_eq :
    execute fs now arguments o =
      match configuration fs arguments o, manifest fs arguments o with
      | .error error, _ => (failed error [], o)
      | .ok config, .error error => (failed error (shown (layered arguments config) opening), o)
      | .ok config, .ok manifest =>
        let options := layered arguments config
        let ended := generate fs now options manifest o
        (⟨if ended.1.1.1.hasFailures then 1 else 0, reportText ended.1.1.1,
          shown options ended.1.1.2, ended.1.2.diagnosticText⟩, ended.2) := by
  rw [execute, bind_apply, options_eq o quiet]
  cases configuration fs arguments o with
  | error error => rfl
  | ok config =>
    dsimp only [Except.map]
    rw [bind_apply, load_eq o quiet]
    unfold manifest
    cases decoded "manifest" Manifest.decode arguments.manifest _ <;> rfl

end Quiet
end Run
end OperationStubs
