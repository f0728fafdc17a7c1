import Mathlib.Data.List.Pairwise
import OperationStubs.Proofs.Reading

/-!
# Strict records

A record that takes the fields of a format and no others succeeds on just the tables that fit
(`Strict.iff_fits`). Each part of its result is told under the key of that part or is the default
(`Part.givesOr`), whatever order the keys come in: no key occurs twice, so no entry overwrites what
another one told. A record whose fields fill one part each is all that, if no two of them fill the
same part (`Slotted.strict`, `Slotted.told`).
-/

namespace OperationStubs

namespace Content

variable {α : Type}

/-- What a table has under a key. -/
def at? (key : String) : Content → Option Content
  | .table entries => entries.lookup key
  | _ => none

/-- A part of a result is told under a key. -/
def Gives (c : Content) (key : String) (tells : Content → α → Prop) (part : α) : Prop :=
  ∃ given, c.at? key = some given ∧ tells given part

/-- A part of a result is told under a key, or it is the default where nothing has the key. -/
def GivesOr (c : Content) (key : String) (tells : Content → α → Prop) (default part : α) : Prop :=
  match c.at? key with
  | none => part = default
  | some given => tells given part

theorem GivesOr.gives {c : Content} {key : String} {tells : Content → α → Prop}
    {default part : α} (told : c.GivesOr key tells default part) (present : c.at? key ≠ none) :
    c.Gives key tells part := by
  unfold GivesOr at told
  cases given : c.at? key with
  | none => exact absurd given present
  | some under =>
    simp only [given] at told
    exact ⟨under, given, told⟩

end Content

namespace Format

theorem Fits.at?_ne_none {fields : List (Declared Format)} {c : Content}
    (fits : Fits (.record fields) c) {key : String} {field : Declared Format}
    (found : Declared.find? fields key = some field) (needed : field.needed = true) :
    c.at? key ≠ none := by
  cases fits with
  | record declared typed complete =>
    obtain ⟨e, there, named⟩ := complete field (List.mem_of_find?_eq_some found) needed
    have same : field.name = key := by simpa using List.find?_some found
    intro absent
    exact absurd (named.trans same).symm (by simpa using List.lookup_eq_none_iff.1 absent e there)

end Format

namespace Decode

open Format

variable {α β γ ε : Type}

/-- A field reads what is declared for it. -/
structure Field.Meets (field : Field α) (declared : Declared Format) : Prop where
  name : field.name = declared.name
  needed : field.needed = declared.needed
  iff_fits : ∀ {d : Datum} (a : α), d.Sound → ¬ Unusual declared.format d.content →
    ((∃ b, field.read d a = .ok b) ↔ Fits declared.format d.content)

/-- A field that reads a value and puts it into the record. -/
theorem meets_put {read : Datum → Except DecodeError β} {format : Format}
    {tells : Content → β → Prop} (own : Reads read format tells) {put : α → β → α} {name : String}
    {needed inList : Bool} :
    Field.Meets ⟨name, needed, inList, fun d a => do return put a (← read d)⟩
      ⟨name, needed, format⟩ where
  name := rfl
  needed := rfl
  iff_fits := by
    intro d a sound usual
    rw [← own.iff_fits sound usual]
    simp only [bind_eq_ok]
    exact ⟨fun ⟨_, v, ok, _⟩ => ⟨v, ok⟩, fun ⟨v, ok⟩ => ⟨put a v, v, ok, rfl⟩⟩

/-- A record that takes the fields of a format and no others. -/
structure Record.Strict (r : Record α) (fields : List (Declared Format)) : Prop where
  closed : r.closed = true
  meets : List.Forall₂ Field.Meets r.fields fields
  undated : Declared.find? fields Datum.dateKey = none

theorem find?_meets {all : List (Field α)} {fields : List (Declared Format)}
    (meets : List.Forall₂ Field.Meets all fields) (key : String) :
    Option.Rel Field.Meets (all.find? fun f => f.name == key) (Declared.find? fields key) := by
  induction meets with
  | nil => exact .none
  | cons first others ih =>
    simp only [Declared.find?, List.find?_cons, first.name] at ih ⊢
    split
    · exact .some first
    · exact ih

theorem missing?_meets {all : List (Field α)} {fields : List (Declared Format)}
    (meets : List.Forall₂ Field.Meets all fields) (keys : List String) :
    (all.find? fun f => f.needed && !keys.contains f.name) = none ↔
      ∀ field ∈ fields, field.needed = true → field.name ∈ keys := by
  induction meets with
  | nil => simp
  | cons first others ih =>
    rw [List.forall_mem_cons, ← ih, List.find?_cons, first.needed, first.name]
    split <;> simp_all

/-- Where a fold succeeds each of its steps does, from somewhere. -/
theorem steps_of_foldlM {step : α → ε → Except DecodeError α} {all : List ε} {a b : α}
    (ok : all.foldlM step a = .ok b) : ∀ e ∈ all, ∃ before after, step before e = .ok after := by
  induction all generalizing a with
  | nil => simp
  | cons e all ih =>
    rw [List.foldlM_cons, bind_eq_ok] at ok
    obtain ⟨next, first, rest⟩ := ok
    exact List.forall_mem_cons.2 ⟨⟨a, next, first⟩, ih rest⟩

theorem foldlM_of_steps {step : α → ε → Except DecodeError α} {all : List ε}
    (steps : ∀ e ∈ all, ∀ a, ∃ b, step a e = .ok b) (a : α) : ∃ b, all.foldlM step a = .ok b := by
  induction all generalizing a with
  | nil => exact ⟨a, rfl⟩
  | cons e all ih =>
    obtain ⟨first, others⟩ := List.forall_mem_cons.1 steps
    obtain ⟨next, ok⟩ := first a
    obtain ⟨b, rest⟩ := ih others next
    exact ⟨b, by rw [List.foldlM_cons, bind_eq_ok]; exact ⟨next, ok, rest⟩⟩

variable {r : Record α} {fields : List (Declared Format)}

theorem ofEntries_eq_ok {entries : List (Key × Datum)} {a : α} :
    r.ofEntries entries = .ok a ↔
      entries.foldlM r.entry r.start = .ok a ∧
        r.missing? (entries.map fun e => e.1.text) = none := by
  rw [Record.ofEntries, bind_eq_ok]
  constructor
  · rintro ⟨b, filled, complete⟩
    split at complete
    · cases complete
    · rename_i none
      cases complete
      exact ⟨filled, none⟩
  · rintro ⟨filled, none⟩
    exact ⟨a, filled, by rw [none]; rfl⟩

namespace Record.Strict

variable (strict : r.Strict fields)

include strict

theorem declared_of_entry {e : Key × Datum} {a b : α} (ok : r.entry a e = .ok b) :
    ∃ (field : Field α) (declared : Declared Format),
      Declared.find? fields e.1.text = some declared ∧ field.Meets declared ∧
        field.read e.2 a = .ok b := by
  have found := find?_meets strict.meets e.1.text
  unfold entry at ok
  split at ok
  · rename_i field first
    rw [first] at found
    generalize Declared.find? fields e.1.text = declared? at found
    cases found with
    | some meets => exact ⟨field, _, rfl, meets, within_eq_ok.1 ok⟩
  · rw [strict.closed] at ok
    cases ok

theorem entry_of_declared {e : Key × Datum} {declared : Declared Format}
    (there : Declared.find? fields e.1.text = some declared) {a : α}
    (readable : ∀ {field : Field α}, field.Meets declared → ∃ b, field.read e.2 a = .ok b) :
    ∃ b, r.entry a e = .ok b := by
  have found := find?_meets strict.meets e.1.text
  rw [there] at found
  generalize first : r.fields.find? _ = field? at found
  cases found with
  | some meets =>
    obtain ⟨b, ok⟩ := readable meets
    exact ⟨b, by rw [entry, first]; exact within_eq_ok.2 ok⟩

/-- Only a table that is no date is read as a record, unless it is written as a list. -/
theorem table_of_decode {d : Datum} (sound : d.Sound)
    (usual : ¬ Unusual (.record fields) d.content) {a : α} (ok : r.decode d = .ok a) :
    ∃ form entries span, form ≠ .date ∧ d = .table form entries span ∧
      r.ofEntries entries = .ok a := by
  cases sound with
  | scalar value span => cases ok
  | list all span =>
    rw [Datum.content_list] at usual
    exact absurd (.listed fields _) usual
  | tables all =>
    rw [Datum.content_tables] at usual
    exact absurd (.listed fields _) usual
  | table distinct dated all span =>
    refine ⟨_, _, span, fun isDate => ?_, rfl, ok⟩
    obtain ⟨e, there, named⟩ := List.mem_map.1 (dated isDate)
    obtain ⟨before, after, step⟩ := steps_of_foldlM (ofEntries_eq_ok.1 ok).1 e there
    obtain ⟨field, declared, found, -⟩ := strict.declared_of_entry step
    rw [named, strict.undated] at found
    cases found

theorem entries_iff_fits {entries : List (Key × Datum)} (all : ∀ e ∈ entries, e.2.Sound)
    (usual : ¬ Unusual (.record fields) (.table (entries.map fun e => (e.1.text, e.2.content)))) :
    (∃ a, r.ofEntries entries = .ok a) ↔
      Fits (.record fields) (.table (entries.map fun e => (e.1.text, e.2.content))) := by
  have usual {e : Key × Datum} (there : e ∈ entries) {declared : Declared Format}
      (found : Declared.find? fields e.1.text = some declared) :
      ¬ Unusual declared.format e.2.content := fun odd =>
    usual (.field (List.mem_map_of_mem there) found odd)
  constructor
  · rintro ⟨a, ok⟩
    obtain ⟨filled, complete⟩ := ofEntries_eq_ok.1 ok
    have reads : ∀ e ∈ entries, ∃ declared, Declared.find? fields e.1.text = some declared ∧
        Fits declared.format e.2.content := by
      intro e there
      obtain ⟨before, after, step⟩ := steps_of_foldlM filled e there
      obtain ⟨field, declared, found, meets, read⟩ := strict.declared_of_entry step
      exact ⟨declared, found, (meets.iff_fits before (all e there) (usual there found)).1 ⟨_, read⟩⟩
    refine fits_record ?_ ?_
    · intro c mem
      obtain ⟨e, there, rfl⟩ := List.mem_map.1 mem
      exact reads e there
    · intro field mem needed
      simpa using (missing?_meets strict.meets _).1 complete field mem needed
  · intro fits
    cases fits with
    | record declared typed complete =>
      have steps : ∀ e ∈ entries, ∀ a, ∃ b, r.entry a e = .ok b := by
        intro e there a
        have mem := List.mem_map_of_mem (f := fun e => (e.1.text, e.2.content)) there
        obtain ⟨field, found⟩ := Option.ne_none_iff_exists'.1 (declared _ mem)
        refine strict.entry_of_declared found fun meets => ?_
        exact (meets.iff_fits a (all e there) (usual there found)).2 (typed _ mem field found)
      obtain ⟨a, filled⟩ := foldlM_of_steps steps r.start
      refine ⟨a, ofEntries_eq_ok.2 ⟨filled, (missing?_meets strict.meets _).2 ?_⟩⟩
      simpa using complete

theorem iff_fits {d : Datum} (sound : d.Sound) (usual : ¬ Unusual (.record fields) d.content) :
    (∃ a, r.decode d = .ok a) ↔ Fits (.record fields) d.content := by
  constructor
  · rintro ⟨a, ok⟩
    obtain ⟨form, entries, span, undated, rfl, filled⟩ := strict.table_of_decode sound usual ok
    rw [Datum.content_table undated] at usual ⊢
    cases sound with
    | table distinct dated all => exact (strict.entries_iff_fits all usual).1 ⟨a, filled⟩
  · intro fits
    cases sound with
    | table distinct dated all span =>
      rename_i form entries
      by_cases isDate : form = .date
      · subst isDate
        cases fits
      · rw [Datum.content_table isDate] at usual fits
        exact (strict.entries_iff_fits all usual).2 fits
    | _ => cases fits

end Record.Strict

/-- What reading a field does to one part of the record: the part's own field tells it, and the
others leave it as it is. -/
inductive Field.Acts (key : String) (format : Format) (part : α → γ)
    (tells : Content → γ → Prop) (field : Field α) : Prop
  | own (same : field.name = key)
      (told : ∀ {d : Datum} {a b : α}, d.Sound → ¬ Unusual format d.content →
        field.read d a = .ok b → tells d.content (part b))
  | other (differs : field.name ≠ key)
      (kept : ∀ {d : Datum} {a b : α}, field.read d a = .ok b → part b = part a)

section Acts

variable {key : String} {format : Format} {part : α → γ} {tells : Content → γ → Prop}
  {read : Datum → Except DecodeError β} {put : α → β → α} {needed inList : Bool}

theorem Field.acts_own {told : Content → β → Prop} (own : Reads read format told)
    (puts : ∀ {c v} a, told c v → tells c (part (put a v))) :
    Acts key format part tells ⟨key, needed, inList, fun d a => do return put a (← read d)⟩ := by
  refine .own rfl fun {d a b} sound usual ok => ?_
  obtain ⟨v, first, ⟨⟩⟩ := bind_eq_ok.1 ok
  exact puts a (own.told sound usual first)

theorem Field.acts_other {name : String} (differs : name ≠ key)
    (spares : ∀ a v, part (put a v) = part a) :
    Acts key format part tells ⟨name, needed, inList, fun d a => do return put a (← read d)⟩ := by
  refine .other differs fun {d a b} ok => ?_
  obtain ⟨v, -, ⟨⟩⟩ := bind_eq_ok.1 ok
  exact spares a v

/-- Every field of a record does to the part what it may. -/
def Record.Part (r : Record α) (key : String) (format : Format) (part : α → γ)
    (tells : Content → γ → Prop) : Prop :=
  ∀ field ∈ r.fields, field.Acts key format part tells

namespace Record.Part

variable (acts : r.Part key format part tells)

include acts

theorem entry_own {e : Key × Datum} (same : e.1.text = key) (sound : e.2.Sound)
    (usual : ¬ Unusual format e.2.content) {a b : α} (ok : r.entry a e = .ok b)
    (closed : r.closed = true) : tells e.2.content (part b) := by
  unfold entry at ok
  split at ok
  · rename_i field first
    have name : field.name = e.1.text := by simpa using List.find?_some first
    cases acts field (List.mem_of_find?_eq_some first) with
    | own _ told => exact told sound usual (within_eq_ok.1 ok)
    | other differs _ => exact absurd (name.trans same) differs
  · rw [closed] at ok
    cases ok

theorem entry_other {e : Key × Datum} (differs : e.1.text ≠ key) {a b : α}
    (ok : r.entry a e = .ok b) : part b = part a := by
  unfold entry at ok
  split at ok
  · rename_i field first
    have name : field.name = e.1.text := by simpa using List.find?_some first
    cases acts field (List.mem_of_find?_eq_some first) with
    | own same _ => exact absurd (name.symm.trans same) differs
    | other _ kept => exact kept (within_eq_ok.1 ok)
  · split at ok
    · cases ok
    · cases ok
      rfl

theorem entries_other {entries : List (Key × Datum)}
    (absent : key ∉ entries.map fun e => e.1.text) {a b : α}
    (ok : entries.foldlM r.entry a = .ok b) : part b = part a := by
  induction entries generalizing a with
  | nil =>
    cases ok
    rfl
  | cons e entries ih =>
    rw [List.foldlM_cons, bind_eq_ok] at ok
    obtain ⟨next, first, rest⟩ := ok
    rw [List.map_cons, List.mem_cons, not_or] at absent
    rw [ih absent.2 rest, acts.entry_other (Ne.symm absent.1) first]

/-- No other entry has the key of an entry, so none overwrites what it told. -/
theorem entries_own {entries : List (Key × Datum)}
    (distinct : (entries.map fun e => e.1.text).Nodup) (closed : r.closed = true)
    {e : Key × Datum} (there : e ∈ entries) (same : e.1.text = key) (sound : e.2.Sound)
    (usual : ¬ Unusual format e.2.content) {a b : α} (ok : entries.foldlM r.entry a = .ok b) :
    tells e.2.content (part b) := by
  induction entries generalizing a with
  | nil => cases there
  | cons first entries ih =>
    rw [List.foldlM_cons, bind_eq_ok] at ok
    obtain ⟨next, step, rest⟩ := ok
    rw [List.map_cons, List.nodup_cons] at distinct
    rcases List.mem_cons.1 there with rfl | later
    · rw [acts.entries_other (same ▸ distinct.1) rest]
      exact acts.entry_own same sound usual step closed
    · exact ih distinct.2 later rest

theorem givesOr (strict : r.Strict fields) {declared : Declared Format}
    (found : Declared.find? fields key = some declared) (same : declared.format = format)
    {d : Datum} (sound : d.Sound) (usual : ¬ Unusual (.record fields) d.content) {a : α}
    (ok : r.decode d = .ok a) : d.content.GivesOr key tells (part r.start) (part a) := by
  obtain ⟨form, entries, span, undated, rfl, filled⟩ := strict.table_of_decode sound usual ok
  rw [Datum.content_table undated] at usual ⊢
  have filled := (ofEntries_eq_ok.1 filled).1
  unfold Content.GivesOr Content.at?
  cases sound with
  | table distinct dated all =>
    split
    · rename_i absent
      refine acts.entries_other ?_ filled
      intro there
      obtain ⟨e, mem, named⟩ := List.mem_map.1 there
      have := List.lookup_eq_none_iff.1 absent _ (List.mem_map_of_mem mem)
      simp [named] at this
    · rename_i c first
      have mem : (key, c) ∈ entries.map fun e => (e.1.text, e.2.content) := by
        obtain ⟨before, after, cut, -⟩ := List.lookup_eq_some_iff.1 first
        simp [cut]
      obtain ⟨e, there, eq⟩ := List.mem_map.1 mem
      cases eq
      exact acts.entries_own distinct strict.closed there rfl (all e there)
        (fun odd => usual (.field mem found (same ▸ odd))) filled

theorem gives (strict : r.Strict fields) {declared : Declared Format}
    (found : Declared.find? fields key = some declared) (same : declared.format = format)
    (needed : declared.needed = true) {d : Datum} (sound : d.Sound)
    (usual : ¬ Unusual (.record fields) d.content) {a : α} (ok : r.decode d = .ok a) :
    d.content.Gives key tells (part a) :=
  (acts.givesOr strict found same sound usual ok).gives
    (((strict.iff_fits sound usual).1 ⟨a, ok⟩).at?_ne_none found needed)

end Record.Part
end Acts

/-- A field that puts what it reads into one part of the record, and how the part is told. -/
structure Slot (α : Type) where
  {Value Part : Type}
  name : String
  needed : Bool
  neededInList : Bool
  format : Format
  read : Datum → Except DecodeError Value
  put : α → Value → α
  part : α → Part
  tells : Content → Part → Prop
  {told : Content → Value → Prop}
  reads : Reads read format told
  puts : ∀ {c v} a, told c v → tells c (part (put a v))

namespace Slot

section Parts

variable {read : Datum → Except DecodeError β} {format : Format} {tells : Content → β → Prop}
  (name : String) (needed neededInList : Bool) (reads : Reads read format tells) (put : α → β → α)

/-- A part that is the value itself. -/
def plain (part : α → β) (puts : ∀ a v, part (put a v) = v) : Slot α :=
  ⟨name, needed, neededInList, format, read, put, part, tells, reads, by
    intro c v a told
    rwa [puts]⟩

/-- A part that may be missing. -/
def optional (part : α → Option β) (puts : ∀ a v, part (put a v) = some v) : Slot α :=
  ⟨name, needed, neededInList, format, read, put, part, Content.Has tells, reads,
    fun a told => ⟨_, told, puts a _⟩⟩

end Parts

def field (s : Slot α) : Field α :=
  ⟨s.name, s.needed, s.neededInList, fun d a => do return s.put a (← s.read d)⟩

def declared (s : Slot α) : Declared Format := ⟨s.name, s.needed, s.format⟩

/-- Neither of two slots touches the part of the other. -/
def Apart (s t : Slot α) : Prop :=
  s.name ≠ t.name ∧ (∀ a v, s.part (t.put a v) = s.part a) ∧ ∀ a v, t.part (s.put a v) = t.part a

instance : Std.Symm (Apart (α := α)) where
  symm _ _ apart := ⟨apart.1.symm, apart.2.2, apart.2.1⟩

theorem find?_declared {slots : List (Slot α)} (apart : slots.Pairwise Apart) {s : Slot α}
    (mem : s ∈ slots) : Declared.find? (slots.map declared) s.name = some s.declared := by
  induction slots with
  | nil => cases mem
  | cons first slots ih =>
    obtain ⟨own, others⟩ := List.pairwise_cons.1 apart
    rw [Declared.find?, List.map_cons]
    rcases List.mem_cons.1 mem with rfl | later
    · exact List.find?_cons_of_pos (by simp [declared])
    · rw [List.find?_cons_of_neg (by simpa [declared] using (own s later).1)]
      exact ih others later

end Slot

/-- A record that has some slots, which are apart, and no other fields. -/
structure Record.Slotted (r : Record α) (slots : List (Slot α)) : Prop where
  closed : r.closed = true
  fields : r.fields = slots.map Slot.field
  apart : slots.Pairwise Slot.Apart
  undated : Declared.find? (slots.map Slot.declared) Datum.dateKey = none

namespace Record.Slotted

variable {slots : List (Slot α)} (slotted : r.Slotted slots)

include slotted

theorem strict : r.Strict (slots.map Slot.declared) where
  closed := slotted.closed
  meets := by
    rw [slotted.fields, List.forall₂_map_left_iff, List.forall₂_map_right_iff, List.forall₂_same]
    exact fun s _ => meets_put s.reads
  undated := slotted.undated

/-- What a field fills is a part of the record. -/
theorem part {s : Slot α} (mem : s ∈ slots) : r.Part s.name s.format s.part s.tells := by
  intro field among
  rw [slotted.fields] at among
  obtain ⟨t, there, rfl⟩ := List.mem_map.1 among
  by_cases same : t = s
  · rw [same]
    exact Field.acts_own s.reads s.puts
  · obtain ⟨differs, -, spares⟩ := slotted.apart.forall there mem same
    exact Field.acts_other differs spares

/-- Every part is told under its own key. -/
theorem told {d : Datum} (sound : d.Sound)
    (usual : ¬ Unusual (.record (slots.map Slot.declared)) d.content) {a : α}
    (ok : r.decode d = .ok a) :
    ∀ s ∈ slots, d.content.GivesOr s.name s.tells (s.part r.start) (s.part a) ∧
      (s.needed = true → d.content.Gives s.name s.tells (s.part a)) := by
  intro s mem
  have acts := slotted.part mem
  have found := Slot.find?_declared slotted.apart mem
  constructor
  · exact acts.givesOr slotted.strict found rfl sound usual ok
  · intro needed
    exact acts.gives slotted.strict found rfl needed sound usual ok

end Record.Slotted

end Decode
end OperationStubs
