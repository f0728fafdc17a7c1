import OperationStubs.Datum

/-!
# Formats

What a document says (`Content`), the shape that is asked of it (`Format`), and when it has that
shape (`Fits`). A record is strict: it has no keys but the declared ones, and what lies under each
key has the format declared for it. So nothing that gains an undeclared key in one of its records
fits (`Adds.not_fits`).
-/

namespace OperationStubs

/-- What a document says, wherever its parts stand and however its tables are written. -/
inductive Content where
  | scalar (value : Scalar)
  | date
  | list (items : List Content)
  | table (entries : List (String × Content))

deriving instance DecidableEq for Scalar

mutual

def Content.decideEq : (c c' : Content) → Decidable (c = c')
  | .scalar value, .scalar value' => decidable_of_iff (value = value') (by simp)
  | .date, .date => isTrue rfl
  | .list items, .list items' =>
    let _ := decideItems items items'
    decidable_of_iff (items = items') (by simp)
  | .table entries, .table entries' =>
    let _ := decideEntries entries entries'
    decidable_of_iff (entries = entries') (by simp)
  | .scalar _, .date | .scalar _, .list _ | .scalar _, .table _
  | .date, .scalar _ | .date, .list _ | .date, .table _
  | .list _, .scalar _ | .list _, .date | .list _, .table _
  | .table _, .scalar _ | .table _, .date | .table _, .list _ => isFalse nofun

def Content.decideItems : (items items' : List Content) → Decidable (items = items')
  | [], [] => isTrue rfl
  | [], _ :: _ | _ :: _, [] => isFalse nofun
  | c :: items, c' :: items' =>
    let _ := Content.decideEq c c'
    let _ := decideItems items items'
    decidable_of_iff (c = c' ∧ items = items') (by simp)

def Content.decideEntries :
    (entries entries' : List (String × Content)) → Decidable (entries = entries')
  | [], [] => isTrue rfl
  | [], _ :: _ | _ :: _, [] => isFalse nofun
  | (key, c) :: entries, (key', c') :: entries' =>
    let _ := Content.decideEq c c'
    let _ := decideEntries entries entries'
    decidable_of_iff ((key = key' ∧ c = c') ∧ entries = entries') (by simp)

end

instance : DecidableEq Content := Content.decideEq

mutual

def Datum.content : Datum → Content
  | .scalar value _ => .scalar value
  | .list items _ | .tables items => .list (contents items)
  | .table .date _ _ => .date
  | .table _ entries _ => .table (entryContents entries)

def Datum.contents : List Datum → List Content
  | [] => []
  | d :: items => d.content :: contents items

def Datum.entryContents : List (Key × Datum) → List (String × Content)
  | [] => []
  | (key, d) :: entries => (key.text, d.content) :: entryContents entries

end

namespace Datum

theorem contents_eq (items : List Datum) : contents items = items.map content := by
  induction items with
  | nil => rfl
  | cons d items ih => rw [contents, ih, List.map_cons]

theorem entryContents_eq (entries : List (Key × Datum)) :
    entryContents entries = entries.map fun e => (e.1.text, e.2.content) := by
  induction entries with
  | nil => rfl
  | cons e entries ih => rw [entryContents, ih, List.map_cons]

theorem content_table {form : TableForm} (undated : form ≠ .date) (entries : List (Key × Datum))
    (span : Option Span) :
    (table form entries span).content = .table (entries.map fun e => (e.1.text, e.2.content)) := by
  rw [← entryContents_eq]
  cases form <;> first | rfl | exact absurd rfl undated

theorem content_list (items : List Datum) (span : Option Span) :
    (list items span).content = .list (items.map content) := by
  rw [content, contents_eq]

theorem content_tables (items : List Datum) :
    (tables items).content = .list (items.map content) := by
  rw [content, contents_eq]

end Datum

/-- A key that a record declares. -/
structure Declared (φ : Type) where
  name : String
  needed : Bool
  format : φ

def Declared.find? {φ : Type} (fields : List (Declared φ)) (key : String) :
    Option (Declared φ) :=
  fields.find? fun field => field.name == key

inductive Format where
  | text
  | oneOf (words : List String)
  | rows (item : Format)
  | record (fields : List (Declared Format))

namespace Format

inductive Fits : Format → Content → Prop
  | text (s : String) : Fits .text (.scalar (.text s))
  | oneOf {words : List String} {word : String} (mem : word ∈ words) :
      Fits (.oneOf words) (.scalar (.text word))
  | rows {item : Format} {items : List Content} (all : ∀ c ∈ items, Fits item c) :
      Fits (.rows item) (.list items)
  | record {fields : List (Declared Format)} {entries : List (String × Content)}
      (declared : ∀ e ∈ entries, Declared.find? fields e.1 ≠ none)
      (typed : ∀ e ∈ entries, ∀ field, Declared.find? fields e.1 = some field →
        Fits field.format e.2)
      (complete : ∀ field ∈ fields, field.needed = true → ∃ e ∈ entries, e.1 = field.name) :
      Fits (.record fields) (.table entries)

/-- Somewhere a record is written as a list, or a word as a table. -/
inductive Unusual : Format → Content → Prop
  | listed (fields : List (Declared Format)) (items : List Content) :
      Unusual (.record fields) (.list items)
  | keyed (words : List String) (entries : List (String × Content)) :
      Unusual (.oneOf words) (.table entries)
  | row {item : Format} {items : List Content} {c : Content} (mem : c ∈ items)
      (unusual : Unusual item c) : Unusual (.rows item) (.list items)
  | field {fields : List (Declared Format)} {entries : List (String × Content)}
      {e : String × Content} (mem : e ∈ entries) {field : Declared Format}
      (found : Declared.find? fields e.1 = some field) (unusual : Unusual field.format e.2) :
      Unusual (.record fields) (.table entries)

/-- The second content is the first with one key more, in a record that does not declare it. -/
inductive Adds : Format → Content → Content → Prop
  | here {fields : List (Declared Format)} {key : String}
      (undeclared : Declared.find? fields key = none) (before after : List (String × Content))
      (c : Content) :
      Adds (.record fields) (.table (before ++ after)) (.table (before ++ (key, c) :: after))
  | row {item : Format} {c c' : Content} (adds : Adds item c c') (before after : List Content) :
      Adds (.rows item) (.list (before ++ c :: after)) (.list (before ++ c' :: after))
  | field {fields : List (Declared Format)} {key : String} {field : Declared Format}
      (found : Declared.find? fields key = some field) {c c' : Content}
      (adds : Adds field.format c c') (before after : List (String × Content)) :
      Adds (.record fields) (.table (before ++ (key, c) :: after))
        (.table (before ++ (key, c') :: after))

variable {format : Format} {c c' : Content}

theorem fits_record {fields : List (Declared Format)} {entries : List (String × Content)}
    (each : ∀ e ∈ entries, ∃ field, Declared.find? fields e.1 = some field ∧
      Fits field.format e.2)
    (complete : ∀ field ∈ fields, field.needed = true → ∃ e ∈ entries, e.1 = field.name) :
    Fits (.record fields) (.table entries) := by
  refine .record (fun e mem => ?_) (fun e mem field found => ?_) complete
  · obtain ⟨field, found, -⟩ := each e mem
    simp [found]
  · obtain ⟨known, found', fits⟩ := each e mem
    obtain rfl := Option.some.inj (found'.symm.trans found)
    exact fits

theorem Fits.usual (fits : Fits format c) : ¬ Unusual format c := by
  induction fits with
  | text s => rintro ⟨⟩
  | oneOf mem => rintro ⟨⟩
  | rows all ih =>
    rintro (_ | _ | ⟨mem, unusual⟩)
    exact ih _ mem unusual
  | record declared typed complete ih =>
    rintro (_ | _ | _ | ⟨mem, found, unusual⟩)
    exact ih _ mem _ found unusual

theorem Adds.not_fits (adds : Adds format c c') : ¬ Fits format c' := by
  induction adds with
  | here undeclared before after c =>
    rintro (_ | _ | _ | ⟨declared, -, -⟩)
    exact declared (_, c) (List.mem_append_right _ List.mem_cons_self) undeclared
  | row adds before after ih =>
    rintro (_ | _ | ⟨all⟩)
    exact ih (all _ (List.mem_append_right _ List.mem_cons_self))
  | field found adds before after ih =>
    rintro (_ | _ | _ | ⟨-, typed, -⟩)
    exact ih (typed (_, _) (List.mem_append_right _ List.mem_cons_self) _ found)

/-- An undeclared key leads to no record and no word. -/
theorem Adds.unusual (adds : Adds format c c') (unusual : Unusual format c') :
    Unusual format c := by
  induction adds with
  | here undeclared before after c =>
    cases unusual with
    | field mem found unusual =>
      rcases List.mem_append.1 mem with earlier | later
      · exact .field (List.mem_append_left _ earlier) found unusual
      · rcases List.mem_cons.1 later with rfl | later
        · rw [undeclared] at found
          cases found
        · exact .field (List.mem_append_right _ later) found unusual
  | row adds before after ih =>
    cases unusual with
    | row mem unusual =>
      rcases List.mem_append.1 mem with earlier | later
      · exact .row (List.mem_append_left _ earlier) unusual
      · rcases List.mem_cons.1 later with rfl | later
        · exact .row (List.mem_append_right _ List.mem_cons_self) (ih unusual)
        · exact .row (List.mem_append_right _ (List.mem_cons_of_mem _ later)) unusual
  | field found adds before after ih =>
    cases unusual with
    | field mem other unusual =>
      rcases List.mem_append.1 mem with earlier | later
      · exact .field (List.mem_append_left _ earlier) other unusual
      · rcases List.mem_cons.1 later with rfl | later
        · obtain rfl := Option.some.inj (found.symm.trans other)
          exact .field (List.mem_append_right _ List.mem_cons_self) found (ih unusual)
        · exact .field (List.mem_append_right _ (List.mem_cons_of_mem _ later)) other unusual

end Format
end OperationStubs
