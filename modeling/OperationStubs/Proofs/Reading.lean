import Mathlib.Data.List.Forall2
import OperationStubs.Datum.Decode
import OperationStubs.Proofs.DistinctKeys
import OperationStubs.Proofs.Format

/-!
# Reading by a format

A reader that follows a format (`Reads`) succeeds on just the data that fit it, and what it gives is
told by the data. Texts and words are read by their formats (`reads_string`, `reads_variant`), and
so are rows of whatever is (`reads_sequence`).
-/

namespace OperationStubs

namespace Content

variable {α : Type}

def IsText (c : Content) (s : String) : Prop := c = .scalar (.text s)

/-- A value that may be missing is there. -/
def Has (tells : Content → α → Prop) (c : Content) (a? : Option α) : Prop :=
  ∃ a, tells c a ∧ a? = some a

/-- Each item of a list tells one value, in the same order. -/
inductive Lists (tells : Content → α → Prop) : Content → List α → Prop
  | list {items : List Content} {all : List α} (each : List.Forall₂ tells items all) :
      Lists tells (.list items) all

end Content

namespace Decode

open Format

variable {α ε : Type}

/-- A reader succeeds on just the data that fit a format, and its result is told by the data. -/
structure Reads (read : Datum → Except DecodeError α) (format : Format)
    (tells : Content → α → Prop) : Prop where
  iff_fits : ∀ {d : Datum}, d.Sound → ¬ Unusual format d.content →
    ((∃ a, read d = .ok a) ↔ Fits format d.content)
  told : ∀ {d : Datum} {a : α}, d.Sound → ¬ Unusual format d.content → read d = .ok a →
    tells d.content a

theorem scalar_of_isText {d : Datum} {s : String} (isText : d.content.IsText s) :
    ∃ span, d = .scalar (.text s) span := by
  cases d with
  | scalar value span =>
    cases isText
    exact ⟨span, rfl⟩
  | table form entries span => cases form <;> cases isText
  | _ => cases isText

theorem string_eq_ok {d : Datum} {s : String} : string d = .ok s ↔ d.content.IsText s := by
  constructor
  · intro ok
    unfold string at ok
    split at ok
    · cases ok
      rfl
    · cases ok
  · intro isText
    obtain ⟨span, rfl⟩ := scalar_of_isText isText
    rfl

theorem reads_string : Reads string .text Content.IsText where
  iff_fits := by
    intro d _ _
    simp only [string_eq_ok]
    constructor
    · rintro ⟨s, isText⟩
      rw [isText]
      exact .text s
    · intro fits
      generalize d.content = c at fits
      cases fits with
      | text s => exact ⟨s, rfl⟩
  told _ _ ok := string_eq_ok.1 ok

section Words

variable {pick : String → Option α} {words : List String}

theorem variant_eq_ok {d : Datum} (usual : ¬ Unusual (.oneOf words) d.content) {a : α}
    {expected : List String} :
    variant pick expected d = .ok a ↔ ∃ word, d.content.IsText word ∧ pick word = some a := by
  constructor
  · intro ok
    cases d with
    | scalar value span =>
      cases value with
      | text s =>
        refine ⟨s, rfl, ?_⟩
        simp only [variant, variant.choose] at ok
        split at ok <;> simp_all
      | _ => cases ok
    | table form entries span =>
      by_cases isDate : form = .date
      · subst isDate
        cases ok
      · rw [Datum.content_table isDate] at usual
        exact absurd (.keyed words _) usual
    | _ => cases ok
  · rintro ⟨word, isText, picked⟩
    obtain ⟨span, rfl⟩ := scalar_of_isText isText
    simp only [variant, variant.choose, picked]

theorem reads_variant {word : α → String} (picks : ∀ {w a}, pick w = some a ↔ word a = w)
    (all : ∀ {w}, w ∈ words ↔ ∃ a, word a = w) (expected : List String) :
    Reads (variant pick expected) (.oneOf words) fun c a => c.IsText (word a) where
  iff_fits := by
    intro d _ usual
    simp only [variant_eq_ok usual]
    constructor
    · rintro ⟨a, w, isText, picked⟩
      rw [isText]
      exact .oneOf (all.2 ⟨a, picks.1 picked⟩)
    · intro fits
      generalize d.content = c at fits
      cases fits with
      | oneOf mem =>
        obtain ⟨a, spelled⟩ := all.1 mem
        exact ⟨a, _, rfl, picks.2 spelled⟩
  told := by
    intro d a _ usual ok
    obtain ⟨w, isText, picked⟩ := (variant_eq_ok usual).1 ok
    rwa [picks.1 picked]

end Words

section Rows

variable {read : Datum → Except DecodeError α}

theorem mapM_eq_ok {read : ε → Except DecodeError α} {items : List ε} {all : List α} :
    items.mapM read = .ok all ↔ List.Forall₂ (fun item a => read item = .ok a) items all := by
  induction items generalizing all with
  | nil =>
    rw [List.mapM_nil, List.forall₂_nil_left_iff]
    exact ⟨fun ok => by cases ok; rfl, fun empty => by rw [empty]; rfl⟩
  | cons item items ih =>
    simp only [List.mapM_cons, bind_eq_ok, ih, List.forall₂_cons_left_iff]
    constructor
    · rintro ⟨a, first, rest, others, ⟨⟩⟩
      exact ⟨a, rest, first, others, rfl⟩
    · rintro ⟨a, rest, first, others, rfl⟩
      exact ⟨a, first, rest, others, rfl⟩

theorem exists_forall₂ {R : ε → α → Prop} {items : List ε} :
    (∃ all, List.Forall₂ R items all) ↔ ∀ item ∈ items, ∃ a, R item a := by
  induction items with
  | nil => simp
  | cons item items ih =>
    rw [List.forall_mem_cons, ← ih]
    constructor
    · rintro ⟨_, _ | ⟨first, others⟩⟩
      exact ⟨⟨_, first⟩, _, others⟩
    · rintro ⟨⟨a, first⟩, rest, others⟩
      exact ⟨a :: rest, .cons first others⟩

theorem items?_content {d : Datum} {items : List Datum} (listed : items? d = some items) :
    d.content = .list (items.map Datum.content) ∧ (d.Sound → ∀ item ∈ items, item.Sound) := by
  cases d with
  | list _ span =>
    cases listed
    refine ⟨Datum.content_list _ _, fun sound => ?_⟩
    cases sound with
    | list all span => exact all
  | tables _ =>
    cases listed
    refine ⟨Datum.content_tables _, fun sound => ?_⟩
    cases sound with
    | tables all => exact all
  | _ => cases listed

theorem items?_of_content {d : Datum} {items : List Content} (listed : d.content = .list items) :
    items? d ≠ none := by
  cases d with
  | list items span => simp [items?]
  | tables items => simp [items?]
  | scalar value span => cases listed
  | table form entries span => cases form <;> cases listed

theorem sequence_eq_ok {d : Datum} {all : List α} :
    sequence read d = .ok all ↔
      ∃ items, items? d = some items ∧
        List.Forall₂ (fun item a => read item = .ok a) items all := by
  unfold sequence
  cases items? d with
  | none => simp
  | some items => simp [mapM_eq_ok, within_eq_ok]

theorem reads_sequence {item : Format} {tells : Content → α → Prop} (own : Reads read item tells) :
    Reads (sequence read) (.rows item) (Content.Lists tells) where
  iff_fits := by
    intro d sound usual
    simp only [sequence_eq_ok]
    constructor
    · rintro ⟨all, items, listed, each⟩
      obtain ⟨content, below⟩ := items?_content listed
      rw [content] at usual ⊢
      refine .rows fun c mem => ?_
      obtain ⟨d, there, rfl⟩ := List.mem_map.1 mem
      refine (own.iff_fits (below sound d there) fun odd => usual (.row mem odd)).1 ?_
      exact exists_forall₂.1 ⟨all, each⟩ d there
    · intro fits
      cases listed : items? d with
      | none =>
        generalize content : d.content = c at fits
        cases fits with
        | rows all => exact absurd listed (items?_of_content content)
      | some items =>
        obtain ⟨content, below⟩ := items?_content listed
        rw [content] at usual fits
        have each : ∀ d ∈ items, ∃ a, read d = .ok a := by
          intro d there
          have mem : d.content ∈ items.map Datum.content := List.mem_map_of_mem there
          cases fits with
          | rows all =>
            exact (own.iff_fits (below sound d there) fun odd => usual (.row mem odd)).2 (all _ mem)
        obtain ⟨all, each⟩ := exists_forall₂.2 each
        exact ⟨all, items, rfl, each⟩
  told := by
    intro d all sound usual ok
    obtain ⟨items, listed, each⟩ := sequence_eq_ok.1 ok
    obtain ⟨content, below⟩ := items?_content listed
    rw [content] at usual ⊢
    refine .list (List.forall₂_map_left_iff.2 ?_)
    refine ((List.forall₂_and_left items all).2 ⟨fun d there => there, each⟩).imp ?_
    rintro d a ⟨there, ok⟩
    exact own.told (below sound d there)
      (fun odd => usual (.row (List.mem_map_of_mem there) odd)) ok

end Rows

end Decode
end OperationStubs
