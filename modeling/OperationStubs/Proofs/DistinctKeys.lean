import Mathlib.Data.List.Nodup
import OperationStubs.Toml.Document

/-!
# Documents have distinct keys

Whatever text is read as a document, no table of it has one key twice, and only dates are tables
with the form of a date (`sound_of_parse?`). A value is sound because its parts are, and each line
changes the table it goes to in a way that keeps this.
-/

namespace OperationStubs

namespace Datum

/-- No key occurs twice in a table, and a date has the key of dates. -/
inductive Sound : Datum → Prop
  | scalar (value : Scalar) (span : Option Span) : Sound (.scalar value span)
  | list {items : List Datum} (all : ∀ d ∈ items, Sound d) (span : Option Span) :
      Sound (.list items span)
  | tables {items : List Datum} (all : ∀ d ∈ items, Sound d) : Sound (.tables items)
  | table {form : TableForm} {entries : List (Key × Datum)}
      (distinct : (entries.map fun e => e.1.text).Nodup)
      (dated : form = .date → dateKey ∈ entries.map fun e => e.1.text)
      (all : ∀ e ∈ entries, Sound e.2) (span : Option Span) : Sound (.table form entries span)

theorem Sound.empty {form : TableForm} (undated : form ≠ .date) (span : Option Span) :
    Sound (.table form [] span) :=
  .table (by simp) (fun isDate => absurd isDate undated) (by simp) span

theorem Sound.date (text : String) (span : Option Span) : Sound (date text span) := by
  refine .table (by simp) (fun _ => List.mem_singleton_self _) ?_ span
  intro e mem
  obtain rfl := List.mem_singleton.1 mem
  exact .scalar _ _

end Datum

namespace Toml

open Datum (Sound)

theorem valueAt?_eq_none {name : String} {entries : List (Key × Datum)} :
    valueAt? name entries = none ↔ name ∉ entries.map fun e => e.1.text := by
  simp [valueAt?]

theorem mem_of_valueAt? {name : String} {entries : List (Key × Datum)} {d : Datum}
    (found : valueAt? name entries = some d) : ∃ e ∈ entries, e.1.text = name ∧ e.2 = d := by
  obtain ⟨e, first, rfl⟩ := Option.map_eq_some_iff.1 found
  exact ⟨e, List.mem_of_find?_eq_some first, by simpa using List.find?_some first, rfl⟩

/-- A change keeps sound data sound. -/
def Keeps (change : Datum → Option Datum) : Prop :=
  ∀ ⦃d d'⦄, Sound d → change d = some d' → Sound d'

section Tables

variable {form : TableForm} {entries : List (Key × Datum)} {span : Option Span}

/-- A key that is not there yet can be added. -/
theorem sound_concat (sound : Sound (.table form entries span)) {key : Key} {d : Datum}
    (fresh : valueAt? key.text entries = none) (own : Sound d) :
    Sound (.table form (entries ++ [(key, d)]) span) := by
  cases sound with
  | table distinct dated all =>
    refine .table ?_ ?_ ?_ span
    · rw [List.map_append, List.map_singleton, ← List.concat_eq_append]
      exact distinct.concat (valueAt?_eq_none.1 fresh)
    · intro isDate
      rw [List.map_append]
      exact List.mem_append_left _ (dated isDate)
    · intro e mem
      rcases List.mem_append.1 mem with old | new
      · exact all e old
      · obtain rfl := List.mem_singleton.1 new
        exact own

theorem keys_modifyEntry {name : String} {change : Datum → Option Datum}
    {changed : List (Key × Datum)} (ok : modifyEntry name change entries = some changed) :
    changed.map (fun e => e.1.text) = entries.map fun e => e.1.text := by
  induction entries generalizing changed with
  | nil => cases ok
  | cons e entries ih =>
    simp only [modifyEntry] at ok
    split at ok
    · obtain ⟨d, -, ⟨⟩⟩ := Option.bind_eq_some_iff.1 ok
      rfl
    · obtain ⟨rest, later, ⟨⟩⟩ := Option.bind_eq_some_iff.1 ok
      rw [List.map_cons, List.map_cons, ih later]

theorem values_modifyEntry {name : String} {change : Datum → Option Datum}
    (keeps : Keeps change) (all : ∀ e ∈ entries, Sound e.2) {changed : List (Key × Datum)}
    (ok : modifyEntry name change entries = some changed) : ∀ e ∈ changed, Sound e.2 := by
  induction entries generalizing changed with
  | nil => cases ok
  | cons e entries ih =>
    obtain ⟨first, others⟩ := List.forall_mem_cons.1 all
    simp only [modifyEntry] at ok
    split at ok
    · obtain ⟨d, done, ⟨⟩⟩ := Option.bind_eq_some_iff.1 ok
      exact List.forall_mem_cons.2 ⟨keeps first done, others⟩
    · obtain ⟨rest, later, ⟨⟩⟩ := Option.bind_eq_some_iff.1 ok
      exact List.forall_mem_cons.2 ⟨first, ih others later⟩

theorem sound_modifyEntry (sound : Sound (.table form entries span)) {name : String}
    {change : Datum → Option Datum} (keeps : Keeps change) {changed : List (Key × Datum)}
    (ok : modifyEntry name change entries = some changed) :
    Sound (.table form changed span) := by
  cases sound with
  | table distinct dated all =>
    refine .table ?_ ?_ (values_modifyEntry keeps all ok) span
    · rwa [keys_modifyEntry ok]
    · rwa [keys_modifyEntry ok]

theorem sound_tables_concat {items : List Datum} (sound : Sound (.tables items)) {d : Datum}
    (own : Sound d) : Sound (.tables (items ++ [d])) := by
  cases sound with
  | tables all =>
    refine .tables fun e mem => ?_
    rcases List.mem_append.1 mem with old | new
    · exact all e old
    · obtain rfl := List.mem_singleton.1 new
      exact own

end Tables

theorem keeps_changeAt {enter : TableForm → Bool} {fresh : TableForm} (undated : fresh ≠ .date)
    {change : Datum → Option Datum} (keeps : Keeps change) (path : List Key) :
    Keeps (changeAt enter fresh change path) := by
  induction path with
  | nil => exact keeps
  | cons key path ih =>
    intro d d' sound ok
    cases d with
    | table form entries span =>
      simp only [changeAt] at ok
      split at ok
      · rename_i absent
        obtain ⟨inner, descended, ⟨⟩⟩ := Option.bind_eq_some_iff.1 ok
        exact sound_concat sound absent (ih (.empty undated none) descended)
      · obtain ⟨changed, inside, ⟨⟩⟩ := Option.bind_eq_some_iff.1 ok
        refine sound_modifyEntry sound ?_ inside
        intro child child' below changes
        dsimp only at changes
        split at changes
        · split at changes
          · exact ih below changes
          · cases changes
        · rename_i items
          obtain ⟨last, isLast, more⟩ := Option.bind_eq_some_iff.1 changes
          obtain ⟨last', descended, ⟨⟩⟩ := Option.bind_eq_some_iff.1 more
          cases below with
          | tables all =>
            have others : Sound (.tables items.dropLast) :=
              .tables fun e mem => all e (List.dropLast_subset _ mem)
            exact sound_tables_concat others
              (ih (all last (List.mem_of_getLast? isLast)) descended)
        · cases changes
    | _ => cases ok

section Additions

variable {key : Key} {value : Datum}

theorem keeps_addEntry (own : Sound value) : Keeps (addEntry key value) := by
  intro d d' sound ok
  cases d with
  | table form entries span =>
    simp only [addEntry] at ok
    split at ok
    · cases ok
    · rename_i absent
      cases ok
      exact sound_concat sound (by simpa using absent) own
  | _ => cases ok

theorem keeps_addDotted (isDotted : Bool) (own : Sound value) :
    Keeps (addDotted isDotted key value) := by
  intro d d' sound ok
  cases d with
  | table form entries span =>
    simp only [addDotted] at ok
    split at ok
    · exact keeps_addEntry own sound ok
    · cases ok
  | _ => cases ok

theorem sound_extendTo {d : Datum} (sound : Sound d) : Sound (extendTo value d) := by
  cases sound with
  | table distinct dated all span =>
    cases span with
    | none => exact .table distinct dated all none
    | some span => exact .table distinct dated all _
  | scalar content span => exact .scalar content span
  | list all span => exact .list all span
  | tables all => exact .tables all

theorem keeps_foldlM {ε : Type} {step : Datum → ε → Option Datum} {all : List ε}
    (keeps : ∀ e ∈ all, Keeps fun d => step d e) : Keeps fun d => all.foldlM step d := by
  induction all with
  | nil =>
    rintro d d' sound ⟨⟩
    exact sound
  | cons e all ih =>
    intro d d' sound ok
    obtain ⟨first, others⟩ := List.forall_mem_cons.1 keeps
    simp only [List.foldlM_cons] at ok
    obtain ⟨next, changed, rest⟩ := Option.bind_eq_some_iff.1 ok
    exact ih others (first sound changed) rest

theorem sound_inlineTable {all : List ((List Key × Key) × Datum)}
    (values : ∀ pair ∈ all, Sound pair.2) {d : Datum} (ok : inlineTable all = some d) :
    Sound d :=
  keeps_foldlM (fun pair mem => keeps_changeAt (by decide) (keeps_addEntry (values pair mem)) _)
    (.empty (by decide) none) ok

theorem keeps_beginTable (span : Span) : Keeps (beginTable key span) := by
  intro d d' sound ok
  have begun {inner : List (Key × Datum)} {before : Option Span}
      (below : Sound (.table .implied inner before)) :
      Sound (.table .header inner (some span)) := by
    cases below with
    | table distinct dated all => exact .table distinct (fun isDate => by cases isDate) all _
  cases d with
  | table form entries place =>
    simp only [beginTable] at ok
    split at ok
    · rename_i absent
      cases ok
      exact sound_concat sound absent (.empty (by decide) _)
    · rename_i inner before found
      cases ok
      obtain ⟨e, mem, same, below⟩ := mem_of_valueAt? found
      cases sound with
      | table distinct dated all =>
        refine .table ?_ ?_ ?_ place
        · rw [List.map_append, List.map_singleton, ← List.concat_eq_append]
          exact (distinct.sublist (List.filter_sublist.map _)).concat (by simp)
        · intro isDate
          obtain ⟨date, there, named⟩ := List.mem_map.1 (dated isDate)
          by_cases isKey : date.1.text = key.text
          · simp [← named, isKey]
          · have other : date ∈ entries.filter fun e => e.1.text != key.text := by
              simpa [there] using isKey
            exact List.mem_map.2 ⟨date, List.mem_append_left _ other, named⟩
        · intro other mem'
          rcases List.mem_append.1 mem' with old | new
          · exact all other (List.mem_filter.1 old).1
          · obtain rfl := List.mem_singleton.1 new
            exact begun (below ▸ all e mem)
    · cases ok
  | _ => cases ok

theorem keeps_beginItem (span : Span) : Keeps (beginItem key span) := by
  intro d d' sound ok
  have item : Sound (.table .header [] (some span)) := .empty (by decide) _
  cases d with
  | table form entries place =>
    simp only [beginItem] at ok
    split at ok
    · rename_i absent
      cases ok
      refine sound_concat sound absent (.tables ?_)
      simpa using item
    · obtain ⟨changed, inside, ⟨⟩⟩ := Option.bind_eq_some_iff.1 ok
      refine sound_modifyEntry sound ?_ inside
      intro child child' below changes
      dsimp only at changes
      split at changes
      · cases changes
        exact sound_tables_concat below item
      · cases changes
    · cases ok
  | _ => cases ok

theorem sound_addValue {draft next : Draft} (sound : Sound draft.root) (own : Sound value)
    {path : List Key} (ok : draft.addValue path key value = some next) : Sound next.root := by
  simp only [Draft.addValue] at ok
  obtain ⟨root, changed, ⟨⟩⟩ := Option.bind_eq_some_iff.1 ok
  refine keeps_changeAt (by decide) ?_ draft.current sound changed
  intro d d' below added
  exact keeps_changeAt (by decide) (keeps_addDotted _ own) path (sound_extendTo below) added

theorem sound_begin {draft next : Draft} (sound : Sound draft.root) {isItem : Bool}
    {path : List Key} {span : Span} (ok : draft.begin isItem path key span = some next) :
    Sound next.root := by
  simp only [Draft.begin] at ok
  obtain ⟨root, changed, ⟨⟩⟩ := Option.bind_eq_some_iff.1 ok
  refine keeps_changeAt (by decide) ?_ path sound changed
  cases isItem
  · exact keeps_beginTable span
  · exact keeps_beginItem span

end Additions

namespace Reader

variable {α β : Type}

/-- Whatever a step gives has a property. -/
def Ensures (r : Reader α) (P : α → Prop) : Prop :=
  ∀ ⦃c a c'⦄, r c = some (a, c') → P a

theorem ensures_true (r : Reader α) : Ensures r fun _ => True := fun _ _ _ _ => trivial

theorem ensures_fail {P : α → Prop} : Ensures fail P := fun _ _ _ ok => by cases ok

theorem ensures_pure {P : α → Prop} {a : α} (own : P a) : Ensures (pure a) P := by
  rintro c b c' ⟨⟩
  exact own

theorem Ensures.bind {r : Reader α} {f : α → Reader β} {P : α → Prop} {Q : β → Prop}
    (first : Ensures r P) (next : ∀ a, P a → Ensures (f a) Q) : Ensures (r >>= f) Q := by
  intro c b c' ok
  obtain ⟨⟨a, between⟩, done, rest⟩ := Option.bind_eq_some_iff.1 ok
  exact next a (first done) rest

/-- A step whose result does not matter. -/
theorem Ensures.after {r : Reader α} {f : α → Reader β} {Q : β → Prop}
    (next : ∀ a, Ensures (f a) Q) : Ensures (r >>= f) Q :=
  (ensures_true r).bind fun a _ => next a

theorem Ensures.ite {r r' : Reader α} {P : α → Prop} (b : Bool) (yes : Ensures r P)
    (no : Ensures r' P) : Ensures (if b then r else r') P := by
  cases b
  · exact no
  · exact yes

theorem ensures_spanned {r : Reader α} {P : α → Prop} (own : Ensures r P) :
    Ensures (spanned r) fun a => P a.1 :=
  .after fun _ => own.bind fun _ mine => .after fun _ => ensures_pure mine

theorem ensures_items {item : Reader Datum} (own : Ensures item Sound) (n : Nat) :
    Ensures (items item n) fun all => ∀ d ∈ all, Sound d := by
  induction n with
  | zero => exact ensures_fail
  | succ n ih =>
    refine .after fun _ => .after fun _ => .after fun ended => .ite ended ?_ ?_
    · exact ensures_pure (by simp)
    · refine own.bind fun first mine => .after fun _ => .after fun _ => .after fun more =>
        .ite more ?_ ?_
      · exact ih.bind fun rest others => ensures_pure (List.forall_mem_cons.2 ⟨mine, others⟩)
      · exact .after fun _ => ensures_pure (by simpa using mine)

theorem ensures_keyValue {value : Reader Datum} (own : Ensures value Sound) :
    Ensures (keyValue value) fun pair => Sound pair.2 :=
  .after fun _ => .after fun _ => .after fun _ => own.bind fun _ mine =>
    .after fun _ => ensures_pure mine

theorem ensures_pairs {pair : Reader ((List Key × Key) × Datum)}
    (own : Ensures pair fun p => Sound p.2) (n : Nat) :
    Ensures (pairs pair n) fun all => ∀ p ∈ all, Sound p.2 := by
  induction n with
  | zero => exact ensures_fail
  | succ n ih =>
    refine own.bind fun first mine => .after fun more => .ite more ?_ ?_
    · exact ih.bind fun rest others => ensures_pure (List.forall_mem_cons.2 ⟨mine, others⟩)
    · exact .after fun _ => ensures_pure (by simpa using mine)

theorem ensures_ofOption {a? : Option α} {P : α → Prop} (own : ∀ a, a? = some a → P a) :
    Ensures (ofOption a?) P := by
  cases a? with
  | none => exact ensures_fail
  | some a => exact ensures_pure (own a rfl)

theorem sound_withSpan {d : Datum} (sound : Sound d) (span : Span) :
    Sound (withSpan span d) := by
  cases sound with
  | scalar content _ => exact .scalar content _
  | list all _ => exact .list all _
  | tables all => exact .tables all
  | table distinct dated all _ => exact .table distinct dated all _

/-- Arrays and inline tables are one level less deep inside. -/
theorem ensures_value (depth : Nat) : Ensures (value depth) Sound := by
  induction depth using Nat.strongRecOn with
  | ind depth ih =>
    unfold value
    refine (ensures_spanned (P := Sound) (.after fun next => ?_)).bind fun d sound =>
      ensures_pure (sound_withSpan sound _)
    split
    · exact .after fun _ => ensures_pure (.scalar _ _)
    · exact .after fun _ => ensures_pure (.scalar _ _)
    · refine .after fun _ => ?_
      split
      · exact ensures_fail
      · exact .after fun _ => (ensures_items (ih _ (Nat.lt_succ_self _)) _).bind fun all sound =>
          ensures_pure (.list sound none)
    · refine .after fun _ => ?_
      split
      · exact ensures_fail
      · rename_i depth
        have inside := ensures_pairs (ensures_keyValue (ih depth (Nat.lt_succ_self _)))
        refine .after fun _ => .after fun ended => .ite ended
          (.bind (P := fun all => ∀ p ∈ all, Sound p.2) (ensures_pure (by simp)) ?_)
          (.after fun n => (inside n).bind ?_)
        all_goals
          intro all values
          dsimp only
          split
          · rename_i table made
            exact ensures_pure (sound_inlineTable values made)
          · exact ensures_fail
    · exact .after fun _ => ensures_pure (.scalar _ _)
    · exact .after fun _ => ensures_pure (.scalar _ _)
    · exact .after fun isDate => .ite isDate (ensures_pure (.date _ _))
        (.after fun _ => ensures_pure (.scalar _ _))

theorem ensures_line {draft : Draft} (sound : Sound draft.root) :
    Ensures (line draft) fun next => Sound next.root := by
  refine .after fun _ => .after fun next => ?_
  have ended (draft : Draft) (sound : Sound draft.root) :
      Ensures (do lineEnd; return draft) fun next => Sound next.root :=
    .after fun _ => ensures_pure sound
  split
  · exact ended draft sound
  · exact ended draft sound
  · exact ended draft sound
  · exact ended draft sound
  · refine .after fun _ => ?_
    exact (ensures_ofOption fun _ begun => sound_begin sound begun).bind ended
  · refine (ensures_keyValue (ensures_value _)).bind fun pair own => ?_
    exact (ensures_ofOption fun _ added => sound_addValue sound own added).bind ended

theorem ensures_lineRow {draft : Draft} (sound : Sound draft.root) (n : Nat) :
    Ensures (lineRow n draft) fun last => Sound last.root := by
  induction n generalizing draft with
  | zero => exact ensures_fail
  | succ n ih =>
    refine .after fun ended => .ite ended (ensures_pure sound) ?_
    exact (ensures_line sound).bind fun next => ih

end Reader

open Reader

theorem ensures_document : Ensures document Sound :=
  .after fun _ => .after fun n =>
    (ensures_lineRow (.empty (by decide) _) n).bind fun _ sound => ensures_pure sound

theorem sound_of_parse? {text : String} {d : Datum} (parsed : parse? text = some d) :
    d.Sound := by
  obtain ⟨⟨root, rest⟩, done, rfl⟩ := Option.map_eq_some_iff.1 parsed
  exact ensures_document done

end Toml
end OperationStubs
