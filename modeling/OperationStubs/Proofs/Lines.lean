import Mathlib.Data.List.Chain
import OperationStubs.Proofs.OneLine
import OperationStubs.Proofs.Page

/-!
# Pages line by line

A call that puts text of one line into a form of its own writes whole lines. So the page of such
calls is their lines one after the other (`ofSteps_eq_lines`), each with the margin of the depth its
call was made at, and what a line looks like can be said of the call alone: nothing but an empty
line or a package leaves an empty line, and any other line has something on it that can be seen.
-/

namespace OperationStubs

namespace Text

/-- The characters that are white space. -/
def whiteRuns : List Run :=
  [⟨0x9, 0xD, 1⟩, ⟨0x20, 0x20, 1⟩, ⟨0x85, 0x85, 1⟩, ⟨0xA0, 0xA0, 1⟩, ⟨0x1680, 0x1680, 1⟩,
    ⟨0x2000, 0x200A, 1⟩, ⟨0x2028, 0x2029, 1⟩, ⟨0x202F, 0x202F, 1⟩, ⟨0x205F, 0x205F, 1⟩,
    ⟨0x3000, 0x3000, 1⟩]

def isWhite (c : Char) : Bool := whiteRuns.any (·.holds c.toNat)

/-- A text with a character that can be seen. -/
def Visible (text : String) : Prop := ∃ c ∈ text.toList, isWhite c = false

instance (text : String) : Decidable (Visible text) :=
  decidable_of_iff (text.toList.any fun c => !isWhite c) (by simp [Visible])

theorem Visible.ne_empty {text : String} (visible : Visible text) : text ≠ "" := by
  rintro rfl
  obtain ⟨c, mem, -⟩ := visible
  exact absurd mem List.not_mem_nil

theorem Visible.append_right {text : String} (visible : Visible text) (before : String) :
    Visible (before ++ text) := by
  obtain ⟨c, mem, seen⟩ := visible
  exact ⟨c, by simp [mem], seen⟩

theorem Visible.append_left {text : String} (visible : Visible text) (behind : String) :
    Visible (text ++ behind) := by
  obtain ⟨c, mem, seen⟩ := visible
  exact ⟨c, by simp [mem], seen⟩

/-- White space one after the other cannot be seen. -/
theorem not_visible_replicate {unit : String} (white : ∀ c ∈ unit.toList, isWhite c = true)
    (n : Nat) : ¬ Visible (String.join (List.replicate n unit)) := by
  rintro ⟨c, mem, seen⟩
  induction n with
  | zero => exact absurd mem List.not_mem_nil
  | succ n ih =>
    rw [List.replicate_succ, String.join_cons, String.toList_append, List.mem_append] at mem
    rcases mem with own | others
    · rw [white c own] at seen
      cases seen
    · exact ih others

end Text

open Text

namespace Step

/-- The lines of a call, not yet indented. Text that is just written, or is no text, is no line. -/
def rows (scope : Scope) : Step → List String
  | .write _ | .indent | .dedent => []
  | .line text => [text]
  | .comment text => ["// " ++ text]
  | .javadoc text => "/**" :: ((Text.lines text).map Writing.javadocLine ++ [" */"])
  | .statement text => [text ++ ";"]
  | .emptyLine => [""]
  | .package name => if name = "" then [] else ["package " ++ name ++ ";", ""]
  | .imports names => (NameSet.ofList names).toList.map fun name => "import " ++ name ++ ";"
  | .beginType name kind modifiers superclass =>
    [Writing.typeHeader scope name kind modifiers superclass]
  | .endType | .endMethod => ["\x7d"]
  | .beginMethod returnType name modifiers parameters =>
    [Writing.methodHeader scope returnType name modifiers parameters]
  | .field type name modifiers value => [Writing.fieldText scope type name modifiers value]

/-- A call that puts texts of one line into a form of its own. -/
def Formed : Step → Prop
  | .write _ | .line _ => False
  | .indent | .dedent | .emptyLine | .endType | .endMethod => True
  | .comment text | .javadoc text | .statement text => OneLine text
  | .package name => OneLine name
  | .imports names => ∀ name ∈ names, OneLine name
  | .beginType name kind _ superclass =>
    OneLine name ∧ OneLine kind ∧ ∀ type ∈ superclass, OneLine type
  | .beginMethod returnType name _ parameters =>
    (∀ type ∈ returnType, OneLine type) ∧ OneLine name ∧
      ∀ parameter ∈ parameters, OneLine parameter.1 ∧ OneLine parameter.2
  | .field type name _ value => OneLine type ∧ OneLine name ∧ ∀ text ∈ value, OneLine text

/-- A call that writes some lines, none of them empty. -/
def Full : Step → Prop
  | .write _ | .line _ | .indent | .dedent | .emptyLine | .package _ => False
  | .imports names => names ≠ []
  | _ => True

variable {step : Step}

/-- A comment is written in lines, whatever its text. -/
theorem text_javadoc (doc : String) (scope : Scope) : (Step.javadoc doc).text scope =
    String.join (((Step.javadoc doc).rows scope).map (· ++ "\n")) := by
  have first : "/**\n" = "/**" ++ "\n" := by decide
  have last : " */\n" = " */" ++ "\n" := by decide
  simp [Step.text, rows, first, last, Function.comp_def, String.append_assoc]

/-- A call of its own form writes its lines. -/
theorem Formed.text_eq (formed : step.Formed) (scope : Scope) :
    step.text scope = String.join ((step.rows scope).map (· ++ "\n")) := by
  cases step with
  | write | line => exact formed.elim
  | javadoc doc => exact text_javadoc doc scope
  | package name =>
    by_cases default : name = ""
    · simp [Step.text, rows, default]
    · simp [Step.text, rows, default, String.append_assoc]
  | imports names => simp [Step.text, rows, Function.comp_def]
  | indent | dedent => rfl
  | endType | endMethod =>
    have brace : "\x7d\n" = "\x7d" ++ "\n" := by decide
    simp [Step.text, rows, brace]
  | _ => simp [Step.text, rows]

end Step

namespace Writing

variable (scope : Scope)

theorem oneLine_typeHeader {name kind : String} {superclass : Option String}
    (modifiers : ModifierSet) (hname : OneLine name) (hkind : OneLine kind)
    (hsuper : ∀ type ∈ superclass, OneLine type) :
    OneLine (typeHeader scope name kind modifiers superclass) := by
  have blank : OneLine " " := by decide
  have brace : OneLine " \x7b" := by decide
  have base : OneLine " extends " := by decide
  cases superclass with
  | none => simp [typeHeader, modifiers.oneLine_text, hname, hkind, blank, brace]
  | some type =>
    have short := scope.oneLine_shorten (hsuper type rfl)
    simp [typeHeader, modifiers.oneLine_text, hname, hkind, blank, brace, base, short]

theorem oneLine_methodHeader {returnType : Option String} {name : String}
    {parameters : List (String × String)} (modifiers : ModifierSet)
    (hreturn : ∀ type ∈ returnType, OneLine type) (hname : OneLine name)
    (hparameters : ∀ parameter ∈ parameters, OneLine parameter.1 ∧ OneLine parameter.2) :
    OneLine (methodHeader scope returnType name modifiers parameters) := by
  have row : OneLine (", ".intercalate (parameters.map (parameterText scope))) := by
    refine oneLine_intercalate (by decide) fun text mem => ?_
    obtain ⟨parameter, among, rfl⟩ := List.mem_map.1 mem
    obtain ⟨type, own⟩ := hparameters parameter among
    have final : OneLine "final " := by decide
    have blank : OneLine " " := by decide
    simp [parameterText, final, blank, scope.oneLine_shorten type, own]
  have blank : OneLine " " := by decide
  have opening : OneLine "(" := by decide
  have closing : OneLine ") \x7b" := by decide
  cases returnType with
  | none => simp [methodHeader, modifiers.oneLine_text, hname, row, opening, closing]
  | some type =>
    have short := scope.oneLine_shorten (hreturn type rfl)
    simp [methodHeader, modifiers.oneLine_text, hname, row, opening, closing, blank, short]

theorem oneLine_javadocLine {line : String} (h : OneLine line) : OneLine (javadocLine line) := by
  unfold javadocLine
  split
  · decide
  · exact oneLine_append.2 ⟨by decide, h⟩

theorem oneLine_fieldText {type name : String} {value : Option String} (modifiers : ModifierSet)
    (htype : OneLine type) (hname : OneLine name) (hvalue : ∀ text ∈ value, OneLine text) :
    OneLine (fieldText scope type name modifiers value) := by
  have blank : OneLine " " := by decide
  have equals : OneLine " = " := by decide
  have stop : OneLine ";" := by decide
  have short := scope.oneLine_shorten htype
  cases value with
  | none => simp [fieldText, modifiers.oneLine_text, hname, blank, stop, short]
  | some value =>
    have own := hvalue value rfl
    simp [fieldText, modifiers.oneLine_text, hname, blank, stop, short, equals, own]

end Writing

namespace Javadoc

/-- The rows of a comment that carries some lines, not yet indented. -/
def rows (lines : List String) : List String :=
  "/**" :: (lines.map Writing.javadocLine ++ [" */"])

theorem oneLine_rows {lines : List String} (oneLine : ∀ line ∈ lines, OneLine line) :
    ∀ row ∈ rows lines, OneLine row := by
  intro row mem
  simp only [rows, List.mem_cons, List.mem_append, List.mem_map, List.not_mem_nil, or_false] at mem
  rcases mem with rfl | ⟨line, among, rfl⟩ | rfl
  · decide
  · exact Writing.oneLine_javadocLine (oneLine line among)
  · decide

end Javadoc

namespace Step

variable {step : Step}

/-- A comment takes its text apart, so none of its lines holds a newline. -/
theorem oneLine_javadoc (text : String) (scope : Scope) :
    ∀ row ∈ (Step.javadoc text).rows scope, OneLine row :=
  Javadoc.oneLine_rows fun _ mem => oneLine_of_mem_lines mem

/-- The lines of a call hold no newline. -/
theorem Formed.oneLine (formed : step.Formed) (scope : Scope) :
    ∀ row ∈ step.rows scope, OneLine row := by
  intro row mem
  have stop : OneLine ";" := by decide
  cases step with
  | write | line => exact formed.elim
  | indent | dedent => cases mem
  | comment text =>
    obtain rfl := List.mem_singleton.1 mem
    exact oneLine_append.2 ⟨by decide, formed⟩
  | javadoc text => exact oneLine_javadoc text scope row mem
  | statement text =>
    obtain rfl := List.mem_singleton.1 mem
    exact oneLine_append.2 ⟨formed, stop⟩
  | emptyLine | endType | endMethod =>
    obtain rfl := List.mem_singleton.1 mem
    decide
  | package name =>
    by_cases default : name = ""
    · simp [rows, default] at mem
    · simp only [rows, default, if_false, List.mem_cons, List.not_mem_nil, or_false] at mem
      rcases mem with rfl | rfl
      · exact oneLine_append.2 ⟨oneLine_append.2 ⟨by decide, formed⟩, stop⟩
      · decide
  | imports names =>
    obtain ⟨name, among, rfl⟩ := List.mem_map.1 mem
    have own := formed name ((NameSet.mem_ofList).1 among)
    exact oneLine_append.2 ⟨oneLine_append.2 ⟨by decide, own⟩, stop⟩
  | beginType name kind modifiers superclass =>
    obtain rfl := List.mem_singleton.1 mem
    exact Writing.oneLine_typeHeader scope modifiers formed.1 formed.2.1 formed.2.2
  | beginMethod returnType name modifiers parameters =>
    obtain rfl := List.mem_singleton.1 mem
    exact Writing.oneLine_methodHeader scope modifiers formed.1 formed.2.1 formed.2.2
  | field type name modifiers value =>
    obtain rfl := List.mem_singleton.1 mem
    exact Writing.oneLine_fieldText scope modifiers formed.1 formed.2.1 formed.2.2

theorem Full.rows_ne_nil (full : step.Full) (scope : Scope) : step.rows scope ≠ [] := by
  cases step with
  | write | line | indent | dedent | emptyLine | package => exact full.elim
  | imports names =>
    obtain ⟨name, more, rfl⟩ := List.exists_cons_of_ne_nil full
    have among : name ∈ NameSet.ofList (name :: more) := NameSet.mem_ofList.2 List.mem_cons_self
    exact List.ne_nil_of_mem (List.mem_map_of_mem among)
  | _ => exact List.cons_ne_nil _ _

/-- On every line of a full call there is something to see. -/
theorem Full.visible (full : step.Full) (scope : Scope) :
    ∀ row ∈ step.rows scope, Visible row := by
  intro row mem
  have stop : Visible ";" := by decide
  have brace : Visible " \x7b" := by decide
  have closing : Visible ") \x7b" := by decide
  cases step with
  | write | line | indent | dedent | emptyLine | package => exact full.elim
  | comment text =>
    obtain rfl := List.mem_singleton.1 mem
    exact Visible.append_left (by decide) text
  | javadoc text =>
    simp only [rows, List.mem_cons, List.mem_append, List.mem_map, List.not_mem_nil,
      or_false] at mem
    rcases mem with rfl | ⟨line, -, rfl⟩ | rfl
    · decide
    · unfold Writing.javadocLine
      split
      · decide
      · exact Visible.append_left (by decide) line
    · decide
  | statement | field =>
    obtain rfl := List.mem_singleton.1 mem
    exact stop.append_right _
  | endType | endMethod =>
    obtain rfl := List.mem_singleton.1 mem
    decide
  | imports names =>
    obtain ⟨name, -, rfl⟩ := List.mem_map.1 mem
    exact stop.append_right _
  | beginType =>
    obtain rfl := List.mem_singleton.1 mem
    exact brace.append_right _
  | beginMethod =>
    obtain rfl := List.mem_singleton.1 mem
    exact closing.append_right _

/-- There is something to see on every line, but for those left empty. -/
theorem Formed.visible (formed : step.Formed) (scope : Scope) :
    ∀ row ∈ step.rows scope, row ≠ "" → Visible row := by
  intro row mem some
  by_cases full : step.Full
  · exact full.visible scope row mem
  · cases step with
    | write | line => exact formed.elim
    | indent | dedent => cases mem
    | emptyLine => exact absurd (List.mem_singleton.1 mem) some
    | package name =>
      by_cases default : name = ""
      · simp [rows, default] at mem
      · simp only [rows, default, if_false, List.mem_cons, List.not_mem_nil, or_false] at mem
        rcases mem with rfl | rfl
        · exact Visible.append_right (by decide) _
        · exact absurd rfl some
    | imports names =>
      obtain rfl : names = [] := not_not.1 full
      cases mem
    | _ => exact absurd trivial full

end Step

namespace Page

/-- A line with its margin. An empty line has none. -/
def indented (indent : String) (depth : Nat) (row : String) : String :=
  if row = "" then "" else String.join (List.replicate depth indent) ++ row

/-- A call, with the depth and the scope that its text is written in. -/
structure Call where
  depth : Nat
  scope : Scope
  step : Step

/-- The calls that some calls of the writer are at a depth and in a scope. -/
def calls (depth : Nat) (scope : Scope) : List Step → List Call
  | [] => []
  | step :: steps =>
    ⟨step.depthWithin depth, scope, step⟩ ::
      calls (step.depthBehind depth) (step.scopeBehind scope) steps

def Call.lines (indent : String) (call : Call) : List String :=
  (call.step.rows call.scope).map (indented indent call.depth)

/-- The lines of some calls. -/
def lines (indent : String) (calls : List Call) : List String :=
  calls.flatMap (·.lines indent)

/-- Some lines, each with the newline that ends it. -/
def ended (lines : List String) : String := String.join (lines.map (· ++ "\n"))

theorem calls_append (depth : Nat) (scope : Scope) (a b : List Step) :
    calls depth scope (a ++ b) = calls depth scope a ++
      calls (a.foldl Step.depthBehind depth) (a.foldl Step.scopeBehind scope) b := by
  induction a generalizing depth scope with
  | nil => rfl
  | cons step a ih => simp only [List.cons_append, calls, ih, List.foldl_cons]

theorem lines_append (indent : String) (a b : List Call) :
    lines indent (a ++ b) = lines indent a ++ lines indent b :=
  List.flatMap_append

theorem ended_append (a b : List String) : ended (a ++ b) = ended a ++ ended b := by
  simp [ended]

/-- A line with its newline comes before the rest of the page. -/
theorem ofMarks_row (indent : String) (depth : Nat) {row : String} (oneLine : OneLine row)
    (rest : List Mark) :
    ofMarks indent ((row ++ "\n").toList.map (⟨depth, ·⟩) ++ rest) =
      indented indent depth row ++ "\n" ++ ofMarks indent rest := by
  have newline : "\n".toList = ['\n'] := by decide
  have inside : ∀ m ∈ row.toList.map (Mark.mk depth), (m.char == '\n') = false := by
    intro m mem
    obtain ⟨c, among, rfl⟩ := List.mem_map.1 mem
    exact beq_false_of_ne fun same => oneLine (same ▸ among)
  have first : line indent (row.toList.map (Mark.mk depth)) = indented indent depth row := by
    unfold indented
    split
    · rename_i none
      rw [none]
      rfl
    · rename_i some
      obtain ⟨c, more, eq⟩ :=
        List.exists_cons_of_ne_nil fun none => some (String.toList_eq_nil_iff.1 none)
      have whole : bare (row.toList.map (Mark.mk depth)) = row := by
        simp [bare, Function.comp_def, String.ofList_toList]
      rw [eq, List.map_cons] at whole ⊢
      rw [line, whole]
  obtain ⟨next, others, split⟩ :=
    List.exists_cons_of_ne_nil (List.splitOnP_ne_nil (fun m : Mark => m.char == '\n') rest)
  have cut : ((row ++ "\n").toList.map (Mark.mk depth) ++ rest).splitOnP
      (fun m : Mark => m.char == '\n') = row.toList.map (Mark.mk depth) :: next :: others := by
    rw [String.toList_append, newline, List.map_append, List.append_assoc, ← split]
    exact List.splitOnP_append_cons_of_forall_mem inside ⟨depth, '\n'⟩ rfl rest
  rw [ofMarks, ofMarks, cut, split, List.map_cons, List.map_cons, String.intercalate_cons_cons,
    first]

/-- The lines of a call come before the rest of the page. -/
theorem ofMarks_rows (indent : String) (depth : Nat) {rows : List String}
    (oneLine : ∀ row ∈ rows, OneLine row) (rest : List Mark) :
    ofMarks indent ((String.join (rows.map (· ++ "\n"))).toList.map (⟨depth, ·⟩) ++ rest) =
      ended (rows.map (indented indent depth)) ++ ofMarks indent rest := by
  induction rows with
  | nil => simp [ended]
  | cons row rows ih =>
    obtain ⟨first, others⟩ := List.forall_mem_cons.1 oneLine
    rw [List.map_cons, String.join_cons, String.toList_append, List.map_append, List.append_assoc,
      ofMarks_row indent depth first, ih others, ← String.append_assoc]
    simp [ended]

/-- The page of calls with a form of their own is their lines. -/
theorem ofMarks_eq_lines (indent : String) {steps : List Step}
    (formed : ∀ step ∈ steps, step.Formed) (depth : Nat) (scope : Scope) :
    ofMarks indent (marks depth scope steps) =
      ended (lines indent (calls depth scope steps)) := by
  induction steps generalizing depth scope with
  | nil => rfl
  | cons step steps ih =>
    obtain ⟨first, others⟩ := List.forall_mem_cons.1 formed
    rw [marks, first.text_eq, ofMarks_rows indent _ (first.oneLine scope), ih others,
      ← ended_append]
    rfl

/-- On an empty file the page of such calls is their lines. -/
theorem ofSteps_eq_lines (indent : String) {steps : List Step}
    (formed : ∀ step ∈ steps, step.Formed) :
    ofSteps indent steps = ended (lines indent (calls 0 .empty steps)) :=
  ofMarks_eq_lines indent formed 0 .empty

section Indented

variable (indent : String) (depth : Nat) {row : String}

theorem indented_zero (row : String) : indented indent 0 row = row := by
  unfold indented
  split
  · exact Eq.symm ‹_›
  · exact String.empty_append

theorem indented_succ (some : row ≠ "") :
    indented indent (depth + 1) row = indent ++ indented indent depth row := by
  simp only [indented, some, if_false, List.replicate_succ, String.join_cons, String.append_assoc]

theorem indented_ne_empty (some : row ≠ "") : indented indent depth row ≠ "" := by
  unfold indented
  rw [if_neg some]
  intro none
  exact some (String.append_eq_empty_iff.1 none).2

theorem visible_indented (visible : row ≠ "" → Visible row)
    (some : indented indent depth row ≠ "") : Visible (indented indent depth row) := by
  unfold indented at some ⊢
  split at some
  · exact absurd rfl some
  · rename_i inside
    rw [if_neg inside]
    exact (visible inside).append_right _

theorem oneLine_indented {indent : String} (unit : OneLine indent) (h : OneLine row) :
    OneLine (indented indent depth row) := by
  unfold indented
  split
  · decide
  · refine oneLine_append.2 ⟨oneLine_join fun text mem => ?_, h⟩
    obtain ⟨-, rfl⟩ := List.mem_replicate.1 mem
    exact unit

end Indented

section Calls

variable {indent : String} {depth : Nat} {scope : Scope} {steps : List Step}

theorem mem_of_mem_calls {call : Call} (mem : call ∈ calls depth scope steps) :
    call.step ∈ steps := by
  induction steps generalizing depth scope with
  | nil => cases mem
  | cons step steps ih =>
    rcases List.mem_cons.1 mem with rfl | others
    · exact List.mem_cons_self
    · exact List.mem_cons_of_mem _ (ih others)

/-- A line of some calls is a line of one of them. -/
theorem exists_row {calls : List Call} {line : String} (mem : line ∈ lines indent calls) :
    ∃ call ∈ calls, ∃ row ∈ call.step.rows call.scope, line = indented indent call.depth row := by
  obtain ⟨call, among, own⟩ := List.mem_flatMap.1 mem
  obtain ⟨row, inside, rfl⟩ := List.mem_map.1 own
  exact ⟨call, among, row, inside, rfl⟩

theorem oneLine_lines (unit : OneLine indent) (formed : ∀ step ∈ steps, step.Formed) :
    ∀ line ∈ lines indent (calls depth scope steps), OneLine line := by
  intro line mem
  obtain ⟨call, among, row, inside, rfl⟩ := exists_row mem
  have own := formed call.step (mem_of_mem_calls among)
  exact oneLine_indented call.depth unit (own.oneLine call.scope row inside)

theorem visible_lines (formed : ∀ step ∈ steps, step.Formed) :
    ∀ line ∈ lines indent (calls depth scope steps), line ≠ "" → Visible line := by
  intro line mem some
  obtain ⟨call, among, row, inside, rfl⟩ := exists_row mem
  have own := formed call.step (mem_of_mem_calls among)
  exact visible_indented indent call.depth (own.visible call.scope row inside) some

end Calls

end Page
end OperationStubs
