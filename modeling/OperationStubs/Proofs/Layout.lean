import OperationStubs.Java.Writer

/-!
# Text on an indented page

What a text becomes at a layout when every byte is taken: `bytes` is what reaches the output, in
the writes `chunks`, and `past` is the layout behind it. They follow the text character by
character, so they split where the text does (`bytes_append`, `past_append`), and only the start of
a line gets a margin.
-/

namespace OperationStubs

namespace Layout

/-- What stands before the first character of a line. -/
def margin (l : Layout) : List UInt8 :=
  if l.atLineStart then (List.replicate l.depth (utf8 l.indent)).flatten else []

/-- The layout behind a character. -/
def pastChar (l : Layout) (c : Char) : Layout :=
  { l with atLineStart := c = '\n' }

/-- The bytes of a character. An empty line gets no margin. -/
def charBytes (l : Layout) (c : Char) : List UInt8 :=
  if c = '\n' then utf8 "\n" else l.margin ++ String.utf8EncodeChar c

/-- The layout behind a text. -/
def past (l : Layout) (text : List Char) : Layout :=
  text.foldl pastChar l

/-- The bytes of a text. -/
def bytes (l : Layout) : List Char → List UInt8
  | [] => []
  | c :: text => l.charBytes c ++ (l.pastChar c).bytes text

/-- The writes that a character comes to. Margins are written unit by unit. -/
def charChunks (l : Layout) (c : Char) : List (List UInt8) :=
  if c = '\n' then [utf8 "\n"]
  else (if l.atLineStart then List.replicate l.depth (utf8 l.indent) else []) ++
    [String.utf8EncodeChar c]

/-- The writes that a text comes to. -/
def chunks (l : Layout) : List Char → List (List UInt8)
  | [] => []
  | c :: text => l.charChunks c ++ (l.pastChar c).chunks text

theorem flatten_charChunks (l : Layout) (c : Char) : (l.charChunks c).flatten = l.charBytes c := by
  unfold charChunks charBytes margin
  split
  · simp
  · split <;> simp

theorem flatten_chunks (l : Layout) (text : List Char) :
    (l.chunks text).flatten = l.bytes text := by
  induction text generalizing l with
  | nil => rfl
  | cons c text ih => simp only [chunks, bytes, List.flatten_append, flatten_charChunks, ih]

@[simp] theorem past_nil (l : Layout) : l.past [] = l := rfl

@[simp] theorem bytes_nil (l : Layout) : l.bytes [] = [] := rfl

theorem past_cons (l : Layout) (c : Char) (text : List Char) :
    l.past (c :: text) = (l.pastChar c).past text := rfl

theorem past_append (l : Layout) (a b : List Char) : l.past (a ++ b) = (l.past a).past b := by
  simp [past]

theorem bytes_append (l : Layout) (a b : List Char) :
    l.bytes (a ++ b) = l.bytes a ++ (l.past a).bytes b := by
  induction a generalizing l with
  | nil => rfl
  | cons c a ih => simp [bytes, past, ih]

theorem chunks_append (l : Layout) (a b : List Char) :
    l.chunks (a ++ b) = l.chunks a ++ (l.past a).chunks b := by
  induction a generalizing l with
  | nil => rfl
  | cons c a ih => simp [chunks, past, ih]

/-- Text changes nothing but whether a line begins. -/
theorem past_eq (l : Layout) (text : List Char) :
    l.past text = { l with atLineStart := (l.past text).atLineStart } := by
  induction text generalizing l with
  | nil => rfl
  | cons c text ih =>
    have := ih (l.pastChar c)
    exact this

/-- A line begins behind a newline and nowhere else. -/
theorem past_concat (l : Layout) (text : List Char) (c : Char) :
    l.past (text ++ [c]) = { l with atLineStart := c = '\n' } := by
  rw [past_append, past_cons, past_nil, past_eq]
  rfl

theorem past_line (l : Layout) (text : String) :
    l.past (text ++ "\n").toList = { l with atLineStart := true } := by
  rw [String.toList_append]
  exact past_concat l text.toList '\n'

/-- The layout with some more names imported. -/
def importing (l : Layout) (names : List String) : Layout :=
  { l with scope.imported := l.scope.imported.insertAll names }

/-- What is in scope does not show in text. -/
theorem bytes_importing (l : Layout) (names : List String) (text : List Char) :
    (l.importing names).bytes text = l.bytes text := by
  induction text generalizing l with
  | nil => rfl
  | cons c text ih => exact congrArg (l.charBytes c ++ ·) (ih (l.pastChar c))

theorem chunks_importing (l : Layout) (names : List String) (text : List Char) :
    (l.importing names).chunks text = l.chunks text := by
  induction text generalizing l with
  | nil => rfl
  | cons c text ih => exact congrArg (l.charChunks c ++ ·) (ih (l.pastChar c))

theorem past_importing (l : Layout) (names : List String) (text : List Char) :
    (l.importing names).past text = (l.past text).importing names := by
  induction text generalizing l with
  | nil => rfl
  | cons c text ih => exact ih (l.pastChar c)

/-- Inside a line, text without a newline is written as it is. -/
theorem bytes_of_notMem {l : Layout} {text : List Char} (inside : l.atLineStart = false)
    (h : '\n' ∉ text) : l.bytes text = text.flatMap String.utf8EncodeChar := by
  induction text generalizing l with
  | nil => rfl
  | cons c text ih =>
    have ne : c ≠ '\n' := fun eq => h (eq ▸ List.mem_cons_self)
    have rest := ih (l := l.pastChar c) (by simp [pastChar, ne])
      (fun mem => h (List.mem_cons_of_mem _ mem))
    simp [bytes, charBytes, margin, inside, ne, rest]

/-- Inside a line it stays inside. -/
theorem past_of_notMem {l : Layout} {text : List Char} (inside : l.atLineStart = false)
    (h : '\n' ∉ text) : l.past text = l := by
  induction text generalizing l with
  | nil => rfl
  | cons c text ih =>
    have ne : c ≠ '\n' := fun eq => h (eq ▸ List.mem_cons_self)
    have same : l.pastChar c = l := by simp [pastChar, ne, ← inside]
    rw [past_cons, same]
    exact ih inside (fun mem => h (List.mem_cons_of_mem _ mem))

end Layout

/-- The layout in which a call of the writer puts its text. -/
def Step.before : Step → Layout → Layout
  | .package name, l => { l with scope.package := name }
  | .endType, l | .endMethod, l => { l with depth := l.depth - 1 }
  | .dedent, l => { l with depth := l.depth - 1 }
  | _, l => l

/-- The text of an import. -/
def importText (name : String) : String := "import " ++ name ++ ";" ++ "\n"

/-- The text that a call of the writer puts, not yet indented. -/
def Step.text (scope : Scope) : Step → String
  | .write text => text
  | .line text => text ++ "\n"
  | .comment text => "// " ++ text ++ "\n"
  | .javadoc text => "/**\n" ++
      String.join ((Text.lines text).map fun l => Writing.javadocLine l ++ "\n") ++ " */\n"
  | .statement text => text ++ ";" ++ "\n"
  | .indent | .dedent => ""
  | .emptyLine => "\n"
  | .package name => if name = "" then "" else "package " ++ name ++ ";" ++ "\n" ++ "\n"
  | .imports names =>
    String.join ((NameSet.ofList names).toList.map fun name => "import " ++ name ++ ";" ++ "\n")
  | .beginType name kind modifiers superclass =>
    Writing.typeHeader scope name kind modifiers superclass ++ "\n"
  | .endType | .endMethod => "\x7d\n"
  | .beginMethod returnType name modifiers parameters =>
    Writing.methodHeader scope returnType name modifiers parameters ++ "\n"
  | .field type name modifiers value => Writing.fieldText scope type name modifiers value ++ "\n"

/-- What a call of the writer leaves behind its text. -/
def Step.behind : Step → Layout → Layout
  | .indent, l | .beginType .., l | .beginMethod .., l => { l with depth := l.depth + 1 }
  | .imports names, l => l.importing (NameSet.ofList names).toList
  | _, l => l

namespace Layout

/-- The bytes of a call of the writer. -/
def stepBytes (l : Layout) (step : Step) : List UInt8 :=
  (step.before l).bytes (step.text (step.before l).scope).toList

/-- The writes that a call of the writer comes to. -/
def stepChunks (l : Layout) (step : Step) : List (List UInt8) :=
  (step.before l).chunks (step.text (step.before l).scope).toList

theorem flatten_stepChunks (l : Layout) (step : Step) :
    (l.stepChunks step).flatten = l.stepBytes step :=
  flatten_chunks _ _

/-- The layout behind a call of the writer. -/
def pastStep (l : Layout) (step : Step) : Layout :=
  step.behind ((step.before l).past (step.text (step.before l).scope).toList)

theorem stepBytes_eq {l : Layout} {step : Step} (h : step.before l = l) :
    l.stepBytes step = l.bytes (step.text l.scope).toList := by
  rw [stepBytes, h]

theorem pastStep_emptyLine (l : Layout) : l.pastStep .emptyLine = { l with atLineStart := true } :=
  past_line l ""

theorem pastStep_statement (l : Layout) (text : String) :
    l.pastStep (.statement text) = { l with atLineStart := true } :=
  past_line l (text ++ ";")

theorem pastStep_field (l : Layout) (type name : String) (modifiers : ModifierSet)
    (value : Option String) :
    l.pastStep (.field type name modifiers value) = { l with atLineStart := true } :=
  past_line l _

theorem pastStep_beginMethod (l : Layout) (returnType : Option String) (name : String)
    (modifiers : ModifierSet) (parameters : List (String × String)) :
    l.pastStep (.beginMethod returnType name modifiers parameters) =
      { l with depth := l.depth + 1, atLineStart := true } := by
  simp only [pastStep, Step.before, Step.text, Step.behind, past_line]

theorem pastStep_endMethod (l : Layout) :
    l.pastStep .endMethod = { l with depth := l.depth - 1, atLineStart := true } :=
  past_line { l with depth := l.depth - 1 } "\x7d"

/-- The layout behind some calls of the writer. -/
def pastSteps (l : Layout) (steps : List Step) : Layout :=
  steps.foldl pastStep l

/-- The bytes of some calls of the writer. -/
def draft (l : Layout) : List Step → List UInt8
  | [] => []
  | step :: steps => l.stepBytes step ++ (l.pastStep step).draft steps

@[simp] theorem pastSteps_nil (l : Layout) : l.pastSteps [] = l := rfl

@[simp] theorem draft_nil (l : Layout) : l.draft [] = [] := rfl

theorem draft_cons (l : Layout) (step : Step) (steps : List Step) :
    l.draft (step :: steps) = l.stepBytes step ++ (l.pastStep step).draft steps := rfl

theorem pastSteps_cons (l : Layout) (step : Step) (steps : List Step) :
    l.pastSteps (step :: steps) = (l.pastStep step).pastSteps steps := rfl

theorem pastSteps_append (l : Layout) (a b : List Step) :
    l.pastSteps (a ++ b) = (l.pastSteps a).pastSteps b := by
  simp [pastSteps]

theorem draft_append (l : Layout) (a b : List Step) :
    l.draft (a ++ b) = l.draft a ++ (l.pastSteps a).draft b := by
  induction a generalizing l with
  | nil => rfl
  | cons step a ih => simp [draft_cons, pastSteps_cons, ih]

end Layout
end OperationStubs
