import OperationStubs.Proofs.Ambiguity
import OperationStubs.Proofs.Writing

/-!
# Short names and what the file declares

A writer that goes on after failures has a past: its calls, with what the output took of each
(`Attempt`). At every point the names that its scope holds are those whose import line the output
took whole (`remembers`), so a type is shown in short exactly where the file says what the short
name stands for (`shorten_justified`).
-/

namespace OperationStubs

/-- A call of the writer, the layout it found, and what the output took of its text. -/
structure Attempt where
  step : Step
  layout : Layout
  taken : List UInt8

/-- The call imports `name`, and the output took its line to the end. -/
def Attempt.Imports (a : Attempt) (name : String) : Prop :=
  ∃ names before after, a.step = .imports names ∧
    (NameSet.ofList names).toList = before ++ name :: after ∧
    a.layout.bytes (String.join ((before ++ [name]).map importText)).toList <+: a.taken

namespace Past

/-- The name that the latest package call gave. -/
def package (past : List Attempt) : String :=
  past.foldl (fun package a => match a.step with | .package name => name | _ => package) ""

def Imported (past : List Attempt) (name : String) : Prop :=
  ∃ a ∈ past, a.Imports name

/-- The file says what the simple name of `name` stands for: it imports `name`, or `name` can do
without and no import has that simple name. -/
def Justifies (past : List Attempt) (name : String) : Prop :=
  Imported past name ∨
    (Name.qualifier name = "java.lang" ∨
      package past ≠ "" ∧ Name.qualifier name = package past) ∧
    ∀ other, Imported past other → Name.simple other ≠ Name.simple name

/-- How a piece of a type text is shown. -/
def Shows (past : List Attempt) : Piece → List Char → Prop
  | .plain c, shown => shown = [c]
  | .qualified name, shown =>
    Justifies past (String.ofList name) ∧ shown = (Name.simple (String.ofList name)).toList ∨
      ¬ Justifies past (String.ofList name) ∧ shown = name

theorem package_concat (past : List Attempt) (a : Attempt) :
    package (past ++ [a]) = match a.step with | .package name => name | _ => package past := by
  simp [package]

theorem imported_concat (past : List Attempt) (a : Attempt) (name : String) :
    Imported (past ++ [a]) name ↔ Imported past name ∨ a.Imports name := by
  simp only [Imported, List.mem_append, List.mem_singleton, or_and_right, exists_or,
    exists_eq_left]

end Past

namespace Writing

variable {σ α β : Type} {content : σ → List UInt8} {out : Sink (StateM σ)}

/-- An action that leaves the scope as it was, however it ends. -/
def KeepsScope (a : Act σ α) : Prop := ∀ l s o, (exec a l s o).layout.scope = l.scope

theorem keeps_pure (x : α) : KeepsScope (pure x : Act σ α) := fun _ _ _ => rfl

theorem keeps_get : KeepsScope (get : Act σ Layout) := fun _ _ _ => rfl

theorem keeps_modify {f : Layout → Layout} (h : ∀ l, (f l).scope = l.scope) :
    KeepsScope (modify f : Act σ PUnit) := fun l _ _ => h l

theorem keeps_send (bytes : List UInt8) : KeepsScope (send out.lift bytes) := fun _ _ _ => rfl

theorem keeps_bind {a : Act σ α} {f : α → Act σ β} (ha : KeepsScope a)
    (hf : ∀ x, KeepsScope (f x)) : KeepsScope (a >>= f) := by
  intro l s o
  have first := ha l s o
  rw [exec_bind]
  cases result : (exec a l s o).result with
  | ok x => exact (hf x _ _ _).trans first
  | error fault => exact first

theorem keeps_forM {γ : Type} {f : γ → Act σ Unit} (h : ∀ x, KeepsScope (f x)) (xs : List γ) :
    KeepsScope (xs.forM f) := by
  induction xs with
  | nil => exact keeps_pure ()
  | cons x xs ih => exact keeps_bind (h x) fun _ => ih

theorem keeps_putChar (c : Char) : KeepsScope (putChar out.lift c) := by
  unfold putChar
  split
  · exact keeps_bind (keeps_send _) fun _ => keeps_modify fun _ => rfl
  · refine keeps_bind keeps_get fun l => ?_
    split
    · exact keeps_bind (keeps_forM keeps_send _) fun _ =>
        keeps_bind (keeps_modify fun _ => rfl) fun _ => keeps_send _
    · exact keeps_send _

theorem keeps_write (text : String) : KeepsScope (write out.lift text) :=
  keeps_forM keeps_putChar _

theorem keeps_line (text : String) : KeepsScope (line out.lift text) :=
  keeps_bind (keeps_write text) fun _ => keeps_write "\n"

theorem scope_package (name : String) (l : Layout) (s : Session) (o : σ) :
    (exec (package out.lift name) l s o).layout.scope = { l.scope with package := name } := by
  have rest : KeepsScope (if name != "" then
      line out.lift ("package " ++ name ++ ";") >>= fun _ => emptyLine out.lift
    else pure ()) := by
    split
    · exact keeps_bind (keeps_line _) fun _ => keeps_write _
    · exact keeps_pure ()
  unfold package
  rw [exec_bind]
  exact rest _ s o

/-- An import whose line fails is not remembered. -/
theorem scope_importLine (name : String) (l : Layout) (s : Session) (o : σ) (fault : Fault)
    (failed : (exec (importLine out.lift name) l s o).result = .error fault) :
    (exec (importLine out.lift name) l s o).layout.scope = l.scope := by
  have kept : KeepsScope (line out.lift ("import " ++ name ++ ";")) := keeps_line _
  unfold importLine at failed ⊢
  rw [exec_bind] at failed ⊢
  cases result : (exec (line out.lift ("import " ++ name ++ ";")) l s o).result with
  | ok => simp [result] at failed
  | error => exact kept l s o

/-- Imports go down to a line that was not taken whole. The names of the lines before it are
remembered. -/
theorem importLines_cut (cuts : Cuts out content) (names : List String) (l : Layout) (s : Session)
    (o : σ) :
    let ended := exec (names.forM (importLine out.lift)) l s o
    ∃ done taken, content ended.output = content o ++ taken ∧
      ended.layout.scope = (l.importing done).scope ∧
      ∀ name, name ∈ done ↔ ∃ before after, names = before ++ name :: after ∧
        l.bytes (String.join ((before ++ [name]).map importText)).toList <+: taken := by
  induction names generalizing l s o with
  | nil => exact ⟨[], [], (List.append_nil _).symm, rfl, by simp⟩
  | cons first names ih =>
    have sends : Sends out (importLine out.lift first) l _ _ := sends_importLine first l
    obtain ⟨_, took, layout⟩ := sends.writes cuts.appends s o
    have sent := (sends s o).2.1
    rw [Layout.flatten_chunks] at took
    -- The line of `first` leads the text of every row of imports that begins with it.
    have lead (before : List String) (name : String) :
        l.bytes (String.join ((first :: before ++ [name]).map importText)).toList =
          l.bytes (importText first).toList ++ (l.past (importText first).toList).bytes
            (String.join ((before ++ [name]).map importText)).toList := by
      rw [List.cons_append, List.map_cons, String.join_cons, String.toList_append,
        Layout.bytes_append]
    have failing : ∀ fault, (exec (importLine out.lift first) l s o).result = .error fault → _ :=
      scope_importLine first l s o
    dsimp only
    rw [List.forM, exec_bind]
    generalize exec (importLine out.lift first) l s o = e at took layout sent failing ⊢
    cases result : e.result with
    | ok =>
      rw [result] at took
      obtain ⟨done, taken, output, scope, imported⟩ := ih e.layout e.session e.output
      have here : e.layout = (l.past (importText first).toList).importing [first] := layout result
      refine ⟨first :: done, l.bytes (importText first).toList ++ taken, ?_, ?_, fun name => ?_⟩
      · rw [output, took, List.append_assoc]
      · rw [scope, here, Layout.past_eq]
        rfl
      · rw [List.mem_cons, imported name, here]
        constructor
        · rintro (rfl | ⟨before, after, split, whole⟩)
          · refine ⟨[], names, rfl, ?_⟩
            simp
          · refine ⟨first :: before, after, by rw [split]; rfl, ?_⟩
            rw [lead, List.prefix_append_right_inj, ← Layout.bytes_importing _ [first]]
            exact whole
        · rintro ⟨before, after, split, whole⟩
          rcases before with _ | ⟨other, before⟩
          · exact .inl (List.cons.inj split).1.symm
          · obtain ⟨rfl, behind⟩ := List.cons.inj split
            rw [lead, List.prefix_append_right_inj, ← Layout.bytes_importing _ [first]] at whole
            exact .inr ⟨before, after, behind, whole⟩
    | error fault =>
      rw [result] at took sent
      obtain ⟨taken, _, output⟩ := took
      have failed : (sendAll out (l.chunks (importText first).toList) o).1 = .error fault := by
        rw [← sent]
      have short := cuts.sendAll failed
      rw [← sent, output, Layout.flatten_chunks, List.length_append] at short
      refine ⟨[], taken, output, ?_, fun name => ?_⟩
      · exact failing fault result
      · refine ⟨fun mem => absurd mem List.not_mem_nil, ?_⟩
        rintro ⟨before, after, split, whole⟩
        have reach := whole.length_le
        rcases before with _ | ⟨other, before⟩
        · obtain ⟨rfl, _⟩ := List.cons.inj split
          simp at reach
          omega
        · obtain ⟨rfl, _⟩ := List.cons.inj split
          rw [lead, List.length_append] at reach
          omega

/-- Calls that declare nothing leave the scope alone, also if they fail. -/
theorem keeps_step {step : Step} (package : ∀ name, step ≠ .package name)
    (imports : ∀ names, step ≠ .imports names) : KeepsScope (step.run out.lift) := by
  cases step with
  | write text => exact keeps_write text
  | line | comment | statement => exact keeps_line _
  | javadoc text =>
    exact keeps_bind (keeps_line _) fun _ => keeps_bind (keeps_forM (fun _ => keeps_line _) _)
      fun _ => keeps_line _
  | indent | dedent => exact keeps_modify fun _ => rfl
  | emptyLine => exact keeps_write "\n"
  | package name => exact absurd rfl (package name)
  | imports names => exact absurd rfl (imports names)
  | beginType | beginMethod =>
    exact keeps_bind keeps_get fun _ => keeps_bind (keeps_line _) fun _ => keeps_modify fun _ => rfl
  | endType | endMethod => exact keeps_bind (keeps_modify fun _ => rfl) fun _ => keeps_line _
  | field => exact keeps_bind keeps_get fun _ => keeps_line _

/-- What a writer has in scope is what its past declared. -/
structure Remembers (past : List Attempt) (scope : Scope) : Prop where
  package : scope.package = Past.package past
  imported : ∀ name, name ∈ scope.imported ↔ Past.Imported past name

theorem Remembers.keep {past : List Attempt} {scope : Scope} (remembers : Remembers past scope)
    {a : Attempt} (package : ∀ name, a.step ≠ .package name)
    (imports : ∀ names, a.step ≠ .imports names) : Remembers (past ++ [a]) scope := by
  refine ⟨?_, fun name => ?_⟩
  · rw [remembers.package, Past.package_concat]
    split
    · exact absurd ‹_› (package _)
    · rfl
  · rw [remembers.imported, Past.imported_concat, or_iff_left]
    rintro ⟨names, _, _, is, _⟩
    exact imports names is

theorem Remembers.declare {past : List Attempt} {scope : Scope} (remembers : Remembers past scope)
    (name : String) (l : Layout) (taken : List UInt8) :
    Remembers (past ++ [⟨.package name, l, taken⟩]) { scope with package := name } := by
  refine ⟨by rw [Past.package_concat], fun other => ?_⟩
  rw [remembers.imported, Past.imported_concat, or_iff_left]
  rintro ⟨_, _, _, is, _⟩
  exact nomatch is

theorem Remembers.imports {past : List Attempt} {l : Layout} (remembers : Remembers past l.scope)
    {names done : List String} {taken : List UInt8}
    (whole : ∀ name, name ∈ done ↔ Attempt.Imports ⟨.imports names, l, taken⟩ name) :
    Remembers (past ++ [⟨.imports names, l, taken⟩]) (l.importing done).scope := by
  refine ⟨by rw [Past.package_concat]; exact remembers.package, fun name => ?_⟩
  rw [Past.imported_concat, ← remembers.imported, ← whole, or_comm]
  exact NameSet.mem_insertAll

/-- What a writer has in scope stays what its past declared, call by call. -/
theorem Remembers.step {past : List Attempt} {l : Layout} (remembers : Remembers past l.scope)
    (cuts : Cuts out content) (step : Step) (s : Session) (o : σ) :
    let ended := exec (step.run out.lift) l s o
    let taken := (content ended.output).drop (content o).length
    Remembers (past ++ [⟨step, l, taken⟩]) ended.layout.scope := by
  intro ended taken
  by_cases package : ∃ name, step = .package name
  · obtain ⟨name, rfl⟩ := package
    have scope : ended.layout.scope = _ := scope_package name l s o
    rw [scope]
    exact remembers.declare name l taken
  by_cases imports : ∃ names, step = .imports names
  · obtain ⟨names, rfl⟩ := imports
    obtain ⟨done, took, output, scope, whole⟩ :=
      importLines_cut cuts (NameSet.ofList names).toList l s o
    have same : taken = took := by
      have cut : taken = (content o ++ took).drop (content o).length := by rw [← output]; rfl
      rw [cut, List.drop_left]
    have scope : ended.layout.scope = _ := scope
    rw [scope, same]
    refine remembers.imports fun name => (whole name).trans ?_
    simp [Attempt.Imports]
  · have scope : ended.layout.scope = _ := keeps_step (not_exists.1 package)
      (not_exists.1 imports) l s o
    rw [scope]
    exact remembers.keep (not_exists.1 package) (not_exists.1 imports)

/-- Makes some calls one after the other, also behind calls that failed. Gives what came of each,
and the layout in the end. -/
def attempts (out : Sink (StateM σ)) (content : σ → List UInt8) :
    List Step → Layout → Session → σ → List Attempt × Layout
  | [], l, _, _ => ([], l)
  | step :: steps, l, s, o =>
    let ended := exec (step.run out.lift) l s o
    let taken := (content ended.output).drop (content o).length
    let (past, last) := attempts out content steps ended.layout ended.session ended.output
    (⟨step, l, taken⟩ :: past, last)

theorem Remembers.attempts {past : List Attempt} {l : Layout} (remembers : Remembers past l.scope)
    (cuts : Cuts out content) (steps : List Step) (s : Session) (o : σ) :
    let ended := attempts out content steps l s o
    Remembers (past ++ ended.1) ended.2.scope := by
  induction steps generalizing past l s o with
  | nil => simpa [Writing.attempts] using remembers
  | cons step steps ih =>
    have next := ih (remembers.step cuts step s o) (exec (step.run out.lift) l s o).session
      (exec (step.run out.lift) l s o).output
    simpa [Writing.attempts] using next

theorem Remembers.knows_iff {past : List Attempt} {scope : Scope}
    (remembers : Remembers past scope) (name : String) :
    scope.knows name = true ↔ Past.Justifies past name := by
  simp only [Scope.knows_iff, remembers.imported, remembers.package, Past.Justifies]

theorem Remembers.shows {past : List Attempt} {scope : Scope} (remembers : Remembers past scope)
    (piece : Piece) : Past.Shows past piece (scope.shortenPiece piece) := by
  cases piece with
  | plain c => rfl
  | qualified name =>
    have knows := remembers.knows_iff (String.ofList name)
    by_cases known : scope.knows (String.ofList name) = true
    · exact .inl ⟨knows.1 known, by simp [Scope.shortenPiece, Scope.shortenName, known]⟩
    · exact .inr ⟨fun just => known (knows.2 just),
        by simp [Scope.shortenPiece, Scope.shortenName, known]⟩

/-- Whatever calls were made and whichever of them failed, a type is shown with the qualified names
in it cut down to simple names exactly where the file says what these stand for. All else in it
stays. -/
theorem shorten_justified (cuts : Cuts out content) (indent : String) (steps : List Step)
    (s : Session) (o : σ) (type : String) :
    let ended := attempts out content steps (.start indent) s o
    ∃ pieces shown, (∀ cut, Piece.Scan type.toList cut ↔ cut = pieces) ∧
      List.Forall₂ (Past.Shows ended.1) pieces shown ∧
      (ended.2.scope.shorten type).toList = shown.flatten := by
  intro ended
  have nothing : Remembers [] (Layout.start indent).scope := by
    refine ⟨rfl, fun name => ⟨fun mem => absurd mem List.not_mem_nil, ?_⟩⟩
    rintro ⟨_, mem, _⟩
    exact absurd mem List.not_mem_nil
  have remembers : Remembers ended.1 ended.2.scope := nothing.attempts cuts steps s o
  refine ⟨Piece.ofText type.toList, (Piece.ofText type.toList).map ended.2.scope.shortenPiece,
    fun cut => Piece.scan_iff.trans eq_comm, ?_, ?_⟩
  · exact List.forall₂_map_right_iff.2 (List.forall₂_same.2 fun piece _ => remembers.shows piece)
  · simp [Scope.shorten, List.flatMap_def]

/-- An output that fails once, at the newline of the second import. -/
theorem shorten_justified_cut_import :
    let out : Sink (StateM (List UInt8)) := fun bytes held =>
      if bytes = utf8 "\n" ∧ held.length = 40 then (.error Fault.diskFull, held)
      else (.ok (), held ++ bytes)
    let steps : List Step := [.package "p", .imports ["b.Map", "a.List"], .line "// on"]
    let type := "a.List<? extends b.Map[], p.Map, p.List>"
    let past := (attempts out id steps (.start "  ") .empty []).1
    Cuts out id ∧ ∃ pieces shown, (∀ cut, Piece.Scan type.toList cut ↔ cut = pieces) ∧
      List.Forall₂ (Past.Shows past) pieces shown ∧
      shown.flatten = "List<? extends b.Map[], Map, p.List>".toList := by
  intro out steps type past
  have cuts : Cuts out id := by
    refine ⟨fun bytes held => ?_, fun bytes held fault failed => ?_⟩
    · by_cases full : bytes = utf8 "\n" ∧ held.length = 40
      · simpa only [out, full] using ⟨[], List.nil_prefix, (List.append_nil _).symm⟩
      · simp [out, full, Took]
    · by_cases full : bytes = utf8 "\n" ∧ held.length = 40
      · have newline : 0 < (utf8 "\n").length := by decide
        simpa [out, full] using newline
      · simp [out, full] at failed
  have short : ((attempts out id steps (.start "  ") .empty []).2.scope.shorten type).toList =
      "List<? extends b.Map[], Map, p.List>".toList := by decide +kernel
  obtain ⟨pieces, shown, scan, shows, flat⟩ := shorten_justified cuts "  " steps .empty [] type
  exact ⟨cuts, pieces, shown, scan, shows, flat.symm.trans short⟩

end Writing
end OperationStubs
