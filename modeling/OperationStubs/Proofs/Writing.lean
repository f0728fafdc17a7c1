import Mathlib.Data.List.Nodup
import OperationStubs.Generator
import OperationStubs.Proofs.Layout

/-!
# Writing onto an output that may fail

A call of the writer is a row of writes, one after the other down to the first that fails
(`sends_step`). What comes of it depends on the output alone. An output that takes each write as a
whole, or fails having taken a beginning of it (`Appends`), ends up with all bytes of the call or a
beginning of them (`writes_step`). Ids are not the writer's business: the session stays as it was.
-/

namespace OperationStubs

/-- How an action ends, and what it leaves. -/
structure Ended (σ α : Type) where
  result : Except Fault α
  layout : Layout
  session : Session
  output : σ

namespace Writing

variable {σ α β : Type}

/-- Writing with a session at hand onto an output with states `σ`. -/
abbrev Act (σ α : Type) := Writing (StateT Session (StateM σ)) α

def exec (a : Act σ α) (l : Layout) (s : Session) (o : σ) : Ended σ α :=
  let (((result, layout), session), output) := a l s o
  ⟨result, layout, session, output⟩

section Exec

variable (l : Layout) (s : Session) (o : σ)

@[simp] theorem exec_pure (x : α) : exec (pure x) l s o = ⟨.ok x, l, s, o⟩ := rfl

@[simp] theorem exec_throw (fault : Fault) :
    exec (throw fault : Act σ α) l s o = ⟨.error fault, l, s, o⟩ := rfl

@[simp] theorem exec_get : exec get l s o = ⟨.ok l, l, s, o⟩ := rfl

@[simp] theorem exec_modify (f : Layout → Layout) :
    exec (modify f) l s o = ⟨.ok (), f l, s, o⟩ := rfl

@[simp] theorem exec_send (out : Sink (StateM σ)) (bytes : List UInt8) :
    exec (send out.lift bytes) l s o = ⟨(out bytes o).1, l, s, (out bytes o).2⟩ := rfl

/-- After a failure nothing more happens. -/
theorem exec_bind (a : Act σ α) (f : α → Act σ β) :
    exec (a >>= f) l s o =
      match (exec a l s o).result with
      | .ok x => exec (f x) (exec a l s o).layout (exec a l s o).session (exec a l s o).output
      | .error fault => { exec a l s o with result := .error fault } := by
  change exec (ExceptT.bind a f) l s o = _
  simp only [exec, ExceptT.bind, ExceptT.mk, bind, StateT.bind, ExceptT.bindCont]
  rcases a l s o with ⟨⟨⟨_ | _, l'⟩, s'⟩, o'⟩ <;> rfl

end Exec

/-- What an output holds after it was given `bytes`: all of them, or a beginning if it failed. -/
def Took (content : σ → List UInt8) (o o' : σ) (bytes : List UInt8) : Except Fault α → Prop
  | .ok _ => content o' = content o ++ bytes
  | .error _ => ∃ done, done <+: bytes ∧ content o' = content o ++ done

/-- An output that keeps what it takes, in order. -/
def Appends (out : Sink (StateM σ)) (content : σ → List UInt8) : Prop :=
  ∀ bytes o, Took content o (out bytes o).2 bytes (out bytes o).1

theorem Took.append {content : σ → List UInt8} {o o' o'' : σ} {bytes more : List UInt8}
    {result : Except Fault α} (first : content o' = content o ++ bytes)
    (then_ : Took content o' o'' more result) : Took content o o'' (bytes ++ more) result := by
  cases result with
  | ok =>
    simp only [Took] at then_ ⊢
    rw [then_, first, List.append_assoc]
  | error =>
    obtain ⟨done, beginning, eq⟩ := then_
    refine ⟨bytes ++ done, ?_, by rw [eq, first, List.append_assoc]⟩
    exact (List.prefix_append_right_inj bytes).2 beginning

theorem Took.cut {content : σ → List UInt8} {o o' : σ} {bytes : List UInt8} {fault : Fault}
    (h : Took content o o' bytes (.error fault : Except Fault α)) (more : List UInt8) :
    Took content o o' (bytes ++ more) (.error fault : Except Fault β) := by
  obtain ⟨done, beginning, eq⟩ := h
  exact ⟨done, beginning.trans (List.prefix_append _ _), eq⟩

/-- At layout `l` an action writes `bytes`, or a beginning of them if it fails. Otherwise it leaves
layout `l'`. -/
def Writes (content : σ → List UInt8) (a : Act σ Unit) (l : Layout) (bytes : List UInt8)
    (l' : Layout) : Prop :=
  ∀ s o, (exec a l s o).session = s ∧ Took content o (exec a l s o).output bytes
    (exec a l s o).result ∧ ((exec a l s o).result = .ok () → (exec a l s o).layout = l')

variable {content : σ → List UInt8} {out : Sink (StateM σ)}

/-- Gives an output some chunks one after the other, down to the first that fails. -/
def sendAll (out : Sink (StateM σ)) : List (List UInt8) → StateM σ (Except Fault Unit)
  | [], o => (.ok (), o)
  | chunk :: chunks, o =>
    match out chunk o with
    | (.ok (), o) => sendAll out chunks o
    | (.error fault, o) => (.error fault, o)

theorem sendAll_append (a b : List (List UInt8)) (o : σ) :
    sendAll out (a ++ b) o =
      match sendAll out a o with
      | (.ok (), o) => sendAll out b o
      | (.error fault, o) => (.error fault, o) := by
  induction a generalizing o with
  | nil => rfl
  | cons chunk a ih =>
    simp only [List.cons_append, sendAll]
    rcases out chunk o with ⟨_ | _, o'⟩
    · rfl
    · exact ih o'

theorem took_sendAll (appends : Appends out content) (chunks : List (List UInt8)) (o : σ) :
    Took content o (sendAll out chunks o).2 chunks.flatten (sendAll out chunks o).1 := by
  induction chunks generalizing o with
  | nil => simp [sendAll, Took]
  | cons chunk chunks ih =>
    have first := appends chunk o
    simp only [sendAll, List.flatten_cons]
    rcases sent : out chunk o with ⟨fault | _, o'⟩
    · rw [sent] at first
      exact first.cut _
    · rw [sent] at first
      exact Took.append first (ih o')

/-- An output that never fails. -/
def Steady (out : Sink (StateM σ)) : Prop := ∀ bytes o, (out bytes o).1 = .ok ()

theorem Steady.sendAll (steady : Steady out) (chunks : List (List UInt8)) (o : σ) :
    (sendAll out chunks o).1 = .ok () := by
  induction chunks generalizing o with
  | nil => rfl
  | cons chunk chunks ih =>
    have first := steady chunk o
    simp only [Writing.sendAll]
    rcases sent : out chunk o with ⟨fault | _, o'⟩
    · simp [sent] at first
    · exact ih o'

/-- An output that fails only where it has not taken all of a write. -/
structure Cuts (out : Sink (StateM σ)) (content : σ → List UInt8) : Prop where
  appends : Appends out content
  short : ∀ bytes o fault, (out bytes o).1 = .error fault →
    (content (out bytes o).2).length < (content o).length + bytes.length

theorem Cuts.sendAll (cuts : Cuts out content) {chunks : List (List UInt8)} {o : σ} {fault : Fault}
    (failed : (sendAll out chunks o).1 = .error fault) :
    (content (sendAll out chunks o).2).length < (content o).length + chunks.flatten.length := by
  induction chunks generalizing o with
  | nil => simp [Writing.sendAll] at failed
  | cons chunk chunks ih =>
    have first := cuts.appends chunk o
    have less := cuts.short chunk o
    simp only [Writing.sendAll, List.flatten_cons, List.length_append] at failed ⊢
    rcases sent : out chunk o with ⟨fault' | _, o'⟩
    · have := less fault' (by rw [sent])
      simp only [sent] at this ⊢
      omega
    · simp only [sent] at failed first ⊢
      have := ih failed
      rw [show content o' = content o ++ chunk from first, List.length_append] at this
      omega

/-- At layout `l` an action sends `chunks`. If all are taken it leaves layout `l'`. -/
def Sends (out : Sink (StateM σ)) (a : Act σ Unit) (l : Layout) (chunks : List (List UInt8))
    (l' : Layout) : Prop :=
  ∀ s o, (exec a l s o).session = s ∧
    ((exec a l s o).result, (exec a l s o).output) = sendAll out chunks o ∧
    ((exec a l s o).result = .ok () → (exec a l s o).layout = l')

theorem Sends.writes {a : Act σ Unit} {l l' : Layout} {chunks : List (List UInt8)}
    (h : Sends out a l chunks l') (appends : Appends out content) :
    Writes content a l chunks.flatten l' := by
  intro s o
  obtain ⟨session, sent, layout⟩ := h s o
  have took := took_sendAll appends chunks o
  rw [← sent] at took
  exact ⟨session, took, layout⟩

/-- On an output that never fails an action goes well. -/
theorem Sends.ok {a : Act σ Unit} {l l' : Layout} {chunks : List (List UInt8)}
    (h : Sends out a l chunks l') (steady : Steady out) (s : Session) (o : σ) :
    (exec a l s o).result = .ok () ∧ (exec a l s o).layout = l' := by
  obtain ⟨_, sent, layout⟩ := h s o
  have result : (exec a l s o).result = .ok () :=
    (congrArg Prod.fst sent).trans (steady.sendAll chunks o)
  exact ⟨result, layout result⟩

theorem sends_pure (l : Layout) : Sends out (pure ()) l [] l := fun _ _ => ⟨rfl, rfl, fun _ => rfl⟩

theorem sends_modify (f : Layout → Layout) (l : Layout) : Sends out (modify f) l [] (f l) :=
  fun _ _ => ⟨rfl, rfl, fun _ => rfl⟩

theorem sends_send (bytes : List UInt8) (l : Layout) :
    Sends out (send out.lift bytes) l [bytes] l := by
  intro s o
  refine ⟨rfl, ?_, fun _ => rfl⟩
  simp only [exec_send, sendAll]
  rcases out bytes o with ⟨_ | _, o'⟩ <;> rfl

theorem sends_get {f : Layout → Act σ Unit} {l l' : Layout} {chunks : List (List UInt8)}
    (h : Sends out (f l) l chunks l') : Sends out (get >>= f) l chunks l' := by
  intro s o
  simpa [exec_bind] using h s o

theorem sends_bind {a b : Act σ Unit} {l l' l'' : Layout} {chunks more : List (List UInt8)}
    (ha : Sends out a l chunks l') (hb : Sends out b l' more l'') :
    Sends out (a >>= fun _ => b) l (chunks ++ more) l'' := by
  intro s o
  obtain ⟨session, sent, layout⟩ := ha s o
  rw [exec_bind, sendAll_append, ← sent]
  cases result : (exec a l s o).result with
  | ok =>
    obtain ⟨session', sent', layout'⟩ := hb (exec a l s o).session (exec a l s o).output
    simp only [layout result]
    exact ⟨session'.trans session, sent', layout'⟩
  | error fault => exact ⟨session, rfl, nofun⟩

theorem sends_modify_bind {a : Act σ Unit} {f : Layout → Layout} {l l' : Layout}
    {chunks : List (List UInt8)} (h : Sends out a (f l) chunks l') :
    Sends out (do modify f; a) l chunks l' :=
  sends_bind (sends_modify f l) h

theorem sends_bind_modify {a : Act σ Unit} {f : Layout → Layout} {l l' : Layout}
    {chunks : List (List UInt8)} (h : Sends out a l chunks l') :
    Sends out (do a; modify f) l chunks (f l') := by
  simpa using sends_bind h (sends_modify f l')

theorem sends_margin (l : Layout) (unit : List UInt8) (n : Nat) :
    Sends out ((List.replicate n unit).forM (send out.lift)) l (List.replicate n unit) l := by
  induction n with
  | zero => exact sends_pure l
  | succ n ih => exact sends_bind (sends_send unit l) ih

theorem sends_putChar (c : Char) (l : Layout) :
    Sends out (putChar out.lift c) l (l.charChunks c) (l.pastChar c) := by
  by_cases newline : c = '\n'
  · have line : Sends out (startLine out.lift) l [utf8 "\n"] { l with atLineStart := true } :=
      sends_bind_modify (sends_send _ l)
    simpa [putChar, newline, Layout.charChunks, Layout.pastChar] using line
  · simp only [putChar, newline, if_false, Layout.charChunks]
    refine sends_get ?_
    by_cases start : l.atLineStart
    · have margin : Sends out _ l _ l := sends_margin l (utf8 l.indent) l.depth
      have inner := sends_bind_modify (f := fun l => { l with atLineStart := false }) margin
      have both := sends_bind inner (sends_send (String.utf8EncodeChar c) _)
      simpa [start, Layout.pastChar, newline] using both
    · have send : Sends out _ l _ l := sends_send (String.utf8EncodeChar c) l
      have same : { l with atLineStart := false } = l := by
        rw [← Bool.eq_false_iff.2 start]
      simpa [start, Layout.pastChar, newline, same] using send

theorem sends_chars (text : List Char) (l : Layout) :
    Sends out (text.forM (putChar out.lift)) l (l.chunks text) (l.past text) := by
  induction text generalizing l with
  | nil => exact sends_pure l
  | cons c text ih => exact sends_bind (sends_putChar c l) (ih (l.pastChar c))

/-- An action that does no more than send a text, wherever it begins. -/
def Puts (out : Sink (StateM σ)) (a : Act σ Unit) (text : String) : Prop :=
  ∀ l, Sends out a l (l.chunks text.toList) (l.past text.toList)

theorem puts_pure : Puts out (pure ()) "" := sends_pure

/-- Two texts one after the other are one text. -/
theorem puts_bind {a b : Act σ Unit} {text more : String} (ha : Puts out a text)
    (hb : Puts out b more) : Puts out (a >>= fun _ => b) (text ++ more) := by
  intro l
  rw [String.toList_append, Layout.chunks_append, Layout.past_append]
  exact sends_bind (ha l) (hb _)

theorem puts_write (text : String) : Puts out (write out.lift text) text :=
  sends_chars text.toList

theorem puts_line (text : String) : Puts out (line out.lift text) (text ++ "\n") :=
  puts_bind (puts_write text) (puts_write "\n")

theorem puts_lines {γ : Type} (f : γ → String) (xs : List γ) :
    Puts out (xs.forM fun x => line out.lift (f x))
      (String.join (xs.map fun x => f x ++ "\n")) := by
  induction xs with
  | nil => exact puts_pure
  | cons x xs ih =>
    rw [List.map_cons, String.join_cons]
    exact puts_bind (puts_line (f x)) ih

theorem puts_javadoc (text : String) :
    Puts out (javadoc out.lift text) (Step.text scope (.javadoc text)) := by
  have all : Puts out _ _ := puts_bind (puts_line "/**")
    (puts_bind (puts_lines javadocLine (Text.lines text)) (puts_line " */"))
  rwa [← String.append_assoc] at all

theorem sends_package (name : String) (l : Layout) :
    Sends out (package out.lift name) l (l.stepChunks (.package name))
      (l.pastStep (.package name)) := by
  refine sends_modify_bind ?_
  by_cases default : name = ""
  · subst default
    exact sends_pure _
  · have both : Puts out _ _ :=
      puts_bind (puts_line ("package " ++ name ++ ";")) (puts_write "\n")
    simp only [Layout.stepChunks, Layout.pastStep, Step.before, Step.text, Step.behind, default,
      if_false, bne_iff_ne, ne_eq, not_false_eq_true, if_true]
    exact both _

theorem sends_importLine (name : String) (l : Layout) :
    Sends out (importLine out.lift name) l (l.chunks (importText name).toList)
      ((l.past (importText name).toList).importing [name]) :=
  sends_bind_modify (puts_line ("import " ++ name ++ ";") l)

theorem sends_importLines (names : List String) (l : Layout) :
    Sends out (names.forM (importLine out.lift)) l
      (l.chunks (String.join (names.map importText)).toList)
      ((l.past (String.join (names.map importText)).toList).importing names) := by
  induction names generalizing l with
  | nil => exact sends_pure l
  | cons name names ih =>
    have rest := ih ((l.past (importText name).toList).importing [name])
    rw [Layout.chunks_importing, Layout.past_importing] at rest
    rw [List.map_cons, String.join_cons, String.toList_append, Layout.chunks_append,
      Layout.past_append]
    exact sends_bind (sends_importLine name l) rest

/-- A call of the writer sends its text, and nothing else. -/
theorem sends_step (step : Step) (l : Layout) :
    Sends out (step.run out.lift) l (l.stepChunks step) (l.pastStep step) := by
  cases step with
  | write text => exact puts_write text l
  | line text => exact puts_line text l
  | comment text => exact puts_line _ l
  | javadoc text => exact puts_javadoc text l
  | statement text => exact puts_line _ l
  | indent => exact sends_modify _ l
  | dedent => exact sends_modify _ l
  | emptyLine => exact puts_write "\n" l
  | package name => exact sends_package name l
  | imports names => exact sends_importLines (NameSet.ofList names).toList l
  | beginType | beginMethod => exact sends_get (sends_bind_modify (puts_line _ l))
  | endType | endMethod => exact sends_modify_bind (puts_line "\x7d" _)
  | field => exact sends_get (puts_line _ l)

theorem writes_step (appends : Appends out content) (step : Step) (l : Layout) :
    Writes content (step.run out.lift) l (l.stepBytes step) (l.pastStep step) := by
  rw [← Layout.flatten_stepChunks]
  exact (sends_step step l).writes appends

end Writing

theorem Output.appends_write : Writing.Appends Output.write fun o => o.accepted.toList := by
  intro bytes o
  unfold write
  split
  · simp [Writing.Took]
  · rename_i room _
    by_cases fits : bytes.length ≤ room
    · simp [Writing.Took, fits, List.take_of_length_le fits]
    · simp only [fits, if_false]
      exact ⟨bytes.take room, List.take_prefix _ _, by simp⟩

end OperationStubs
