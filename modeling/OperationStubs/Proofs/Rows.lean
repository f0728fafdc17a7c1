import OperationStubs.Proofs.FullDisk
import OperationStubs.Proofs.Split

/-!
# Text in one go, in rows or in pieces

A text can be handed to an output character by character or a row at a time, with the newlines
between the rows on their own (`writeRows`). Where writes in a row are one write (`Fluid`) nothing
tells the two apart, not even what is left behind a failure (`writeRows_eq_write`). Character by
character it makes no difference where a text is cut, so it makes none at all (`write_append`).
-/

namespace OperationStubs.Writing

section Rows

variable {m : Type → Type} [Monad m] (out : Sink m)

/-- The margin, if a line begins. -/
def openLine : Writing m Unit := do
  let l ← get
  if l.atLineStart then
    (List.replicate l.depth (utf8 l.indent)).forM (send out)
    modify fun l => { l with atLineStart := false }

/-- A row of characters in one write. Without any not even the margin is written. -/
def putRow (row : List Char) : Writing m Unit :=
  if row = [] then pure ()
  else do
    openLine out
    send out (row.flatMap String.utf8EncodeChar)

/-- Some rows with a newline between every two. -/
def putRows : List (List Char) → Writing m Unit
  | [] => pure ()
  | row :: rows => do
    putRow out row
    rows.forM fun row => do
      startLine out
      putRow out row

/-- A text row by row. -/
def writeRows (text : String) : Writing m Unit :=
  putRows out (Text.pieces '\n' text.toList)

end Rows

variable {σ α : Type} {out : Sink (StateM σ)}

/-- An output that does not tell writes in a row from one write. -/
def Fluid (out : Sink (StateM σ)) : Prop :=
  ∀ chunks o, sendAll out chunks o = out chunks.flatten o

/-- Actions that come to the same everywhere are the same. -/
theorem act_ext {a b : Act σ α} (same : ∀ l s o, exec a l s o = exec b l s o) : a = b := by
  funext l s o
  have ended := same l s o
  unfold exec at ended
  rcases ha : a l s o with ⟨⟨⟨result, layout⟩, session⟩, output⟩
  rcases hb : b l s o with ⟨⟨⟨result', layout'⟩, session'⟩, output'⟩
  simp only [ha, hb, Ended.mk.injEq] at ended
  obtain ⟨rfl, rfl, rfl, rfl⟩ := ended
  rfl

theorem send_append (fluid : Fluid out) (a b : List UInt8) :
    (send out.lift (a ++ b) : Act σ Unit) = (do send out.lift a; send out.lift b) := by
  refine act_ext fun l s o => ?_
  have both := fluid [a, b] o
  simp only [sendAll, List.flatten_cons, List.flatten_nil, List.append_nil] at both
  rw [exec_bind, exec_send, exec_send, ← both]
  rcases out a o with ⟨fault | _, o'⟩
  · rfl
  · simp only [exec_send]
    rcases out b o' with ⟨_ | _, _⟩ <;> rfl

theorem putChar_eq {c : Char} (ne : c ≠ '\n') :
    (putChar out.lift c : Act σ Unit) =
      (do openLine out.lift; send out.lift (String.utf8EncodeChar c)) := by
  simp only [putChar, ne, if_false, openLine, bind_assoc]
  refine bind_congr fun l => ?_
  split <;> simp

/-- Within a line there is nothing to open. -/
theorem exec_openLine_of_inside {l : Layout} (inside : l.atLineStart = false) (s : Session)
    (o : σ) : exec (openLine out.lift) l s o = ⟨.ok (), l, s, o⟩ := by
  simp [openLine, exec_bind, inside]

/-- A line that was opened goes on. -/
theorem atLineStart_openLine {l : Layout} {s : Session} {o : σ}
    (opened : (exec (openLine out.lift) l s o).result = .ok ()) :
    (exec (openLine out.lift) l s o).layout.atLineStart = false := by
  cases start : l.atLineStart with
  | false => rw [exec_openLine_of_inside start, start]
  | true =>
    simp only [openLine, exec_bind, exec_get, start, if_true] at opened ⊢
    split at opened <;> simp_all

/-- A line is opened once. -/
theorem openLine_send_openLine (bytes : List UInt8) :
    (do openLine out.lift; send out.lift bytes; openLine out.lift : Act σ Unit) =
      (do openLine out.lift; send out.lift bytes) := by
  refine act_ext fun l s o => ?_
  rw [exec_bind l s o (openLine out.lift), exec_bind l s o (openLine out.lift)]
  cases opened : (exec (openLine out.lift) l s o).result with
  | error fault => rfl
  | ok =>
    have inside := atLineStart_openLine opened
    simp only [exec_bind, exec_send]
    cases sent : (out bytes (exec (openLine out.lift) l s o).output).1 with
    | error fault => rfl
    | ok => exact exec_openLine_of_inside inside _ _

/-- The first character of a row may be written on its own. -/
theorem putRow_cons (fluid : Fluid out) {c : Char} (ne : c ≠ '\n') (row : List Char) :
    (putRow out.lift (c :: row) : Act σ Unit) = (do putChar out.lift c; putRow out.lift row) := by
  rw [putChar_eq ne]
  cases row with
  | nil => simp [putRow]
  | cons d row =>
    let rest := (d :: row).flatMap String.utf8EncodeChar
    calc putRow out.lift (c :: d :: row)
      _ = (do openLine out.lift; send out.lift (String.utf8EncodeChar c ++ rest)) := rfl
      _ = (do openLine out.lift; send out.lift (String.utf8EncodeChar c)) >>= fun _ =>
          send out.lift rest := by rw [send_append fluid, bind_assoc]
      _ = (do openLine out.lift; send out.lift (String.utf8EncodeChar c); openLine out.lift) >>=
          fun _ => send out.lift rest := by rw [openLine_send_openLine]
      _ = (do openLine out.lift; send out.lift (String.utf8EncodeChar c)) >>= fun _ =>
          putRow out.lift (d :: row) := by simp only [bind_assoc]; rfl

/-- The rows of a text are its characters. -/
theorem putRows_pieces (fluid : Fluid out) (text : List Char) :
    (putRows out.lift (Text.pieces '\n' text) : Act σ Unit) = text.forM (putChar out.lift) := by
  induction text with
  | nil => simp [Text.pieces, putRows, putRow]
  | cons c text ih =>
    obtain ⟨row, rows, cut⟩ := List.exists_cons_of_ne_nil (Text.pieces_ne_nil (c := '\n') text)
    rw [cut, putRows] at ih
    by_cases newline : c = '\n'
    · calc putRows out.lift (Text.pieces '\n' (c :: text))
        _ = putRows out.lift ([] :: row :: rows) := by rw [Text.pieces, if_pos newline, cut]
        _ = (do startLine out.lift; text.forM (putChar out.lift)) := by
          rw [← ih]
          simp [putRows, putRow]
        _ = (c :: text).forM (putChar out.lift) := by
          rw [newline]
          rfl
    · calc putRows out.lift (Text.pieces '\n' (c :: text))
        _ = putRows out.lift ((c :: row) :: rows) := by rw [Text.pieces, if_neg newline, cut]
        _ = (do putChar out.lift c; text.forM (putChar out.lift)) := by
          rw [putRows, putRow_cons fluid newline, bind_assoc, ih]
        _ = (c :: text).forM (putChar out.lift) := rfl

theorem writeRows_eq_write (fluid : Fluid out) (text : String) :
    (writeRows out.lift text : Act σ Unit) = write out.lift text :=
  putRows_pieces fluid text.toList

/-- Two texts one after the other, where the second is not begun if the first fails. -/
theorem exec_write_append (a b : String) (l : Layout) (s : Session) (o : σ) :
    let first := exec (write out.lift a) l s o
    exec (write out.lift (a ++ b)) l s o =
      match first.result with
      | .ok () => exec (write out.lift b) first.layout first.session first.output
      | .error _ => first := by
  intro first
  have both : (write out.lift (a ++ b) : Act σ Unit) =
      (do write out.lift a; write out.lift b) := by
    simp [write, String.toList_append, List.forM_append]
  have same : exec (write out.lift a) l s o = first := rfl
  rw [both, exec_bind, same]
  clear_value first
  rcases first with ⟨_ | _, _, _, _⟩ <;> rfl

theorem fluid_output : Fluid Output.write := Output.sendAll_write

/-- On an output with room for any number of bytes it makes no difference where a text is cut: the
same bytes are accepted, the end is the same, and so is the layout that is left. Nor does it make a
difference if every row is one write. -/
theorem write_append (a b : String) (l : Layout) (s : Session) (o : Output) :
    let first := exec (write Output.write.lift a) l s o
    (exec (write Output.write.lift (a ++ b)) l s o =
      match first.result with
      | .ok () => exec (write Output.write.lift b) first.layout first.session first.output
      | .error _ => first) ∧
    ∀ text, exec (writeRows Output.write.lift text) l s o =
      exec (write Output.write.lift text) l s o := by
  intro first
  refine ⟨exec_write_append a b l s o, fun text => ?_⟩
  rw [writeRows_eq_write fluid_output]

end OperationStubs.Writing
