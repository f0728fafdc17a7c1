import OperationStubs.Proofs.Program

/-!
# A full disk only truncates

An output with limited room takes writes in a row like one write (`sendAll_write`), so it makes no
difference between which writes the room ends. A hook that stops at its first failure is followed
on two outputs at once, one with room for everything and one with room for some bytes
(`Ended.Cut`). Down to the last byte that fits both do the same, and behind it the second does
nothing more (`Hook.cut_run`). So the second writes the beginning of what the first writes, and has
asked for the numbers that the first asks for first (`render_truncates`).
-/

namespace OperationStubs

namespace Output

theorem held_append (held : Array UInt8) (bytes more : List UInt8) :
    held ++ bytes ++ more = held ++ (bytes ++ more) := by
  apply Array.ext'
  simp

theorem write_endless (held : Array UInt8) (bytes : List UInt8) :
    write bytes ⟨held, none⟩ = (.ok (), ⟨held ++ bytes, none⟩) := rfl

theorem write_fits (held : Array UInt8) {room : Nat} {bytes : List UInt8}
    (fits : bytes.length ≤ room) :
    write bytes ⟨held, some room⟩ = (.ok (), ⟨held ++ bytes, some (room - bytes.length)⟩) := by
  simp [write, fits, List.take_of_length_le fits]

theorem write_full (held : Array UInt8) {room : Nat} {bytes : List UInt8}
    (full : room < bytes.length) :
    write bytes ⟨held, some room⟩ = (.error .diskFull, ⟨held ++ bytes.take room, some 0⟩) := by
  have empty : room - bytes.length = 0 := by omega
  simp [write, empty, Nat.not_le.2 full]

/-- Writes in a row are one write, whether they fit or not. -/
theorem sendAll_write (chunks : List (List UInt8)) (o : Output) :
    Writing.sendAll write chunks o = write chunks.flatten o := by
  obtain ⟨held, room⟩ := o
  induction chunks generalizing held room with
  | nil => cases room <;> simp [Writing.sendAll, write]
  | cons chunk chunks ih =>
    rw [Writing.sendAll, List.flatten_cons]
    cases room with
    | none =>
      rw [write_endless, write_endless]
      simp only [ih, write_endless, held_append]
    | some room =>
      by_cases fits : chunk.length ≤ room
      · rw [write_fits held fits]
        simp only [ih]
        by_cases rest : chunks.flatten.length ≤ room - chunk.length
        · have all : (chunk ++ chunks.flatten).length ≤ room := by
            rw [List.length_append]
            omega
          rw [write_fits _ rest, write_fits held all, held_append, List.length_append, Nat.sub_sub]
        · have all : room < (chunk ++ chunks.flatten).length := by
            rw [List.length_append]
            omega
          rw [write_full _ (Nat.not_le.1 rest), write_full held all, held_append, List.take_append,
            List.take_of_length_le fits]
      · have full : room < chunk.length := by omega
        have all : room < (chunk ++ chunks.flatten).length := by
          rw [List.length_append]
          omega
        rw [write_full held full, write_full held all,
          List.take_append_of_le_length (Nat.le_of_lt full)]

end Output

/-- What a run with room for `budget` bytes leaves, beside the same run without a limit. Both began
with session `s` and an empty output. -/
structure Truncates {α : Type} (budget : Nat) (s : Session)
    (whole cut : (Except Fault α × Session) × Output) : Prop where
  text : cut.2.accepted.toList = whole.2.accepted.toList.take budget
  result : cut.1.1 = if budget < whole.2.accepted.size then .error .diskFull else whole.1.1
  /-- The keys that got a number by then are the first of those that get one at all. -/
  keys : ∃ first more, cut.1.2.registry.keys = s.registry.keys ++ first ∧
    whole.1.2.registry.keys = s.registry.keys ++ first ++ more
  ids : ∀ key id, cut.1.2.registry.id? key = some id → whole.1.2.registry.id? key = some id

/-- How a run ends that has all the room it needs, and how the same run ends with room for `room`
more bytes. Both outputs hold `held` at first. -/
inductive Ended.Cut {α : Type} (held : Array UInt8) (room : Nat) (whole cut : Ended Output α) : Prop
  | fits (bytes : List UInt8) (fits : bytes.length ≤ room)
      (all : whole.output = ⟨held ++ bytes, none⟩)
      (same : cut = { whole with output := ⟨held ++ bytes, some (room - bytes.length)⟩ })
  | full (bytes : List UInt8) (full : room < bytes.length)
      (all : whole.output = ⟨held ++ bytes, none⟩)
      (result : cut.result = .error .diskFull)
      (output : cut.output = ⟨held ++ bytes.take room, some 0⟩)
      (behind : cut.session.registry ≤ whole.session.registry)

namespace Ended.Cut

variable {α : Type} {held : Array UInt8} {room : Nat} {bytes : List UInt8}
variable {whole cut : Ended Output α}

theorem whole_output (h : Cut held room whole cut) :
    ∃ bytes : List UInt8, whole.output = ⟨held ++ bytes, none⟩ := by
  cases h with
  | fits bytes _ all => exact ⟨bytes, all⟩
  | full bytes _ all => exact ⟨bytes, all⟩

/-- Bytes that fit come first. -/
theorem behind_bytes (fits : bytes.length ≤ room)
    (rest : Cut (held ++ bytes) (room - bytes.length) whole cut) : Cut held room whole cut := by
  cases rest with
  | fits more small all same =>
    rw [Output.held_append] at all same
    apply Cut.fits (bytes ++ more) _ all
    · rw [same, List.length_append, Nat.sub_sub]
    · rw [List.length_append]
      omega
  | full more large all result output behind =>
    rw [Output.held_append] at all output
    apply Cut.full (bytes ++ more) _ all result _ behind
    · rw [List.length_append]
      omega
    · rw [output, List.take_append, List.take_of_length_le fits]

/-- Onto empty outputs. -/
theorem truncates {s : Session} (h : Cut #[] room whole cut)
    (grows : s.registry ≤ cut.session.registry) :
    Truncates room s ((whole.result, whole.session), whole.output)
      ((cut.result, cut.session), cut.output) := by
  have behind : cut.session.registry ≤ whole.session.registry := by
    cases h with
    | fits bytes _ _ same =>
      rw [same]
      exact Registry.le_refl _
    | full _ _ _ _ _ behind => exact behind
  obtain ⟨first, assigned⟩ := Registry.le_def.1 grows
  obtain ⟨more, others⟩ := Registry.le_def.1 behind
  constructor
  case text =>
    cases h with
    | fits bytes fits all same => simp [same, all, List.take_of_length_le fits]
    | full bytes full all result output => simp [output, all]
  case result =>
    cases h with
    | fits bytes fits all same => simp [same, all, Nat.not_lt.2 fits]
    | full bytes full all result => simp [result, all, full]
  case keys =>
    refine ⟨first, more, assigned.symm, ?_⟩
    rw [assigned]
    exact others.symm
  case ids =>
    intro key id known
    exact Registry.id?_of_le behind known

end Ended.Cut

namespace Hook

open Writing

variable {α : Type}

/-- A call of the writer is one write, and no business of the session. -/
theorem exec_step_write (step : Step) (l : Layout) (s : Session) (o : Output) :
    let (result, output) := Output.write (l.stepBytes step) o
    ∃ layout, exec (step.run Output.write.lift) l s o = ⟨result, layout, s, output⟩ ∧
      (result = .ok () → layout = l.pastStep step) := by
  have sends : Sends Output.write (step.run Output.write.lift) l _ _ := sends_step step l
  obtain ⟨session, sent, layout⟩ := sends s o
  rw [Output.sendAll_write, Layout.flatten_stepChunks] at sent
  generalize exec (step.run Output.write.lift) l s o = called at *
  subst session
  rw [← sent]
  exact ⟨called.layout, rfl, layout⟩

theorem exec_step_fits {step : Step} {l : Layout} {s : Session} {o o' : Output}
    (taken : Output.write (l.stepBytes step) o = (.ok (), o')) :
    exec (step.run Output.write.lift) l s o = ⟨.ok (), l.pastStep step, s, o'⟩ := by
  have written := exec_step_write step l s o
  rw [taken] at written
  obtain ⟨layout, ended, past⟩ := written
  rw [ended, past rfl]

/-- Down to the last byte that fits, a run with limited room does what the run without a limit
does. There it breaks off. -/
theorem cut_run {h : Hook α} (strict : h.Strict) (l : Layout) (s : Session) (held : Array UInt8)
    (room : Nat) :
    Ended.Cut held room (exec (h.run Output.write) l s ⟨held, none⟩)
      (exec (h.run Output.write) l s ⟨held, some room⟩) := by
  induction strict generalizing l s held room with
  | pure value =>
    apply Ended.Cut.fits [] (Nat.zero_le room)
    · simp [run]
    · simp [run]
  | fail fault =>
    apply Ended.Cut.fits [] (Nat.zero_le room)
    · simp [run]
    · simp [run]
  | @call step next stops more ih =>
    rw [exec_run_call, exec_run_call, exec_step_fits (Output.write_endless held _)]
    by_cases fits : (l.stepBytes step).length ≤ room
    · rw [exec_step_fits (Output.write_fits held fits)]
      exact Ended.Cut.behind_bytes fits (ih _ s _ _)
    · -- The unlimited run goes on alone. That it only adds to the bytes is the case of no room.
      have full : room < (l.stepBytes step).length := Nat.not_le.1 fits
      obtain ⟨bytes, output⟩ := (ih (l.pastStep step) s (held ++ l.stepBytes step) 0).whole_output
      have grows := registry_le_run (l.pastStep step) s ⟨held ++ l.stepBytes step, none⟩
        Output.write (next (.ok ()))
      have written := exec_step_write step l s ⟨held, some room⟩
      rw [Output.write_full held full] at written
      obtain ⟨layout, ended, _⟩ := written
      rw [ended]
      simp only [stops]
      rw [Output.held_append] at output
      apply Ended.Cut.full (l.stepBytes step ++ bytes) _ output rfl _ grows
      · rw [List.length_append]
        omega
      · rw [List.take_append_of_le_length (Nat.le_of_lt full)]
        rfl
  | shorten more ih => exact ih _ l s held room
  | request more ih => exact ih _ l _ held room

end Hook

namespace Generator

/-- With limited room a class is rendered to the beginning of its text that fits. The disk is full
exactly if that is not all of it, and no number is assigned otherwise than in the whole run. -/
theorem render_truncates (g : Generator) (doc : g.doc.Strict) (body : g.body.Strict)
    (options : Options) (time : Timestamp) (s : Session) (budget : Nat) :
    Truncates budget s (g.render Output.write options time s (.empty none))
      (g.render Output.write options time s (.empty (some budget))) := by
  have strict : (g.program options time).Strict :=
    program_of options time Hook.strict_emit (fun _ _ h h' => h.bind fun _ => h') doc body
  have both := Hook.cut_run strict (.start options.indent) s #[] budget
  have grows := Hook.registry_le_run (.start options.indent) s (.empty (some budget))
    Output.write (g.program options time)
  rw [render_eq, render_eq]
  exact both.truncates grows

/-- A body that gives up behind its second constant, where the disk is full within the first. -/
theorem render_truncates_between_ids :
    let load : Method := ⟨⟨"p.Ops", "load", []⟩, [], "void"⟩
    let save : Method := ⟨⟨"p.Ops", "save", []⟩, [], "void"⟩
    let constant (method : Method) : Hook Unit := do
      let id ← Hook.loaderId method
      Hook.emit (.field "int" method.name ∅ (some (toString id.toNat)))
    let body : Hook Unit := do
      constant load
      constant save
      Hook.fail Fault.notText
    let g : Generator :=
      ⟨⟨⟨"p.Ops", "p", ∅, none⟩, [load, save], "Ids", ∅, none⟩, Hook.emit (.javadoc "Ids."), body⟩
    let run (room : Option Nat) :=
      g.render Output.write { headerMarker := "opgen" } ⟨2024, 1, 1, 0, 0, 0⟩ .empty (.empty room)
    g.doc.Strict ∧ g.body.Strict ∧ Truncates 80 .empty (run none) (run (some 80)) ∧
      (run none).1.1 = .error .notText ∧ (run (some 80)).1.1 = .error .diskFull ∧
      (run none).1.2.registry.keys = [load.key, save.key] ∧
      (run (some 80)).1.2.registry.keys = [load.key] := by
  intro load save constant body g run
  have strict (method : Method) : (constant method).Strict :=
    (Hook.strict_loaderId method).bind fun _ => Hook.strict_emit _
  have doc : g.doc.Strict := Hook.strict_emit _
  have rest : g.body.Strict :=
    (strict load).bind fun _ => (strict save).bind fun _ => .fail Fault.notText
  exact ⟨doc, rest, render_truncates g doc rest _ _ _ _, by decide +kernel⟩

end Generator
end OperationStubs
