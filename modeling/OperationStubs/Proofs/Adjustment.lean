import OperationStubs.Proofs.Opening

/-!
# Adjusting a model

A model is adjusted before its class is rendered, in any number of calls. Of the imports only their
union counts, since sets with the same names are the same (`NameSet.eq_of_mem_iff`), and of the
superclasses only the last, so models with different histories can be the same model
(`ClassModel.adjust_eq`) and are rendered alike (`ClassModel.adjusted_alike`). The names of the
imports come in the order of their bytes, the lines in which they stand need not
(`ClassModel.adjusted_lines`).
-/

namespace OperationStubs

/-- Names make up one set only. -/
theorem NameSet.eq_of_mem_iff {a b : NameSet} (same : ∀ name, name ∈ a ↔ name ∈ b) : a = b := by
  have nodup (names : NameSet) : names.toList.Nodup := names.ascending.imp String.ne_of_lt
  have perm : a.toList.Perm b.toList := (List.perm_ext_iff_of_nodup (nodup a) (nodup b)).2 same
  have lists : a.toList = b.toList :=
    perm.eq_of_pairwise (fun x y _ _ lt gt => absurd gt (String.lt_asymm lt))
      a.ascending b.ascending
  cases a
  cases b
  cases lists
  rfl

/-- A call on a model before its class is rendered. -/
inductive Adjustment where
  | imports (names : List String)
  | superclass (name : String)
  /-- Asks for the loader id of a method. -/
  | request (method : Method)

namespace Adjustment

/-- Requests go to the registry and leave the model as it is. -/
def apply : ClassModel × Session → Adjustment → ClassModel × Session
  | (model, s), .imports names => (model.addImports names, s)
  | (model, s), .superclass name => (model.extend name, s)
  | (model, s), .request method => (model, (s.request method.key).2)

/-- All names that a history imports. -/
def names (history : List Adjustment) : List String :=
  history.flatMap fun
    | .imports names => names
    | _ => []

/-- The last superclass of a history. -/
def superclass? (history : List Adjustment) : Option String :=
  (history.filterMap fun
    | .superclass name => some name
    | _ => none).getLast?

end Adjustment

namespace ClassModel

def adjust (model : ClassModel) (s : Session) (history : List Adjustment) : ClassModel × Session :=
  history.foldl Adjustment.apply (model, s)

/-- The names and methods of a class do not change. -/
structure Keeps (fresh model : ClassModel) : Prop where
  className : model.className = fresh.className
  package : model.package = fresh.package
  fqcn : model.fqcn = fresh.fqcn
  methods : model.methods = fresh.methods

/-- Of a history the union of its imports and its last superclass are left. -/
theorem adjust_eq (model : ClassModel) (s : Session) (history : List Adjustment) :
    (model.adjust s history).1 =
      { model with
        imports := model.imports.insertAll (Adjustment.names history)
        superclass := (Adjustment.superclass? history).or model.superclass } := by
  induction history generalizing model s with
  | nil => rfl
  | cons adjustment history ih =>
    cases adjustment with
    | imports names =>
      refine (ih (model.addImports names) s).trans ?_
      simp [Adjustment.names, Adjustment.superclass?, addImports, NameSet.insertAll]
    | superclass name =>
      refine (ih (model.extend name) s).trans ?_
      simp [Adjustment.names, Adjustment.superclass?, extend, List.getLast?_cons]
    | request method => exact ih model (s.request method.key).2

/-- What imports and superclass leave alone. -/
theorem keeps_adjust (model : ClassModel) (s : Session) (history : List Adjustment) :
    Keeps model (model.adjust s history).1 := by
  rw [adjust_eq]
  exact ⟨rfl, rfl, rfl, rfl⟩

variable {history history' : List Adjustment}

/-- Histories with the same imports in all and the same last superclass leave one model. -/
theorem adjust_congr (model : ClassModel) (s s' : Session)
    (union : ∀ name, name ∈ Adjustment.names history ↔ name ∈ Adjustment.names history')
    (last : Adjustment.superclass? history = Adjustment.superclass? history') :
    (model.adjust s history).1 = (model.adjust s' history').1 := by
  have imports : model.imports.insertAll (Adjustment.names history) =
      model.imports.insertAll (Adjustment.names history') :=
    NameSet.eq_of_mem_iff fun name => by simp only [NameSet.mem_insertAll, union]
  rw [adjust_eq, adjust_eq, imports, last]

end ClassModel

/-- Imports of different names stand in different lines. -/
theorem importText_injective : Function.Injective importText := by
  intro a b same
  have lists := congrArg String.toList same
  simp only [importText, String.toList_append, List.append_assoc] at lists
  exact String.toList_inj.1 (List.append_cancel_right (List.append_cancel_left lists))

/-- A file begins with the frame of its class, in which a line for each of `names` stands once, in
the order of the bytes of the names. -/
structure ImportsInOrder (g : Generator) (options : Options) (time : Timestamp)
    (names : List String) (bytes : List UInt8) : Prop where
  opened : ∃ rest, bytes = utf8 (g.opening options time ++ rest)
  union : ∀ name, name ∈ g.model.imports ↔ name ∈ names
  once : (g.model.imports.toList.map importText).Nodup
  ascending : g.model.imports.toList.Pairwise fun a b => utf8 a < utf8 b

namespace ClassModel

/-- Histories with the same imports in all and the same last superclass leave models of which the
classes are rendered alike. -/
theorem adjusted_alike (source : SourceType) (methods : List Method) (suffix : String)
    (doc body : ClassModel → Hook Unit) {history history' : List Adjustment}
    (union : ∀ name, name ∈ Adjustment.names history ↔ name ∈ Adjustment.names history')
    (last : Adjustment.superclass? history = Adjustment.superclass? history') (s s' : Session) :
    let fresh : ClassModel := { source, methods, suffix }
    let model := (fresh.adjust s history).1
    let model' := (fresh.adjust s' history').1
    let made (model : ClassModel) : Generator := ⟨model, doc model, body model⟩
    Keeps fresh model ∧ Keeps fresh model' ∧
      model.imports = model'.imports ∧ model.superclass = model'.superclass ∧
      ∀ (σ : Type) (out : Sink (StateM σ)) (options : Options) (time : Timestamp) (t : Session)
          (o : σ),
        (made model).render out options time t o = (made model').render out options time t o ∧
        ∀ content, Writing.Steady out → Writing.Appends out content →
          ∃ bytes, content ((made model).render out options time t o).2 = content o ++ bytes ∧
            ImportsInOrder (made model) options time (Adjustment.names history) bytes := by
  intro fresh model model' made
  have same : model = model' := adjust_congr fresh s s' union last
  refine ⟨keeps_adjust _ _ _, keeps_adjust _ _ _, by rw [same], by rw [same], ?_⟩
  intro σ out options time t o
  refine ⟨by rw [same], fun content steady appends => ?_⟩
  obtain ⟨-, output⟩ := Generator.render_opening steady appends (g := made model) options time t o
  refine ⟨_, output, ⟨_, rfl⟩, fun name => ?_, ?_, ?_⟩
  · change name ∈ model.imports ↔ _
    rw [show model = _ from adjust_eq fresh s history]
    exact NameSet.mem_ofList
  · have distinct : model.imports.toList.Nodup := model.imports.ascending.imp String.ne_of_lt
    exact distinct.map importText_injective
  · exact model.imports.ascending.imp utf8_lt_utf8

/-- Two ways to two imports and a base class, one of them with a request for an id and a base class
that does not last. -/
theorem adjusted_alike_orders :
    let load : Method := ⟨⟨"p.Ops", "load", []⟩, [], "void"⟩
    let history : List Adjustment := [.imports ["b.List", "a.Map"], .superclass "b.Old",
      .request load, .imports ["a.Map"], .superclass "a.Base"]
    let history' : List Adjustment := [.superclass "a.Base", .imports ["a.Map"],
      .imports ["b.List"]]
    let fresh : ClassModel := { source := ⟨"p.Ops", "p", ∅, none⟩, methods := [load], suffix := "X" }
    let body (model : ClassModel) : Hook Unit := model.methods.forM fun method => do
      let id ← Hook.loaderId method
      Hook.emit (.field "b.List" (method.name ++ toString id.toNat) ∅ none)
    let made (model : ClassModel) : Generator := ⟨model, pure (), body model⟩
    let out : Sink (StateM (List UInt8)) := fun bytes held => (.ok (), held ++ bytes)
    let run (model : ClassModel) :=
      (made model).render out { headerMarker := "opgen" } ⟨2024, 1, 1, 0, 0, 0⟩ .empty []
    (∀ name, name ∈ Adjustment.names history ↔ name ∈ Adjustment.names history') ∧
      Adjustment.superclass? history = Adjustment.superclass? history' ∧
      run (fresh.adjust .empty history).1 = run (fresh.adjust .empty history').1 ∧
      (run (fresh.adjust .empty history).1).2 = utf8 ("// opgen 2024-01-01 00:00:00\n" ++
        "package p;\n\nimport a.Map;\nimport b.List;\n\nclass OpsX extends a.Base \x7b\n\n" ++
        "  List load1;\n\x7d\n") := by
  intro load history history' fresh body made out run
  have union : ∀ name, name ∈ Adjustment.names history ↔ name ∈ Adjustment.names history' := by
    intro name
    simp only [history, history', Adjustment.names, List.flatMap_cons, List.flatMap_nil,
      List.mem_append, List.mem_cons, List.not_mem_nil]
    grind
  have last : Adjustment.superclass? history = Adjustment.superclass? history' := rfl
  have alike := adjusted_alike fresh.source fresh.methods fresh.suffix (fun _ => pure ()) body
    union last .empty .empty
  exact ⟨union, last, (alike.2.2.2.2 _ out _ _ .empty []).1, by decide +kernel⟩

/-- An import whose name begins that of another comes first by name, and second by its line. -/
theorem adjusted_lines :
    let fresh : ClassModel := { source := ⟨"Ops", "", ∅, none⟩, methods := [], suffix := "X" }
    let model := (fresh.adjust .empty [.imports ["java.util.Map.Entry", "java.util.Map"]]).1
    let out : Sink (StateM (List UInt8)) := fun bytes held => (.ok (), held ++ bytes)
    let g : Generator := ⟨model, pure (), pure ()⟩
    let run := g.render out { headerMarker := "opgen" } ⟨2024, 1, 1, 0, 0, 0⟩ .empty []
    let lines := ["import java.util.Map;\n", "import java.util.Map.Entry;\n"]
    run.2 = utf8 ("// opgen 2024-01-01 00:00:00\n" ++ String.join lines ++
        "\nclass OpsX \x7b\n\n\x7d\n") ∧
      ¬ lines.Pairwise fun a b => utf8 a < utf8 b := by
  decide +kernel

end ClassModel
end OperationStubs
