import OperationStubs.ClassModel
import OperationStubs.Hook
import OperationStubs.Options
import OperationStubs.Timestamp
/-! The text of a class: the frame that all classes share, and the generator's parts in it. -/
namespace OperationStubs

/-- Makes one class. `doc` comes before its header and `body` between its braces. -/
structure Generator where
  model : ClassModel
  doc : Hook Unit
  body : Hook Unit

namespace Generator

variable {m : Type → Type} [Monad m] (out : Sink m)

def write (g : Generator) (options : Options) (time : Timestamp) :
    Writing (StateT Session m) Unit := do
  Writing.comment out.lift (options.headerMarker ++ " " ++ time.text)
  Writing.package out.lift g.model.package
  if !g.model.imports.isEmpty then
    Writing.imports out.lift g.model.imports
    Writing.emptyLine out.lift
  g.doc.run out
  Writing.beginType out.lift g.model.className "class" g.model.source.modifiers.forClass
    g.model.superclass
  Writing.emptyLine out.lift
  g.body.run out
  Writing.endType out.lift

/-- Writes the whole class, or as much of it as goes before the first failure. -/
def render (g : Generator) (options : Options) (time : Timestamp) :
    StateT Session m (Except Fault Unit) := do
  let (result, _) ← (g.write out options time).run (Layout.start options.indent)
  return result

end Generator
end OperationStubs
