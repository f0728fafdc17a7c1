import OperationStubs.Java.Modifier
import OperationStubs.Java.Scope
import OperationStubs.Output
import OperationStubs.Text.Utf8
/-! Writing Java source with indentation. A failed write leaves the layout as far as it got. -/
namespace OperationStubs

/-- What a writer remembers between calls. -/
structure Layout where
  indent : String
  depth : Nat
  atLineStart : Bool
  scope : Scope
  deriving DecidableEq

namespace Layout

/-- The layout of an empty file. -/
def start (indent : String) : Layout := ⟨indent, 0, true, .empty⟩

def defaultIndent : String := "  "

end Layout

/-- Actions that write and stop at the first failure. -/
abbrev Writing (m : Type → Type) := ExceptT Fault (StateT Layout m)

namespace Writing

variable {m : Type → Type} [Monad m] (out : Sink m)

def send (bytes : List UInt8) : Writing m Unit :=
  ExceptT.mk (StateT.lift (out bytes))

def startLine : Writing m Unit := do
  send out (utf8 "\n")
  modify fun l => { l with atLineStart := true }

/-- Indentation comes before the first character of a line. A line without one gets none. -/
def putChar (c : Char) : Writing m Unit := do
  if c = '\n' then startLine out
  else
    let l ← get
    if l.atLineStart then
      (List.replicate l.depth (utf8 l.indent)).forM (send out)
      modify fun l => { l with atLineStart := false }
    send out (String.utf8EncodeChar c)

def write (text : String) : Writing m Unit :=
  text.toList.forM (putChar out)

def line (text : String) : Writing m Unit := do
  write out text
  write out "\n"

def indent : Writing m Unit :=
  modify fun l => { l with depth := l.depth + 1 }

def dedent : Writing m Unit :=
  modify fun l => { l with depth := l.depth - 1 }

def emptyLine : Writing m Unit :=
  write out "\n"

def comment (text : String) : Writing m Unit :=
  line out ("// " ++ text)

def statement (text : String) : Writing m Unit :=
  line out (text ++ ";")

/-- The package counts as declared from here on, even if its line cannot be written. -/
def package (name : String) : Writing m Unit := do
  modify fun l => { l with scope.package := name }
  if name != "" then
    line out ("package " ++ name ++ ";")
    emptyLine out

/-- An import counts once its line is written. -/
def importLine (name : String) : Writing m Unit := do
  line out ("import " ++ name ++ ";")
  modify fun l => { l with scope.imported := l.scope.imported.insert name }

def imports (names : NameSet) : Writing m Unit :=
  names.toList.forM (importLine out)

def javadocLine (text : String) : String :=
  if text = "" then " *" else " * " ++ text

def javadoc (text : String) : Writing m Unit := do
  line out "/**"
  (Text.lines text).forM fun l => line out (javadocLine l)
  line out " */"

def typeHeader (scope : Scope) (name kind : String) (modifiers : ModifierSet)
    (superclass : Option String) : String :=
  let base := match superclass with
    | some type => " extends " ++ scope.shorten type
    | none => ""
  modifiers.text ++ kind ++ " " ++ name ++ base ++ " \x7b"

def beginType (name kind : String) (modifiers : ModifierSet) (superclass : Option String) :
    Writing m Unit := do
  let l ← get
  line out (typeHeader l.scope name kind modifiers superclass)
  indent

def endType : Writing m Unit := do
  dedent
  line out "\x7d"

def parameterText (scope : Scope) (parameter : String × String) : String :=
  "final " ++ scope.shorten parameter.1 ++ " " ++ parameter.2

def methodHeader (scope : Scope) (returnType : Option String) (name : String)
    (modifiers : ModifierSet) (parameters : List (String × String)) : String :=
  let type := match returnType with
    | some type => scope.shorten type ++ " "
    | none => ""
  modifiers.text ++ type ++ name ++ "(" ++
    ", ".intercalate (parameters.map (parameterText scope)) ++ ") \x7b"

/-- Begins a method, or a constructor if there is no return type. -/
def beginMethod (returnType : Option String) (name : String) (modifiers : ModifierSet)
    (parameters : List (String × String)) : Writing m Unit := do
  let l ← get
  line out (methodHeader l.scope returnType name modifiers parameters)
  indent

def endMethod : Writing m Unit :=
  endType out

def fieldText (scope : Scope) (type name : String) (modifiers : ModifierSet)
    (value : Option String) : String :=
  let initial := match value with
    | some value => " = " ++ value
    | none => ""
  modifiers.text ++ scope.shorten type ++ " " ++ name ++ initial ++ ";"

def field (type name : String) (modifiers : ModifierSet) (value : Option String) :
    Writing m Unit := do
  let l ← get
  line out (fieldText l.scope type name modifiers value)

end Writing

/-- One call of the writer. -/
inductive Step where
  | write (text : String)
  | line (text : String)
  | comment (text : String)
  | javadoc (text : String)
  | statement (text : String)
  | indent
  | dedent
  | emptyLine
  | package (name : String)
  | imports (names : List String)
  | beginType (name kind : String) (modifiers : ModifierSet) (superclass : Option String)
  | endType
  | beginMethod (returnType : Option String) (name : String) (modifiers : ModifierSet)
      (parameters : List (String × String))
  | endMethod
  | field (type name : String) (modifiers : ModifierSet) (value : Option String)

def Step.run {m : Type → Type} [Monad m] (out : Sink m) : Step → Writing m Unit
  | .write text => Writing.write out text
  | .line text => Writing.line out text
  | .comment text => Writing.comment out text
  | .javadoc text => Writing.javadoc out text
  | .statement text => Writing.statement out text
  | .indent => Writing.indent
  | .dedent => Writing.dedent
  | .emptyLine => Writing.emptyLine out
  | .package name => Writing.package out name
  | .imports names => Writing.imports out (NameSet.ofList names)
  | .beginType name kind modifiers superclass =>
    Writing.beginType out name kind modifiers superclass
  | .endType => Writing.endType out
  | .beginMethod returnType name modifiers parameters =>
    Writing.beginMethod out returnType name modifiers parameters
  | .endMethod => Writing.endMethod out
  | .field type name modifiers value => Writing.field out type name modifiers value

end OperationStubs
