import OperationStubs.Java.Name
import OperationStubs.Text.NameSet
import OperationStubs.Text.WordChar
/-! Qualified names inside type texts, and the names a file may use in short. -/
namespace OperationStubs

/-- A stretch of a type text: a qualified name, or one character of what stands between. -/
inductive Piece where
  | plain (c : Char)
  | qualified (name : List Char)
  deriving DecidableEq, Repr

namespace Piece

/-- What may begin a part of a qualified name: an ASCII letter, `_` or `$`. -/
def isStart (c : Char) : Bool :=
  c.isAlpha || c == '_' || c == '$'

/-- What may follow in a part of a qualified name. -/
def isInner (c : Char) : Bool :=
  Text.isWord c || c == '$'

/-- The longest row of `.part` that begins a text, and the rest of the text. -/
def dottedParts : List Char → List Char × List Char
  | '.' :: c :: rest =>
    if isStart c then
      let (more, left) := dottedParts (rest.dropWhile isInner)
      ('.' :: c :: rest.takeWhile isInner ++ more, left)
    else ([], '.' :: c :: rest)
  | text => ([], text)
termination_by text => text.length
decreasing_by
  have := (List.dropWhile_suffix isInner (l := rest)).length_le
  simp only [List.length_cons]
  omega

/-- The qualified name that begins a text, and the rest. A qualified name has at least one dot. -/
def qualified? : List Char → Option (List Char × List Char)
  | [] => none
  | c :: rest =>
    if isStart c then
      match dottedParts (rest.dropWhile isInner) with
      | ([], _) => none
      | (more, left) => some (c :: rest.takeWhile isInner ++ more, left)
    else none

theorem dottedParts_append (text : List Char) :
    (dottedParts text).1 ++ (dottedParts text).2 = text := by
  fun_induction dottedParts text with
  | case1 c rest start more left eq ih =>
    rw [eq] at ih
    simp [ih]
  | case2 => simp
  | case3 => simp

theorem qualified?_append {text name rest : List Char} (h : qualified? text = some (name, rest)) :
    name ≠ [] ∧ name ++ rest = text := by
  fun_cases qualified? text with
  | case1 => simp [qualified?] at h
  | case2 c text start left eq => simp [qualified?, start, eq] at h
  | case3 c text start more left some eq =>
    have parts := dottedParts_append (text.dropWhile isInner)
    simp only [qualified?, start, if_true, eq, Option.some.injEq, Prod.mk.injEq] at h
    obtain ⟨rfl, rfl⟩ := h
    simp_all
  | case4 c text start => simp [qualified?, start] at h

theorem length_of_qualified? {text name rest : List Char}
    (h : qualified? text = some (name, rest)) : rest.length < text.length := by
  obtain ⟨ne, eq⟩ := qualified?_append h
  have := List.length_pos_iff.2 ne
  rw [← eq, List.length_append]
  omega

/-- Cuts a text at its qualified names, each as far left and as long as possible. -/
def ofText (text : List Char) : List Piece :=
  match h : qualified? text with
  | some (name, rest) =>
    have := length_of_qualified? h
    .qualified name :: ofText rest
  | none =>
    match text with
    | [] => []
    | c :: rest => .plain c :: ofText rest
termination_by text.length

end Piece

/-- What a file has declared so far that lets it use short names. -/
structure Scope where
  package : String
  imported : NameSet
  deriving DecidableEq

namespace Scope

def empty : Scope := ⟨"", ∅⟩

/-- Names of `java.lang` and of the file's own package need no import. -/
def isImplicit (scope : Scope) (name : String) : Bool :=
  let package := Name.qualifier name
  package == "java.lang" || (scope.package != "" && package == scope.package)

/-- An import of the same simple name takes that name away from classes that need no import. -/
def isShadowed (scope : Scope) (name : String) : Bool :=
  scope.imported.toList.any fun other => Name.simple other == Name.simple name

/-- Whether the simple name alone is enough for `name`. -/
def knows (scope : Scope) (name : String) : Bool :=
  name ∈ scope.imported || (scope.isImplicit name && !scope.isShadowed name)

def shortenName (scope : Scope) (name : String) : String :=
  if scope.knows name then Name.simple name else name

def shortenPiece (scope : Scope) : Piece → List Char
  | .plain c => [c]
  | .qualified name => (scope.shortenName (String.ofList name)).toList

/-- A type text with every qualified name in it as short as the scope allows. -/
def shorten (scope : Scope) (type : String) : String :=
  String.ofList ((Piece.ofText type.toList).flatMap scope.shortenPiece)

end Scope
end OperationStubs
