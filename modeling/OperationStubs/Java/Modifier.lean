/-! Java modifiers, and which of them carry over from a source type to the classes made for it. -/
namespace OperationStubs

inductive Modifier where
  | «public» | «protected» | «private» | abstract | default | static | final | transient | volatile
  | synchronized | native | strictfp
  deriving DecidableEq, Repr

namespace Modifier

/-- All modifiers, in the order in which declarations write them. -/
def all : List Modifier :=
  [.public, .protected, .private, .abstract, .default, .static, .final, .transient, .volatile,
    .synchronized, .native, .strictfp]

theorem mem_all (m : Modifier) : m ∈ all := by cases m <;> decide

def word : Modifier → String
  | .public => "public"
  | .protected => "protected"
  | .private => "private"
  | .abstract => "abstract"
  | .default => "default"
  | .static => "static"
  | .final => "final"
  | .transient => "transient"
  | .volatile => "volatile"
  | .synchronized => "synchronized"
  | .native => "native"
  | .strictfp => "strictfp"

def words : List String := all.map word

/-- The modifier a word stands for. Only the exact lower-case words count. -/
def ofWord? (w : String) : Option Modifier :=
  all.find? fun m => m.word == w

/-- What is said of a word that is no modifier. -/
def unknown (w : String) : String :=
  "unknown modifier `" ++ w ++ "`"

end Modifier

/-- A set of modifiers. It has one written order, that of `Modifier.all`. -/
structure ModifierSet where
  has : Modifier → Bool

namespace ModifierSet

instance : EmptyCollection ModifierSet := ⟨⟨fun _ => false⟩⟩

instance : Inhabited ModifierSet := ⟨∅⟩

def ofList (modifiers : List Modifier) : ModifierSet :=
  ⟨modifiers.contains⟩

def toList (s : ModifierSet) : List Modifier :=
  Modifier.all.filter s.has

def erase (s : ModifierSet) (m : Modifier) : ModifierSet :=
  ⟨fun x => x != m && s.has x⟩

/-- The modifiers of a class made for a type with modifiers `s`. The class is top level, so it
cannot be static. -/
def forClass (s : ModifierSet) : ModifierSet :=
  s.erase .static

/-- The constructor is public if the class is, and package private otherwise. -/
def forConstructor (s : ModifierSet) : ModifierSet :=
  ⟨fun m => m == .public && s.forClass.has m⟩

/-- Every modifier in order, each followed by a blank. -/
def text (s : ModifierSet) : String :=
  String.join (s.toList.map fun m => m.word ++ " ")

end ModifierSet
end OperationStubs
