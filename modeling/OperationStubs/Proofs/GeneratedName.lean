import OperationStubs.Proofs.ClassName

/-!
# Reading the names of classes

Dots go out of a class name when it is made, so its full name is cut at the last dot into package
and class name, whatever dots the package has. The suffix goes off the end of a class name, and
what is left has a dollar for every dot: without dollars of its own the name of the type comes back
(`source_generated`). A type outside of the package keeps its whole name, and nothing in the class
name tells it from the type of that name inside.
-/

namespace OperationStubs.Name

/-- The name of a type, read off the name of its class. -/
def source (package suffix className : String) : String :=
  (if package = "" then "" else package ++ ".") ++
    Role.undot (String.ofList (className.toList.take (className.length - suffix.length)))

theorem dot_notMem_generated (package qualified : String) {suffix : String}
    (plain : '.' ∉ suffix.toList) : '.' ∉ (generated package qualified suffix).toList := by
  rw [generated, String.toList_append, String.toList_map, List.mem_append, not_or]
  refine ⟨fun mem => ?_, plain⟩
  obtain ⟨c, -, eq⟩ := List.mem_map.1 mem
  split at eq
  · cases eq
  · rename_i dot
    exact dot eq

theorem source_generated (suffix : String) {package qualified : String}
    (dollar : '$' ∉ qualified.toList)
    (inside : package = "" ∨ ∃ rest, qualified = package ++ "." ++ rest) :
    source package suffix (generated package qualified suffix) = qualified := by
  -- What is left of the class name when its suffix is gone.
  let flat := (inPackage package qualified).toList.map fun c => if c = '.' then '$' else c
  have taken : (generated package qualified suffix).toList.take
      ((generated package qualified suffix).length - suffix.length) = flat := by
    have length : (generated package qualified suffix).length = flat.length + suffix.length := by
      simp only [generated, flat, String.length_append, String.length_map, List.length_map,
        String.length_toList]
    rw [length, Nat.add_sub_cancel, generated, String.toList_append, String.toList_map]
    exact List.take_left
  have undone (inner : '$' ∉ (inPackage package qualified).toList) :
      Role.undot (String.ofList flat) = inPackage package qualified := by
    apply String.toList_inj.1
    rw [Role.undot, String.toList_map, String.toList_ofList]
    exact Role.map_undot_flat inner
  rw [source, taken]
  rcases eq_inPackage inside with ⟨default, name⟩ | ⟨named, name⟩
  · rw [if_pos default, String.empty_append, undone (name ▸ dollar), ← name]
  · have inner : '$' ∉ (inPackage package qualified).toList := by
      rw [name, String.toList_append, List.mem_append, not_or] at dollar
      exact dollar.2
    rw [if_neg named, undone inner, ← name]

/-- Only in the default package does a full name have no dot. -/
theorem dot_notMem_fqcn_iff {className : String} (dot : '.' ∉ className.toList) {package : String} :
    '.' ∉ (fqcn package className).toList ↔ package = "" := by
  unfold fqcn
  by_cases default : package = ""
  · simp [default, dot]
  · simp [default]

/-- Neither of the two suffixes ends with the other. -/
theorem generated_loader_ne_operator (package qualified package' qualified' : String) :
    generated package qualified Loader.suffix ≠ generated package' qualified' Operator.suffix := by
  intro same
  have ends (package qualified suffix : String) :
      suffix.toList <:+ (generated package qualified suffix).toList := by
    rw [generated, String.toList_append]
    exact List.suffix_append _ _
  have operator := ends package' qualified' Operator.suffix
  rw [← same] at operator
  have nested : Loader.suffix.toList <:+ Operator.suffix.toList :=
    List.suffix_of_suffix_length_le (ends package qualified _) operator (by decide)
  exact absurd nested (by decide)

/-- What the names of a class tell about the names it is made of. -/
structure Readable (package qualified suffix : String) : Prop where
  flat : '.' ∉ (generated package qualified suffix).toList
  /-- The full name, cut at its last dot. -/
  cut : Text.cutLast '.' (fqcn package (generated package qualified suffix)).toList =
    if package = "" then none
    else some (package.toList, (generated package qualified suffix).toList)
  default : '.' ∉ (fqcn package (generated package qualified suffix)).toList ↔ package = ""
  /-- A type without dollars that is in the package comes back from the name of its class. -/
  source : '$' ∉ qualified.toList →
    (package = "" ∨ ∃ rest, qualified = package ++ "." ++ rest) →
      Name.source package suffix (generated package qualified suffix) = qualified

/-- The names of a class can be read back, and tell whether it is a loader or an operator. -/
theorem readable_generated (package qualified : String) {suffix : String}
    (plain : '.' ∉ suffix.toList) :
    Readable package qualified suffix ∧ ∀ package' qualified',
      generated package qualified Loader.suffix ≠
        generated package' qualified' Operator.suffix := by
  have flat := dot_notMem_generated package qualified plain
  refine ⟨⟨flat, ?_, ?_, ?_⟩, ?_⟩
  · exact cutLast_fqcn flat package
  · exact dot_notMem_fqcn_iff flat
  · exact source_generated suffix
  · exact generated_loader_ne_operator package qualified

/-- A package that begins with a dot and ends with two. -/
theorem readable_generated_dots :
    let package := ".a.."
    let qualified := ".a...b..C"
    let className := "b$$C$$Loader"
    '.' ∉ Loader.suffix.toList ∧ Readable package qualified Loader.suffix ∧
      generated package qualified Loader.suffix = className ∧
      Text.cutLast '.' ".a...b$$C$$Loader".toList = some (package.toList, className.toList) ∧
      '$' ∉ qualified.toList ∧ qualified = package ++ "." ++ "b..C" ∧
      source package Loader.suffix className = qualified := by
  intro package qualified className
  have plain : '.' ∉ Loader.suffix.toList := by decide
  have dollar : '$' ∉ qualified.toList := by decide
  have inside : qualified = package ++ "." ++ "b..C" := by decide
  have name : generated package qualified Loader.suffix = className := by decide +kernel
  obtain ⟨readable, -⟩ := readable_generated package qualified plain
  have restored := readable.source dollar (.inr ⟨_, inside⟩)
  rw [name] at restored
  exact ⟨plain, readable, name, by decide +kernel, dollar, inside, restored⟩

/-- Of a type outside of the package the whole name goes into that of the class. -/
example : generated "com.ex" "com.example.Foo" "X" = "com$example$FooX" ∧
    generated "p" "Foo" "X" = generated "p" "p.Foo" "X" := by decide +kernel

end OperationStubs.Name
