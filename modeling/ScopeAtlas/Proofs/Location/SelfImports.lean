import ScopeAtlas.Location.Ecosystem
import ScopeAtlas.Proofs.Text.Cutting

/-!
# Imports of a project by its own name

A manifest records the names by which the modules of a project import each other: the path of a Go
module, the name of a Rust crate, the root namespace of a C# project and those of the projects it
refers to.  A specifier that is such a name, or lies below one, names a module of the project.  Rust
looks at the name before anything else.  Go and C# look for the standard library first, and so take a
project that is named like a part of it for that part.
-/

namespace ScopeAtlas.Location

open ScopeAtlas.Data ScopeAtlas.Files ScopeAtlas.Language ScopeAtlas.Text

/-- What stands between the segments of a specifier. -/
def separator : Family → String
  | .rust => "::"
  | .csharp => "."
  | _ => "/"

/-- A name by which the modules of a project import each other, as the manifest records it. -/
inductive OwnName (manifest : Manifest) : Family → String → Prop where
  | module {name : String} (recorded : manifest.name = .text name) (nonempty : name ≠ "") :
      OwnName manifest .go name
  | crate {name : String} (recorded : manifest.name = .text name) (nonempty : name ≠ "") :
      OwnName manifest .rust name
  | rootNamespace {name : String} (recorded : manifest.name = .text name) (nonempty : name ≠ "") :
      OwnName manifest .csharp name
  | reference {name : String} (recorded : name ∈ manifest.projectReferences)
      (nonempty : name ≠ "") : OwnName manifest .csharp name

/-- The specifier is the name, or continues it with a separator. -/
def AtOrBelow (family : Family) (name specifier : String) : Prop :=
  specifier = name ∨ ∃ rest, specifier = name ++ separator family ++ rest

/-- The ways in which a specifier at or below a name of the project is not read as one. -/
inductive Shadowed (name specifier : String) : Family → Prop where
  /-- The first segment of a module path, or the whole specifier, is a package of the standard
  library.  A host keeps a module path from being taken for one. -/
  | standardPackage (hostless : contains "." (beforeFirst "/" name) = false)
      (standard : beforeFirst "/" name ∈ Go.standardPackages ∨ specifier ∈ Go.standardPackages) :
      Shadowed name specifier .go
  /-- The first segment of a namespace is one of the base library. -/
  | baseLibrary (standard : beforeFirst "." name ∈ ["System", "Microsoft"]) :
      Shadowed name specifier .csharp
  /-- The name is cut by a separator of its own. -/
  | torn (cut : Rust.head specifier ≠ name)
      (foreign : Rust.head specifier ∉ ["crate", "self", "super"]) : Shadowed name specifier .rust

theorem shadowed_iff (name specifier : String) (family : Family) :
    Shadowed name specifier family ↔
      match family with
      | .go => contains "." (beforeFirst "/" name) = false ∧
          (beforeFirst "/" name ∈ Go.standardPackages ∨ specifier ∈ Go.standardPackages)
      | .csharp => beforeFirst "." name ∈ ["System", "Microsoft"]
      | .rust => Rust.head specifier ≠ name ∧ Rust.head specifier ∉ ["crate", "self", "super"]
      | _ => False := by
  constructor
  · rintro (⟨hostless, standard⟩ | standard | ⟨cut, foreign⟩)
    · exact ⟨hostless, standard⟩
    · exact standard
    · exact ⟨cut, foreign⟩
  · intro found
    cases family with
    | go => exact .standardPackage found.1 found.2
    | csharp => exact .baseLibrary found
    | rust => exact .torn found.1 found.2
    | typescript | python | c | cpp => exact found.elim

namespace Manifest

theorem properName?_eq_some {manifest : Manifest} {name : String}
    (recorded : manifest.name = .text name) (nonempty : name ≠ "") :
    manifest.properName? = some name := by
  simp [properName?, recorded, nonempty]

end Manifest

/-! ## Names and the specifiers below them -/

/-- A specifier at or below a name has its first segment, where the separator is one character. -/
theorem AtOrBelow.beforeFirst_eq {family : Family} {name specifier : String} {c : Char}
    (below : AtOrBelow family name specifier) (single : (separator family).toList = [c]) :
    beforeFirst (separator family) specifier = beforeFirst (separator family) name := by
  rcases below with rfl | ⟨rest, rfl⟩
  · rfl
  · exact beforeFirst_append_mark single name rest

theorem AtOrBelow.eq_or_startsWith {family : Family} {name specifier : String}
    (below : AtOrBelow family name specifier) :
    specifier = name ∨ startsWith (name ++ separator family) specifier = true := by
  rcases below with same | ⟨rest, rfl⟩
  · exact Or.inl same
  · right
    simp [startsWith]

namespace Go

/-- A specifier at or below the module path is one of the project, unless it is taken for a package
of the standard library. -/
theorem isLocal_classify_iff_of_atOrBelow {project : Project} {name specifier : String}
    (recorded : project.manifest.properName? = some name)
    (below : AtOrBelow .go name specifier) :
    (classify project specifier).isLocal = true ↔ ¬Shadowed name specifier .go := by
  have first : beforeFirst "/" specifier = beforeFirst "/" name :=
    below.beforeFirst_eq (c := '/') rfl
  have within : (belowModule? project specifier).isSome = true := by
    have here : (specifier == name || startsWith (name ++ "/") specifier) = true := by
      simpa [separator] using below.eq_or_startsWith
    simp [belowModule?, recorded, here]
  have builtin : isBuiltin specifier = true ↔ Shadowed name specifier .go := by
    rw [shadowed_iff, isBuiltin, first, Bool.and_eq_true, Bool.not_eq_true', Bool.or_eq_true,
      List.contains_iff_mem, List.contains_iff_mem, or_comm]
  rw [classify, ← builtin]
  by_cases standard : isBuiltin specifier = true
  · simp [standard, ImportClass.isLocal]
  · simp [standard, within, ImportClass.isLocal]

end Go

namespace CSharp

/-- Every namespace of the base library begins with one of two segments. -/
theorem isBuiltin_iff (name : String) :
    isBuiltin name = true ↔ beforeFirst "." name ∈ ["System", "Microsoft"] := by
  have listed : ∀ known ∈ baseNamespaces, beforeFirst "." known ∈ ["System", "Microsoft"] := by
    decide +kernel
  rw [isBuiltin, Bool.or_eq_true, List.contains_iff_mem, List.contains_iff_mem]
  exact or_iff_right_of_imp (listed name)

/-- A namespace at or below a name of the project is one of the project, unless it is taken for one
of the base library. -/
theorem exists_classify_of_atOrBelow {project : Project} {name specifier : String}
    (own : OwnName project.manifest .csharp name) (below : AtOrBelow .csharp name specifier) :
    ∃ importClass, classify project specifier = .ok importClass ∧
      (importClass.isLocal = true ↔ ¬Shadowed name specifier .csharp) := by
  have first : beforeFirst "." specifier = beforeFirst "." name :=
    below.beforeFirst_eq (c := '.') rfl
  have within : isWithin name specifier = true := by
    simpa [isWithin, separator] using below.eq_or_startsWith
  have ofProject : isProjectNamespace project specifier = true := by
    rw [isProjectNamespace, List.any_eq_true]
    refine ⟨name, ?_, within⟩
    cases own with
    | rootNamespace recorded nonempty => simp [Manifest.properName?_eq_some recorded nonempty]
    | reference recorded nonempty => simp [recorded, nonempty]
  have builtin : isBuiltin specifier = true ↔ Shadowed name specifier .csharp := by
    rw [shadowed_iff, isBuiltin_iff, first]
  rw [classify, ← builtin]
  by_cases standard : isBuiltin specifier = true
  · exact ⟨.builtin, by simp [standard], by simp [standard, ImportClass.isLocal]⟩
  · exact ⟨.relative, by simp [standard, ofProject], by simp [standard, ImportClass.isLocal]⟩

end CSharp

namespace Rust

/-- A path is one of the project exactly if its first segment is the name of the crate or one of the
keywords for a module around. -/
theorem isLocal_classify_iff {project : Project} {name specifier : String}
    (recorded : project.manifest.properName? = some name) :
    (classify project specifier).isLocal = true ↔ ¬Shadowed name specifier .rust := by
  have own : isOwnName project (head specifier) = true ↔ head specifier = name := by
    rw [isOwnName, recorded, beq_iff_eq, Option.some.injEq]
    exact eq_comm
  rw [classify, shadowed_iff]
  by_cases near : head specifier ∈ ["crate", "self", "super"] ∨ head specifier = name
  · have here : (["crate", "self", "super"].contains (head specifier) ||
        isOwnName project (head specifier)) = true := by
      rw [Bool.or_eq_true, List.contains_iff_mem, own]
      exact near
    simp only [here, if_true, ImportClass.isLocal, true_iff]
    rintro ⟨cut, foreign⟩
    exact near.elim foreign cut
  · have away : (["crate", "self", "super"].contains (head specifier) ||
        isOwnName project (head specifier)) = false := by
      rw [← Bool.not_eq_true, Bool.or_eq_true, List.contains_iff_mem, own]
      exact near
    rw [not_or] at near
    simp only [away, Bool.false_eq_true, if_false, ne_eq, near, not_false_eq_true, and_self,
      not_true_eq_false, iff_false]
    split
    · nofun
    · split <;> nofun

/-- A name without a colon is the first segment of every path at or below it. -/
theorem head_of_atOrBelow {name specifier : String} (whole : ':' ∉ name.toList)
    (below : AtOrBelow .rust name specifier) : head specifier = name := by
  rw [head, ← String.toList_inj, toList_beforeFirst]
  rcases below with rfl | ⟨rest, rfl⟩
  · exact beforeFirstChars_of_not_mem [':'] whole
  · have spelled : (name ++ separator .rust ++ rest).toList =
        name.toList ++ (':' :: [':'] ++ rest.toList) := by
      simp [separator]
    rw [spelled]
    exact beforeFirstChars_append_of_not_mem [':'] rest.toList whole

end Rust

/-! ## All families -/

/-- A specifier at or below a name by which a project imports itself has a class, which is one of
the project unless the specifier is shadowed.  No path at or below the name of a crate is, as long as
the name holds no colon. -/
theorem self_imports_local_unless_shadowed {family : Family} {project : Project}
    {name specifier : String} (own : OwnName project.manifest family name)
    (below : AtOrBelow family name specifier) :
    (∃ flag, (Ecosystem.ofFamily family).isLocal project specifier = .ok flag ∧
      (flag = true ↔ ¬Shadowed name specifier family)) ∧
    (family = .rust → ':' ∉ name.toList → ¬Shadowed name specifier family) := by
  cases family with
  | go =>
      cases own with
      | module recorded nonempty =>
          have proper := Manifest.properName?_eq_some recorded nonempty
          exact ⟨⟨_, rfl, Go.isLocal_classify_iff_of_atOrBelow proper below⟩, nofun⟩
  | rust =>
      cases own with
      | crate recorded nonempty =>
          have proper := Manifest.properName?_eq_some recorded nonempty
          refine ⟨⟨_, rfl, Rust.isLocal_classify_iff proper⟩, fun _ whole shadowed => ?_⟩
          rw [shadowed_iff] at shadowed
          exact shadowed.1 (Rust.head_of_atOrBelow whole below)
  | csharp =>
      obtain ⟨importClass, known, locality⟩ := CSharp.exists_classify_of_atOrBelow own below
      refine ⟨⟨importClass.isLocal, ?_, locality⟩, nofun⟩
      change (CSharp.classify project specifier).map ImportClass.isLocal = _
      rw [known]
      rfl
  | typescript | python | c | cpp => nomatch own

/-- A project on an empty disk. -/
def bareProject (manifest : Manifest) : Project :=
  { files := { top := [], here := Path.ofString "/" }, root := Path.ofString "/", manifest := manifest }

theorem crate_item_is_self_import :
    let project := bareProject { name := .text "core" }
    OwnName project.manifest .rust "core" ∧ AtOrBelow .rust "core" "core::shape" ∧
      (∃ flag, (Ecosystem.ofFamily .rust).isLocal project "core::shape" = .ok flag ∧
        (flag = true ↔ ¬Shadowed "core" "core::shape" .rust)) ∧
      (Family.rust = .rust → ':' ∉ "core".toList → ¬Shadowed "core" "core::shape" .rust) := by
  have own : OwnName (bareProject { name := .text "core" }).manifest .rust "core" :=
    .crate rfl (by decide)
  have below : AtOrBelow .rust "core" "core::shape" := Or.inr ⟨"shape", by decide⟩
  exact ⟨own, below, self_imports_local_unless_shadowed own below⟩

/-- The specifier is at or below a name of the project, and is not local. -/
def SelfImportAsForeign (family : Family) (manifest : Manifest) (name specifier : String) : Prop :=
  OwnName manifest family name ∧ AtOrBelow family name specifier ∧
    ((Ecosystem.ofFamily family).isLocal (bareProject manifest) specifier).toOption = some false

/-- A Go module, a root namespace and a project reference that are named like a part of the standard
library are taken for it. -/
theorem standard_names_taken_for_library :
    SelfImportAsForeign .go { name := .text "image" } "image" "image/filters" ∧
      SelfImportAsForeign .csharp { name := .text "Microsoft.Widgets" } "Microsoft.Widgets"
        "Microsoft.Widgets.Models" ∧
      SelfImportAsForeign .csharp { name := .text "App", projectReferences := ["System.Tools"] }
        "System.Tools" "System.Tools" := by
  refine ⟨⟨.module rfl (by decide), Or.inr ⟨"filters", by decide⟩, by decide +kernel⟩,
    ⟨.rootNamespace rfl (by decide), Or.inr ⟨"Models", by decide⟩, by decide +kernel⟩,
    ⟨.reference (by decide) (by decide), Or.inl rfl, by decide +kernel⟩⟩

end ScopeAtlas.Location
