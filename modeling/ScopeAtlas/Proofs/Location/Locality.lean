import ScopeAtlas.Proofs.Text.Cutting
import ScopeAtlas.Workspace.Linking

/-!
# Imports that lead into the project

The class of a specifier decides whether its import is followed at all, and only the search for the
file knows where it leads.  The two are written apart for every ecosystem.  A specifier that leads
to a file of the project is local, save in four cases: a bare specifier that is found from the base
directory, a module of the name of a declared dependency, a vendored package, and a path that
begins with its separator.
-/

namespace ScopeAtlas.Location

open ScopeAtlas.Files ScopeAtlas.Graph ScopeAtlas.Language ScopeAtlas.Text ScopeAtlas.Workspace

/-- A search that finds a file in an import that is followed to at most one. -/
theorem exists_of_atMostOne {found : Except PathFault (Option Path)} {files : List Path}
    (located : atMostOne found = .ok files) (nonempty : files ≠ []) :
    ∃ file, found = .ok (some file) := by
  cases found with
  | error fault => contradiction
  | ok file? =>
      cases file? with
      | none =>
          obtain rfl := Except.ok.inj located
          contradiction
      | some file => exact ⟨file, rfl⟩

/-! ## Ecosystem by ecosystem -/

namespace EcmaScript

/-- The specifier is no path and has no short name. -/
def IsBare (project : Project) (specifier : String) : Prop :=
  isRelativeSpecifier specifier = false ∧ startsWith "/" specifier = false ∧
    aliasTargets? specifier project.manifest.pathAliases = none ∧
    startsWithAny ["@/", "~/"] specifier = false

/-- A bare specifier belongs to the runtime or to a package, any other to the project. -/
theorem isLocal_classify_iff (project : Project) (specifier : String) :
    (classify project specifier).isLocal = true ↔ ¬IsBare project specifier := by
  rw [classify, IsBare]
  split
  · rename_i relative
    simp [relative, ImportClass.isLocal]
  · rename_i notRelative
    split
    · rename_i absolute
      simp [absolute, ImportClass.isLocal]
    · rename_i notAbsolute
      split
      · rename_i aliased
        rw [Bool.or_eq_true, Option.isSome_iff_ne_none] at aliased
        simp only [ImportClass.isLocal, true_iff]
        rintro ⟨_, _, unaliased, unmarked⟩
        rcases aliased with given | marked
        · exact given unaliased
        · rw [marked] at unmarked
          contradiction
      · rename_i unaliased
        simp only [Bool.or_eq_true, not_or, Bool.not_eq_true, Option.isSome_eq_false_iff,
          Option.isNone_iff_eq_none] at notRelative notAbsolute unaliased
        split <;> simp [ImportClass.isLocal, notRelative, notAbsolute, unaliased]

end EcmaScript

namespace Python

/-- The module is named from a source directory, and its first segment is the name of a declared
dependency. -/
def IsDeclared (project : Project) (specifier : String) : Prop :=
  startsWith "." specifier = false ∧
    normalizeName (beforeFirst "." specifier) ∈ project.manifest.allDependencies

theorem takeWhile_dot_isEmpty (specifier : String) :
    (specifier.toList.takeWhile (· == '.')).isEmpty = !startsWith "." specifier := by
  rw [startsWith]
  cases specifier.toList with
  | nil => rfl
  | cons c rest =>
      by_cases dot : c = '.'
      · simp [dot]
      · have differs : ('.' == c) = false := by simpa using fun same => dot same.symm
        simp [dot, differs, List.isPrefixOf]

/-- The module of a name that is found belongs to the project, unless a dependency has the name. -/
theorem exists_classify_of_located {project : Project} {specifier : String} {current file : Path}
    (located : locate? project specifier current = .ok (some file)) :
    ∃ importClass, classify project specifier = .ok importClass ∧
      (importClass.isLocal = true ↔ ¬IsDeclared project specifier) := by
  simp only [locate?, takeWhile_dot_isEmpty, Bool.not_not] at located
  rw [classify, IsDeclared]
  by_cases relative : startsWith "." specifier = true
  · exact ⟨.relative, by simp [relative], by simp [relative, ImportClass.isLocal]⟩
  · rw [Bool.not_eq_true] at relative
    rw [relative] at located ⊢
    by_cases builtin : isBuiltin specifier = true
    · simp [builtin] at located
    · rw [Bool.not_eq_true] at builtin
      rw [builtin] at located ⊢
      by_cases declared : normalizeName (beforeFirst "." specifier) ∈
          project.manifest.allDependencies
      · exact ⟨.package, by simp [declared], by simp [declared, ImportClass.isLocal]⟩
      · have found : findModule? project specifier = .ok (some file) := by simpa using located
        exact ⟨.absolute, by simp [declared, found], by simp [declared, ImportClass.isLocal]⟩

end Python

namespace Rust

theorem not_isOwnName_empty (project : Project) : isOwnName project "" = false := by
  rw [isOwnName, Manifest.properName?]
  split
  · split
    · rfl
    · rename_i nonempty
      simpa [String.isEmpty_iff] using nonempty
  · rfl

/-- A path that does not begin with its separator begins with its first segment. -/
theorem exists_filter_split_eq_cons {specifier : String} (opens : head specifier ≠ "") :
    ∃ later, (split "::" specifier).filter (!·.isEmpty) = head specifier :: later := by
  have first := head?_split "::" specifier
  cases pieces : split "::" specifier with
  | nil =>
      rw [pieces] at first
      contradiction
  | cons piece later =>
      rw [pieces, List.head?_cons, Option.some.injEq, ← head] at first
      subst first
      exact ⟨_, List.filter_cons_of_pos (by simpa [String.isEmpty_iff] using opens)⟩

/-- A path that leads to a file begins with a name of the crate or of a module around, which makes
it one of the project unless the separator stands before it. -/
theorem isLocal_classify_iff_of_located {project : Project} {specifier : String}
    {current file : Path} (located : locate? project specifier current = .ok (some file)) :
    (classify project specifier).isLocal = true ↔ ¬head specifier = "" := by
  by_cases opens : head specifier = ""
  · simp only [opens, not_true_eq_false, iff_false, Bool.not_eq_true]
    rw [classify, opens, not_isOwnName_empty]
    -- The empty segment is no keyword and no crate of the compiler; only a dependency could have it.
    have plain : (["crate", "self", "super"].contains "" || false) = false ∧
        standardCrates.contains "" = false ∧ commonCrates.contains "" = false := by decide
    simp only [plain.1, plain.2.1, plain.2.2, Bool.false_eq_true, if_false, Bool.or_false]
    split <;> rfl
  · simp only [opens, not_false_eq_true, iff_true]
    obtain ⟨later, kept⟩ := exists_filter_split_eq_cons opens
    simp only [locate?, kept] at located
    rw [classify]
    by_cases own : isOwnName project (head specifier) = true
    · simp [own, ImportClass.isLocal]
    · by_cases keyword : head specifier ∈ ["crate", "self", "super"]
      · simp [keyword, ImportClass.isLocal]
      · simp only [List.mem_cons, List.not_mem_nil, or_false, not_or] at keyword
        simp only [own, keyword, beq_iff_eq, if_false, Bool.or_false] at located
        exact nomatch Except.ok.inj located

end Rust

namespace Go

/-- The package lies neither near the importing file nor below the module of the project. -/
def IsForeign (project : Project) (specifier : String) : Prop :=
  isRelativeSpecifier specifier = false ∧ belowModule? project specifier = none

theorem isLocal_classify_iff_of_located {project : Project} {specifier : String} {current : Path}
    {files : List Path} (located : locate project specifier current = .ok files)
    (nonempty : files ≠ []) :
    (classify project specifier).isLocal = true ↔ ¬IsForeign project specifier := by
  by_cases builtin : isBuiltin specifier = true
  · simp only [locate, packageDirectory?, builtin, if_true] at located
    obtain rfl := Except.ok.inj located
    contradiction
  · rw [classify, IsForeign]
    simp only [builtin, Bool.false_eq_true, if_false]
    split
    · rename_i near
      rw [Bool.or_eq_true, Option.isSome_iff_ne_none] at near
      simp only [ImportClass.isLocal, true_iff]
      rintro ⟨notRelative, outside⟩
      rcases near with relative | below
      · rw [relative] at notRelative
        contradiction
      · exact below outside
    · rename_i far
      simp only [Bool.or_eq_true, not_or, Bool.not_eq_true, Option.isSome_eq_false_iff,
        Option.isNone_iff_eq_none] at far
      split
      · simp [far, ImportClass.isLocal]
      · split <;> simp [far, ImportClass.isLocal]

end Go

namespace CFamily

/-- Every header that is found belongs to the project. -/
theorem isLocal_classify_of_located {project : Project} {specifier : String} {current file : Path}
    (located : locate? project specifier current = .ok (some file)) :
    (classify specifier).isLocal = true := by
  rw [locate?] at located
  cases found : classify specifier with
  | relative | absolute | aliased => rfl
  | package | builtin | unknown =>
      rw [found] at located
      exact nomatch Except.ok.inj located

end CFamily

namespace CSharp

/-- Every namespace that is found belongs to the project. -/
theorem exists_classify_of_located {project : Project} {specifier : String} {files : List Path}
    (located : locate project specifier = .ok files) (nonempty : files ≠ []) :
    ∃ importClass, classify project specifier = .ok importClass ∧ importClass.isLocal = true := by
  rw [locate] at located
  cases known : classify project specifier with
  | error fault =>
      rw [known] at located
      contradiction
  | ok importClass =>
      rw [known] at located
      refine ⟨importClass, rfl, ?_⟩
      cases importClass with
      | relative | absolute | aliased => rfl
      | package | builtin =>
          obtain rfl := Except.ok.inj located
          contradiction
      | unknown =>
          -- Only a name without files is of no known class.
          have found : namespaceFiles project specifier = .ok files := located
          rw [classify, found] at known
          grind

end CSharp

/-! ## All ecosystems -/

/-- The specifiers that may lead to a file of the project without being local. -/
inductive Overlooked (project : Project) (specifier : String) : Family → Prop where
  /-- The base directory makes bare specifiers lead into the project. -/
  | bare (found : EcmaScript.IsBare project specifier) : Overlooked project specifier .typescript
  /-- A module of the project has the name of a declared dependency. -/
  | declared (found : Python.IsDeclared project specifier) : Overlooked project specifier .python
  /-- Packages of others may lie in a directory of the project. -/
  | vendored (found : Go.IsForeign project specifier) : Overlooked project specifier .go
  /-- The separator that a path begins with hides its first segment. -/
  | anchored (found : Rust.head specifier = "") : Overlooked project specifier .rust

theorem overlooked_iff (project : Project) (specifier : String) (family : Family) :
    Overlooked project specifier family ↔
      match family with
      | .typescript => EcmaScript.IsBare project specifier
      | .python => Python.IsDeclared project specifier
      | .go => Go.IsForeign project specifier
      | .rust => Rust.head specifier = ""
      | .c | .cpp | .csharp => False := by
  constructor
  · rintro (found | found | found | found) <;> exact found
  · intro found
    cases family with
    | typescript => exact .bare found
    | python => exact .declared found
    | go => exact .vendored found
    | rust => exact .anchored found
    | c | cpp | csharp => exact found.elim

/-- A specifier that leads to files has a class, which is one of the project unless the specifier
is overlooked. -/
theorem exists_isLocal_of_located {family : Family} {project : Project} {specifier : String}
    {current : Path} {files : List Path}
    (located : (Ecosystem.ofFamily family).locate project specifier current = .ok files)
    (nonempty : files ≠ []) :
    ∃ flag, (Ecosystem.ofFamily family).isLocal project specifier = .ok flag ∧
      (flag = true ↔ ¬Overlooked project specifier family) := by
  rw [overlooked_iff]
  cases family with
  | typescript =>
      exact ⟨_, rfl, EcmaScript.isLocal_classify_iff project specifier⟩
  | python =>
      change (Python.locate? project specifier current).map Option.toList = _ at located
      cases found : Python.locate? project specifier current with
      | error fault =>
          rw [found] at located
          contradiction
      | ok file? =>
          rw [found] at located
          obtain rfl := Except.ok.inj located
          obtain ⟨file, rfl⟩ : ∃ file, file? = some file := by
            cases file? with
            | none => contradiction
            | some file => exact ⟨file, rfl⟩
          obtain ⟨importClass, known, locality⟩ := Python.exists_classify_of_located found
          refine ⟨importClass.isLocal, ?_, locality⟩
          change (Python.classify project specifier).map ImportClass.isLocal = _
          rw [known]
          rfl
  | rust =>
      obtain ⟨file, found⟩ := exists_of_atMostOne located nonempty
      exact ⟨_, rfl, Rust.isLocal_classify_iff_of_located found⟩
  | go =>
      have found : Go.locate project specifier current = .ok files := by
        change (do return ← Go.locate project specifier current : Except Fault (List Path)) = _
          at located
        cases found : Go.locate project specifier current with
        | error fault =>
            rw [found] at located
            contradiction
        | ok files' =>
            rw [found] at located
            rw [show files' = files from Except.ok.inj located]
      exact ⟨_, rfl, Go.isLocal_classify_iff_of_located found nonempty⟩
  | c | cpp =>
      obtain ⟨file, found⟩ := exists_of_atMostOne located nonempty
      exact ⟨_, rfl, by simpa using CFamily.isLocal_classify_of_located found⟩
  | csharp =>
      obtain ⟨importClass, known, ownClass⟩ := CSharp.exists_classify_of_located located nonempty
      refine ⟨importClass.isLocal, ?_, by simpa using ownClass⟩
      change (CSharp.classify project specifier).map ImportClass.isLocal = _
      rw [known]
      rfl

/-- A specifier that leads to files of the project is local unless it is overlooked.  A reference
that uses such an import is then marked as one to be followed, in every project, exactly when the
specifier is not overlooked. -/
theorem located_is_local_unless_overlooked {family : Family} {project : Project}
    {specifier : String} {current : Path} {files : List Path}
    (located : (Ecosystem.ofFamily family).locate project specifier current = .ok files)
    (nonempty : files ≠ []) :
    (∃ flag, (Ecosystem.ofFamily family).isLocal project specifier = .ok flag ∧
      (flag = true ↔ ¬Overlooked project specifier family)) ∧
    ∀ locators analyses file reference binding,
      locators file.language = some (Home.locator ⟨Ecosystem.ofFamily family, project⟩) →
      boundImport? (bindingTable file.imports) reference = some binding →
      binding.source = specifier →
      ∃ flag, fate locators analyses file reference = .usesImport binding flag ∧
        (flag = true ↔ ¬Overlooked project specifier family) := by
  obtain ⟨flag, known, locality⟩ := exists_isLocal_of_located located nonempty
  refine ⟨⟨flag, known, locality⟩, ?_⟩
  intro locators analyses file reference binding home bound source
  refine ⟨flag, ?_, locality⟩
  rw [fate, bound]
  simp only [isLocalImport, home, Home.locator, source, known]
  rfl

/-- A project with a module for each ecosystem that overlooks one. -/
def mixedProject : Project :=
  let empty : Entry := .file ByteArray.empty
  { files :=
      { top := [("p", .directory
          [("lib", .directory [("util.ts", empty)]),
            ("requests.py", empty),
            ("vendor", .directory [("example.com", .directory [("log", .directory
              [("log.go", empty)])])]),
            ("src", .directory [("shape.rs", empty)])])]
        here := Path.ofString "/" }
    root := Path.ofString "/p"
    manifest :=
      { name := .text "app", dependencies := ["requests"], sourceDirs := [Path.ofString "/p"] } }

theorem crate_module_is_local :
    (Ecosystem.ofFamily .rust).locate mixedProject "crate::shape::Circle"
        (Path.ofString "src/main.rs") = .ok [Path.ofString "/p/src/shape.rs"] ∧
      ∃ flag, (Ecosystem.ofFamily .rust).isLocal mixedProject "crate::shape::Circle" = .ok flag ∧
        (flag = true ↔ ¬Overlooked mixedProject "crate::shape::Circle" .rust) := by
  have located : (Ecosystem.ofFamily .rust).locate mixedProject "crate::shape::Circle"
      (Path.ofString "src/main.rs") = .ok [Path.ofString "/p/src/shape.rs"] := by rfl
  exact ⟨located, (located_is_local_unless_overlooked located (by simp)).1⟩

/-- The specifier leads to a file of the project, and is not local. -/
def FoundAsForeign (family : Family) (specifier file : String) : Prop :=
  ((Ecosystem.ofFamily family).locate mixedProject specifier (Path.ofString "main")).toOption =
      some [Path.ofString file] ∧
    ((Ecosystem.ofFamily family).isLocal mixedProject specifier).toOption = some false

instance (family : Family) (specifier file : String) :
    Decidable (FoundAsForeign family specifier file) :=
  inferInstanceAs (Decidable (_ ∧ _))

/-- In four ecosystems a specifier leads to a file of the project and is not local. -/
theorem overlooked_specifiers_are_found :
    FoundAsForeign .typescript "lib/util" "/p/lib/util.ts" ∧
      FoundAsForeign .python "requests" "/p/requests.py" ∧
      FoundAsForeign .go "example.com/log" "/p/vendor/example.com/log/log.go" ∧
      FoundAsForeign .rust "::app::shape" "/p/src/shape.rs" := by
  decide +kernel

end ScopeAtlas.Location
