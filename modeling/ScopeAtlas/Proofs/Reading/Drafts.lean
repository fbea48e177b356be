import ScopeAtlas.Extraction.Extractor
import ScopeAtlas.Proofs.Extraction.Tags

/-!
# Which drafts add references

Only the implementation of a trait adds a reference that stands for no identifier of the text, and
the clause that lists the trait stands in the same draft.  All other readings, of all languages, add
none.
-/

namespace ScopeAtlas.Reading

open ScopeAtlas.Extraction ScopeAtlas.Language ScopeAtlas.Syntax

namespace EcmaScript

@[simp]
theorem everyDraft_functionSteps (ctx : Context) (place function : Cursor) (name : String)
    (nameNode : Option Cursor) (depth : Nat) (parent keyword : Option String) :
    EveryDraft (·.synthetic = [])
      (functionSteps ctx place function name nameNode depth parent keyword) := by
  simp [functionSteps]

@[simp]
theorem everyDraft_declaratorSteps (ctx : Context) (declaration : Cursor) (count : Nat)
    (keyword : String) (depth : Nat) (parent : Option String) (declarator : Cursor) :
    EveryDraft (·.synthetic = [])
      (declaratorSteps ctx declaration count keyword depth parent declarator) := by
  simp only [declaratorSteps]
  split
  · exact everyDraft_nil
  · split
    · simp
    · -- Whether or not the variable is a scope, only its value is entered after it.
      split <;> cases declarator.childByField? "value" <;> simp [variableDraft]

theorem strategy_drafts (ctx : Context) : strategy.Drafts ctx (·.synthetic = []) := by
  intro construct reading chosen place depth parent
  simp only [strategy] at chosen
  split at chosen <;> try obtain rfl := Option.some.inj chosen
  · simp [readClass]
  · simp [readInterface]
  · simp [readFunction]
  · simp [readMethod]
  · simp [readEnum]
  · simp [readTypeAlias]
  · simp [readNamespace]
  · simp [readVariables]
  · contradiction

end EcmaScript

namespace Python

@[simp]
theorem everyDraft_functionSteps (decorators : List Decorator) (ctx : Context) (place : Cursor)
    (depth : Nat) (parent : Option String) :
    EveryDraft (·.synthetic = []) (functionSteps decorators ctx place depth parent) := by
  simp [functionSteps]

@[simp]
theorem everyDraft_classSteps (decorators : List Decorator) (ctx : Context) (place : Cursor)
    (depth : Nat) (parent : Option String) :
    EveryDraft (·.synthetic = []) (classSteps decorators ctx place depth parent) := by
  simp [classSteps]

theorem everyDraft_readStatement (ctx : Context) (place : Cursor) (depth : Nat)
    (parent : Option String) :
    EveryDraft (·.synthetic = []) (readStatement ctx place depth parent) := by
  rw [readStatement]
  repeat' split
  all_goals simp [lambdaDraft, bindingDraft]

theorem strategy_drafts (ctx : Context) : strategy.Drafts ctx (·.synthetic = []) := by
  intro construct reading chosen place depth parent
  simp only [strategy] at chosen
  split at chosen <;> try obtain rfl := Option.some.inj chosen
  · simp [readClass]
  · simp [readFunction]
  · rw [stepsOf_always, readDecorated]
    split
    · simp
    · split <;> simp
  · exact everyDraft_readStatement ctx place depth parent
  · contradiction

end Python

namespace Go

theorem strategy_drafts (ctx : Context) : strategy.Drafts ctx (·.synthetic = []) := by
  intro construct reading chosen place depth parent
  simp only [strategy] at chosen
  split at chosen <;> try obtain rfl := Option.some.inj chosen
  · simp [readFunction]
  · simp [readMethod]
  · simp [readTypes, typeDraft]
  · rw [stepsOf_always, readBindings]
    split
    · exact everyDraft_nil
    · simp [bindingDraft]
  · contradiction

end Go

namespace CSharp

@[simp]
theorem everyDraft_namespaceSteps (extent : List Cursor) (ctx : Context) (place : Cursor)
    (depth : Nat) (parent : Option String) :
    EveryDraft (·.synthetic = []) (namespaceSteps extent ctx place depth parent) := by
  simp [namespaceSteps]

@[simp]
theorem everyDraft_unitSteps (ctx : Context) (depth : Nat) (parent : Option String)
    (places : List Cursor) :
    EveryDraft (·.synthetic = []) (unitSteps ctx depth parent places) := by
  induction places with
  | nil => exact everyDraft_nil
  | cons place rest ih =>
      rw [unitSteps]
      split
      · simp
      · simp [ih]

theorem everyDraft_readType (ctx : Context) (place : Cursor) (depth : Nat)
    (parent : Option String) :
    EveryDraft (·.synthetic = []) (stepsOf (readType ctx place depth parent)) := by
  rw [readType]
  split <;> simp [typeSteps]

theorem strategy_drafts (ctx : Context) : strategy.Drafts ctx (·.synthetic = []) := by
  intro construct reading chosen place depth parent
  simp only [strategy] at chosen
  split at chosen <;> try obtain rfl := Option.some.inj chosen
  · simp [readUnit]
  · simp [readNamespace]
  · exact everyDraft_readType ctx place depth parent
  · exact everyDraft_readType ctx place depth parent
  · simp [readEnum]
  · simp [readMethod]
  · simp [readLocalFunction]
  · simp [readDelegate]
  · contradiction

end CSharp

namespace CFamily

@[simp]
theorem everyDraft_functionSteps (ctx : Context) (place scopePlace : Cursor)
    (generics : List GenericParameter) (depth : Nat) (parent : Option String) :
    EveryDraft (·.synthetic = []) (functionSteps ctx place scopePlace generics depth parent) := by
  simp only [functionSteps]
  repeat' split
  all_goals simp

@[simp]
theorem everyDraft_recordSteps (ctx : Context) (place scopePlace : Cursor) (given : GivenName)
    (generics : List GenericParameter) (depth : Nat) (parent : Option String) :
    EveryDraft (·.synthetic = [])
      (stepsOf (recordSteps ctx place scopePlace given generics depth parent)) := by
  rw [recordSteps]
  repeat' split
  all_goals simp [bodySteps]

@[simp]
theorem everyDraft_typeSteps (ctx : Context) (place scopePlace : Cursor) (given : GivenName)
    (depth : Nat) (parent : Option String) :
    EveryDraft (·.synthetic = [])
      (stepsOf (typeSteps ctx place scopePlace given depth parent)) := by
  rw [typeSteps]
  split
  · rw [stepsOf_ok, enumSteps]
    split <;> simp
  · simp

@[simp]
theorem everyDraft_usingSteps (ctx : Context) (place scopePlace : Cursor)
    (generics : List GenericParameter) (depth : Nat) (parent : Option String) :
    EveryDraft (·.synthetic = []) (usingSteps ctx place scopePlace generics depth parent) := by
  simp [usingSteps]

@[simp]
theorem everyDraft_readTypeDefinition (ctx : Context) (place : Cursor) (depth : Nat)
    (parent : Option String) :
    EveryDraft (·.synthetic = []) (stepsOf (readTypeDefinition ctx place depth parent)) := by
  simp only [readTypeDefinition]
  split
  · split
    · exact everyDraft_typeSteps ctx _ _ _ depth parent
    · refine of_stepsOf_map_append (EveryDraft _) everyDraft_nil ?_
      split <;> simp
  · repeat' split
    all_goals simp

theorem everyDraft_readDeclaration (ctx : Context) (place : Cursor) (depth : Nat)
    (parent : Option String) :
    EveryDraft (·.synthetic = []) (stepsOf (readDeclaration ctx place depth parent)) := by
  unfold readDeclaration
  extract_lets type defined declarators qualifiers named
  have definedPlain : EveryDraft (·.synthetic = []) (stepsOf defined) := by
    simp only [defined]
    split <;> simp
  split
  · exact definedPlain
  · refine of_stepsOf_map_append (EveryDraft _) everyDraft_nil ?_
    simpa [variableDraft] using definedPlain

theorem everyDraft_readTemplate (ctx : Context) (place : Cursor) (depth : Nat)
    (parent : Option String) :
    EveryDraft (·.synthetic = []) (stepsOf (readTemplate ctx place depth parent)) := by
  simp only [readTemplate]
  repeat' split
  all_goals simp

theorem cStrategy_drafts (ctx : Context) : cStrategy.Drafts ctx (·.synthetic = []) := by
  intro construct reading chosen place depth parent
  simp only [cStrategy, commonReading?] at chosen
  split at chosen <;> try obtain rfl := Option.some.inj chosen
  · simp [readFunction]
  · simp [readSpecifier]
  · simp [readSpecifier]
  · rw [readAlias]
    split <;> simp
  · exact everyDraft_readDeclaration ctx place depth parent
  · simp [readMacro]
  · contradiction

theorem cppStrategy_drafts (ctx : Context) : cppStrategy.Drafts ctx (·.synthetic = []) := by
  intro construct reading chosen place depth parent
  simp only [cppStrategy] at chosen
  split at chosen
  · obtain rfl := Option.some.inj chosen
    simp [readNamespace]
  · obtain rfl := Option.some.inj chosen
    exact everyDraft_readTemplate ctx place depth parent
  · exact cStrategy_drafts ctx _ reading chosen place depth parent

end CFamily

namespace Rust

/-- The reference to a trait is tagged as the clause beside it says. -/
theorem everyDraft_readImplementation (ctx : Context) (place : Cursor) (depth : Nat)
    (parent : Option String) :
    EveryDraft Draft.Backed (readImplementation ctx place depth parent) := by
  rw [readImplementation, everyDraft_scope_cons]
  refine ⟨?_, everyDraft_enterBody _ _ _⟩
  intro reference member kind tag
  obtain ⟨trait, traitMem, rfl⟩ := List.mem_map.mp member
  refine ⟨_, List.mem_map.mpr ⟨trait, traitMem, rfl⟩, Option.some.inj tag, ctx.text trait, ?_, rfl⟩
  exact List.mem_singleton_self _

/-- Every other reading adds no reference. -/
theorem everyDraft_of_ne_implementation {ctx : Context} {construct : Construct} {reading : Reading}
    (chosen : strategy.reading? construct = some reading) (other : construct ≠ .implementation)
    (place : Cursor) (depth : Nat) (parent : Option String) :
    EveryDraft (·.synthetic = []) (stepsOf (reading ctx place depth parent)) := by
  simp only [strategy] at chosen
  split at chosen <;> try obtain rfl := Option.some.inj chosen
  · simp [readStruct]
  · simp [readTrait]
  · contradiction
  · simp [readFunction]
  · simp [readEnum]
  · simp [readTypeAlias]
  · simp [readModule]
  · rw [stepsOf_always, readConstant]
    split <;> simp
  · contradiction

end Rust

/-- What holds of drafts that add no reference, and of those of Rust implementations, holds of the
drafts of every language. -/
theorem strategyOf_drafts_of_plain {holds : Draft → Prop} {family : Family} {ctx : Context}
    (plain : ∀ draft : Draft, draft.synthetic = [] → holds draft)
    (implementation : family = .rust → ∀ place depth parent,
      EveryDraft holds (Rust.readImplementation ctx place depth parent)) :
    (strategyOf family).Drafts ctx holds := by
  have adds : ∀ strategy : Strategy, strategy.Drafts ctx (·.synthetic = []) →
      strategy.Drafts ctx holds := by
    intro strategy none construct reading chosen place depth parent draft member
    exact plain draft (none construct reading chosen place depth parent draft member)
  cases family with
  | typescript => exact adds _ (EcmaScript.strategy_drafts ctx)
  | python => exact adds _ (Python.strategy_drafts ctx)
  | rust =>
      intro construct reading chosen place depth parent
      by_cases isImplementation : construct = .implementation
      · subst isImplementation
        obtain rfl := Option.some.inj chosen
        exact implementation rfl place depth parent
      · intro draft member
        exact plain draft
          (Rust.everyDraft_of_ne_implementation chosen isImplementation place depth parent draft
            member)
  | go => exact adds _ (Go.strategy_drafts ctx)
  | c => exact adds _ (CFamily.cStrategy_drafts ctx)
  | cpp => exact adds _ (CFamily.cppStrategy_drafts ctx)
  | csharp => exact adds _ (CSharp.strategy_drafts ctx)

/-- In every language a reference that a draft adds is backed by a clause of the draft. -/
theorem strategyOf_drafts (family : Family) (ctx : Context) :
    (strategyOf family).Drafts ctx Draft.Backed :=
  strategyOf_drafts_of_plain (fun _ none => Draft.backed_of_synthetic_eq_nil none)
    fun _ => Rust.everyDraft_readImplementation ctx

/-- An extracted file is the analysis of its tree by the readings of some profile. -/
theorem exists_analyze_of_extractTree {registry : Registry} {stack : StackLimit}
    {includeModuleScopes : Bool} {path language : String} {bytes : ByteArray} {tree : Node}
    {file : FileAnalysis}
    (extracted : extractTree registry stack includeModuleScopes path language bytes tree =
      .ok file) :
    ∃ profile : Profile, file = analyze profile (strategyOf profile.family) stack
      includeModuleScopes path language bytes tree := by
  rw [extractTree] at extracted
  cases known : registry.profile language with
  | error fault =>
      rw [known] at extracted
      contradiction
  | ok profile =>
      cases loaded : registry.load language with
      | error fault =>
          rw [known, loaded] at extracted
          contradiction
      | ok grammar =>
          rw [known, loaded] at extracted
          exact ⟨profile, (Except.ok.inj extracted).symm⟩

/-- Every tag of an extracted scope is backed by a clause of the scope. -/
theorem tagsListed_of_extractTree {registry : Registry} {stack : StackLimit}
    {includeModuleScopes : Bool} {path language : String} {bytes : ByteArray} {tree : Node}
    {file : FileAnalysis}
    (extracted : extractTree registry stack includeModuleScopes path language bytes tree =
      .ok file) :
    ∀ scope ∈ file.scopes, TagsListed scope.heritageClauses scope.references := by
  intro scope member
  obtain ⟨profile, rfl⟩ := exists_analyze_of_extractTree extracted
  obtain ⟨ctx, draft, backed, rfl⟩ := exists_draft_of_mem_analyze (strategyOf_drafts profile.family)
    (fun _ plain => Draft.backed_of_synthetic_eq_nil plain.2) member
  exact backed.tagsListed_complete ctx _

end ScopeAtlas.Reading
