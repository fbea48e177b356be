import ScopeAtlas.Proofs.Data.Tables
import ScopeAtlas.Proofs.Extraction.Harvest
import ScopeAtlas.Reading.Strategies

/-!
# No reading fails

Most readings take every node as it is.  Those of C# types and of C records look for the keyword of
the kind of node, and fail at a kind that has none.  The node tables of the languages open these
constructs only at kinds with a keyword, so nothing that is missing in a tree makes a reading fail.
-/

namespace ScopeAtlas.Reading

open ScopeAtlas.Data ScopeAtlas.Extraction ScopeAtlas.Language ScopeAtlas.Syntax

theorem EcmaScript.strategy_isTotal : EcmaScript.strategy.IsTotal := by
  intro construct reading chosen
  simp only [strategy] at chosen
  split at chosen <;> first | exact ⟨_, (Option.some.inj chosen).symm⟩ | contradiction

theorem Python.strategy_isTotal : Python.strategy.IsTotal := by
  intro construct reading chosen
  simp only [strategy] at chosen
  split at chosen <;> first | exact ⟨_, (Option.some.inj chosen).symm⟩ | contradiction

theorem Rust.strategy_isTotal : Rust.strategy.IsTotal := by
  intro construct reading chosen
  simp only [strategy] at chosen
  split at chosen <;> first | exact ⟨_, (Option.some.inj chosen).symm⟩ | contradiction

theorem Go.strategy_isTotal : Go.strategy.IsTotal := by
  intro construct reading chosen
  simp only [strategy] at chosen
  split at chosen <;> first | exact ⟨_, (Option.some.inj chosen).symm⟩ | contradiction

namespace CSharp

theorem succeeds_readType_iff (ctx : Context) {place : Cursor} (depth : Nat)
    (parent : Option String) :
    Succeeds (readType ctx place depth parent) ↔ (typeKeywords.lookup place.kind).isSome := by
  rw [readType]
  cases typeKeywords.lookup place.kind <;> simp [Succeeds]

end CSharp

namespace CFamily

theorem succeeds_recordSteps_iff (ctx : Context) {place : Cursor} (scopePlace : Cursor)
    (given : GivenName) (generics : List GenericParameter) (depth : Nat) (parent : Option String) :
    Succeeds (recordSteps ctx place scopePlace given generics depth parent) ↔
      place.childByField? "body" = none ∨ isRecord place.kind := by
  rw [recordSteps, isRecord]
  cases place.childByField? "body" with
  | none => simp [Succeeds]
  | some body => cases recordKeywords.lookup place.kind <;> simp [Succeeds]

theorem succeeds_recordSteps (ctx : Context) {place : Cursor} (scopePlace : Cursor)
    (given : GivenName) (generics : List GenericParameter) (depth : Nat) (parent : Option String)
    (known : isRecord place.kind) :
    Succeeds (recordSteps ctx place scopePlace given generics depth parent) :=
  (succeeds_recordSteps_iff ctx scopePlace given generics depth parent).mpr (Or.inr known)

theorem succeeds_typeSteps (ctx : Context) {place : Cursor} (scopePlace : Cursor)
    (given : GivenName) (depth : Nat) (parent : Option String)
    (known : isRecord place.kind || place.kind == "enum_specifier") :
    Succeeds (typeSteps ctx place scopePlace given depth parent) := by
  rw [typeSteps]
  split
  · exact ⟨_, rfl⟩
  · rename_i isEnum
    rw [Bool.not_eq_true] at isEnum
    exact succeeds_recordSteps ctx scopePlace given [] depth parent (by simpa [isEnum] using known)

/-- What is searched for a body has a keyword. -/
theorem known_of_hasBody {place : Cursor} (bodied : hasBody place) :
    isRecord place.kind || place.kind == "enum_specifier" :=
  (Bool.and_eq_true_iff.mp bodied).1

/-- A type definition without a declarator has no name, and needs none of its parts. -/
theorem succeeds_readTypeDefinition (ctx : Context) (place : Cursor) (depth : Nat)
    (parent : Option String) : Succeeds (readTypeDefinition ctx place depth parent) := by
  simp only [readTypeDefinition]
  split
  · rename_i specifier chosen
    have known := known_of_hasBody (Option.filter_eq_some_iff.mp chosen).2
    split
    · exact succeeds_typeSteps ctx place _ depth parent known
    · exact (succeeds_map_iff _).mpr (succeeds_typeSteps ctx specifier none depth parent known)
  · split
    · exact ⟨_, rfl⟩
    · rename_i named
      split
      · exact ⟨_, rfl⟩
      · rename_i missing
        simp [missing, Declarator.name] at named

theorem succeeds_readDeclaration (ctx : Context) (place : Cursor) (depth : Nat)
    (parent : Option String) : Succeeds (readDeclaration ctx place depth parent) := by
  unfold readDeclaration
  extract_lets type defined declarators qualifiers named
  have definedSucceeds : Succeeds defined := by
    simp only [defined]
    split
    · rename_i specifier chosen
      exact succeeds_typeSteps ctx specifier none depth parent
        (known_of_hasBody (Option.filter_eq_some_iff.mp chosen).2)
    · exact ⟨_, rfl⟩
  split
  · exact definedSucceeds
  · exact (succeeds_map_iff _).mpr definedSucceeds

theorem succeeds_readTemplate (ctx : Context) (place : Cursor) (depth : Nat)
    (parent : Option String) : Succeeds (readTemplate ctx place depth parent) := by
  simp only [readTemplate]
  split
  · exact ⟨_, rfl⟩
  · split
    · exact ⟨_, rfl⟩
    · split
      · rename_i known
        exact succeeds_recordSteps ctx place none _ depth parent (Bool.and_eq_true_iff.mp known).1
      · split
        · exact ⟨_, rfl⟩
        · split
          · split
            · rename_i type chosen
              obtain ⟨_, known⟩ := Option.filter_eq_some_iff.mp chosen
              exact succeeds_recordSteps ctx place none _ depth parent
                (Bool.and_eq_true_iff.mp known).2
            · exact ⟨_, rfl⟩
          · exact ⟨_, rfl⟩

end CFamily

/-- Reading a node of the kind as the construct finds the keyword of the kind, if it looks for
one. -/
def hasKeyword (family : Family) (kind : String) (construct : Construct) : Bool :=
  match family, construct with
  | .csharp, .classLike | .csharp, .interfaceLike => (CSharp.typeKeywords.lookup kind).isSome
  | .c, .classLike | .c, .enumeration | .cpp, .classLike | .cpp, .enumeration =>
      CFamily.isRecord kind || kind == "enum_specifier"
  | _, _ => true

/-- Every kind of node that opens a construct is read with its keyword. -/
def KeywordsKnown (profile : Profile) : Prop :=
  ∀ entry ∈ profile.nodes.scopes, hasKeyword profile.family entry.1 entry.2

theorem KeywordsKnown.hasKeyword {profile : Profile} (known : KeywordsKnown profile) {kind : String}
    {construct : Construct} (opens : profile.nodes.construct? kind = some construct) :
    Reading.hasKeyword profile.family kind construct := by
  exact known (kind, construct) (mem_of_lookup opens)

theorem CSharp.strategy_neverFails {ctx : Context} (family : ctx.profile.family = .csharp)
    (known : KeywordsKnown ctx.profile) : CSharp.strategy.NeverFails ctx := by
  intro place construct reading opens chosen depth parent
  have keyword := known.hasKeyword opens
  simp only [strategy] at chosen
  split at chosen <;> try obtain rfl := Option.some.inj chosen
  case h_3 | h_4 =>
    rw [family] at keyword
    exact (succeeds_readType_iff ctx depth parent).mpr keyword
  all_goals first | exact ⟨_, rfl⟩ | contradiction

theorem CFamily.cStrategy_neverFails {ctx : Context}
    (family : ctx.profile.family = .c ∨ ctx.profile.family = .cpp)
    (known : KeywordsKnown ctx.profile) : cStrategy.NeverFails ctx := by
  intro place construct reading opens chosen depth parent
  have keyword := known.hasKeyword opens
  simp only [cStrategy, commonReading?] at chosen
  split at chosen <;> try obtain rfl := Option.some.inj chosen
  · exact ⟨_, rfl⟩
  · exact succeeds_typeSteps ctx place none depth parent
      (by rcases family with family | family <;> simpa [family, hasKeyword] using keyword)
  · exact succeeds_typeSteps ctx place none depth parent
      (by rcases family with family | family <;> simpa [family, hasKeyword] using keyword)
  · rw [readAlias]
    split
    · exact ⟨_, rfl⟩
    · exact succeeds_readTypeDefinition ctx place depth parent
  · exact succeeds_readDeclaration ctx place depth parent
  · exact ⟨_, rfl⟩
  · contradiction

theorem CFamily.cppStrategy_neverFails {ctx : Context} (family : ctx.profile.family = .cpp)
    (known : KeywordsKnown ctx.profile) : cppStrategy.NeverFails ctx := by
  intro place construct reading opens chosen depth parent
  simp only [cppStrategy] at chosen
  split at chosen
  · obtain rfl := Option.some.inj chosen
    exact ⟨_, rfl⟩
  · obtain rfl := Option.some.inj chosen
    exact succeeds_readTemplate ctx place depth parent
  · exact cStrategy_neverFails (Or.inr family) known place _ reading opens chosen depth parent

/-- No reading of a language fails whose kinds have their keywords. -/
theorem strategyOf_neverFails (ctx : Context) (known : KeywordsKnown ctx.profile) :
    (strategyOf ctx.profile.family).NeverFails ctx := by
  cases family : ctx.profile.family with
  | typescript => exact EcmaScript.strategy_isTotal.neverFails ctx
  | python => exact Python.strategy_isTotal.neverFails ctx
  | rust => exact Rust.strategy_isTotal.neverFails ctx
  | go => exact Go.strategy_isTotal.neverFails ctx
  | c => exact CFamily.cStrategy_neverFails (Or.inl family) known
  | cpp => exact CFamily.cppStrategy_neverFails family known
  | csharp => exact CSharp.strategy_neverFails family known

end ScopeAtlas.Reading
