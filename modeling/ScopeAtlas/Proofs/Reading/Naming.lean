import ScopeAtlas.Extraction.Extractor
import ScopeAtlas.Proofs.Data.Tables
import ScopeAtlas.Proofs.Extraction.FileDrafts

/-!
# Where the names of scopes come from

Every reading takes the name of its scope from a node of the construct.  Some readings have a
placeholder for a construct without such a node, and one has it for every empty name; some draft
only what has a name.  All others give the empty name to a construct whose name is not there.  The
table of these rules decides which scopes of a file can be nameless, and from what text of the name
they are.
-/

namespace ScopeAtlas.Text.Utf8

/-- Every byte is read as part of some character. -/
theorem decode_eq_empty_iff (bytes : ByteArray) : decode bytes = "" ↔ bytes.size = 0 := by
  have length : bytes.data.toList.length = bytes.size := by simp
  rw [decode, String.ofList_eq_empty_iff, ← length]
  cases bytes.data.toList with
  | nil => simp [decodeBytes]
  | cons byte rest => simp [decodeBytes]

end ScopeAtlas.Text.Utf8

namespace ScopeAtlas.Extraction

open ScopeAtlas.Language ScopeAtlas.Syntax ScopeAtlas.Text

/-- A node has no text if it covers no byte of the file, as the nodes that a parser makes up. -/
theorem Context.text_eq_empty_iff (ctx : Context) (place : Cursor) :
    ctx.text place = "" ↔
      place.endByte ≤ place.startByte ∨ ctx.source.bytes.size ≤ place.startByte := by
  rw [Context.text, Source.text, Source.slice, Utf8.decode_eq_empty_iff, ByteArray.size_extract]
  omega

theorem placeholderName_ne_empty (construct : String) : placeholderName construct ≠ "" := by
  rw [placeholderName]
  split <;> simp

end ScopeAtlas.Extraction

namespace ScopeAtlas.Reading

open ScopeAtlas.Data ScopeAtlas.Extraction ScopeAtlas.Language ScopeAtlas.Syntax ScopeAtlas.Text

/-! ## Rules -/

/-- How the name of a scope is made from what is written at the node of the name. -/
inductive NameRule where
  /-- As written; the empty name without a node. -/
  | written
  /-- As written; a placeholder without a node. -/
  | writtenOr (construct : String)
  /-- As written between quotes; a placeholder without a node. -/
  | unquotedOr (construct : String)
  /-- The bare name of the type that is written; a placeholder without a node. -/
  | typeNameOr (construct : String)
  /-- The bare name of the type that is written; a placeholder if there is none. -/
  | typeNameUnlessEmpty (construct : String)
  /-- Never empty: a construct without a name is no scope, or its name is a number. -/
  | certain
deriving Repr, DecidableEq

namespace NameRule

/-- The rule gives the name, for the text at the node of the name. -/
def Gives : NameRule → (spelling : Option String) → (name : String) → Prop
  | .written, spelling, name => name = spelling.getD ""
  | .writtenOr construct, spelling, name => name = spelling.getD (placeholderName construct)
  | .unquotedOr construct, spelling, name =>
      name = (spelling.map EcmaScript.unquote).getD (placeholderName construct)
  | .typeNameOr construct, spelling, name =>
      name = (spelling.map baseTypeName).getD (placeholderName construct)
  | .typeNameUnlessEmpty construct, spelling, name =>
      name = ((spelling.map baseTypeName).bind nonEmpty?).getD (placeholderName construct)
  | .certain, _, name => name ≠ ""

/-- The text at the node of the name leaves the scope nameless under the rule. -/
def Blank : NameRule → (spelling : Option String) → Prop
  | .written, spelling => ∀ text ∈ spelling, text = ""
  | .writtenOr _, spelling => ∃ text ∈ spelling, text = ""
  | .unquotedOr _, spelling => ∃ text ∈ spelling, EcmaScript.unquote text = ""
  | .typeNameOr _, spelling => ∃ text ∈ spelling, baseTypeName text = ""
  | .typeNameUnlessEmpty _, _ => False
  | .certain, _ => False

theorem Gives.eq_empty_iff {rule : NameRule} {spelling : Option String} {name : String}
    (gives : rule.Gives spelling name) : name = "" ↔ rule.Blank spelling := by
  cases rule with
  | certain => exact iff_of_false gives id
  | written =>
      rw [show name = _ from gives]
      cases spelling <;> simp [Blank]
  | writtenOr construct =>
      rw [show name = _ from gives]
      cases spelling <;> simp [Blank, placeholderName_ne_empty]
  | unquotedOr construct =>
      rw [show name = _ from gives]
      cases spelling <;> simp [Blank, placeholderName_ne_empty]
  | typeNameOr construct =>
      rw [show name = _ from gives]
      cases spelling <;> simp [Blank, placeholderName_ne_empty]
  | typeNameUnlessEmpty construct =>
      rw [show name = _ from gives]
      refine iff_of_false ?_ id
      cases found : (spelling.map baseTypeName).bind nonEmpty? with
      | none => exact placeholderName_ne_empty construct
      | some kept =>
          -- The bare name was kept because it is not empty.
          obtain ⟨bare, _, keeps⟩ := Option.bind_eq_some_iff.mp found
          rintro rfl
          simp [nonEmpty?] at keeps

end NameRule

/-- The rules of C and C++ by the kind of the scope. -/
def declaredNameRules : ScopeKind → List NameRule
  | .function | .constantLike | .typeAlias => [.certain, .written]
  | .method | .variableLike | .moduleCode => [.certain]
  | .classLike => .certain :: ["struct", "union", "class", "enum"].map .typeNameOr
  | .enumeration => [.certain, .writtenOr "enum"]
  | .namespaceLike => [.writtenOr "namespace"]
  | _ => []

/-- The rules by which scopes of a kind are named in the languages of a family. -/
def nameRules : Family → ScopeKind → List NameRule
  | _, .moduleCode => [.certain]
  | .typescript, .function => [.writtenOr "function"]
  | .typescript, .method => [.writtenOr "method"]
  | .typescript, .classLike => [.writtenOr "class"]
  | .typescript, .namespaceLike => [.unquotedOr "namespace"]
  | .rust, .classLike => [.written, .typeNameUnlessEmpty "impl"]
  | .c, kind => declaredNameRules kind
  | .cpp, kind => declaredNameRules kind
  | _, _ => [.written]

/-- The draft is named by one of the rules for its kind. -/
def NamedBy (rules : ScopeKind → List NameRule) (ctx : Context) (draft : Draft) : Prop :=
  ∃ rule ∈ rules draft.kind, rule.Gives (draft.nameNode.map ctx.text) draft.name

variable {rules : ScopeKind → List NameRule} {ctx : Context} {draft : Draft}

theorem textOf_eq_getD (ctx : Context) (node : Option Cursor) :
    ctx.textOf node = (node.map ctx.text).getD "" := by
  cases node <;> rfl

/-- The usual form of a reading: the name is the text of its node. -/
theorem namedBy_textOf (listed : .written ∈ rules draft.kind)
    (named : draft.name = ctx.textOf draft.nameNode) : NamedBy rules ctx draft :=
  ⟨.written, listed, named.trans (textOf_eq_getD ctx draft.nameNode)⟩

theorem mem_rules_ite {rule : NameRule} {condition : Prop} [Decidable condition]
    {first second : ScopeKind} (inFirst : rule ∈ rules first) (inSecond : rule ∈ rules second) :
    rule ∈ rules (if condition then first else second) := by
  split
  · exact inFirst
  · exact inSecond

theorem namedBy_certain (listed : .certain ∈ rules draft.kind) (named : draft.name ≠ "") :
    NamedBy rules ctx draft :=
  ⟨.certain, listed, named⟩

namespace EcmaScript

theorem nameOr_eq_getD (ctx : Context) (node : Option Cursor) (construct : String) :
    nameOr ctx node construct = (node.map ctx.text).getD (placeholderName construct) := by
  cases node <;> rfl

/-- A variable that holds a function always has a node for its name. -/
theorem everyDraft_declaratorSteps_named (ctx : Context) (declaration : Cursor) (count : Nat)
    (keyword : String) (depth : Nat) (parent : Option String) (declarator : Cursor) :
    EveryDraft (NamedBy (nameRules .typescript) ctx)
      (declaratorSteps ctx declaration count keyword depth parent declarator) := by
  simp only [declaratorSteps]
  split
  · exact everyDraft_nil
  · rename_i nameNode _
    split
    · simp only [functionSteps, everyDraft_scope_cons, everyDraft_enterBody, and_true]
      exact ⟨.writtenOr "function", List.mem_singleton_self _, rfl⟩
    · split
      · rw [everyDraft_scope_cons]
        constructor
        · exact namedBy_textOf
            (mem_rules_ite (List.mem_singleton_self _) (List.mem_singleton_self _)) rfl
        · cases declarator.childByField? "value" <;> simp
      · cases declarator.childByField? "value" <;> simp

theorem strategy_named (ctx : Context) :
    strategy.Drafts ctx (NamedBy (nameRules .typescript) ctx) := by
  intro construct reading chosen place depth parent
  simp only [strategy] at chosen
  split at chosen <;> try obtain rfl := Option.some.inj chosen
  all_goals try rw [stepsOf_always]
  · simp only [readClass, everyDraft_scope_cons, everyDraft_enterBody, and_true]
    exact ⟨.writtenOr "class", List.mem_singleton_self _, nameOr_eq_getD ctx _ _⟩
  · simp only [readInterface, everyDraft_scope_cons, everyDraft_nil, and_true]
    exact namedBy_textOf (List.mem_singleton_self _) rfl
  · simp only [readFunction, functionSteps, everyDraft_scope_cons, everyDraft_enterBody, and_true]
    exact ⟨.writtenOr "function", List.mem_singleton_self _, nameOr_eq_getD ctx _ _⟩
  · simp only [readMethod, functionSteps, everyDraft_scope_cons, everyDraft_enterBody, and_true]
    exact ⟨.writtenOr "method", List.mem_singleton_self _, nameOr_eq_getD ctx _ _⟩
  · simp only [readEnum, everyDraft_scope_cons, everyDraft_nil, and_true]
    exact namedBy_textOf (List.mem_singleton_self _) rfl
  · simp only [readTypeAlias, everyDraft_scope_cons, everyDraft_nil, and_true]
    exact namedBy_textOf (List.mem_singleton_self _) rfl
  · simp only [readNamespace, everyDraft_scope_cons, everyDraft_enterBody, and_true]
    refine ⟨.unquotedOr "namespace", List.mem_singleton_self _, ?_⟩
    cases place.childByField? "name" <;> rfl
  · rw [readVariables, everyDraft_flatMap]
    intro declarator _
    exact everyDraft_declaratorSteps_named ctx place _ _ depth parent declarator
  · contradiction

end EcmaScript

namespace Python

theorem everyDraft_functionSteps_named (decorators : List Decorator) (ctx : Context)
    (place : Cursor) (depth : Nat) (parent : Option String) :
    EveryDraft (NamedBy (nameRules .python) ctx)
      (functionSteps decorators ctx place depth parent) := by
  simp only [functionSteps, everyDraft_scope_cons, everyDraft_enterBody, and_true]
  exact namedBy_textOf
    (mem_rules_ite (List.mem_singleton_self _) (List.mem_singleton_self _)) rfl

theorem everyDraft_classSteps_named (decorators : List Decorator) (ctx : Context) (place : Cursor)
    (depth : Nat) (parent : Option String) :
    EveryDraft (NamedBy (nameRules .python) ctx)
      (classSteps decorators ctx place depth parent) := by
  simp only [classSteps, everyDraft_scope_cons, everyDraft_enterBody, and_true]
  exact namedBy_textOf
    (mem_rules_ite (List.mem_singleton_self _) (List.mem_singleton_self _)) rfl

theorem everyDraft_readStatement_named (ctx : Context) (place : Cursor) (depth : Nat)
    (parent : Option String) :
    EveryDraft (NamedBy (nameRules .python) ctx) (readStatement ctx place depth parent) := by
  rw [readStatement]
  repeat' split
  all_goals simp only [everyDraft_scope_cons, everyDraft_nil, and_true]
  · exact namedBy_textOf (List.mem_singleton_self _) rfl
  · exact namedBy_textOf
      (mem_rules_ite (List.mem_singleton_self _) (List.mem_singleton_self _)) rfl

theorem strategy_named (ctx : Context) : strategy.Drafts ctx (NamedBy (nameRules .python) ctx) := by
  intro construct reading chosen place depth parent
  simp only [strategy] at chosen
  split at chosen <;> try obtain rfl := Option.some.inj chosen
  all_goals try rw [stepsOf_always]
  · exact everyDraft_classSteps_named _ ctx place depth parent
  · exact everyDraft_functionSteps_named _ ctx place depth parent
  · rw [readDecorated]
    split
    · exact everyDraft_enterChildren place depth parent
    · split
      · exact everyDraft_classSteps_named _ ctx _ depth parent
      · exact everyDraft_functionSteps_named _ ctx _ depth parent
  · exact everyDraft_readStatement_named ctx place depth parent
  · contradiction

end Python

namespace Go

theorem strategy_named (ctx : Context) : strategy.Drafts ctx (NamedBy (nameRules .go) ctx) := by
  intro construct reading chosen place depth parent
  simp only [strategy] at chosen
  split at chosen <;> try obtain rfl := Option.some.inj chosen
  all_goals try rw [stepsOf_always]
  · simp only [readFunction, everyDraft_scope_cons, everyDraft_enterBody, and_true]
    exact namedBy_textOf (List.mem_singleton_self _) rfl
  · simp only [readMethod, everyDraft_scope_cons, everyDraft_enterBody, and_true]
    exact namedBy_textOf (List.mem_singleton_self _) rfl
  · simp only [readTypes, everyDraft_map, everyDraft_scope_cons, everyDraft_nil, and_true]
    intro spec _
    refine namedBy_textOf ?_ rfl
    simp only [typeDraft, typeBody]
    split <;> exact List.mem_singleton_self _
  · simp only [readBindings]
    split
    · exact everyDraft_nil
    · simp only [everyDraft_flatMap, everyDraft_map, everyDraft_scope_cons, everyDraft_nil,
        and_true]
      intro spec _ name _
      exact namedBy_textOf
        (mem_rules_ite (List.mem_singleton_self _) (List.mem_singleton_self _)) rfl
  · contradiction

end Go

namespace Rust

theorem strategy_named (ctx : Context) : strategy.Drafts ctx (NamedBy (nameRules .rust) ctx) := by
  intro construct reading chosen place depth parent
  simp only [strategy] at chosen
  split at chosen <;> try obtain rfl := Option.some.inj chosen
  all_goals try rw [stepsOf_always]
  · simp only [readStruct, everyDraft_scope_cons, everyDraft_nil, and_true]
    exact namedBy_textOf List.mem_cons_self rfl
  · simp only [readTrait, everyDraft_scope_cons, everyDraft_enterBody, and_true]
    exact namedBy_textOf (List.mem_singleton_self _) rfl
  · simp only [readImplementation, everyDraft_scope_cons, everyDraft_enterBody, and_true]
    refine ⟨.typeNameUnlessEmpty "impl", by simp [nameRules], ?_⟩
    have bare : baseTypeName "" = "" := by decide +kernel
    cases place.childByField? "type" with
    | none => simp [NameRule.Gives, Context.textOf, Source.textOf, bare, nonEmpty?]
    | some node => simp [NameRule.Gives, Context.textOf, Source.textOf, Context.text]
  · simp only [readFunction, everyDraft_scope_cons, everyDraft_enterBody, and_true]
    exact namedBy_textOf
      (mem_rules_ite (List.mem_singleton_self _) (List.mem_singleton_self _)) rfl
  · simp only [readEnum, everyDraft_scope_cons, everyDraft_nil, and_true]
    exact namedBy_textOf (List.mem_singleton_self _) rfl
  · simp only [readTypeAlias, everyDraft_scope_cons, everyDraft_nil, and_true]
    exact namedBy_textOf (List.mem_singleton_self _) rfl
  · simp only [readModule, everyDraft_scope_cons, everyDraft_enterBody, and_true]
    exact namedBy_textOf (List.mem_singleton_self _) rfl
  · simp only [readConstant]
    split
    · exact everyDraft_nil
    · simp only [everyDraft_scope_cons, everyDraft_nil, and_true]
      exact namedBy_textOf
        (mem_rules_ite (List.mem_singleton_self _) (List.mem_singleton_self _)) rfl
  · contradiction

end Rust

namespace CSharp

theorem everyDraft_namespaceSteps_named (extent : List Cursor) (ctx : Context) (place : Cursor)
    (depth : Nat) (parent : Option String) :
    EveryDraft (NamedBy (nameRules .csharp) ctx)
      (namespaceSteps extent ctx place depth parent) := by
  simp only [namespaceSteps, everyDraft_scope_cons, everyDraft_map, everyDraft_enter_cons,
    everyDraft_nil, implies_true, and_true]
  exact namedBy_textOf (List.mem_singleton_self _) rfl

theorem everyDraft_unitSteps_named (ctx : Context) (depth : Nat) (parent : Option String)
    (places : List Cursor) :
    EveryDraft (NamedBy (nameRules .csharp) ctx) (unitSteps ctx depth parent places) := by
  induction places with
  | nil => exact everyDraft_nil
  | cons place rest ih =>
      rw [unitSteps]
      split
      · rw [everyDraft_append]
        exact ⟨everyDraft_namespaceSteps_named _ ctx place depth parent, by simp⟩
      · rw [everyDraft_enter_cons]
        exact ih

theorem strategy_named (ctx : Context) : strategy.Drafts ctx (NamedBy (nameRules .csharp) ctx) := by
  -- A class, a structure, a record or an interface.
  have type : ∀ place depth parent, EveryDraft (NamedBy (nameRules .csharp) ctx)
      (stepsOf (readType ctx place depth parent)) := by
    intro place depth parent
    rw [readType]
    split
    · simp only [stepsOf_ok, typeSteps, everyDraft_scope_cons, everyDraft_enterBody, and_true]
      exact namedBy_textOf
        (mem_rules_ite (List.mem_singleton_self _) (List.mem_singleton_self _)) rfl
    · exact everyDraft_nil
  intro construct reading chosen place depth parent
  simp only [strategy] at chosen
  split at chosen <;> try obtain rfl := Option.some.inj chosen
  all_goals try rw [stepsOf_always]
  · exact everyDraft_unitSteps_named ctx depth parent place.children
  · exact everyDraft_namespaceSteps_named [] ctx place depth parent
  · exact type place depth parent
  · exact type place depth parent
  · simp only [readEnum, everyDraft_scope_cons, everyDraft_nil, and_true]
    exact namedBy_textOf (List.mem_singleton_self _) rfl
  · simp only [readMethod, everyDraft_scope_cons, everyDraft_enterBody, and_true]
    exact namedBy_textOf (List.mem_singleton_self _) rfl
  · simp only [readLocalFunction, everyDraft_scope_cons, everyDraft_enterBody, and_true]
    exact namedBy_textOf (List.mem_singleton_self _) rfl
  · simp only [readDelegate, everyDraft_scope_cons, everyDraft_nil, and_true]
    exact namedBy_textOf (List.mem_singleton_self _) rfl
  · contradiction

end CSharp

namespace CFamily

theorem typeNameOr_mem_of_lookup {kind keyword : String}
    (found : recordKeywords.lookup kind = some keyword) :
    .typeNameOr keyword ∈ declaredNameRules .classLike := by
  have listed : ∀ entry ∈ recordKeywords, .typeNameOr entry.2 ∈ declaredNameRules .classLike := by
    decide
  exact listed (kind, keyword) (mem_of_lookup found)

/-- A function without a name is passed through. -/
theorem everyDraft_functionSteps_named (ctx : Context) (place scopePlace : Cursor)
    (generics : List GenericParameter) (depth : Nat) (parent : Option String) :
    EveryDraft (NamedBy declaredNameRules ctx)
      (functionSteps ctx place scopePlace generics depth parent) := by
  unfold functionSteps
  extract_lets declarator function name
  split
  · exact everyDraft_enterChildren place depth parent
  · rename_i named
    rw [everyDraft_scope_cons]
    refine ⟨namedBy_certain ?_ ?_, everyDraft_enterBody _ _ _⟩
    · exact mem_rules_ite (List.mem_singleton_self _) List.mem_cons_self
    · simpa [String.isEmpty_iff] using named

section Types

variable {given : GivenName} (named : ∀ pair ∈ given, pair.1 ≠ "")

include named

theorem everyDraft_recordSteps_named (ctx : Context) (place scopePlace : Cursor)
    (generics : List GenericParameter) (depth : Nat) (parent : Option String) :
    EveryDraft (NamedBy declaredNameRules ctx)
      (stepsOf (recordSteps ctx place scopePlace given generics depth parent)) := by
  rw [recordSteps]
  split
  · exact everyDraft_nil
  · split
    · rename_i keyword found
      rw [stepsOf_ok, bodySteps, everyDraft_scope_cons]
      refine ⟨?_, everyDraft_enterChildren _ _ _⟩
      cases given with
      | some pair => exact namedBy_certain List.mem_cons_self (named pair rfl)
      | none =>
          refine ⟨.typeNameOr keyword, typeNameOr_mem_of_lookup found, ?_⟩
          cases place.childByField? "name" <;> simp [NameRule.Gives]
    · exact everyDraft_nil

theorem everyDraft_typeSteps_named (ctx : Context) (place scopePlace : Cursor) (depth : Nat)
    (parent : Option String) :
    EveryDraft (NamedBy declaredNameRules ctx)
      (stepsOf (typeSteps ctx place scopePlace given depth parent)) := by
  rw [typeSteps]
  split
  · rw [stepsOf_ok, enumSteps]
    split
    · exact everyDraft_nil
    · rw [everyDraft_scope_cons]
      refine ⟨?_, everyDraft_nil⟩
      cases given with
      | some pair => exact namedBy_certain List.mem_cons_self (named pair rfl)
      | none =>
          refine ⟨.writtenOr "enum", by simp [declaredNameRules], ?_⟩
          cases place.childByField? "name" <;> simp [NameRule.Gives]
  · exact everyDraft_recordSteps_named named ctx place scopePlace [] depth parent

end Types

theorem not_mem_none_given : ∀ pair ∈ (none : GivenName), pair.1 ≠ "" := by simp

theorem everyDraft_usingSteps_named (ctx : Context) (place scopePlace : Cursor)
    (generics : List GenericParameter) (depth : Nat) (parent : Option String) :
    EveryDraft (NamedBy declaredNameRules ctx)
      (usingSteps ctx place scopePlace generics depth parent) := by
  simp only [usingSteps, everyDraft_scope_cons, everyDraft_nil, and_true]
  exact namedBy_textOf (by simp [declaredNameRules]) rfl

/-- A type that is defined without a name takes the defined one, and an alias needs one. -/
theorem everyDraft_readTypeDefinition_named (ctx : Context) (place : Cursor) (depth : Nat)
    (parent : Option String) :
    EveryDraft (NamedBy declaredNameRules ctx)
      (stepsOf (readTypeDefinition ctx place depth parent)) := by
  simp only [readTypeDefinition]
  split
  · split
    · rename_i given
      refine everyDraft_typeSteps_named ?_ ctx _ place depth parent
      simp only [Bool.and_eq_true, Bool.not_eq_true'] at given
      simpa [String.isEmpty_iff] using given.2
    · refine of_stepsOf_map_append (EveryDraft _) everyDraft_nil ?_
      rw [everyDraft_append]
      refine ⟨everyDraft_typeSteps_named not_mem_none_given ctx _ _ depth parent, ?_⟩
      split
      · exact everyDraft_nil
      · rename_i named
        rw [everyDraft_scope_cons]
        refine ⟨namedBy_certain List.mem_cons_self ?_, everyDraft_nil⟩
        simpa [String.isEmpty_iff] using named
  · split
    · exact everyDraft_nil
    · rename_i named
      split
      · rw [stepsOf_ok, everyDraft_scope_cons]
        refine ⟨namedBy_certain List.mem_cons_self ?_, everyDraft_nil⟩
        simpa [String.isEmpty_iff] using named
      · exact everyDraft_nil

theorem everyDraft_readDeclaration_named (ctx : Context) (place : Cursor) (depth : Nat)
    (parent : Option String) :
    EveryDraft (NamedBy declaredNameRules ctx)
      (stepsOf (readDeclaration ctx place depth parent)) := by
  unfold readDeclaration
  extract_lets type defined declarators qualifiers named
  have types : EveryDraft (NamedBy declaredNameRules ctx) (stepsOf defined) := by
    simp only [defined]
    split
    · exact everyDraft_typeSteps_named not_mem_none_given ctx _ _ depth parent
    · exact everyDraft_nil
  split
  · exact types
  · refine of_stepsOf_map_append (EveryDraft _) everyDraft_nil ?_
    rw [everyDraft_append, everyDraft_map]
    refine ⟨types, ?_⟩
    intro declarator isNamed
    rw [everyDraft_scope_cons]
    refine ⟨namedBy_certain ?_ ?_, everyDraft_nil⟩
    · exact mem_rules_ite List.mem_cons_self (List.mem_singleton_self _)
    · change (Declarator.name ctx.source (some declarator)).text ≠ ""
      simpa [String.isEmpty_iff] using (List.mem_filter.mp isNamed).2

theorem everyDraft_readTemplate_named (ctx : Context) (place : Cursor) (depth : Nat)
    (parent : Option String) :
    EveryDraft (NamedBy declaredNameRules ctx) (stepsOf (readTemplate ctx place depth parent)) := by
  simp only [readTemplate]
  split
  · exact everyDraft_nil
  · split
    · exact everyDraft_functionSteps_named ctx _ place _ depth parent
    · split
      · exact everyDraft_recordSteps_named not_mem_none_given ctx _ place _ depth parent
      · split
        · exact everyDraft_usingSteps_named ctx _ place _ depth parent
        · split
          · split
            · exact everyDraft_recordSteps_named not_mem_none_given ctx _ place _ depth parent
            · exact everyDraft_nil
          · rw [stepsOf_ok, everyDraft_enter_cons]
            exact everyDraft_nil

theorem cStrategy_named (ctx : Context) : cStrategy.Drafts ctx (NamedBy declaredNameRules ctx) := by
  intro construct reading chosen place depth parent
  simp only [cStrategy, commonReading?] at chosen
  split at chosen <;> try obtain rfl := Option.some.inj chosen
  all_goals try rw [stepsOf_always]
  · exact everyDraft_functionSteps_named ctx place place [] depth parent
  · exact everyDraft_typeSteps_named not_mem_none_given ctx place place depth parent
  · exact everyDraft_typeSteps_named not_mem_none_given ctx place place depth parent
  · rw [readAlias]
    split
    · exact everyDraft_usingSteps_named ctx place place [] depth parent
    · exact everyDraft_readTypeDefinition_named ctx place depth parent
  · exact everyDraft_readDeclaration_named ctx place depth parent
  · simp only [readMacro, everyDraft_scope_cons, everyDraft_nil, and_true]
    exact namedBy_textOf
      (mem_rules_ite (by simp [declaredNameRules]) (by simp [declaredNameRules])) rfl
  · contradiction

theorem cppStrategy_named (ctx : Context) :
    cppStrategy.Drafts ctx (NamedBy declaredNameRules ctx) := by
  intro construct reading chosen place depth parent
  simp only [cppStrategy] at chosen
  split at chosen
  · obtain rfl := Option.some.inj chosen
    rw [stepsOf_always]
    simp only [readNamespace, everyDraft_scope_cons, everyDraft_enterBody, and_true]
    refine ⟨.writtenOr "namespace", List.mem_singleton_self _, ?_⟩
    cases place.childByField? "name" <;> rfl
  · obtain rfl := Option.some.inj chosen
    exact everyDraft_readTemplate_named ctx place depth parent
  · exact cStrategy_named ctx _ reading chosen place depth parent

end CFamily

/-! ## Nameless scopes -/

/-- In every language each construct is named by a rule for its kind. -/
theorem strategyOf_named (family : Family) (ctx : Context) :
    (strategyOf family).Drafts ctx (NamedBy (nameRules family) ctx) := by
  have declared : nameRules .c = declaredNameRules ∧ nameRules .cpp = declaredNameRules := by
    constructor <;> funext kind <;> cases kind <;> rfl
  cases family with
  | typescript => exact EcmaScript.strategy_named ctx
  | python => exact Python.strategy_named ctx
  | rust => exact Rust.strategy_named ctx
  | go => exact Go.strategy_named ctx
  | c => exact declared.1 ▸ CFamily.cStrategy_named ctx
  | cpp => exact declared.2 ▸ CFamily.cppStrategy_named ctx
  | csharp => exact CSharp.strategy_named ctx

/-- The scopes of a file complete its drafts, and each is named by a rule for its language and its
kind.  It is nameless exactly when the text at the node of its name, or the lack of such a node, is
blank under that rule.  A node has no text exactly when it covers no byte of the file. -/
theorem names_empty_exactly_if_blank (profile : Profile) (stack : StackLimit)
    (includeModuleScopes : Bool) (filePath language : String) (bytes : ByteArray) (tree : Node) :
    let strategy := strategyOf profile.family
    let ctx := prepare profile strategy stack filePath bytes (Cursor.root tree)
    let drafts := fileDrafts strategy ctx includeModuleScopes (Cursor.root tree)
    (analyze profile strategy stack includeModuleScopes filePath language bytes tree).scopes =
        sortScopes (drafts.map fun draft => draft.complete ctx strategy.packageName) ∧
      (∀ draft ∈ drafts, ∃ rule ∈ nameRules profile.family draft.kind,
        rule.Gives (draft.nameNode.map ctx.text) draft.name ∧
          ((draft.complete ctx strategy.packageName).name = "" ↔
            rule.Blank (draft.nameNode.map ctx.text))) ∧
      ∀ place, ctx.text place = "" ↔
        place.endByte ≤ place.startByte ∨ bytes.size ≤ place.startByte := by
  intro strategy ctx drafts
  refine ⟨scopes_analyze profile strategy stack includeModuleScopes filePath language bytes tree, ?_,
    ctx.text_eq_empty_iff⟩
  intro draft member
  have stretches : ∀ number first later,
      NamedBy (nameRules profile.family) ctx (stretchDraft number first later) := by
    intro number first later
    refine namedBy_certain ?_ ?_
    · cases profile.family <;> exact List.mem_singleton_self _
    · simp [stretchDraft]
  obtain ⟨rule, listed, gives⟩ :=
    of_mem_fileDrafts (strategyOf_named profile.family ctx) stretches member
  exact ⟨rule, listed, gives, gives.eq_empty_iff⟩

/-- The text of a function whose name is missing. -/
def missingNameText : ByteArray := "def ():\n    pass\n".toUTF8

/-- The tree of the function, with a node for the name that the parser made up. -/
def missingNameTree : Node :=
  let node (index : Nat) (kind : String) (field : Option String) (missing : Bool) (start stop : Nat)
      (children : List Node) : Node :=
    .mk { index, kind, field, isNamed := true, isMissing := missing, startByte := start,
          endByte := stop } children
  let body := node 4 "block" "body" false 12 16 [node 5 "pass_statement" none false 12 16 []]
  node 0 "module" none false 0 17
    [node 1 "function_definition" none false 0 16
      [node 2 "identifier" "name" true 4 4 [], node 3 "parameters" "parameters" false 4 6 [], body]]

/-- The text of a module declaration whose name is an empty string. -/
def quotedNameText : ByteArray := "declare module \"\" \x7b \x7d".toUTF8

/-- The tree of the declaration. -/
def quotedNameTree : Node :=
  let node (index : Nat) (kind : String) (field : Option String) (start stop : Nat)
      (children : List Node) : Node :=
    .mk { index, kind, field, isNamed := true, isMissing := false, startByte := start,
          endByte := stop } children
  node 0 "program" none 0 21
    [node 1 "ambient_declaration" none 0 21
      [node 2 "module" none 8 21
        [node 3 "string" "name" 15 17 [], node 4 "statement_block" "body" 18 21 []]]]

/-- A function whose name is missing and a module whose name is an empty string are scopes without
a name. -/
theorem nameless_scopes_extracted :
    (∃ scope ∈ (analyze python Python.strategy .unlimited true "m.py" "python" missingNameText
        missingNameTree).scopes, scope.kind = .function ∧ scope.name = "") ∧
      ∃ scope ∈ (analyze typescript EcmaScript.strategy .unlimited true "m.ts" "typescript"
        quotedNameText quotedNameTree).scopes, scope.kind = .namespaceLike ∧ scope.name = "" := by
  have function : ∃ draft ∈ fileDrafts Python.strategy
      (prepare python Python.strategy .unlimited "m.py" missingNameText
        (Cursor.root missingNameTree)) true (Cursor.root missingNameTree),
      draft.kind = .function ∧ draft.name = "" := by
    decide +kernel
  have container : ∃ draft ∈ fileDrafts EcmaScript.strategy
      (prepare typescript EcmaScript.strategy .unlimited "m.ts" quotedNameText
        (Cursor.root quotedNameTree)) true (Cursor.root quotedNameTree),
      draft.kind = .namespaceLike ∧ draft.name = "" := by
    decide +kernel
  obtain ⟨first, firstMem, isFunction⟩ := function
  obtain ⟨second, secondMem, isContainer⟩ := container
  exact ⟨⟨_, mem_scopes_analyze_iff.mpr ⟨first, firstMem, rfl⟩, isFunction⟩,
    _, mem_scopes_analyze_iff.mpr ⟨second, secondMem, rfl⟩, isContainer⟩

end ScopeAtlas.Reading
