import ScopeAtlas.Workspace.Linking

/-!
# Classification that asks

The pass over the files of a project asks the rules of a language whether an import
is one of the project.  An answer is remembered under the name of the rules and the
source of the import, and languages of one family ask rules of one name, each having
loaded its own.  The rules may refuse a source, and then the pass ends.
-/

namespace ScopeAtlas.Workspace

open ScopeAtlas.Data ScopeAtlas.Graph ScopeAtlas.Language

/-- The name of the rules by which the imports of a family are followed. -/
def rulesName : Family → String
  | .cpp => Family.label .c
  | family => family.label

/-- The name of the rules of a language. -/
def rulesOf? (language : String) : Option String :=
  (profile? language).map fun profile => rulesName profile.family

/-- What is known in the course of a pass. -/
structure Memory where
  /-- The answers given, by the name of the rules and the source of the import. -/
  answers : List ((Option String × String) × Bool)
  /-- The references met of which nothing is known. -/
  ledger : List Unresolved

/-- A part of a pass. -/
abbrev Pass := StateT Memory (Except LinkFault)

section Asking

variable (homes : List (String × Home)) (analyses : List FileAnalysis)

/-- Whether an import is one of the project.  Rules are asked once for a source. -/
def askIsLocal (language : String) (binding : Import) : Pass Bool := fun memory =>
  match homes.lookup language with
  | none => .ok (binding.isLocal, memory)
  | some home =>
      let key := (rulesOf? language, binding.source)
      match memory.answers.lookup key with
      | some answer => .ok (answer, memory)
      | none =>
          match home.ecosystem.isLocal home.project binding.source with
          | .error fault => .error (.followed fault)
          | .ok answer => .ok (answer, { memory with answers := (key, answer) :: memory.answers })

/-- The fate of a reference, with scopes looked up in the index of names. -/
def askFate (file : FileAnalysis) (reference : Reference) : Pass Fate :=
  match boundImport? (bindingTable file.imports) reference with
  | some binding => do return .usesImport binding (← askIsLocal homes file.language binding)
  | none =>
      match (nameIndex analyses).lookup reference.identifier with
      | some (target :: _) => return .namesScope target
      | _ =>
          return if (builtinsOf file.language).contains reference.identifier then .isBuiltin
            else .isUnknown

/-- Enters a reference of which nothing is known. -/
def enter (scope : Scope) (reference : Reference) : Pass Unit :=
  modify fun memory =>
    { memory with ledger := memory.ledger ++ [.ofReference scope reference .noLocalScope] }

/-- The import that a fate uses. -/
def usedBy? : Fate → Option Import
  | .usesImport binding _ => some binding
  | _ => none

/-- Adds what is kept of a reference, and the import that it uses. -/
def askReference (file : FileAnalysis) (scope : Scope) (kept : List Reference × List Import)
    (reference : Reference) : Pass (List Reference × List Import) := do
  let fate ← askFate homes analyses file reference
  if fate = .isUnknown then enter scope reference
  return (kept.1 ++ (fate.apply reference).toList, (usedBy? fate).toList.foldl addImport kept.2)

def askScope (file : FileAnalysis) (scope : Scope) : Pass Scope := do
  let (references, imports) ←
    scope.references.foldlM (askReference homes analyses file scope) ([], scope.imports)
  return { scope with references, imports }

def askFile (file : FileAnalysis) : Pass FileAnalysis := do
  let scopes ← file.scopes.mapM (askScope homes analyses file)
  return { file with scopes }

/-- The files of a project with all references classified, and the entries of those of which nothing
is known. -/
def askingClassify : Except LinkFault (List FileAnalysis × List Unresolved) := do
  let (files, memory) ← (analyses.mapM (askFile homes analyses)).run { answers := [], ledger := [] }
  return (files, memory.ledger)

end Asking

end ScopeAtlas.Workspace
