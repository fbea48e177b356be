import ScopeAtlas.Proofs.Graph.Attribution
import ScopeAtlas.Proofs.Graph.Growth
import ScopeAtlas.Proofs.Graph.Restriction

/-!
# Running a project again

The result of a run holds the classified files.  They can be given to another run, and that run
finds the same again: references that were dropped had no import and no scope to lead to, what was
written into the others is written once more, and the imports that were added are there already.
Fields that an earlier run left behind are of no consequence, because the fate of a reference is
decided by its identifier and its qualifier alone.

The second run keeps other scopes in its index, the classified ones.  The graph does not see the
difference, because of a scope in the index it reads only what a listing tells.
-/

namespace ScopeAtlas.Data

/-- A search among the views of items finds the view of what a search among the items finds. -/
theorem lookup_map_value {α β : Type} (view : α → β) (table : List (String × α)) (key : String) :
    (table.map fun entry => (entry.1, view entry.2)).lookup key = (table.lookup key).map view := by
  induction table with
  | nil => rfl
  | cons entry rest ih =>
      rw [List.map_cons, List.lookup_cons, List.lookup_cons, ih]
      cases key == entry.1 <;> rfl

/-- What respects a view follows alike from two results of the same view. -/
theorem bind_eq_of_map_eq {α β γ : Type} {view : α → β} {found other : Option α}
    (same : found.map view = other.map view) {follow : α → Option γ}
    (respects : ∀ a b, view a = view b → follow a = follow b) :
    found.bind follow = other.bind follow := by
  cases found with
  | none =>
      cases other with
      | none => rfl
      | some b => contradiction
  | some a =>
      cases other with
      | none => contradiction
      | some b => exact respects a b (Option.some.inj same)

end ScopeAtlas.Data

namespace ScopeAtlas.Graph

open ScopeAtlas.Data ScopeAtlas.Files

/-! ## What the graph reads of its index -/

/-- Every name of an index with the listings of its scopes. -/
def listedIndex (index : List (String × List Scope)) : List (String × List Listing) :=
  index.map fun entry => (entry.1, entry.2.map Listing.ofScope)

theorem pointer_listing (scope : Scope) : (Listing.ofScope scope).pointer = scope.pointer := rfl

/-- The settings have the same files, follow imports alike, and list the same under every name. -/
structure Setting.Alike (setting other : Setting) : Prop where
  root : setting.root = other.root
  locators : setting.locators = other.locators
  analyses : setting.analyses = other.analyses
  listings : listedIndex setting.index = listedIndex other.index

section Alike

variable {setting other : Setting} {file : FileAnalysis} {scope : Scope}

theorem Setting.Alike.lookup_eq (alike : setting.Alike other) (name : String) :
    (setting.index.lookup name).map (List.map Listing.ofScope) =
      (other.index.lookup name).map (List.map Listing.ofScope) := by
  rw [← lookup_map_value, ← lookup_map_value]
  exact congrArg (List.lookup name) alike.listings

theorem Setting.Alike.firstNamed?_eq (alike : setting.Alike other) (name : String) :
    (setting.firstNamed? name).map Listing.ofScope =
      (other.firstNamed? name).map Listing.ofScope := by
  have first : ∀ found : Option (List Scope), (found.bind List.head?).map Listing.ofScope =
      (found.map (List.map Listing.ofScope)).bind List.head? := by
    intro found
    cases found <;> simp
  rw [Setting.firstNamed?, Setting.firstNamed?, first, first, alike.lookup_eq]

theorem Setting.Alike.firstOfNames?_eq (alike : setting.Alike other) (names : List String) :
    (setting.firstOfNames? names).map Listing.ofScope =
      (other.firstOfNames? names).map Listing.ofScope := by
  rw [Setting.firstOfNames?, Setting.firstOfNames?, List.map_findSome?, List.map_findSome?]
  congr 1
  funext name
  exact alike.firstNamed?_eq name

theorem Setting.Alike.atPointer?_eq (alike : setting.Alike other) (pointer : String) :
    (setting.atPointer? pointer).map Listing.ofScope =
      (other.atPointer? pointer).map Listing.ofScope := by
  have listed : ∀ index : List (String × List Scope),
      ((index.flatMap (·.2)).find? fun scope => scope.pointer == pointer).map Listing.ofScope =
        ((listedIndex index).flatMap (·.2)).find? fun listing => listing.pointer == pointer := by
    intro index
    have flat : (listedIndex index).flatMap (·.2) = (index.flatMap (·.2)).map Listing.ofScope := by
      rw [listedIndex, List.flatMap_map, List.map_flatMap]
    rw [flat, List.find?_map]
    rfl
  rw [Setting.atPointer?, Setting.atPointer?, listed, listed, alike.listings]

theorem Setting.Alike.absolute_eq (alike : setting.Alike other) :
    setting.absolute = other.absolute := by
  funext path
  rw [Setting.absolute, Setting.absolute, alike.root]

theorem Setting.Alike.locatedTarget?_eq (alike : setting.Alike other) :
    locatedTarget? setting = locatedTarget? other := by
  funext file binding reference
  simp only [locatedTarget?, Setting.analysisAt?, alike.absolute_eq, alike.root, alike.locators,
    alike.analyses]

theorem Setting.Alike.importTarget?_eq (alike : setting.Alike other) (file : FileAnalysis)
    (binding : Import) (reference : Reference) :
    (importTarget? setting file binding reference).map (Prod.map Listing.ofScope id) =
      (importTarget? other file binding reference).map (Prod.map Listing.ofScope id) := by
  rw [importTarget?, importTarget?, alike.locatedTarget?_eq]
  split
  · rfl
  · have named := congrArg (Option.map fun listing => (listing, true))
      (alike.firstOfNames?_eq (importNames binding reference))
    simpa [Option.map_map, Function.comp_def] using named

/-- Of the scopes of a name, the first in the same file, or else the first of all. -/
def nearest? (scope : Scope) (named : List Scope) : Option Scope :=
  (named.find? fun candidate => candidate.filePath == scope.filePath).or named.head?

theorem decoratorTarget?_eq_or (setting : Setting) (file : FileAnalysis) (scope : Scope)
    (decorator : Decorator) :
    decoratorTarget? setting file scope decorator =
      ((boundImport? (bindingTable file.imports) (decoratorReference decorator)).bind
          fun binding => locatedTarget? setting file binding (decoratorReference decorator)).or
        (nearest? scope
          ((setting.index.lookup (decoratorReference decorator).identifier).getD [])) := by
  unfold decoratorTarget? nearest?
  generalize decoratorReference decorator = reference
  dsimp only
  split
  · rename_i located
    rw [located, Option.some_or]
  · rename_i unlocated
    rw [unlocated, Option.none_or]
    split
    · rename_i found
      rw [found, Option.some_or]
    · rename_i elsewhere
      rw [elsewhere, Option.none_or]

theorem map_nearest? (scope : Scope) (named : List Scope) :
    (nearest? scope named).map Listing.ofScope =
      ((named.map Listing.ofScope).find? fun listing => listing.file == scope.filePath).or
        (named.map Listing.ofScope).head? := by
  rw [nearest?, Option.map_or, List.find?_map, List.head?_map]
  rfl

theorem Setting.Alike.decoratorTarget?_eq (alike : setting.Alike other) (file : FileAnalysis)
    (scope : Scope) (decorator : Decorator) :
    (decoratorTarget? setting file scope decorator).map Listing.ofScope =
      (decoratorTarget? other file scope decorator).map Listing.ofScope := by
  have listed : ∀ found : Option (List Scope), (found.getD []).map Listing.ofScope =
      (found.map (List.map Listing.ofScope)).getD [] := by
    intro found
    cases found <;> rfl
  rw [decoratorTarget?_eq_or, decoratorTarget?_eq_or, alike.locatedTarget?_eq, Option.map_or,
    Option.map_or, map_nearest?, map_nearest?, listed, listed, alike.lookup_eq]

/-! ## Edges and the ledger -/

/-- An edge to a scope tells of it what its listing tells. -/
theorem edgeBetween_eq_of_listing (relation : Relation) (scope : Scope) {target target' : Scope}
    (same : Listing.ofScope target = Listing.ofScope target') (evidence : Evidence) :
    edgeBetween relation scope target evidence = edgeBetween relation scope target' evidence := by
  have ends : Endpoint.ofScope target = Endpoint.ofScope target' :=
    congrArg Listing.endpoint same
  rw [edgeBetween, edgeBetween, ends]

theorem Setting.Alike.referenceEdge?_eq (alike : setting.Alike other) (file : FileAnalysis)
    (scope : Scope) (reference : Reference) :
    referenceEdge? setting file scope reference = referenceEdge? other file scope reference := by
  unfold referenceEdge?
  split
  · congr 1
    funext binding
    apply bind_eq_of_map_eq (alike.importTarget?_eq file binding reference)
    rintro ⟨target, byNameOnly⟩ ⟨target', byNameOnly'⟩ same
    obtain ⟨sameListing, rfl⟩ := Prod.mk.inj same
    congr 1
    funext relation
    exact edgeBetween_eq_of_listing relation scope sameListing _
  · apply bind_eq_of_map_eq (alike.atPointer?_eq _)
    intro target target' same
    congr 1
    funext relation
    exact edgeBetween_eq_of_listing relation scope same _
  · rfl

theorem Setting.Alike.decoratorEdge?_eq (alike : setting.Alike other) (file : FileAnalysis)
    (scope : Scope) (decorator : Decorator) :
    decoratorEdge? setting file scope decorator = decoratorEdge? other file scope decorator := by
  rw [decoratorEdge?, decoratorEdge?, Option.map_eq_bind, Option.map_eq_bind]
  apply bind_eq_of_map_eq (alike.decoratorTarget?_eq file scope decorator)
  intro target target' same
  exact congrArg some (edgeBetween_eq_of_listing _ scope same _)

theorem Setting.Alike.allEdges_eq (alike : setting.Alike other) (options : Options) :
    allEdges options setting = allEdges options other := by
  have emitted : scopeEdges options setting = scopeEdges options other := by
    funext file scope
    rw [scopeEdges, scopeEdges, funext (alike.referenceEdge?_eq file scope),
      funext (alike.decoratorEdge?_eq file scope)]
  have contributed : contributions options setting = contributions options other := by
    rw [contributions, contributions, emitted, alike.analyses]
  rw [allEdges, allEdges, forwardEdges, forwardEdges, contributed]

theorem Setting.Alike.lostLedger_eq (alike : setting.Alike other) :
    lostLedger setting = lostLedger other := by
  have lost : isLost setting = isLost other := by
    funext file reference
    rw [isLost, isLost]
    congr 1
    split
    · rename_i binding _
      have same := congrArg Option.isNone (alike.importTarget?_eq file binding reference)
      simpa using same
    · rfl
  rw [lostLedger, lostLedger, lost, alike.analyses]

end Alike

/-! ## Classified once more -/

section Again

variable (locators : Locators) (analyses : List FileAnalysis)

/-- Classification changes nothing that a listing tells. -/
theorem listings_namedScopes_classify :
    (namedScopes (classify locators analyses)).map Listing.ofScope =
      (namedScopes analyses).map Listing.ofScope := by
  simp only [namedScopes, classify, List.flatMap_map, List.filter_flatMap, List.map_flatMap]
  congr 1
  funext file
  rw [classifyFile, List.filter_map, List.map_map]
  rfl

theorem listings_bearers_classify (name : String) :
    (bearers (classify locators analyses) name).map Listing.ofScope =
      (bearers analyses name).map Listing.ofScope := by
  have listed : ∀ scopes : List Scope,
      (scopes.filter fun scope => scope.name == name).map Listing.ofScope =
        (scopes.map Listing.ofScope).filter fun listing => listing.name == name := by
    intro scopes
    rw [List.filter_map]
    rfl
  rw [bearers, bearers, listed, listed, listings_namedScopes_classify]

theorem listedIndex_nameIndex_classify :
    listedIndex (nameIndex (classify locators analyses)) = listedIndex (nameIndex analyses) := by
  have names := congrArg (List.map Listing.name) (listings_namedScopes_classify locators analyses)
  rw [List.map_map, List.map_map] at names
  change (namedScopes (classify locators analyses)).map (·.name) =
    (namedScopes analyses).map (·.name) at names
  rw [listedIndex, listedIndex, nameIndex, nameIndex, List.map_map, List.map_map, names]
  congr 1
  funext name
  exact congrArg (Prod.mk name) (listings_bearers_classify locators analyses name)

variable {locators analyses}

/-- What was kept of a reference is kept again, as it is. -/
theorem settled?_of_settled? {file : FileAnalysis} {reference kept : Reference}
    (settled : settled? locators analyses file reference = some kept) :
    settled? locators (classify locators analyses) (classifyFile locators analyses file) kept =
      some kept := by
  have listed := listings_bearers_classify locators analyses reference.identifier
  unfold settled? at settled
  rcases fate_cases locators analyses file reference with
    ⟨binding, bound, fated⟩ | ⟨unbound, ⟨target, rest, named, fated⟩ | ⟨unnamed, last⟩⟩
  · rw [fated] at settled
    obtain rfl := Option.some.inj settled
    have boundAgain : boundImport? (bindingTable (classifyFile locators analyses file).imports)
        { reference with
          kind := .imported
          source := some binding.source
          isLocalImport := some (isLocalImport (locators file.language) binding) } =
            some binding := bound
    rw [settled?, fate, boundAgain]
    rfl
  · rw [fated] at settled
    obtain rfl := Option.some.inj settled
    rw [named, List.map_cons] at listed
    obtain ⟨target', rest', namedAgain, sameListing, _⟩ := List.map_eq_cons_iff.mp listed
    have samePointer : target'.pointer = target.pointer := by
      rw [← pointer_listing, sameListing, pointer_listing]
    have unboundAgain : boundImport? (bindingTable (classifyFile locators analyses file).imports)
        { reference with kind := .localScope, targetScope := some target.pointer } = none :=
      unbound
    rw [settled?, fate, unboundAgain]
    dsimp only
    rw [namedAgain, ← samePointer]
    rfl
  · rw [unnamed, List.map_nil, List.map_eq_nil_iff] at listed
    rcases last with ⟨_, fated⟩ | ⟨notBuiltin, fated⟩
    · rw [fated] at settled
      contradiction
    · rw [fated] at settled
      obtain rfl := Option.some.inj settled
      have unboundAgain : boundImport? (bindingTable (classifyFile locators analyses file).imports)
          { reference with kind := .unknown } = none := unbound
      rw [settled?, fate, unboundAgain]
      dsimp only
      rw [listed]
      change (if (builtinsOf file.language).contains reference.identifier then Fate.isBuiltin
        else .isUnknown).apply _ = _
      rw [if_neg (by simpa using notBuiltin)]
      rfl

/-- Imports that are all there are added without effect. -/
theorem foldl_addImport_eq_self {bindings imports : List Import}
    (there : ∀ binding ∈ bindings, binding ∈ imports) : bindings.foldl addImport imports = imports := by
  induction bindings with
  | nil => rfl
  | cons binding rest ih =>
      have known : imports.contains binding = true := by
        simpa using there binding List.mem_cons_self
      rw [List.foldl_cons, addImport, if_pos known]
      exact ih fun other member => there other (List.mem_cons_of_mem _ member)

/-- A reference that is kept uses the import that it used before. -/
theorem boundImport?_of_settled? {file : FileAnalysis} {reference kept : Reference}
    (settled : settled? locators analyses file reference = some kept)
    (table : List (String × Import)) : boundImport? table kept = boundImport? table reference := by
  unfold settled? at settled
  cases fated : fate locators analyses file reference with
  | isBuiltin =>
      rw [fated] at settled
      contradiction
  | usesImport _ _ | namesScope _ | isUnknown =>
      rw [fated] at settled
      obtain rfl := Option.some.inj settled
      rfl

theorem classifyScope_classifyScope (file : FileAnalysis) (scope : Scope) :
    classifyScope locators (classify locators analyses) (classifyFile locators analyses file)
        (classifyScope locators analyses file scope) =
      classifyScope locators analyses file scope := by
  have references : (scope.references.filterMap (settled? locators analyses file)).filterMap
      (settled? locators (classify locators analyses) (classifyFile locators analyses file)) =
        scope.references.filterMap (settled? locators analyses file) := by
    rw [List.filterMap_filterMap]
    congr 1
    funext reference
    cases settled : settled? locators analyses file reference with
    | none => rfl
    | some kept => exact settled?_of_settled? settled
  have imports : extendImports (bindingTable file.imports)
      (classifyScope locators analyses file scope) =
        (classifyScope locators analyses file scope).imports := by
    apply foldl_addImport_eq_self
    intro binding member
    obtain ⟨kept, keptMem, bound⟩ := List.mem_filterMap.mp member
    obtain ⟨reference, referenceMem, settled⟩ := List.mem_filterMap.mp keptMem
    rw [boundImport?_of_settled? settled] at bound
    exact (mem_foldl_addImport_iff _ _ _).mpr
      (Or.inr (List.mem_filterMap.mpr ⟨reference, referenceMem, bound⟩))
  change { classifyScope locators analyses file scope with
    references := (scope.references.filterMap (settled? locators analyses file)).filterMap
      (settled? locators (classify locators analyses) (classifyFile locators analyses file))
    imports := extendImports (bindingTable file.imports)
      (classifyScope locators analyses file scope) } = _
  rw [references, imports]
  rfl

variable (locators analyses)

/-- Classified files are classified as they are. -/
theorem classify_classify :
    classify locators (classify locators analyses) = classify locators analyses := by
  have again : ∀ file, classifyFile locators (classify locators analyses)
      (classifyFile locators analyses file) = classifyFile locators analyses file := by
    intro file
    rw [classifyFile, classifyFile]
    congr 1
    rw [List.map_map]
    congr 1
    funext scope
    exact classifyScope_classifyScope file scope
  rw [classify, classify, List.map_map]
  congr 1
  funext file
  exact again file

end Again

/-! ## Whole graphs -/

theorem alike_settingOf_classify (root : Path) (locators : Locators)
    (analyses : List FileAnalysis) :
    (settingOf root locators (classify locators analyses)).Alike
      (settingOf root locators analyses) where
  root := rfl
  locators := rfl
  analyses := classify_classify locators analyses
  listings := listedIndex_nameIndex_classify locators analyses

/-- The classified files of a project have its graph. -/
theorem resolve_classify (options : Options) (root : Path) (locators : Locators)
    (analyses : List FileAnalysis) :
    resolve options root locators (classify locators analyses) =
      resolve options root locators analyses := by
  have alike := alike_settingOf_classify root locators analyses
  have unknown : unknownLedger locators (classify locators analyses) =
      unknownLedger locators analyses := by
    rw [unknownLedger_eq_unknownEntries, unknownLedger_eq_unknownEntries, classify_classify]
  have files : (classify locators analyses).length = analyses.length := List.length_map _
  have scopes : ((classify locators analyses).flatMap (·.scopes)).length =
      (analyses.flatMap (·.scopes)).length := by
    have same := congrArg List.length (projectEndpoints_classify locators analyses)
    rwa [projectEndpoints, projectEndpoints, List.length_map, List.length_map] at same
  have listings := alike.listings
  unfold listedIndex at listings
  simp only [resolve, alike.allEdges_eq options, alike.lostLedger_eq, alike.analyses, unknown,
    files, scopes, listings]

end ScopeAtlas.Graph

namespace ScopeAtlas.Workspace

open ScopeAtlas.Data ScopeAtlas.Files ScopeAtlas.Graph

/-! ## Whole runs -/

section Faults

variable {setting other : Setting}

theorem importFault?_eq_of_alike (alike : setting.Alike other) (homes : List (String × Home))
    (file : FileAnalysis) (binding : Import) :
    importFault? homes setting file binding = importFault? homes other file binding := by
  rw [importFault?, importFault?, alike.absolute_eq]

theorem referenceFault?_eq_of_alike (alike : setting.Alike other) (homes : List (String × Home))
    (file : FileAnalysis) (scope : Scope) (reference : Reference) :
    referenceFault? homes setting file scope reference =
      referenceFault? homes other file scope reference := by
  unfold referenceFault?
  split
  · congr 1
    funext binding
    have leads := congrArg Option.isSome (alike.importTarget?_eq file binding reference)
    rw [Option.isSome_map, Option.isSome_map] at leads
    rw [importFault?_eq_of_alike alike, leads]
  · have leads := congrArg Option.isSome (alike.atPointer?_eq (reference.targetScope.getD ""))
    rw [Option.isSome_map, Option.isSome_map] at leads
    rw [leads]
  · rfl

/-- Settings that are alike are refused alike. -/
theorem useFault?_eq_of_alike (alike : setting.Alike other) (options : Options)
    (homes : List (String × Home)) :
    useFault? options homes setting = useFault? options homes other := by
  have decorators : decoratorFault? homes setting = decoratorFault? homes other := by
    funext file decorator
    rw [decoratorFault?, decoratorFault?, funext (importFault?_eq_of_alike alike homes file)]
  have references : referenceFault? homes setting = referenceFault? homes other := by
    funext file scope reference
    exact referenceFault?_eq_of_alike alike homes file scope reference
  rw [useFault?, useFault?, alike.analyses, decorators, references]

end Faults

/-- Where the specifiers of all files are accepted, those of the classified files are: they use the
imports that they used before. -/
theorem classFault?_classify_eq_none {homes : List (String × Home)} {locators : Locators}
    {analyses : List FileAnalysis} (accepted : classFault? homes analyses = none) :
    classFault? homes (classify locators analyses) = none := by
  unfold classFault? at accepted ⊢
  rw [List.findSome?_eq_none_iff] at accepted ⊢
  intro file fileMem
  obtain ⟨origin, originMem, rfl⟩ := List.mem_map.mp fileMem
  have originAccepted := accepted origin originMem
  rw [Option.bind_eq_none_iff] at originAccepted ⊢
  intro home known
  have homeAccepted := originAccepted home known
  rw [List.findSome?_eq_none_iff] at homeAccepted ⊢
  intro kept keptMem
  obtain ⟨classified, classifiedMem, keptMem⟩ := List.mem_flatMap.mp keptMem
  obtain ⟨scope, scopeMem, rfl⟩ := List.mem_map.mp classifiedMem
  obtain ⟨reference, referenceMem, settled⟩ := List.mem_filterMap.mp keptMem
  have referenceAccepted := homeAccepted reference
    (List.mem_flatMap.mpr ⟨scope, scopeMem, referenceMem⟩)
  change (boundImport? (bindingTable origin.imports) kept).bind _ = none
  rw [boundImport?_of_settled? settled]
  exact referenceAccepted

/-- A project that was linked once is linked again, by its classified files and with any options, as
it is by its files. -/
theorem link_classified {options : Options} {files : FileTree} {root : Path}
    {analyses : List FileAnalysis} {graph : Resolution}
    (linked : link options files root analyses = .ok graph) (later : Options) :
    link later files root graph.analyses = link later files root analyses := by
  obtain ⟨homes, loaded, classes, _, _, rfl⟩ := (link_eq_ok_iff _ _ _ _ _).mp linked
  change link later files root (classify (locatorsOf homes) analyses) = _
  have languages : (classify (locatorsOf homes) analyses).map (·.language) =
      analyses.map (·.language) := by
    rw [classify, List.map_map]
    rfl
  have paths : pathFault? (classify (locatorsOf homes) analyses) = pathFault? analyses := by
    rw [pathFault?, pathFault?, classify, List.any_map]
    rfl
  have uses := useFault?_eq_of_alike (alike_settingOf_classify root (locatorsOf homes) analyses)
    later homes
  rw [link, link, languages, loaded]
  simp only [Except.mapError, bind, Except.bind, classFault?_classify_eq_none classes, classes,
    paths, uses, resolve_classify]

/-- The classified files in the result of a run stand for the files of the project.  Another run over
them, with the same options or with others, gives what it gives over the files: the same classified
files, the same edges with the same evidence in the same order, the same ledger, and the same
listings by name and by id. -/
theorem classified_files_replay (root : Path) (analyses : List FileAnalysis) :
    (∀ options later locators,
      resolve later root locators (resolve options root locators analyses).analyses =
        resolve later root locators analyses) ∧
    ∀ options files graph, link options files root analyses = .ok graph →
      link options files root graph.analyses = .ok graph ∧
        ∀ later, link later files root graph.analyses = link later files root analyses := by
  constructor
  · intro options later locators
    exact resolve_classify later root locators analyses
  · intro options files graph linked
    exact ⟨(link_classified linked options).trans linked, link_classified linked⟩

end ScopeAtlas.Workspace
