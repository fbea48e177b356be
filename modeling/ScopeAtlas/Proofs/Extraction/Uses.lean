import Mathlib.Data.List.Pairwise
import ScopeAtlas.Language.Python
import ScopeAtlas.Proofs.Extraction.Tags
import ScopeAtlas.Proofs.Syntax.Numbers

/-!
# What a reference is

The search for references works off a list of places, asks for each identifier what the nodes above
it make of it, and puts what it finds in order.  What it finds has a meaning that needs no list: it
is defined by recursion on the tree, where every node hands down to its children whether a name there
is bound and whether a type is expected.  A node that is passed over gives nothing, an access to a
member gives the member and what its object gives, an identifier gives itself, and every other node
gives what its children give.
-/

namespace ScopeAtlas.Extraction

open ScopeAtlas.Language ScopeAtlas.Syntax ScopeAtlas.Text

/-! ## What is handed down -/

/-- What the nodes above a place make of a name there. -/
structure Surroundings where
  /-- A name is bound. -/
  binds : Bool
  /-- A plain identifier stands for a type. -/
  expectsType : Bool

namespace Surroundings

/-- The surroundings of a place, found by climbing. -/
def ofPlace (table : NodeTable) (place : Cursor) : Surroundings where
  binds := isDefinition table place
  expectsType := (place.parentKind?.map table.typeContexts.contains).getD false

/-- What a node of a kind hands down to its children in a field.  A container binds all of them, a
node with defining fields those in one of the fields, and a pattern binds if it is bound itself. -/
def inside (table : NodeTable) (around : Surroundings) (kind : String) (field : Option String) :
    Surroundings where
  binds :=
    let isPattern := table.patternTypes.contains kind
    table.definitionContainers.contains kind ||
      match table.definitionFields.lookup kind with
      | some fields =>
          fields.any (fun name => field == some name) && (!isPattern || around.binds)
      | none => isPattern && around.binds
  expectsType := table.typeContexts.contains kind

/-- What is handed down is what climbing finds. -/
theorem ofPlace_child (table : NodeTable) (parent : Cursor) (before : List Node) (node : Node) :
    ofPlace table (.child parent before node) =
      (ofPlace table parent).inside table parent.kind node.field := by
  have binds : isDefinition table (.child parent before node) =
      ((ofPlace table parent).inside table parent.kind node.field).binds := by
    rw [isDefinition, inside, ofPlace]
    dsimp only
    cases table.definitionContainers.contains parent.kind with
    | true => rfl
    | false =>
        cases table.definitionFields.lookup parent.kind with
        | none => cases table.patternTypes.contains parent.kind <;> rfl
        | some fields =>
            dsimp only
            cases fields.any fun name => node.field == some name with
            | false => rfl
            | true =>
                cases table.patternTypes.contains parent.kind with
                | false => rfl
                | true => simp
  rw [ofPlace, binds]
  rfl

end Surroundings

/-! ## References by recursion on the tree -/

/-- The text that a node covers. -/
def nodeText (ctx : Context) (node : Node) : String :=
  ctx.source.slice node.startByte node.endByte

/-- A reference to a name at the beginning of a node. -/
def useAt (ctx : Context) (node : Node) (name : String) (qualifier : Option String) : Reference :=
  let point := ctx.source.point node.startByte
  { identifier := name
    line := point.row + 1
    column := point.column
    context := ctx.source.lineText point.row
    qualifier := qualifier }

/-- The text of an object, unless it is empty, holds a call or spans lines. -/
def qualifierText? (text : String) : Option String :=
  if text = "" ∨ contains "(" text = true ∨ contains "\n" text = true then none else some text

/-- The use of a member: none if it has no text or is reserved, or if the first segment of the
qualifier is built in. -/
def memberUse? (ctx : Context) (object member : Node) : Option Reference :=
  let name := nodeText ctx member
  let qualifier := qualifierText? (nodeText ctx object)
  let root := beforeFirst "." (replaceAll "::" "." (qualifier.getD ""))
  if name = "" ∨ name ∈ ctx.profile.stopWords ∨ root ∈ ctx.profile.builtins then none
  else some (useAt ctx member name qualifier)

/-- The use of an identifier: none if it has no text, or is reserved, excluded or bound, or if it is
built in and no type. -/
def nameUse? (ctx : Context) (exclusions : List String) (around : Surroundings) (node : Node) :
    Option Reference :=
  let name := nodeText ctx node
  let isType := node.kind ∈ ctx.nodes.typeIdentifiers ∨ around.expectsType = true
  if name = "" ∨ name ∈ ctx.profile.stopWords ∨ name ∈ exclusions ∨ around.binds = true ∨
      name ∈ ctx.profile.builtins ∧ ¬isType then none
  else some (useAt ctx node name none)

/-- The field of the object, the object and the member of an access that has both. -/
def objectAndMember? (table : NodeTable) (kind : String) (children : List Node) :
    Option (String × Node × Node) :=
  match table.memberAccess.lookup kind with
  | none => none
  | some (object, member) =>
      match children.find? (·.field == some object), children.find? (·.field == some member) with
      | some objectNode, some memberNode => some (object, objectNode, memberNode)
      | _, _ => none

section Recursion

variable (ctx : Context) (exclusions : List String) (skip : List Nat)

mutual

/-- The references at and below a node. -/
def usesAt (around : Surroundings) : Node → List Reference
  | .mk info children =>
      if info.index ∈ skip ∨ info.kind ∈ ctx.nodes.skipReferences ∨
          info.kind ∈ ctx.nodes.comments ∨ info.kind ∈ ctx.nodes.imports then []
      else
        match objectAndMember? ctx.nodes info.kind children with
        | some (field, object, member) =>
            (memberUse? ctx object member).toList ++ usesInField around info.kind field children
        | none =>
            if info.kind ∈ ctx.nodes.identifiers ∨ info.kind ∈ ctx.nodes.typeIdentifiers then
              (nameUse? ctx exclusions around (.mk info children)).toList
            else usesInAll around info.kind children

/-- The references of the first child in a field of a node of a kind. -/
def usesInField (around : Surroundings) (kind field : String) : List Node → List Reference
  | [] => []
  | node :: rest =>
      if node.field = some field then usesAt (around.inside ctx.nodes kind node.field) node
      else usesInField around kind field rest

/-- The references of all children of a node of a kind. -/
def usesInAll (around : Surroundings) (kind : String) : List Node → List Reference
  | [] => []
  | node :: rest =>
      usesAt (around.inside ctx.nodes kind node.field) node ++ usesInAll around kind rest

end

end Recursion

/-! ## The search and the recursion -/

section Agreement

variable {ctx : Context} {exclusions : List String} {skip : List Cursor}

/-- The numbers of places. -/
def numbers (places : List Cursor) : List Nat := places.map (·.node.info.index)

theorem usesInAll_eq_flatMap (numbers : List Nat) (around : Surroundings) (kind : String)
    (nodes : List Node) :
    usesInAll ctx exclusions numbers around kind nodes = nodes.flatMap fun node =>
      usesAt ctx exclusions numbers (around.inside ctx.nodes kind node.field) node := by
  induction nodes with
  | nil => rfl
  | cons node rest ih => rw [usesInAll, List.flatMap_cons, ih]

theorem usesInField_eq {numbers : List Nat} {around : Surroundings} {kind field : String}
    {nodes : List Node} {node : Node} (found : nodes.find? (·.field == some field) = some node) :
    usesInField ctx exclusions numbers around kind field nodes =
      usesAt ctx exclusions numbers (around.inside ctx.nodes kind node.field) node := by
  induction nodes with
  | nil => cases found
  | cons first rest ih =>
      rw [usesInField]
      by_cases inField : first.field = some field
      · rw [List.find?_cons_of_pos (by simpa using inField)] at found
        rw [if_pos inField, Option.some.inj found]
      · rw [List.find?_cons_of_neg (by simpa using inField)] at found
        rw [if_neg inField, ih found]

/-- The references at and below a place. -/
def usesBelow (ctx : Context) (exclusions : List String) (skip : List Cursor) (place : Cursor) :
    List Reference :=
  usesAt ctx exclusions (numbers skip) (.ofPlace ctx.nodes place) place.node

theorem usesBelow_child {parent child : Cursor} (isChild : child ∈ parent.children) :
    usesBelow ctx exclusions skip child =
      usesAt ctx exclusions (numbers skip)
        ((Surroundings.ofPlace ctx.nodes parent).inside ctx.nodes parent.kind child.field)
        child.node := by
  obtain ⟨_, _, _, _, rfl⟩ := Cursor.mem_children_iff.mp isChild
  rw [usesBelow, Surroundings.ofPlace_child]
  rfl

theorem skipped_iff {place : Cursor} :
    (skip.any (Cursor.same place) || ctx.hidesReferences place.kind) = true ↔
      place.node.info.index ∈ numbers skip ∨ place.kind ∈ ctx.nodes.skipReferences ∨
        place.kind ∈ ctx.nodes.comments ∨ place.kind ∈ ctx.nodes.imports := by
  have same : skip.any (Cursor.same place) = true ↔ place.node.info.index ∈ numbers skip := by
    rw [List.any_eq_true, numbers, List.mem_map]
    refine exists_congr fun other => and_congr_right fun _ => ?_
    rw [Cursor.same, beq_iff_eq]
    exact eq_comm
  have hides : ctx.hidesReferences place.kind = true ↔ place.kind ∈ ctx.nodes.skipReferences ∨
      place.kind ∈ ctx.nodes.comments ∨ place.kind ∈ ctx.nodes.imports := by
    simp [Context.hidesReferences, NodeTable.isImportOrComment, or_comm]
  rw [Bool.or_eq_true, same, hides]

theorem qualifierOf_eq (object : Cursor) :
    ctx.qualifierOf object = qualifierText? (nodeText ctx object.node) := by
  change (if _ then _ else _) = (if _ then _ else _)
  refine if_congr ?_ rfl rfl
  rw [Bool.or_eq_true, Bool.or_eq_true, String.isEmpty_iff, or_assoc]
  rfl

theorem memberReference?_eq (object member : Cursor) :
    ctx.memberReference? object member = memberUse? ctx object.node member.node := by
  rw [Context.memberReference?, memberUse?, qualifierOf_eq]
  refine if_congr ?_ rfl rfl
  rw [Bool.or_eq_true, Bool.or_eq_true, String.isEmpty_iff, List.contains_iff_mem,
    List.contains_iff_mem, or_assoc]
  rfl

theorem identifierReference?_eq (place : Cursor) :
    ctx.identifierReference? exclusions place =
      nameUse? ctx exclusions (.ofPlace ctx.nodes place) place.node := by
  have expected : inTypePosition ctx.nodes place = true ↔
      place.node.kind ∈ ctx.nodes.typeIdentifiers ∨
        (Surroundings.ofPlace ctx.nodes place).expectsType = true := by
    rw [inTypePosition, Bool.or_eq_true, List.contains_iff_mem]
    rfl
  have free : ((ctx.text place).isEmpty || ctx.profile.stopWords.contains (ctx.text place) ||
      exclusions.contains (ctx.text place)) = true ↔
      nodeText ctx place.node = "" ∨ nodeText ctx place.node ∈ ctx.profile.stopWords ∨
        nodeText ctx place.node ∈ exclusions := by
    rw [Bool.or_eq_true, Bool.or_eq_true, String.isEmpty_iff, List.contains_iff_mem,
      List.contains_iff_mem, or_assoc]
    rfl
  have known : (ctx.profile.builtins.contains (ctx.text place) &&
      !inTypePosition ctx.nodes place) = true ↔
      nodeText ctx place.node ∈ ctx.profile.builtins ∧
        ¬(place.node.kind ∈ ctx.nodes.typeIdentifiers ∨
          (Surroundings.ofPlace ctx.nodes place).expectsType = true) := by
    rw [Bool.and_eq_true, Bool.not_eq_true', ← Bool.not_eq_true, expected, List.contains_iff_mem]
    rfl
  have binds : (Surroundings.ofPlace ctx.nodes place).binds = isDefinition ctx.nodes place := rfl
  simp only [Context.identifierReference?, nameUse?, free, known, binds, ← or_assoc, ite_or]
  rfl

/-- The first child in a field is the place of the first node in the field. -/
theorem find?_field_children (place : Cursor) (name : String) :
    place.node.children.find? (·.field == some name) =
      (place.childByField? name).map Cursor.node := by
  rw [← Cursor.map_node_children, List.find?_map]
  rfl

theorem objectAndMember?_of_none {place : Cursor} (parts : ctx.accessParts? place = none) :
    objectAndMember? ctx.nodes place.kind place.node.children = none := by
  rw [Context.accessParts?] at parts
  rw [objectAndMember?]
  split at parts
  · rename_i object member fields
    rw [fields]
    dsimp only
    rw [find?_field_children, find?_field_children]
    cases objectPlace : place.childByField? object with
    | none => rfl
    | some _ =>
        cases memberPlace : place.childByField? member with
        | none => rfl
        | some _ => simp [objectPlace, memberPlace] at parts
  · rename_i none
    rw [none]

theorem objectAndMember?_of_some {place object member : Cursor}
    (parts : ctx.accessParts? place = some (object, member)) :
    ∃ field, place.childByField? field = some object ∧
      objectAndMember? ctx.nodes place.kind place.node.children =
        some (field, object.node, member.node) := by
  rw [Context.accessParts?] at parts
  split at parts
  · rename_i objectField memberField fields
    split at parts
    · rename_i objectFound memberFound
      obtain ⟨rfl, rfl⟩ := Prod.mk.inj (Option.some.inj parts)
      refine ⟨objectField, objectFound, ?_⟩
      rw [objectAndMember?, fields]
      dsimp only
      rw [find?_field_children, find?_field_children, objectFound, memberFound]
      rfl
    · cases parts
  · cases parts

theorem explore_eq_usesBelow (place : Cursor) (distinct : place.node.indices.Nodup) :
    Cursor.explore (ctx.visitForReferences exclusions skip) [place] =
      usesBelow ctx exclusions skip place := by
  induction place using Cursor.childInduction with
  | step place ih =>
      have below : ∀ child ∈ place.children,
          Cursor.explore (ctx.visitForReferences exclusions skip) [child] =
            usesBelow ctx exclusions skip child := fun child isChild =>
        ih child isChild ((Cursor.sublist_indices_of_mem_children isChild).nodup distinct)
      have node : place.node = .mk place.node.info place.node.children := by
        cases place.node
        rfl
      rw [Cursor.explore_singleton, Context.visitForReferences, usesBelow, node, usesAt]
      by_cases skipped : (skip.any (Cursor.same place) || ctx.hidesReferences place.kind) = true
      · rw [if_pos skipped, if_pos (skipped_iff.mp skipped)]
        simp
      · rw [if_neg skipped, if_neg (mt skipped_iff.mpr skipped)]
        cases parts : ctx.accessParts? place with
        | some pair =>
            obtain ⟨object, member⟩ := pair
            obtain ⟨field, found, nodes⟩ := objectAndMember?_of_some parts
            have isChild := Cursor.mem_children_of_childByField? found
            dsimp only
            rw [nodes]
            dsimp only
            rw [Cursor.filter_same_children distinct isChild, List.flatMap_singleton,
              below object isChild, usesBelow_child isChild, memberReference?_eq]
            congr 1
            refine (usesInField_eq ?_).symm
            rw [find?_field_children, found]
            rfl
        | none =>
            dsimp only
            rw [objectAndMember?_of_none parts]
            dsimp only
            by_cases isName : ctx.nodes.isIdentifier place.kind = true
            · have named : place.kind ∈ ctx.nodes.identifiers ∨
                  place.kind ∈ ctx.nodes.typeIdentifiers := by
                simpa [NodeTable.isIdentifier] using isName
              rw [if_pos isName, if_pos named, identifierReference?_eq, ← node]
              simp
            · have unnamed : ¬(place.kind ∈ ctx.nodes.identifiers ∨
                  place.kind ∈ ctx.nodes.typeIdentifiers) := by
                simpa [NodeTable.isIdentifier] using isName
              rw [if_neg isName, if_neg unnamed, usesInAll_eq_flatMap, List.nil_append,
                List.filter_true, ← Cursor.map_node_children place, List.flatMap_map]
              refine List.flatMap_congr fun child isChild => ?_
              rw [below child isChild, usesBelow_child isChild]

theorem explore_roots_eq {roots : List Cursor}
    (distinct : ∀ root ∈ roots, root.node.indices.Nodup) :
    Cursor.explore (ctx.visitForReferences exclusions skip) roots =
      roots.flatMap (usesBelow ctx exclusions skip) := by
  rw [Cursor.explore_eq_flatMap]
  exact List.flatMap_congr fun root isRoot => explore_eq_usesBelow root (distinct root isRoot)

/-- Everything that is found is the use of a name at a node. -/
theorem exists_useAt_of_mem_explore {roots : List Cursor} {reference : Reference}
    (found : reference ∈ Cursor.explore (ctx.visitForReferences exclusions skip) roots) :
    ∃ node, reference = useAt ctx node reference.identifier reference.qualifier := by
  obtain ⟨_, _, place, _, found⟩ := Cursor.mem_explore_iff.mp found
  rw [Context.visitForReferences] at found
  split at found
  · cases found
  · split at found
    · rename_i object member _
      rw [Option.mem_toList, memberReference?_eq, memberUse?] at found
      split at found
      · cases found
      · obtain rfl := Option.some.inj found
        exact ⟨member.node, rfl⟩
    · split at found
      · rw [Option.mem_toList, identifierReference?_eq, nameUse?] at found
        split at found
        · cases found
        · obtain rfl := Option.some.inj found
          exact ⟨place.node, rfl⟩
      · cases found

end Agreement

/-! ## Each reference once, and in order -/

/-- Uses of one key are equal: the line and the name say all the rest. -/
theorem useAt_eq_of_key {ctx : Context} {first second : Node} {name other : String}
    {qualifier otherQualifier : Option String}
    (same : referenceKey (useAt ctx first name qualifier) =
      referenceKey (useAt ctx second other otherQualifier)) :
    useAt ctx first name qualifier = useAt ctx second other otherQualifier := by
  obtain ⟨names, lines, columns, qualifiers⟩ : name = other ∧
      ((ctx.source.point first.startByte).row : Int) + 1 =
        (ctx.source.point second.startByte).row + 1 ∧
      ((ctx.source.point first.startByte).column : Int) =
        (ctx.source.point second.startByte).column ∧ qualifier = otherQualifier := by
    simpa [referenceKey, useAt] using same
  have rows : (ctx.source.point first.startByte).row = (ctx.source.point second.startByte).row := by
    omega
  rw [useAt, useAt, names, rows, columns, qualifiers]

theorem pairwise_sortReferences (references : List Reference) :
    (sortReferences references).Pairwise fun first second =>
      first.line < second.line ∨ first.line = second.line ∧ first.column ≤ second.column := by
  have transitive (a b c : Reference) (ab : precedes a b = true) (bc : precedes b c = true) :
      precedes a c = true := by
    simp only [precedes, Bool.or_eq_true, Bool.and_eq_true, decide_eq_true_eq, beq_iff_eq] at *
    omega
  have total (a b : Reference) : (precedes a b || precedes b a) = true := by
    simp only [precedes, Bool.or_eq_true, Bool.and_eq_true, decide_eq_true_eq, beq_iff_eq]
    omega
  refine (List.pairwise_mergeSort transitive total references).imp fun ordered => ?_
  simpa [precedes] using ordered

/-- The references found at and below places of a tree are the uses that the recursion finds there:
in the order of their lines and columns, without two of one identifier, position and qualifier, and
where two stand at one position, in the order in which the recursion meets them. -/
theorem references_found_are_uses (ctx : Context) {rows : List Node.Row} {tree : Node}
    (read : Node.ofRows rows = some tree) {roots : List Cursor}
    (below : ∀ root ∈ roots, (Cursor.root tree).Within root) (exclusions : List String)
    (skip : List Cursor) :
    let found := ctx.collectReferences roots exclusions skip
    let uses := roots.flatMap (usesBelow ctx exclusions skip)
    (found.Pairwise fun first second =>
        first.line < second.line ∨ first.line = second.line ∧ first.column ≤ second.column) ∧
      (found.Pairwise fun first second => referenceKey first ≠ referenceKey second) ∧
      (∀ reference, reference ∈ found ↔ reference ∈ uses) ∧
      found = sortReferences (firstOccurrences uses) := by
  intro found uses
  have distinct : ∀ root ∈ roots, root.node.indices.Nodup := fun root isRoot =>
    (below root isRoot).nodup_indices (Node.nodup_indices_of_ofRows read)
  have agree : Cursor.explore (ctx.visitForReferences exclusions skip) roots = uses :=
    explore_roots_eq distinct
  have sorted : found = sortReferences (firstOccurrences uses) := by
    rw [← agree]
    rfl
  have reordered : found.Perm (firstOccurrences uses) := by
    rw [sorted]
    exact List.mergeSort_perm _ _
  refine ⟨?_, ?_, fun reference => ⟨fun member => ?_, fun member => ?_⟩, sorted⟩
  · rw [sorted]
    exact pairwise_sortReferences _
  · exact (reordered.pairwise_iff fun apart => apart.symm).mpr (pairwise_firstOccurrences uses)
  · exact mem_of_mem_firstOccurrences (reordered.mem_iff.mp member)
  · -- The one that is kept in its place is the same use.
    obtain ⟨kept, keptMem, same⟩ := exists_mem_firstOccurrences member
    have isUse : ∀ other ∈ uses,
        ∃ node, other = useAt ctx node other.identifier other.qualifier := fun other otherMem =>
      exists_useAt_of_mem_explore (agree.symm ▸ otherMem)
    obtain ⟨keptNode, keptIs⟩ := isUse kept (mem_of_mem_firstOccurrences keptMem)
    obtain ⟨node, is⟩ := isUse reference member
    rw [keptIs, is] at same
    rw [is, ← useAt_eq_of_key same, ← keptIs]
    exact reordered.mem_iff.mpr keptMem

/-- The rows of a file that is an access to a member of one byte, with an object of some bytes.  An
object of no bytes is missing. -/
def accessRows (length : Nat) : List Node.Row :=
  let row (kind : String) (field : Option String) (start stop childCount : Nat) : Node.Row :=
    { kind, field, isNamed := kind != ".", isMissing := start == stop, startByte := start,
      endByte := stop, childCount }
  [row "module" none 0 (length + 3) 1, row "expression_statement" none 0 (length + 2) 1,
    row "attribute" none 0 (length + 2) 3, row "identifier" (some "object") 0 length 0,
    row "." none length (length + 1) 0,
    row "identifier" (some "attribute") (length + 1) (length + 2) 0]

/-- The object of the access. -/
def accessObject (length : Nat) : Node :=
  .mk { index := 3, kind := "identifier", field := some "object", isNamed := true,
        isMissing := 0 == length, startByte := 0, endByte := length } []

/-- The member of the access. -/
def accessMember (length : Nat) : Node :=
  .mk { index := 5, kind := "identifier", field := some "attribute", isNamed := true,
        isMissing := length + 1 == length + 2, startByte := length + 1, endByte := length + 2 } []

/-- The access. -/
def accessNode (length : Nat) : Node :=
  .mk { index := 2, kind := "attribute", field := none, isNamed := true,
        isMissing := 0 == length + 2, startByte := 0, endByte := length + 2 }
    [accessObject length,
      .mk { index := 4, kind := ".", field := none, isNamed := false,
            isMissing := length == length + 1, startByte := length, endByte := length + 1 } [],
      accessMember length]

/-- The tree of the file. -/
def accessTree (length : Nat) : Node :=
  .mk { index := 0, kind := "module", field := none, isNamed := true, isMissing := 0 == length + 3,
        startByte := 0, endByte := length + 3 }
    [.mk { index := 1, kind := "expression_statement", field := none, isNamed := true,
           isMissing := 0 == length + 2, startByte := 0, endByte := length + 2 } [accessNode length]]

theorem ofRows_accessRows (length : Nat) :
    Node.ofRows (accessRows length) = some (accessTree length) :=
  rfl

/-- The file before its scopes are collected. -/
def accessContext (text : String) : Context where
  profile := python
  source := .ofBytes text.toUTF8
  filePath := "piece.py"

/-- In an access to a member, the member and then its object are used. -/
theorem access_references_are_uses :
    let ctx := accessContext "a.b\n"
    let root := Cursor.root (accessTree 1)
    let found := ctx.collectReferences [root] [] []
    Node.ofRows (accessRows 1) = some (accessTree 1) ∧
      (found.Pairwise fun first second =>
        first.line < second.line ∨ first.line = second.line ∧ first.column ≤ second.column) ∧
      (found.Pairwise fun first second => referenceKey first ≠ referenceKey second) ∧
      (∀ reference, reference ∈ found ↔ reference ∈ usesBelow ctx [] [] root) ∧
      usesBelow ctx [] [] root =
        [useAt ctx (accessMember 1) "b" (some "a"), useAt ctx (accessObject 1) "a" none] := by
  intro ctx root found
  obtain ⟨sorted, distinct, isUse, _⟩ := references_found_are_uses ctx (ofRows_accessRows 1)
    (List.forall_mem_singleton.mpr Relation.ReflTransGen.refl) [] []
  refine ⟨ofRows_accessRows 1, sorted, distinct, fun reference => ?_, by decide +kernel⟩
  rw [isUse reference, List.flatMap_singleton]

/-- An access whose object has no text has both parts, and the text of its object holds no call and
no line end, but the reference to its member has no qualifier, and there is no other. -/
theorem object_without_text_is_no_qualifier :
    let ctx := accessContext ".x\n"
    let object := nodeText ctx (accessObject 0)
    let member := nodeText ctx (accessMember 0)
    objectAndMember? ctx.nodes (accessNode 0).kind (accessNode 0).children =
        some ("object", accessObject 0, accessMember 0) ∧
      contains "(" object = false ∧ contains "\n" object = false ∧
      member ≠ "" ∧ member ∉ ctx.profile.stopWords ∧
      beforeFirst "." (replaceAll "::" "." object) ∉ ctx.profile.builtins ∧
      ctx.collectReferences [.root (accessTree 0)] [] [] =
        [useAt ctx (accessMember 0) member none] :=
  ⟨rfl, by decide +kernel⟩

end ScopeAtlas.Extraction
