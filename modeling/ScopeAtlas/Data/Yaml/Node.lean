import ScopeAtlas.Data.Yaml.Kind
import ScopeAtlas.Data.Yaml.Token

/-!
# Nodes

The tokens of a document form one node: a scalar, a list or a table, each with its
kind.  A node may be given a name by an anchor, and an alias of that name stands for
the same node; inside the node itself an alias leads back to what lies around it.
-/

namespace ScopeAtlas.Data.Yaml

/-- A part of a document that has a meaning. -/
inductive Node where
  | scalar (kind : Kind) (points : List Nat)
  | list (kind : Kind) (items : List Node)
  | table (kind : Kind) (entries : List (Node × Node))
  /-- A list, or a table, that lies around this node. -/
  | around (asTable : Bool)
deriving Inhabited

/-- A missing node reads as null. -/
def Node.absent : Node := .scalar .null []

/-- What is left to read of a document. -/
structure Rest where
  tokens : List Token
  /-- What is wrong after the last token. -/
  fault : ReadFault
  anchors : List (String × Node) := []
  /-- The short forms for the beginnings of tags. -/
  handles : List (String × String) := []

namespace Rest

/-- The next token. -/
def next (rest : Rest) : Except ReadFault Token :=
  match rest.tokens with
  | token :: _ => .ok token
  | [] => .error rest.fault

/-- Passes over a token. -/
def drop (rest : Rest) : Rest := { rest with tokens := rest.tokens.drop 1 }

/-- One of the given tokens comes next. -/
def isAt (rest : Rest) (expected : List Token) : Except ReadFault Bool :=
  rest.next.map expected.contains

/-- Passes over a given token, which must come next. -/
def expect (rest : Rest) (token : Token) : Except ReadFault Rest := do
  if (← rest.next) == token then return rest.drop else throw .malformed

/-- Remembers a node under the name of its anchor, if it has one. -/
def remember (rest : Rest) (anchor : Option String) (node : Node) : Rest :=
  match anchor with
  | some name => { rest with anchors := (name, node) :: rest.anchors }
  | none => rest

end Rest

/-- A parser of a part of a document. -/
abbrev Step (α : Type) := Rest → Except ReadFault (α × Rest)

/-! ## Properties of nodes -/

/-- The anchor and the tag in front of a node. -/
structure Properties where
  anchor : Option String := none
  /-- The tag in full. -/
  tag : Option String := none

/-- The full tag, in which the short form is replaced. -/
def fullTag (rest : Rest) (handle : Option String) (ending : String) : Except ReadFault String :=
  match handle with
  | none => .ok ending
  | some handle => (orMalformed (rest.handles.lookup handle)).map (· ++ ending)

/-- Reads an anchor, if there is one. -/
def readAnchor : Step (Option String) := fun rest => do
  match ← rest.next with
  | .anchor name => return (some name, rest.drop)
  | _ => return (none, rest)

/-- Reads a tag, if there is one. -/
def readFullTag : Step (Option (Option String × String)) := fun rest => do
  match ← rest.next with
  | .tag handle ending => return (some (handle, ending), rest.drop)
  | _ => return (none, rest)

/-- Reads an anchor and a tag in any order; the name of the anchor must be new. -/
def readProperties : Step Properties := fun rest => do
  let (early, rest) ← readAnchor rest
  let (tag, rest) ← readFullTag rest
  let (late, rest) ← if early.isNone && tag.isSome then readAnchor rest else pure (none, rest)
  let full ←
    match tag with
    | some (handle, ending) => some <$> fullTag rest handle ending
    | none => pure none
  return ({ anchor := early.orElse fun _ => late, tag := full }, rest)

namespace Properties

/-- There is an anchor or a tag. -/
def arePresent (properties : Properties) : Bool :=
  properties.anchor.isSome || properties.tag.isSome

/-- The kind that the tag names; without a tag, or with the bare one, there is none. -/
def kind? (properties : Properties) : Option Kind :=
  match properties.tag with
  | some tag => if tag == "!" then none else some (.ofTag tag)
  | none => none

/-- The name of the anchor is not taken. -/
def checkAnchor (properties : Properties) (rest : Rest) : Except ReadFault Unit :=
  if properties.anchor.any fun name => (rest.anchors.lookup name).isSome then .error .malformed
  else .ok ()

/-- The kind of a scalar.  The bare tag asks for the kind of the spelling. -/
def scalarKind (properties : Properties) (plain : Bool) (points : List Nat) : Kind :=
  match properties.kind? with
  | some kind => kind
  | none => if plain || properties.tag.isSome then .ofSpelling (pointsText points) else .text

end Properties

/-! ## Lists, tables and scalars -/

mutual
/-- Reads a node.  Indentation opens lists and tables only where a `block` may stand, and a list may
have the column of the table around it where it is `flush`.  `fuel` bounds the number of steps. -/
def readNode (block flush : Bool) : (fuel : Nat) → Step Node
  | 0, _ => .error .malformed
  | fuel + 1, rest => do
      match ← rest.next with
      | .alias name => return (← orMalformed (rest.anchors.lookup name), rest.drop)
      | _ =>
          let (properties, rest) ← readProperties rest
          let listKind := properties.kind?.getD .list
          let tableKind := properties.kind?.getD .table
          let start : Bool → Except ReadFault Rest := fun asTable => do
            properties.checkAnchor rest
            return rest.remember properties.anchor (.around asTable)
          let finish : Node → Rest → Node × Rest := fun node rest =>
            (node, rest.remember properties.anchor node)
          match ← rest.next with
          | .item =>
              if flush then
                let (items, rest) ← readFlushItems fuel (← start false)
                return finish (.list listKind items) rest
              else readAbsent properties rest
          | .scalar points plain =>
              properties.checkAnchor rest
              return finish (.scalar (properties.scalarKind plain points) points) rest.drop
          | .listStart =>
              let (items, rest) ← readFlowItems true fuel (← start false).drop
              return finish (.list listKind items) rest
          | .tableStart =>
              let (entries, rest) ← readFlowEntries true fuel (← start true).drop
              return finish (.table tableKind entries) rest
          | .listIndent =>
              if block then
                let (items, rest) ← readItems fuel (← start false).drop
                return finish (.list listKind items) rest
              else readAbsent properties rest
          | .tableIndent =>
              if block then
                let (entries, rest) ← readEntries fuel (← start true).drop
                return finish (.table tableKind entries) rest
              else readAbsent properties rest
          | _ => readAbsent properties rest

/-- A node of which there are properties only. -/
def readAbsent (properties : Properties) : Step Node := fun rest => do
  if !properties.arePresent then throw .malformed
  properties.checkAnchor rest
  let node := Node.scalar (properties.scalarKind true []) []
  return (node, rest.remember properties.anchor node)

/-- Reads a node by indentation, or nothing before one of the given tokens. -/
def readBlockNode (flush : Bool) (stops : List Token) : (fuel : Nat) → Step Node
  | 0, _ => .error .malformed
  | fuel + 1, rest => do
      if ← rest.isAt stops then return (.absent, rest) else readNode true flush fuel rest

/-- Reads a node between brackets, or nothing before one of the given tokens. -/
def readFlowNode (stops : List Token) : (fuel : Nat) → Step Node
  | 0, _ => .error .malformed
  | fuel + 1, rest => do
      if ← rest.isAt stops then return (.absent, rest) else readNode false false fuel rest

/-- Reads the items of a list that was opened by indentation. -/
def readItems : (fuel : Nat) → Step (List Node)
  | 0, _ => .error .malformed
  | fuel + 1, rest => do
      if ← rest.isAt [.item] then
        let (item, rest) ← readBlockNode false [.item, .outdent] fuel rest.drop
        let (items, rest) ← readItems fuel rest
        return (item :: items, rest)
      else return ([], ← rest.expect .outdent)

/-- Reads the items of a list in the column of the table around it. -/
def readFlushItems : (fuel : Nat) → Step (List Node)
  | 0, _ => .error .malformed
  | fuel + 1, rest => do
      if ← rest.isAt [.item] then
        let (item, rest) ← readBlockNode false [.item, .key, .value, .outdent] fuel rest.drop
        let (items, rest) ← readFlushItems fuel rest
        return (item :: items, rest)
      else return ([], rest)

/-- Reads the entries of a table that was opened by indentation. -/
def readEntries : (fuel : Nat) → Step (List (Node × Node))
  | 0, _ => .error .malformed
  | fuel + 1, rest => do
      if ← rest.isAt [.key] then
        let stops := [Token.key, .value, .outdent]
        let (key, rest) ← readBlockNode true stops fuel rest.drop
        let (value, rest) ←
          if ← rest.isAt [.value] then readBlockNode true stops fuel rest.drop
          else pure (.absent, rest)
        let (entries, rest) ← readEntries fuel rest
        return ((key, value) :: entries, rest)
      else return ([], ← rest.expect .outdent)

/-- Reads the items of a list between brackets, with a comma before all but the `first`.  A key with
its value is an item of its own. -/
def readFlowItems (first : Bool) : (fuel : Nat) → Step (List Node)
  | 0, _ => .error .malformed
  | fuel + 1, rest => do
      if ← rest.isAt [.listEnd] then return ([], rest.drop)
      let rest ← if first then pure rest else rest.expect .comma
      if ← rest.isAt [.listEnd] then return ([], rest.drop)
      if ← rest.isAt [.key] then
        let (key, rest) ← readFlowNode [.value, .comma, .listEnd] fuel rest.drop
        let (value, rest) ←
          if ← rest.isAt [.value] then readFlowNode [.comma, .listEnd] fuel rest.drop
          else pure (.absent, rest)
        let (items, rest) ← readFlowItems false fuel rest
        return (.table .table [(key, value)] :: items, rest)
      else
        let (item, rest) ← readFlowNode [] fuel rest
        let (items, rest) ← readFlowItems false fuel rest
        return (item :: items, rest)

/-- Reads the entries of a table between braces, with a comma before all but the `first`.  A node
without a mark is a key without a value. -/
def readFlowEntries (first : Bool) : (fuel : Nat) → Step (List (Node × Node))
  | 0, _ => .error .malformed
  | fuel + 1, rest => do
      if ← rest.isAt [.tableEnd] then return ([], rest.drop)
      let rest ← if first then pure rest else rest.expect .comma
      if ← rest.isAt [.tableEnd] then return ([], rest.drop)
      let marked ← rest.isAt [.key]
      let (key, rest) ←
        if marked then readFlowNode [.value, .comma, .tableEnd] fuel rest.drop
        else readFlowNode [] fuel rest
      let hasValue ← if marked then rest.isAt [.value] else pure false
      let (value, rest) ←
        if hasValue then readFlowNode [.comma, .tableEnd] fuel rest.drop
        else pure (.absent, rest)
      let (entries, rest) ← readFlowEntries false fuel rest
      return ((key, value) :: entries, rest)
end

/-! ## Documents -/

/-- What the directives in front of a document say. -/
structure Directives where
  version : Option Nat := none
  handles : List (String × String) := []

/-- Reads the directives: at most one version, which must be one, and every short form once. -/
def readDirectives (directives : Directives) : List Token → Except ReadFault (Directives × List Token)
  | .version major :: rest =>
      if directives.version.isSome || major != 1 then .error .malformed
      else readDirectives { directives with version := some major } rest
  | .tagHandle handle start :: rest =>
      if (directives.handles.lookup handle).isSome then .error .malformed
      else
        readDirectives { directives with handles := directives.handles ++ [(handle, start)] } rest
  | .directive :: rest => readDirectives directives rest
  | tokens => .ok (directives, tokens)

/-- The short forms that hold unless a document gives others. -/
def defaultHandles : List (String × String) := [("!", "!"), ("!!", "tag:yaml.org,2002:")]

/-- A directive, a mark between documents or the end of the text. -/
def isBetweenDocuments : Token → Bool
  | .version _ | .tagHandle _ _ | .directive | .documentStart | .documentEnd | .finish => true
  | _ => false

/-- Reads the beginning of a document: nothing, or directives and a mark.  The flag says whether
there is a mark. -/
def readStart (rest : Rest) : Except ReadFault (Bool × Rest) := do
  let token ← rest.next
  if !isBetweenDocuments token || token == .documentEnd then
    return (false, { rest with handles := defaultHandles })
  let (directives, tokens) ← readDirectives {} rest.tokens
  let rest ← { rest with tokens := tokens }.expect .documentStart
  return (true, { rest with handles := directives.handles ++ defaultHandles })

/-- Reads the end of a document, after which nothing may come. -/
def readEnd (rest : Rest) : Except ReadFault Unit := do
  let rest := { rest with tokens := rest.tokens.dropWhile (· == Token.documentEnd) }
  discard (rest.expect .finish)

/-- The node of a text that holds one document, or nothing when it holds none. -/
def readDocument (tokens : List Token) (fault : Option ReadFault) :
    Except ReadFault (Option Node) := do
  let rest : Rest := { tokens := tokens, fault := fault.getD .malformed }
  if (← rest.next) == .finish then return none
  let (marked, rest) ← readStart rest
  let token ← rest.next
  let (node, rest) ←
    if marked && isBetweenDocuments token then pure (Node.absent, rest)
    else readNode true false (3 * tokens.length + 3) rest
  readEnd rest
  return some node

end ScopeAtlas.Data.Yaml
