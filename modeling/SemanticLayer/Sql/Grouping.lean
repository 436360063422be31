import SemanticLayer.Sql.Tree

/-!
Building the tree of a statement: pairs of brackets and of keywords first, then, pass by pass, the
parts that stand left and right of a joint such as a point, an operator or a comma. A statement that
nests too deeply, or has too many nodes side by side, is refused.
-/

namespace SemanticLayer.Sql

/-- Why no tree is built. -/
inductive GroupingFault where
  | tooDeep
  | tooLong
  deriving Repr, DecidableEq

/-- How deeply groups may nest. -/
def depthLimit : Nat := 100

/-- How many nodes may stand side by side. -/
def widthLimit : Nat := 10000

def GroupingFault.message : GroupingFault → String
  | .tooDeep => s!"Maximum grouping depth exceeded ({depthLimit})."
  | .tooLong => s!"Maximum number of tokens exceeded ({widthLimit})."

namespace Grouping

/-! ### Pairs -/

/-- A sort of group that an opening and a closing token enclose. -/
structure Pairing where
  kind : GroupKind
  opens : Node → Bool
  closes : Node → Bool

/-- Encloses pairs, `frames` being the nodes since each token still open, the last first, and `done`
those before them. -/
def Pairing.enclose (pairing : Pairing) : List (List Node) → List Node → List Node → List Node
  | frames, done, [] => (frames.flatten ++ done).reverse
  | frames, done, node :: rest =>
    if pairing.opens node then pairing.enclose ([node] :: frames) done rest
    else
      match frames with
      | [] => pairing.enclose [] (node :: done) rest
      | frame :: outer =>
        if pairing.closes node then
          let group := .group pairing.kind (node :: frame).reverse
          match outer with
          | [] => pairing.enclose [] (group :: done) rest
          | next :: outer => pairing.enclose ((group :: next) :: outer) done rest
        else
          pairing.enclose ((node :: frame) :: outer) done rest

/-- Encloses pairs here and in all groups, at most `levels` deep. -/
def Pairing.apply (pairing : Pairing) : Nat → List Node → Except GroupingFault (List Node)
  | 0, _ => .error .tooDeep
  | levels + 1, nodes => do
    if widthLimit < nodes.length then throw .tooLong
    let nodes ← nodes.mapM fun node =>
      match node with
      | .leaf token => .ok (.leaf token)
      | .group kind children =>
        if kind == pairing.kind then .ok (.group kind children)
        else (pairing.apply levels children).map (.group kind)
    .ok (pairing.enclose [] [] nodes)

def pairings : List Pairing :=
  [ ⟨.brackets, Node.isMark "[", Node.isMark "]"⟩,
    ⟨.parenthesis, Node.isMark "(", Node.isMark ")"⟩,
    ⟨.choice, Node.isWord ["CASE"], Node.isWord ["END"]⟩,
    ⟨.conditional, Node.isWord ["IF"], Node.isWord ["END IF"]⟩,
    ⟨.forLoop, Node.isWord ["FOR", "FOREACH"], Node.isWord ["END LOOP"]⟩,
    ⟨.body, Node.isWord ["BEGIN"], Node.isWord ["END"]⟩ ]

/-! ### Runs -/

/-- Groups runs of nodes. At each node `extent` says how many nodes from it on make a group; `left`
nodes still belong to the group under way, of which `taken` has been read, the last first. -/
def groupRuns (extent : List Node → Option Nat) (build : List Node → Node) :
    Nat → List Node → List Node → List Node
  | _, taken, [] => if taken.isEmpty then [] else [build taken.reverse]
  | left + 1, taken, node :: rest =>
    if left == 0 then build (node :: taken).reverse :: groupRuns extent build 0 [] rest
    else groupRuns extent build left (node :: taken) rest
  | 0, _, node :: rest =>
    match extent (node :: rest) with
    | none | some 0 => node :: groupRuns extent build 0 [] rest
    | some 1 => build [node] :: groupRuns extent build 0 [] rest
    | some (more + 2) => groupRuns extent build (more + 1) [node] rest

/-- The place of the first node that is no blank and the node itself. -/
def nextSolid? (nodes : List Node) : Option (Nat × Node) :=
  (nodes.findIdx? fun node => !node.isBlank).bind fun i => nodes[i]?.map (i, ·)

/-- A group of the run from a fitting node to the next solid node that fits as well. -/
def pairExtent (first second : Node → Bool) : List Node → Option Nat
  | node :: rest =>
    if first node then
      match nextSolid? rest with
      | some (i, next) => if second next then some (i + 2) else none
      | none => none
    else
      none
  | [] => none

/-- Comments that follow one another, with the line breaks between and after them; comments at the
end of the list stay as they are. -/
def commentExtent : List Node → Option Nat
  | node :: rest =>
    if node.hasKind TokenKind.isComment then
      (rest.findIdx? fun next =>
        !(next.hasKind TokenKind.isComment || next.isOf [.newline])).map (· + 1)
    else
      none
  | [] => none

def joinComments (nodes : List Node) : List Node :=
  Node.everywhere (· != .comment)
    (fun _ nodes => groupRuns commentExtent (.group .comment) 0 [] nodes) nodes

def joinWindows (nodes : List Node) : List Node :=
  let extent := pairExtent (Node.isWord ["OVER"]) fun next =>
    next.isGroupOf [.parenthesis] || next.hasKind TokenKind.isName
  Node.everywhere (· != .over) (fun _ nodes => groupRuns extent (.group .over) 0 [] nodes) nodes

/-- A name with its arguments and, if one follows, its window. -/
def functionExtent (nodes : List Node) : Option Nat := do
  let size ← pairExtent (Node.hasKind TokenKind.isName) (Node.isGroupOf [.parenthesis]) nodes
  match nextSolid? (nodes.drop size) with
  | some (i, next) => if next.isGroupOf [.over] then some (size + i + 1) else some size
  | none => some size

/-- Whether the nodes define a table by its columns, so that names before parentheses are no
functions. -/
def definesColumns (nodes : List Node) : Bool :=
  let words := nodes.filterMap Node.word?
  words.contains "CREATE" && words.contains "TABLE" && !words.contains "AS"

def joinFunctions (nodes : List Node) : List Node :=
  Node.everywhere (· != .function)
    (fun _ nodes =>
      if definesColumns nodes then nodes
      else groupRuns functionExtent (.group .function) 0 [] nodes)
    nodes

/-- Keywords that end a condition. -/
def conditionEnds : List String :=
  ["ORDER BY", "GROUP BY", "LIMIT", "UNION", "UNION ALL", "EXCEPT", "INTERSECT", "HAVING",
    "RETURNING", "INTO"]

/-- From the word `WHERE` to the keyword that ends the condition, or to the end; `kept` nodes at the
end of the list close it and are left out. -/
def conditionExtent (kept : Nat) : List Node → Option Nat
  | node :: rest =>
    if node.isWord ["WHERE"] then
      match rest.findIdx? (Node.isWord conditionEnds) with
      | some i => some (i + 1)
      | none => some (rest.length + 1 - kept)
    else
      none
  | [] => none

def joinConditions (nodes : List Node) : List Node :=
  Node.everywhere (· != .condition)
    (fun kind nodes =>
      let kept := if kind == some .parenthesis || kind == some .brackets then 1 else 0
      groupRuns (conditionExtent kept) (.group .condition) 0 [] nodes)
    nodes

def joinNames (nodes : List Node) : List Node :=
  Node.everywhere (· != .identifier)
    (fun _ nodes => nodes.map fun node =>
      if node.isOf [.quotedName, .name] then .group .identifier [node] else node)
    nodes

/-- Looks back from each node that `fits` to the solid node before it and groups the two with
`build`, if that one is `left`. -/
def joinBackwards (fits left : Node → Bool) (build : Node → List Node → Node)
    (nodes : List Node) : List Node :=
  (nodes.foldl (fun done node =>
    if fits node then
      let blanks := done.takeWhile Node.isBlank
      match done.drop blanks.length with
      | before :: earlier =>
        if left before then build before (blanks.reverse ++ [node]) :: earlier else node :: done
      | [] => node :: done
    else
      node :: done) []).reverse

def joinOrderings (nodes : List Node) : List Node :=
  Node.everywhere (· != .identifier)
    (fun _ nodes => joinBackwards (Node.isOf [.ordering])
      (fun node => node.isGroupOf [.identifier] || node.hasKind TokenKind.isNumber)
      (fun before tail => .group .identifier (before :: tail)) nodes)
    nodes

/-- The group with more children, or a new group for a node that is no such group. -/
def extend (kind : GroupKind) (node : Node) (tail : List Node) : Node :=
  match node with
  | .group found children => if found == kind then .group kind (children ++ tail)
    else .group kind (node :: tail)
  | .leaf _ => .group kind (node :: tail)

/-- The run as a group of the kind; if its first node is such a group, that one takes the rest. -/
def extendFirst (kind : GroupKind) : List Node → Node
  | first :: rest => extend kind first rest
  | [] => .group kind []

def joinAliases (nodes : List Node) : List Node :=
  let extent := pairExtent
    (fun node => node.isGroupOf [.parenthesis, .function, .choice, .identifier, .operation,
      .comparison] || node.hasKind TokenKind.isNumber)
    (Node.isGroupOf [.identifier])
  Node.everywhere (fun _ => true)
    (fun _ nodes => groupRuns extent (extendFirst .identifier) 0 [] nodes) nodes

/-- Comments after a group become part of it. -/
def attachComments (nodes : List Node) : List Node :=
  Node.everywhere (fun _ => true)
    (fun _ nodes => joinBackwards (Node.isGroupOf [.comment]) Node.isGroup
      (fun before tail =>
        match before with
        | .group kind children => .group kind (children ++ tail)
        | .leaf token => .leaf token) nodes)
    nodes

/-- The word `VALUES` with everything up to the last parenthesis after it. -/
def joinValues (nodes : List Node) : List Node :=
  match nodes.findIdx? (Node.isWord ["VALUES"]) with
  | none => nodes
  | some i =>
    let tail := nodes.drop i
    let size := tail.length - (tail.reverse.takeWhile fun node =>
      !node.isGroupOf [.parenthesis]).length
    if size == 0 then nodes
    else nodes.take i ++ [.group .values (tail.take size)] ++ tail.drop size

/-! ### Joints -/

/-- Where the group around a joint ends. -/
inductive Reach where
  /-- At the joint, or at the next node if that one fits. -/
  | joint (fits : Node → Bool)
  /-- At the next node. -/
  | next
  /-- At the first semicolon after the next node, or at the next node if there is none. -/
  | semicolon

/-- A sort of group around a joint: what stands left of it, the joint, and what stands right. -/
structure Joining where
  kind : GroupKind
  isJoint : Node → Bool
  left : Node → Bool
  right : Option Node → Bool
  reach : Reach
  /-- The group starts at the joint and not at the node to its left. -/
  fromJoint : Bool := false
  /-- A group of the kind takes further parts, and is not put into a new group. -/
  extends_ : Bool := true
  /-- Joints inside other groups count as well. -/
  inside : Bool := true
  /-- What becomes of the joint itself. -/
  mark : Node → Node := id

/-- A node with its number, by which it is known while groups are formed around it. -/
structure Piece where
  number : Nat
  node : Node

instance : Inhabited Piece := ⟨0, default⟩

/-- The state of a pass over the pieces of a list. -/
structure Visit where
  pieces : Array Piece
  /-- How many places the list has shrunk by. -/
  shift : Int
  /-- The piece visited last, with its place. -/
  previous : Option (Nat × Piece)
  /-- Numbers of pieces that were passed over. -/
  passed : List Nat
  /-- The next number for a new group. -/
  fresh : Nat

/-- The first place from `start` on of a piece that fits. -/
def placeFrom (pieces : Array Piece) (fits : Node → Bool) (start : Nat) : Option Nat :=
  go (pieces.size - start) start
where
  go : Nat → Nat → Option Nat
    | 0, _ => none
    | steps + 1, place =>
      if pieces[place]?.any (fits ·.node) then some place else go steps (place + 1)

/-- Whether the piece opens or closes a delimited list. -/
def Visit.isDelimiter (visit : Visit) (delimited : Bool) (piece : Piece) : Bool :=
  delimited && (visit.pieces[0]?.any (·.number == piece.number) ||
    visit.pieces.back?.any (·.number == piece.number))

/-- Groups the pieces from one place to another. -/
def Visit.join (visit : Visit) (joining : Joining) (first last : Nat) : Visit :=
  match visit.pieces[first]? with
  | none => visit
  | some start =>
    let before := visit.pieces.extract 0 first
    let keep := joining.extends_ && start.node.isGroupOf [joining.kind]
    let tail := (visit.pieces.extract (first + 1) (last + 1)).toList.map (·.node)
    let group : Piece :=
      if keep then ⟨start.number, extend joining.kind start.node tail⟩
      else ⟨visit.fresh, .group joining.kind
        (if first ≤ last then start.node :: tail else [])⟩
    let after := visit.pieces.extract (if keep then max (first + 1) (last + 1)
      else max first (last + 1)) visit.pieces.size
    { visit with
      pieces := before.push group ++ after
      shift := visit.shift + ((last : Int) - first)
      previous := some (first, group)
      fresh := visit.fresh + 1 }

/-- The place at which the group around the joint at `place` ends, the next node standing at
`next`. -/
def Visit.reach (visit : Visit) (joining : Joining) (place : Nat) (next : Option Nat) : Nat :=
  match joining.reach, next with
  | .joint fits, some n => if visit.pieces[n]?.any (fits ·.node) then n else place
  | .next, some n => n
  | .semicolon, some n => (placeFrom visit.pieces (Node.isMark ";") (n + 1)).getD n
  | _, none => place

/-- Visits the piece that was `index` places from the start before groups were formed. -/
def Visit.step (joining : Joining) (delimited : Bool) (visit : Visit) (index : Nat)
    (piece : Piece) : Visit :=
  let place : Int := index - visit.shift
  if place < 0 then { visit with passed := index :: visit.passed }
  else if piece.node.isBlank then visit
  else
    let place := place.toNat
    let plain := { visit with previous := some (place, piece) }
    if joining.isJoint piece.node then
      let next := placeFrom visit.pieces (fun node => !node.isBlank) (place + 1)
      let following := next.bind (visit.pieces[·]?)
      match visit.previous with
      | some (before, left) =>
        if joining.left left.node && joining.right (following.map (·.node)) &&
            !visit.isDelimiter delimited left && !following.any (visit.isDelimiter delimited) then
          let last := visit.reach joining place next
          let marked := { visit with pieces := visit.pieces.modify place fun p =>
            { p with node := joining.mark p.node } }
          marked.join joining (if joining.fromJoint then place else before) last
        else
          plain
      | none => plain
    else
      plain

/-- One pass over a list. -/
def Joining.visit (joining : Joining) (delimited : Bool) (nodes : List Node) : Visit :=
  let pieces := (nodes.zipIdx.map fun (node, i) => ⟨i, node⟩ : List Piece)
  pieces.foldl (fun visit piece => visit.step joining delimited piece.number piece)
    ⟨pieces.toArray, 0, none, [], pieces.length⟩

/-- Forms the groups here and, where the joining asks for it, in all groups, at most `levels`
deep. -/
def Joining.apply (joining : Joining) :
    Nat → Bool → List Node → Except GroupingFault (List Node)
  | 0, _, _ => .error .tooDeep
  | levels + 1, delimited, nodes => do
    if widthLimit < nodes.length then throw .tooLong
    let passed := (joining.visit delimited nodes).passed
    let nodes ← nodes.zipIdx.mapM fun (node, i) =>
      match node with
      | .leaf token => .ok (.leaf token)
      | .group kind children =>
        if !joining.inside || kind == joining.kind || passed.contains i then
          .ok (.group kind children)
        else
          (joining.apply levels kind.isDelimited children).map (.group kind)
    .ok ((joining.visit delimited nodes).pieces.toList.map (·.node))

private def numerals : List TokenKind := [.integer, .decimal]
private def texts : List TokenKind := [.quotedText, .quotedName]
private def plainNames : List TokenKind := [.name, .placeholder]
private def operands : List TokenKind := numerals ++ texts ++ plainNames

private def isPeriodLeft (node : Node) : Bool :=
  node.isGroupOf [.brackets, .identifier] || node.isOf [.name, .quotedName]

private def isPeriodRight (node : Node) : Bool :=
  node.isGroupOf [.brackets, .function] || node.isOf [.name, .quotedName, .wildcard, .quotedText]

private def isPeriod : Node → Bool
  | .leaf token =>
    token.isMark "." || (token.kind == .operator && (token.text == "->" || token.text == "->>"))
  | .group .. => false

def periods : Joining :=
  { kind := .identifier, isJoint := isPeriod, left := isPeriodLeft, right := fun _ => true,
    reach := .joint isPeriodRight }

def arrays : Joining :=
  { kind := .identifier, isJoint := Node.isGroupOf [.brackets],
    left := fun node => node.isGroupOf [.brackets, .identifier, .function] ||
      node.isOf [.name, .quotedName],
    right := fun _ => true, reach := .joint fun _ => false, inside := false }

def casts : Joining :=
  { kind := .identifier, isJoint := Node.isMark "::", left := fun _ => true, right := Option.isSome,
    reach := .next }

def zoneCasts : Joining :=
  { kind := .identifier, isJoint := Node.isOf [.zoneCast], left := fun _ => true,
    right := Option.any fun node => node.isWord ["AS"] || node.isOf [.quotedText], reach := .next }

def typedLiterals : Joining :=
  { kind := .typedLiteral,
    isJoint := fun node => node.isOf [.builtin] || node.isWord ["TIMESTAMP"],
    left := fun _ => true, right := Option.any (Node.isOf [.quotedText]), reach := .next,
    fromJoint := true, extends_ := false }

def typedUnits : Joining :=
  { kind := .typedLiteral, isJoint := Node.isGroupOf [.typedLiteral], left := fun _ => true,
    right := Option.any (Node.isWord ["DAY", "HOUR", "MINUTE", "MONTH", "SECOND", "YEAR"]),
    reach := .next, fromJoint := true }

private def isOperand (node : Node) : Bool :=
  node.isGroupOf [.brackets, .parenthesis, .function, .identifier, .operation, .typedLiteral] ||
    node.isOf operands || node.isWord ["CURRENT_DATE", "CURRENT_TIME", "CURRENT_TIMESTAMP"]

private def asOperator : Node → Node
  | .leaf token => .leaf { token with kind := .operator }
  | node => node

def operations : Joining :=
  { kind := .operation, isJoint := Node.isOf [.operator, .wildcard], left := isOperand,
    right := Option.any isOperand, reach := .next, extends_ := false, mark := asOperator }

private def isCompared (node : Node) : Bool :=
  node.isGroupOf [.parenthesis, .function, .identifier, .operation, .typedLiteral] ||
    node.isOf operands || node.isAnyKeyword "NULL"

def comparisons : Joining :=
  { kind := .comparison, isJoint := Node.isOf [.comparison], left := isCompared,
    right := Option.any isCompared, reach := .next, extends_ := false }

def renamings : Joining :=
  { kind := .identifier, isJoint := Node.isAnyKeyword "AS",
    left := fun node => node.isAnyKeyword "NULL" || !node.hasKind TokenKind.isKeyword,
    right := Option.any fun node => !node.isOf [.manipulation, .definition, .withClause],
    reach := .next }

def assignments : Joining :=
  { kind := .assignment, isJoint := Node.isOf [.assignment],
    left := fun node => !node.isOf [.keyword],
    right := Option.any fun node => !node.isOf [.keyword], reach := .semicolon }

private def isListed (node : Node) : Bool :=
  node.isGroupOf [.function, .choice, .identifier, .comparison, .identifierList, .operation] ||
    node.isOf (operands ++ [.keyword, .wildcard])

def identifierLists : Joining :=
  { kind := .identifierList, isJoint := Node.isMark ",", left := isListed,
    right := Option.any isListed, reach := .next }

/-- Applies joinings one after the other. -/
def joinAll (joinings : List Joining) (nodes : List Node) : Except GroupingFault (List Node) :=
  joinings.foldlM (fun nodes joining => joining.apply (depthLimit + 1) false nodes) nodes

/-- The tree of a statement. -/
def tree (tokens : List Token) : Except GroupingFault (List Node) := do
  let nodes := joinComments (tokens.map .leaf)
  let nodes ← pairings.foldlM (fun nodes pairing => pairing.apply (depthLimit + 1) nodes) nodes
  let nodes := joinConditions (joinFunctions (joinWindows nodes))
  let nodes ← joinAll [periods, arrays] nodes
  let nodes := joinOrderings (joinNames nodes)
  let nodes ← joinAll
    [casts, zoneCasts, typedLiterals, typedUnits, operations, comparisons, renamings] nodes
  let nodes ← joinAll [assignments] (joinAliases nodes)
  let nodes ← joinAll [identifierLists] (attachComments nodes)
  .ok (joinValues nodes)

end Grouping

/-- Looks for the statement proper after the definitions that open it; `defined` holds right after
them. -/
def kindAfterDefinitions (defined : Bool) : List Node → Option String
  | [] => none
  | node :: rest =>
    if node.isBlank then kindAfterDefinitions defined rest
    else if defined then
      match node with
      | .leaf token =>
        if token.kind == .manipulation then some (Text.upper token.text)
        else kindAfterDefinitions false rest
      | .group .. => kindAfterDefinitions false rest
    else
      kindAfterDefinitions (node.isGroupOf [.identifier, .identifierList]) rest

/-- The sort of a statement by its tree: the first word of one that reads, changes or defines data,
and nothing for any other. -/
def treeKind? (nodes : List Node) : Option String :=
  match nodes.dropWhile fun node =>
      node.isBlank || node.hasKind TokenKind.isComment || node.isGroupOf [.comment] with
  | .leaf token :: rest =>
    if token.kind == .manipulation || token.kind == .definition then some (Text.upper token.text)
    else if token.kind == .withClause then kindAfterDefinitions false rest
    else none
  | _ => none

/-- The sort of a statement, `UNKNOWN` for one that has none. -/
def statementKind (tokens : List Token) : Except GroupingFault String :=
  (Grouping.tree tokens).map fun nodes => (treeKind? nodes).getD "UNKNOWN"

end SemanticLayer.Sql
