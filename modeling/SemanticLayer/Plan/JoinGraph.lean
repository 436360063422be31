import SemanticLayer.Catalog.Relationship

/-!
The graph of tables that can be joined. Relationships are followed in both directions; a path is
found in rounds, of which the n-th one reaches the tables that are n relationships away.
-/

namespace SemanticLayer

/-- A relationship as seen from one of its tables, with the table at the other end. -/
structure JoinEdge where
  relationship : Relationship
  next : String
  deriving Repr, DecidableEq

/-- Relationships among a set of tables. -/
structure JoinGraph where
  relationships : List Relationship
  tableIds : List String
  deriving Repr, DecidableEq

namespace JoinGraph

/-- Whether a relationship may be followed: queries may join along it, and both of its tables belong
to the graph. -/
def follows (graph : JoinGraph) (r : Relationship) : Bool :=
  r.isJoinable && graph.tableIds.contains r.fromTableId && graph.tableIds.contains r.toTableId

/-- The edges from a table that belong to one relationship. -/
def edgesOf (id : String) (r : Relationship) : List JoinEdge :=
  (if r.fromTableId == id then [⟨r, r.toTableId⟩] else []) ++
    (if r.toTableId == id then [⟨r, r.fromTableId⟩] else [])

/-- The edges from a table, in the order of the relationships. -/
def edges (graph : JoinGraph) (id : String) : List JoinEdge :=
  (graph.relationships.filter graph.follows).flatMap (edgesOf id)

/-- A table that has been reached, with the way to it, the last relationship first. -/
structure Reached where
  id : String
  way : List Relationship
  deriving Repr, DecidableEq

/-- Follows edges from a reached table to tables that have not been seen: the tables reached in this
round and those still unseen. -/
def follow (origin : Reached) :
    List JoinEdge → List Reached × List String → List Reached × List String
  | [], round => round
  | edge :: rest, (reached, unseen) =>
    if unseen.contains edge.next then
      follow origin rest
        (reached ++ [⟨edge.next, edge.relationship :: origin.way⟩],
          unseen.filter fun id => id != edge.next)
    else
      follow origin rest (reached, unseen)

/-- The next round after one that reached the given tables. -/
def nextRound (graph : JoinGraph) (reached : List Reached) (unseen : List String) :
    List Reached × List String :=
  reached.foldl (fun round origin => follow origin (graph.edges origin.id) round) ([], unseen)

/-- Goes on in rounds until the target is reached. -/
def search (graph : JoinGraph) (target : String) :
    Nat → List Reached → List String → Option (List Relationship)
  | 0, reached, _ => (reached.find? (·.id == target)).map (·.way.reverse)
  | rounds + 1, reached, unseen =>
    match reached.find? (·.id == target) with
    | some found => some found.way.reverse
    | none =>
      let (next, unseen) := graph.nextRound reached unseen
      graph.search target rounds next unseen

/-- A shortest path between two tables: none if there is no path. No path visits more tables than
there are. -/
def path (graph : JoinGraph) (start target : String) : Option (List Relationship) :=
  graph.search target graph.tableIds.length [⟨start, []⟩]
    (graph.tableIds.filter fun id => id != start)

end JoinGraph

end SemanticLayer
