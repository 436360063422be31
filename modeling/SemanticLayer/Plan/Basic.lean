import SemanticLayer.Catalog.Basic
import SemanticLayer.Guard
import SemanticLayer.Plan.OutputName
import SemanticLayer.Plan.Statement

/-!
Plans: a request for columns of several tables, compiled into one statement for one engine. The
tables of the request have to be connected by relationships that queries may join along; a table
that only filters mention is left out, with its filters, if it is not connected.
-/

namespace SemanticLayer

/-- The number of rows of a plan without a limit, and the greatest number of rows. -/
structure RowLimits where
  default : Int
  max : Int
  deriving Repr, DecidableEq

/-- The limit of a plan. -/
def RowLimits.resolve (limits : RowLimits) (requested : Option Int) : Int :=
  match requested with
  | none => limits.default
  | some n => Max.max 1 (Min.min n limits.max)

structure QueryPlan where
  model : DataModel
  engine : String
  sql : String
  /-- The values of the parameters p1, p2 and so on. -/
  parameters : List Json
  root : Table
  tables : List Table
  relationships : List Relationship
  columns : List String
  /-- The tables whose filters are left out. -/
  skipped : List String

namespace QuerySpec

/-- The tables that the request needs: those that it lists, selects from, groups by or orders by. -/
def neededIds (spec : QuerySpec) : List String :=
  spec.tableIds ++ spec.select.map (·.tableId) ++ spec.groupBy.map (·.tableId) ++
    spec.orderBy.map (·.tableId)

/-- The columns, other than stars, that the request mentions. -/
def mentions (spec : QuerySpec) : List ColumnRef :=
  spec.filters.map (·.toColumnRef) ++ spec.groupBy ++ spec.orderBy.map (·.toColumnRef)

end QuerySpec

namespace Catalog

/-- The tables' own identifiers for identifiers of any sort, each once. -/
def ownIds (catalog : Catalog) (ids : List String) : Except Report (List String) :=
  (fun tables => distinct (tables.map (·.id))) <$> ids.mapM catalog.require

def requireColumn (catalog : Catalog) (ref : ColumnRef) : Except Report Unit := do
  let table ← catalog.require ref.tableId
  if table.hasColumn ref.column then return ()
  else
    throw (.make .invalidRequest
      ("Column " ++ ref.column ++ " does not exist in table " ++ table.label))

/-- A selected column has to be there; all columns may be selected or counted. -/
def checkSelected (catalog : Catalog) (item : SelectItem) : Except Report Unit :=
  if item.isStar then
    if item.aggregation.isAggregate && item.aggregation != .count then
      throw (.make .invalidRequest
        ("Aggregation " ++ item.aggregation.code ++ " cannot be applied to *"))
    else return ()
  else catalog.requireColumn item.toColumnRef

def checkColumns (catalog : Catalog) (spec : QuerySpec) : Except Report Unit := do
  spec.select.forM catalog.checkSelected
  spec.mentions.forM catalog.requireColumn

/-- A table that an engine can run queries on. -/
def executable (catalog : Catalog) (id : String) : Except Fault Table :=
  match catalog.resolve? id with
  | none => .error .namelessTable
  | some table =>
    if table.executable && (presentText table.runtimeRef).isSome then .ok table
    else
      .error (.ofKind .tableNotExecutable
        ((presentText table.reason).getD ("Table " ++ table.name ++ " is not executable")))

end Catalog

/-- The table must run on an engine that is supported. -/
def Table.checkEngine (table : Table) : Except Report Unit :=
  if supportedEngines.contains table.engine then .ok ()
  else
    .error (.make .engineNotSupported
      ("Execution engine " ++ table.engine ++ " is not supported for " ++ table.label))

def commonEngine (tables : List Table) : Except Report String := do
  tables.forM Table.checkEngine
  match distinct (tables.map (·.engine)) with
  | [engine] => return engine
  | _ => throw (.make .crossSourceBlocked ("Cross-source execution is blocked. " ++
      "Selected tables must belong to the same runtime engine."))

/-- The item that occurs most often, the first one of these. -/
def mostFrequent (ids : List String) : Option String :=
  ids.foldl
    (fun best id =>
      match best with
      | none => some id
      | some other => if ids.count other < ids.count id then some id else some other)
    none

namespace QuerySpec

/-- The identifier of the table that a plan starts from: the one selected from most often, or else
the first one grouped by, ordered by or listed. -/
def rootId (catalog : Catalog) (spec : QuerySpec) (required : List String) :
    Except Report String := do
  let selected := spec.select.filterMap fun item => (catalog.resolve? item.tableId).map (·.id)
  let keys := spec.groupBy.map (·.tableId) ++ spec.orderBy.map (·.tableId)
  match mostFrequent selected, keys, required with
  | some id, _, _ => return id
  | none, id :: _, _ => return (← catalog.require id).id
  | none, [], id :: _ => return id
  | none, [], [] => throw (.make .invalidRequest "At least one table must be selected")

end QuerySpec

/-- The tables that the paths to the targets lead over, and the targets without a path. -/
structure Routes where
  relationships : List Relationship
  unreached : List String
  deriving Repr, DecidableEq

/-- The paths from one table to others, each relationship once. -/
def JoinGraph.routes (graph : JoinGraph) (start : String) (targets : List String) : Routes :=
  targets.foldl
    (fun routes target =>
      match graph.path start target with
      | none => { routes with unreached := routes.unreached ++ [target] }
      | some way => { routes with relationships := routes.relationships ++ way })
    ⟨[], []⟩

/-- The relationships without later ones of the same identifier. -/
def distinctById (relationships : List Relationship) : List Relationship :=
  relationships.foldl
    (fun seen r => if seen.any (·.id == r.id) then seen else seen ++ [r]) []

/-- What the clauses of a statement are made from. -/
structure PlanContext where
  catalog : Catalog
  joins : JoinPlan

namespace PlanContext

/-- A column under the alias of its table. -/
def column (context : PlanContext) (ref : ColumnRef) : Except Fault ColumnTerm := do
  let table ← context.catalog.require ref.tableId
  let aliasName ← context.joins.aliasOf table.id
  return ⟨aliasName, ref.column, ref.part⟩

def wantedName (table : Table) (item : SelectItem) (place : Nat) : String :=
  let column := if item.isStar then "all" else item.column
  (presentText item.aliasName).getD
    (table.name ++ "_" ++ column ++ "_" ++ Text.lower item.aggregation.code ++ "_" ++
      toString place)

/-- The select list from a place on, where the names in `taken` are in use. -/
def selectFrom (context : PlanContext) (place : Nat) (taken : List String) :
    List SelectItem → Except Fault (List SelectTerm)
  | [] => .ok []
  | item :: rest => do
    let table ← context.catalog.require item.tableId
    let aliasName ← context.joins.aliasOf table.id
    if item.isStar && !item.aggregation.isAggregate then
      return .star aliasName :: (← selectFrom context (place + 1) taken rest)
    else
      let column := if item.isStar then none else some ⟨aliasName, item.column, item.part⟩
      let name := freeName taken (outputName (wantedName table item place))
      let term :=
        match column, item.aggregation.isAggregate with
        | some column, false => SelectTerm.column column name
        | column, _ => .aggregate item.aggregation column name
      return term :: (← selectFrom context (place + 1) (taken ++ [Text.lower name]) rest)

/-- The select list; a request that selects nothing gets all columns of the first table. -/
def select (context : PlanContext) (rootAlias : String) (items : List SelectItem) :
    Except Fault (List SelectTerm) :=
  if items.isEmpty then .ok [.star rootAlias] else context.selectFrom 0 [] items

/-- The keys to group by: those of the request or, where values are aggregated, the selected
columns. -/
def groupBy (context : PlanContext) (items : List ColumnRef) (terms : List SelectTerm) :
    Except Fault (List SortKey) :=
  if !items.isEmpty then items.mapM fun item => SortKey.column <$> context.column item
  else if terms.any SelectTerm.isAggregate then .ok ((columnPlaces terms).map .ordinal)
  else .ok []

/-- The keys to order by: those of the request or, unless all columns of a table are selected, the
selected columns. -/
def orderBy (context : PlanContext) (items : List OrderItem) (terms : List SelectTerm) :
    Except Fault (List (SortKey × Direction)) :=
  if !items.isEmpty then
    items.mapM fun item => do
      let term ← context.column item.toColumnRef
      return (.column term, item.direction)
  else if terms.any SelectTerm.isStar then .ok []
  else .ok ((columnPlaces terms).map fun place => (.ordinal place, .ascending))

/-- The filters on tables that are not left out. -/
def filters (context : PlanContext) (dialect : Dialect) (skipped : List String)
    (items : List FilterItem) : Except Fault (List FilterTerm) := do
  let owned ← items.mapM fun item => do
    let table ← context.catalog.require item.tableId
    return (table.id, item)
  filterTerms dialect context.joins.aliases
    (owned.filter fun (id, _) => !skipped.contains id)

end PlanContext

/-- Whether each combination of the selected columns is wanted only once: if only columns are
selected, and nothing is grouped. -/
def isDistinct (spec : QuerySpec) (terms : List SelectTerm) : Bool :=
  !terms.isEmpty && terms.all SelectTerm.isColumn && spec.groupBy.isEmpty

/-- The tables of a request: those it needs, and those that only its filters mention. A request that
needs no table needs the tables of its filters. -/
def requestedTables (catalog : Catalog) (spec : QuerySpec) :
    Except Report (List String × List String) := do
  let needed ← catalog.ownIds spec.neededIds
  let filtered ← catalog.ownIds (spec.filters.map (·.tableId))
  match if needed.isEmpty then filtered else needed with
  | [] => throw (.make .invalidRequest "At least one table must be selected")
  | required => return (required, filtered.filter fun id => !required.contains id)

/-- The relationships to join along and the tables to leave out. Every required table has to be
reached. -/
def connect (graph : JoinGraph) (tables : List Table) (rootId : String)
    (required optional : List String) : Except Report (List Relationship × List String) :=
  let needed := graph.routes rootId required
  match needed.unreached with
  | id :: _ =>
    let label := ((tables.find? (·.id == id)).map Table.label).getD id
    throw (.make .noRelationshipPath
      ("No valid relationship path from root table to target table (" ++ label ++ ")"))
  | [] =>
    let wanted := graph.routes rootId optional
    return (distinctById (needed.relationships ++ wanted.relationships), wanted.unreached)

/-- Compiles a request against a catalog. -/
def QueryPlan.build (limits : RowLimits) (catalog : Catalog) (spec : QuerySpec) :
    Except Fault QueryPlan := do
  let (required, optional) ← requestedTables catalog spec
  catalog.checkColumns spec
  let tables ← (required ++ optional).mapM catalog.executable
  let engine ← commonEngine tables
  let rootId ← spec.rootId catalog required
  let root ← catalog.require rootId
  let graph : JoinGraph := ⟨catalog.relationships, tables.map (·.id)⟩
  let (relationships, skipped) ← connect graph tables root.id required optional
  let joins ← JoinPlan.ofRelationships tables root.id relationships
  let context : PlanContext := ⟨catalog, joins⟩
  let dialect := Dialect.ofEngine engine
  let rootAlias ← joins.aliasOf root.id
  let terms ← context.select rootAlias spec.select
  let filters ← context.filters dialect skipped spec.filters
  let groupBy ← context.groupBy spec.groupBy terms
  let orderBy ← context.orderBy spec.orderBy terms
  let statement : SelectStatement :=
    { dialect, distinct := isDistinct spec terms, terms, root, rootAlias, joins := joins.joins,
      filters, groupBy, orderBy, limit := limits.resolve spec.limit }
  return {
    model := catalog.model, engine, sql := statement.write, parameters := statement.parameters, root
    tables := tables.filter fun table => !skipped.contains table.id, relationships
    columns := terms.map SelectTerm.name, skipped }

namespace QueryPlan

/-- The parameters by their names. -/
def parameterFields (number : Nat) : List Json → List (String × Json)
  | [] => []
  | value :: rest => (parameterName number, value) :: parameterFields (number + 1) rest

def toJson (plan : QueryPlan) : Json :=
  .object
    [("dataModelId", .text plan.model.id), ("dataModelName", .text plan.model.name),
      ("engine", .text plan.engine), ("sql", .text plan.sql),
      ("params", .object (parameterFields 1 plan.parameters)),
      ("rootTable", .object
        [("id", .text plan.root.id), ("tableName", .text plan.root.name),
          ("datasetName", .ofText? plan.root.dataset)]),
      ("selectedTables", .list (plan.tables.map fun table => .object
        [("id", .text table.id), ("tableName", .text table.name),
          ("datasetName", .ofText? table.dataset), ("sourceType", .ofText? table.sourceType),
          ("runtimeEngine", .text table.engine), ("runtimeRef", .ofText? table.runtimeRef)])),
      ("relationshipsUsed", .list (plan.relationships.map fun r => .object
        [("id", .text r.id), ("fromTableId", .text r.fromTableId),
          ("fromTable", .ofText? r.fromTable), ("fromColumn", .text r.fromColumn),
          ("toTableId", .text r.toTableId), ("toTable", .ofText? r.toTable),
          ("toColumn", .text r.toColumn), ("relationshipType", .text r.cardinality.code),
          ("crossFilterDirection", .text r.direction)])),
      ("columns", .ofTexts plan.columns)]

end QueryPlan

end SemanticLayer
