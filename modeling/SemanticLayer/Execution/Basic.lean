import SemanticLayer.Execution.RawQuery
import SemanticLayer.Execution.Store
import SemanticLayer.Warehouse.Conversation

/-!
Running plans on the engine that they are made for. The store is always there; the warehouse may not
be. No engine reads more rows than the limits allow.
-/

namespace SemanticLayer

/-- The engines, with states of what is around them in `σ`. -/
structure Engines (δ σ : Type) where
  store : StoreStatement → σ → Except String ResultSet × σ
  warehouse : Option (WarehouseClient δ)
  around : Surroundings δ σ

/-- An answer with the plan that it was got by. -/
structure Execution where
  answer : QueryAnswer
  plan : QueryPlan

def rowsJson (rows : List Row) : Json :=
  .list (rows.map .object)

def Execution.toJson (execution : Execution) : Json :=
  .object
    [("rows", rowsJson execution.answer.rows), ("rowCount", .int execution.answer.rows.length),
      ("columns", .list execution.answer.columns), ("plan", execution.plan.toJson)]

namespace Engines

variable {δ σ : Type} [Duration δ]

def names (engines : Engines δ σ) : List String :=
  postgresEngine :: if engines.warehouse.isSome then [bigQueryEngine] else []

def runOnStore (engines : Engines δ σ) (statement : StoreStatement) (now : Conversation σ) :
    Except Fault QueryAnswer × Conversation σ :=
  let (outcome, world) := engines.store statement now.world
  (storeAnswer outcome, { now with world })

/-- Runs a statement on the warehouse. -/
def runOnWarehouse (engines : Engines δ σ) (client : WarehouseClient δ) (sql : String)
    (limit : Option Int) (now : Conversation σ) : Except Fault QueryAnswer × Conversation σ :=
  let (result, later) := client.query engines.around sql limit now
  (result.map fun result => ⟨result.rows, result.columns.map (·.name)⟩, later)

def runPlan (engines : Engines δ σ) (limits : RowLimits) (plan : QueryPlan)
    (now : Conversation σ) : Except Fault QueryAnswer × Conversation σ :=
  if plan.engine == postgresEngine then
    engines.runOnStore (.make plan.sql (QueryPlan.parameterFields 1 plan.parameters)
      plan.parameters.isEmpty (some limits.max)) now
  else
    match engines.warehouse, plan.engine == bigQueryEngine with
    | some client, true => engines.runOnWarehouse client plan.sql (some limits.max) now
    | _, _ =>
      (.error (.ofKind .engineNotSupported
        ("Execution engine " ++ plan.engine ++ " is not enabled")), now)

/-- The plan of a request: that of its hand-written SQL, if there is any. -/
def planOf (limits : RowLimits) (catalog : Catalog) (request : ExecuteRequest) :
    Except Fault QueryPlan :=
  match presentText request.rawSql with
  | some sql => QueryPlan.ofRawSql limits catalog request.tableIds sql
  | none => QueryPlan.build limits catalog request.toQuerySpec

/-- Plans a request and runs the plan. -/
def execute (engines : Engines δ σ) (limits : RowLimits) (catalog : Catalog)
    (request : ExecuteRequest) (now : Conversation σ) :
    Except Fault Execution × Conversation σ :=
  match planOf limits catalog request with
  | .error fault => (.error fault, now)
  | .ok plan =>
    let (answer, later) := engines.runPlan limits plan now
    (answer.map fun answer => ⟨answer, plan⟩, later)

end Engines

end SemanticLayer
