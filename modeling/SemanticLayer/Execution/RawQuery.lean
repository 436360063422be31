import SemanticLayer.Plan.Basic
import SemanticLayer.Sql.ReadOnly
import SemanticLayer.Sql.RowLimit

/-!
Hand-written SQL. Before it may run it has to be one statement that only reads, its tables have to
be ones that a plan may query together, every table that it names has to be one of them, and the
number of its rows is bounded.
-/

namespace SemanticLayer

/-- The text as it may be run. -/
def readOnlySql (sql : String) : Except Fault String :=
  match Sql.checkReadOnly sql with
  | .error cause => .error (.grouping cause)
  | .ok ⟨sql, none⟩ => .ok sql
  | .ok ⟨_, some refusal⟩ => .error (.ofKind .unsafeSql refusal.message)

/-- The request that stands for hand-written SQL on tables: one row of the first of them. -/
def scopeRequest (tableIds : List String) : Except Fault QuerySpec :=
  match tableIds with
  | [] => .error (.ofKind .missingTableScope "tableIds are required when executing raw SQL")
  | id :: _ =>
    if id.isEmpty then .error (.invalid [⟨["table_id"], .tooShort⟩])
    else
      .ok { dataModelId := none, tableIds, filters := [], groupBy := [], orderBy := []
            select := [{ tableId := id, column := "*", part := none, aggregation := .none,
                         aliasName := some "row" }]
            limit := some 1 }

/-- The statement with no more rows than the bound. -/
def boundedSql (sql : String) (maxRows : Int) : Except Fault String :=
  (Sql.boundRows sql maxRows).mapError fun (cause, text) => .unreadableInteger cause text

/-- The plan that runs hand-written SQL on the given tables and no others. -/
def QueryPlan.ofRawSql (limits : RowLimits) (catalog : Catalog) (tableIds : List String)
    (sql : String) : Except Fault QueryPlan := do
  let sql ← readOnlySql sql
  let plan ← QueryPlan.build limits catalog (← scopeRequest tableIds)
  let guard : Guard := ⟨ScopedTable.ofTables plan.tables⟩
  let confined ← guard.confine sql
  return { plan with sql := ← boundedSql confined limits.max, parameters := [], columns := [] }

end SemanticLayer
