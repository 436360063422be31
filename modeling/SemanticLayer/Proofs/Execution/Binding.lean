import SemanticLayer.Execution.Basic
import SemanticLayer.Proofs.Plan.Parameters

/-!
Parameters that are read and parameters that are given. The statement of a plan without values has
its colons escaped, and so no parameters. The statement of a plan with values is handed over as it
is, so a name of the catalog or of the request with a parameter in it is read as one that no value
is given for.
-/

namespace SemanticLayer

/-- The statement that is run for a plan of the store. -/
def QueryPlan.storeStatement (limits : RowLimits) (plan : QueryPlan) : StoreStatement :=
  .make plan.sql (QueryPlan.parameterFields 1 plan.parameters) plan.parameters.isEmpty
    (some limits.max)

/-- The parameters that are given with a statement. -/
def StoreStatement.given (statement : StoreStatement) : List String :=
  statement.parameters.map Prod.fst

/-- The parameters that are read in the text are just those that are given with it. -/
def StoreStatement.Binds (statement : StoreStatement) : Prop :=
  ∀ name, name ∈ Sql.parameters statement.text ↔ name ∈ statement.given

theorem Engines.runPlan_postgres {δ σ : Type} [Duration δ] (engines : Engines δ σ)
    {limits : RowLimits} {plan : QueryPlan} (h : plan.engine = postgresEngine)
    (now : Conversation σ) :
    engines.runPlan limits plan now = engines.runOnStore (plan.storeStatement limits) now := by
  unfold runPlan
  rw [if_pos (beq_iff_eq.2 h)]
  rfl

section Statements

variable (limits : RowLimits) {plan : QueryPlan}

theorem QueryPlan.given_storeStatement : (plan.storeStatement limits).given =
    (QueryPlan.parameterFields 1 plan.parameters).map Prod.fst := rfl

/-- Without values, no parameters are read and none are given. -/
theorem QueryPlan.parameters_of_no_values (h : plan.parameters = []) :
    Sql.parameters (plan.storeStatement limits).text = [] ∧
      (plan.storeStatement limits).given = [] := by
  rw [given_storeStatement, storeStatement, StoreStatement.make, h]
  exact ⟨Sql.parameters_escapeColons plan.sql, rfl⟩

theorem QueryPlan.text_of_values (h : plan.parameters ≠ []) :
    (plan.storeStatement limits).text = plan.sql := by
  rw [storeStatement, StoreStatement.make, if_neg (by simpa using h)]

end Statements

variable {limits : RowLimits} {catalog : Catalog} {spec : QuerySpec}

/-- What is read in the statement of a plan: the parameters in names that are spelled by the catalog
and the request, and those that are given. -/
theorem PlanStages.Compiles.mem_parameters {stages : PlanStages}
    (h : stages.Compiles catalog spec) (hengine : stages.engine = postgresEngine)
    (limits : RowLimits) (name : String) :
    name ∈ Sql.parameters (stages.plan limits catalog spec).sql ↔
      (∃ text ∈ stages.spelled catalog spec, name ∈ Sql.parameters text) ∨
        name ∈ ((stages.plan limits catalog spec).storeStatement limits).given := by
  have hdialect : (stages.statement limits spec).dialect = .postgres := by
    rw [PlanStages.statement, hengine]
    rfl
  have hwrite := SelectStatement.readsLike_write hdialect name
  rwa [List.flatMap_singleton, List.flatMap_append, List.mem_append,
    h.readsLike_names limits name, parameters_places, List.mem_flatMap] at hwrite

/-- The statement that is run for a plan of the store has all parameters that are given with it. It
has no others exactly if the plan has no values, or if no others are read in the names that the
catalog and the request spell. -/
theorem QueryPlan.build_binds_iff {plan : QueryPlan}
    (hplan : QueryPlan.build limits catalog spec = .ok plan)
    (hengine : plan.engine = postgresEngine) :
    ∃ stages : PlanStages, stages.Compiles catalog spec ∧
      plan = stages.plan limits catalog spec ∧
      let statement := plan.storeStatement limits
      (∀ {δ σ : Type} [Duration δ] (engines : Engines δ σ) (now : Conversation σ),
          engines.runPlan limits plan now = engines.runOnStore statement now) ∧
        (∀ name ∈ statement.given, name ∈ Sql.parameters statement.text) ∧
        (statement.Binds ↔ plan.parameters = [] ∨
          ∀ text ∈ stages.spelled catalog spec, ∀ name ∈ Sql.parameters text,
            name ∈ statement.given) := by
  obtain ⟨stages, hcompiles, rfl⟩ := build_eq_ok hplan
  refine ⟨stages, hcompiles, rfl, fun engines now => engines.runPlan_postgres hengine now, ?_⟩
  have hread := hcompiles.mem_parameters hengine limits
  generalize stages.plan limits catalog spec = plan at hread ⊢
  by_cases hvalues : plan.parameters = []
  · obtain ⟨htext, hgiven⟩ := QueryPlan.parameters_of_no_values limits hvalues
    refine ⟨by simp [hgiven], iff_of_true (fun name => ?_) (.inl hvalues)⟩
    rw [htext, hgiven]
  · rw [StoreStatement.Binds, QueryPlan.text_of_values limits hvalues]
    refine ⟨fun name hname => (hread name).2 (.inr hname), ?_⟩
    constructor
    · intro hbinds
      refine .inr fun text htext name hname => ?_
      exact (hbinds name).1 ((hread name).2 (.inl ⟨text, htext, hname⟩))
    · intro hspelled name
      rw [hread name, or_iff_right_iff_imp]
      rintro ⟨text, htext, hname⟩
      exact hspelled.resolve_left hvalues text htext name hname

/-- A table with a column of this name. -/
def dueCatalog (column : String) : Catalog where
  model := ⟨"sales", "main", "Sales", true, none, none⟩
  tables := [⟨"orders", "orders", "orders", none, none, none, postgresEngine, some "orders", true,
    none, none, none, none, [⟨column, "date"⟩]⟩]
  relationships := []

/-- All rows with a day in this column. -/
def dueSpec (column : String) : QuerySpec where
  dataModelId := none
  tableIds := ["orders"]
  select := []
  filters := [⟨⟨"orders", column, none⟩, .equals, .text "2024-05-01", .null, .and⟩]
  groupBy := []
  orderBy := []
  limit := none

/-- A word hides the colon after it, so no parameter is read in the name of the column. -/
theorem QueryPlan.build_binds_due : ∃ (plan : QueryPlan) (stages : PlanStages),
    QueryPlan.build ⟨1000, 5000⟩ (dueCatalog "due:date") (dueSpec "due:date") = .ok plan ∧
      plan.engine = postgresEngine ∧ stages.Compiles (dueCatalog "due:date") (dueSpec "due:date") ∧
      (plan.storeStatement ⟨1000, 5000⟩).given = ["p1"] ∧
      (plan.storeStatement ⟨1000, 5000⟩).Binds ∧
      ∀ text ∈ stages.spelled (dueCatalog "due:date") (dueSpec "due:date"),
        ∀ name ∈ Sql.parameters text, name = "p1" := by
  have hbuilt : (QueryPlan.build ⟨1000, 5000⟩ (dueCatalog "due:date")
      (dueSpec "due:date")).toOption.map (fun plan => (plan.engine, plan.parameters.length,
        Sql.parameters (plan.storeStatement ⟨1000, 5000⟩).text,
        (plan.storeStatement ⟨1000, 5000⟩).given)) =
      some (postgresEngine, 1, ["p1"], ["p1"]) := by
    decide +kernel
  cases hplan : QueryPlan.build ⟨1000, 5000⟩ (dueCatalog "due:date") (dueSpec "due:date") with
  | error fault => simp [hplan, Except.toOption] at hbuilt
  | ok plan =>
    rw [hplan] at hbuilt
    simp only [Except.toOption, Option.map_some, Option.some.injEq, Prod.mk.injEq] at hbuilt
    obtain ⟨hengine, hvalues, hread, hgiven⟩ := hbuilt
    have hbinds : (plan.storeStatement ⟨1000, 5000⟩).Binds := by
      intro name
      rw [hread, hgiven]
    obtain ⟨stages, hcompiles, -, -, -, hiff⟩ := QueryPlan.build_binds_iff hplan hengine
    refine ⟨plan, stages, rfl, hengine, hcompiles, hgiven, hbinds, fun text htext name hname => ?_⟩
    rcases hiff.1 hbinds with hnone | hspelled
    · simp [hnone] at hvalues
    · simpa [hgiven] using hspelled text htext name hname

/-- Where a blank is before the colon, a parameter is read in the name of a column, and no value is
given for it. -/
theorem QueryPlan.build_unbound_date : ∃ plan : QueryPlan,
    QueryPlan.build ⟨1000, 5000⟩ (dueCatalog "due :date") (dueSpec "due :date") = .ok plan ∧
      plan.engine = postgresEngine ∧
      (plan.storeStatement ⟨1000, 5000⟩).text =
        "SELECT t1.*\nFROM orders t1\nWHERE (t1.\"due :date\" = :p1)\nLIMIT 1000" ∧
      Sql.parameters (plan.storeStatement ⟨1000, 5000⟩).text = ["date", "p1"] ∧
      (plan.storeStatement ⟨1000, 5000⟩).given = ["p1"] ∧
      ¬ (plan.storeStatement ⟨1000, 5000⟩).Binds := by
  have hbuilt : (QueryPlan.build ⟨1000, 5000⟩ (dueCatalog "due :date")
      (dueSpec "due :date")).toOption.map (fun plan => (plan.engine,
        (plan.storeStatement ⟨1000, 5000⟩).text, (plan.storeStatement ⟨1000, 5000⟩).given)) =
      some (postgresEngine,
        "SELECT t1.*\nFROM orders t1\nWHERE (t1.\"due :date\" = :p1)\nLIMIT 1000", ["p1"]) := by
    decide +kernel
  have hread : Sql.parameters
      "SELECT t1.*\nFROM orders t1\nWHERE (t1.\"due :date\" = :p1)\nLIMIT 1000" =
        ["date", "p1"] := by
    decide +kernel
  cases hplan : QueryPlan.build ⟨1000, 5000⟩ (dueCatalog "due :date") (dueSpec "due :date") with
  | error fault => simp [hplan, Except.toOption] at hbuilt
  | ok plan =>
    rw [hplan] at hbuilt
    obtain ⟨hengine, hrest⟩ := Prod.mk.inj (Option.some.inj hbuilt)
    obtain ⟨htext, hgiven⟩ := Prod.mk.inj hrest
    refine ⟨plan, rfl, hengine, htext, htext ▸ hread, hgiven, fun hbinds => ?_⟩
    have hdate := hbinds "date"
    rw [htext, hread, hgiven] at hdate
    exact absurd hdate (by decide)

end SemanticLayer
