import SemanticLayer.Proofs.Plan.Growth
import SemanticLayer.Proofs.Plan.Ordering

/-!
The groups that a plan makes of its rows, seen from the columns of its result. A star of the select
list stands for all columns of its table, so an item and the column that it makes need not be at the
same place. Where no star is selected beside an aggregate, they are, and a request without groups of
its own is grouped by all columns that are no aggregates. Groups that a request asks for are taken
as they are.
-/

namespace SemanticLayer

/-! ### Columns of the result -/

/-- A column of the result: the expression that it is made by, and whether it is an aggregate. -/
structure OutputColumn where
  text : String
  aggregated : Bool
  deriving Repr, DecidableEq

/-- The key is the place of a column, or an expression that is written like it. -/
def SortKey.Names (dialect : Dialect) (place : Nat) (column : OutputColumn) : SortKey → Prop
  | .ordinal other => other = place
  | .column term => term.write dialect = column.text

/-- The place in the result that the key is. -/
def SortKey.place? : SortKey → Option Nat
  | .ordinal place => some place
  | .column _ => none

theorem SortKey.place?_eq_some {key : SortKey} {place : Nat} :
    key.place? = some place ↔ key = .ordinal place := by
  cases key <;> simp [place?]

namespace SelectStatement

/-- The tables that the statement reads, each with its alias. -/
def sources (statement : SelectStatement) : List (String × Table) :=
  (statement.rootAlias, statement.root) ::
    statement.joins.map fun join => (join.aliasName, join.table)

/-- The table that goes by the alias. -/
def table? (statement : SelectStatement) (aliasName : String) : Option Table :=
  (statement.sources.find? (·.1 == aliasName)).map Prod.snd

/-- The columns that an item of the select list makes; a star makes those of its table. -/
def outputs (statement : SelectStatement) : SelectTerm → List OutputColumn
  | .star aliasName =>
    ((statement.table? aliasName).map Table.columns).getD [] |>.map fun column =>
      ⟨statement.dialect.column aliasName column.name, false⟩
  | term => [⟨term.expression statement.dialect, term.isAggregate⟩]

/-- The columns of the result. -/
def row (statement : SelectStatement) : List OutputColumn :=
  statement.terms.flatMap statement.outputs

/-- The column of the result at a place, counted from one. -/
def output? (statement : SelectStatement) : Nat → Option OutputColumn
  | 0 => none
  | place + 1 => statement.row[place]?

/-- The place is that of a column that is no aggregate. -/
def Locates (statement : SelectStatement) (place : Nat) : Prop :=
  ∃ column, statement.output? place = some column ∧ column.aggregated = false

/-- The column at the place is grouped by. -/
def Covers (statement : SelectStatement) (place : Nat) (column : OutputColumn) : Prop :=
  ∃ key ∈ statement.groupBy, key.Names statement.dialect place column

/-- The places that the statement groups and orders by are those of columns that are no aggregates;
and beside aggregates, every column that is none is grouped by. -/
structure GroupsSoundly (statement : SelectStatement) : Prop where
  groups : ∀ place, .ordinal place ∈ statement.groupBy → statement.Locates place
  orders : ∀ place, .ordinal place ∈ statement.orderBy.map Prod.fst → statement.Locates place
  covers : (∃ term ∈ statement.terms, term.isAggregate = true) → ∀ place column,
    statement.output? place = some column → column.aggregated = false →
      statement.Covers place column

instance (dialect : Dialect) (place : Nat) (column : OutputColumn) :
    (key : SortKey) → Decidable (key.Names dialect place column)
  | .ordinal other => inferInstanceAs (Decidable (other = place))
  | .column term => inferInstanceAs (Decidable (term.write dialect = column.text))

instance (statement : SelectStatement) (place : Nat) (column : OutputColumn) :
    Decidable (statement.Covers place column) :=
  inferInstanceAs (Decidable (∃ key ∈ statement.groupBy, _))

instance (statement : SelectStatement) (place : Nat) : Decidable (statement.Locates place) :=
  decidable_of_iff ((statement.output? place).any fun column => !column.aggregated)
    (by simp [Locates, Option.any_eq_true])

/-- The columns of the result, each with its place. -/
theorem mem_places {statement : SelectStatement} {place : Nat} {column : OutputColumn} :
    (column, place) ∈ statement.row.zipIdx 1 ↔ statement.output? place = some column := by
  rw [List.mk_mem_zipIdx_iff_le_and_getElem?_sub]
  cases place with
  | zero => simp [output?]
  | succ place => simp [output?]

instance (statement : SelectStatement) : Decidable statement.GroupsSoundly :=
  decidable_of_iff
    ((∀ key ∈ statement.groupBy, ∀ place ∈ key.place?, statement.Locates place) ∧
      (∀ entry ∈ statement.orderBy, ∀ place ∈ entry.1.place?, statement.Locates place) ∧
      ((∃ term ∈ statement.terms, term.isAggregate = true) →
        ∀ entry ∈ statement.row.zipIdx 1, entry.1.aggregated = false →
          statement.Covers entry.2 entry.1))
    (by
      constructor
      · rintro ⟨hgroups, horders, hcovers⟩
        refine ⟨fun place hplace => hgroups _ hplace place rfl, fun place hplace => ?_, ?_⟩
        · obtain ⟨⟨key, direction⟩, hentry, rfl⟩ := List.mem_map.1 hplace
          exact horders _ hentry place rfl
        · exact fun haggregate place column hcolumn hplain =>
            hcovers haggregate (column, place) (mem_places.2 hcolumn) hplain
      · rintro ⟨hgroups, horders, hcovers⟩
        refine ⟨fun key hkey place hplace => ?_, fun entry hentry place hplace => ?_, ?_⟩
        · exact hgroups place (SortKey.place?_eq_some.1 hplace ▸ hkey)
        · exact horders place (SortKey.place?_eq_some.1 hplace ▸ List.mem_map_of_mem hentry)
        · exact fun haggregate entry hentry hplain =>
            hcovers haggregate entry.2 entry.1 (mem_places.1 hentry) hplain)

end SelectStatement

/-- A star is selected beside an aggregate. -/
def QuerySpec.MixesStars (spec : QuerySpec) : Prop :=
  (∃ item ∈ spec.select, item.isStar = true ∧ item.aggregation.isAggregate = false) ∧
    ∃ item ∈ spec.select, item.aggregation.isAggregate = true

theorem SelectTerm.isColumn_iff {term : SelectTerm} :
    term.isColumn = true ↔ term.isStar = false ∧ term.isAggregate = false := by
  cases term <;> simp [isColumn, isStar, isAggregate]

namespace SelectStatement

variable {statement : SelectStatement}

/-- Without stars, every item makes the column at its own place. -/
theorem output?_of_no_star (h : ∀ term ∈ statement.terms, term.isStar = false) (place : Nat) :
    statement.output? place = (statement.item? place).map fun term =>
      ⟨term.expression statement.dialect, term.isAggregate⟩ := by
  have hrow : statement.row = statement.terms.map fun term =>
      ⟨term.expression statement.dialect, term.isAggregate⟩ := by
    rw [row, List.map_eq_flatMap]
    refine List.flatMap_congr fun term hterm => ?_
    cases term with
    | star aliasName => cases h _ hterm
    | column term name => rfl
    | aggregate aggregation term name => rfl
  cases place with
  | zero => rfl
  | succ place => rw [output?, item?, hrow, List.getElem?_map]

theorem locates_of_columnPlaces (h : ∀ term ∈ statement.terms, term.isStar = false) {place : Nat}
    (hplace : place ∈ columnPlaces statement.terms) : statement.Locates place := by
  obtain ⟨item, hitem, hcolumn⟩ := mem_columnPlaces.1 hplace
  refine ⟨_, by rw [output?_of_no_star h, hitem]; rfl, ?_⟩
  exact (SelectTerm.isColumn_iff.1 hcolumn).2

/-- Without stars, columns that are no aggregates are at the places of the columns of the select
list. -/
theorem mem_columnPlaces_of_output (h : ∀ term ∈ statement.terms, term.isStar = false)
    {place : Nat} {column : OutputColumn} (houtput : statement.output? place = some column)
    (hcolumn : column.aggregated = false) : place ∈ columnPlaces statement.terms := by
  rw [output?_of_no_star h] at houtput
  obtain ⟨item, hitem, rfl⟩ := Option.map_eq_some_iff.1 houtput
  have hstar := h item (exists_place.1 ⟨place, hitem⟩)
  exact mem_columnPlaces.2 ⟨item, hitem, SelectTerm.isColumn_iff.2 ⟨hstar, hcolumn⟩⟩

end SelectStatement

/-! ### Items of the select list -/

/-- What an item of a request makes of the select list: a star of its table where it asks for all
columns, and an aggregate where it asks for one. -/
structure PlanContext.Selects (context : PlanContext) (item : SelectItem) (term : SelectTerm) :
    Prop where
  isStar : term.isStar = (item.isStar && !item.aggregation.isAggregate)
  isAggregate : term.isAggregate = item.aggregation.isAggregate
  aliasName : ∀ aliasName, term = .star aliasName →
    ∃ table, context.catalog.resolve? item.tableId = some table ∧
      context.joins.aliasOf table.id = .ok aliasName

theorem PlanContext.selectFrom_selects {context : PlanContext} {place : Nat} {taken : List String}
    {items : List SelectItem} {terms : List SelectTerm}
    (h : context.selectFrom place taken items = .ok terms) :
    List.Forall₂ context.Selects items terms := by
  induction items generalizing place taken terms with
  | nil =>
    obtain rfl := Except.ok.inj h
    exact .nil
  | cons item rest ih =>
    unfold selectFrom at h
    simp only [bind_eq_ok] at h
    obtain ⟨table, htable, aliasName, halias, h⟩ := h
    have hresolve := Catalog.require_eq_ok.1 (lift_eq_ok.1 htable)
    split at h <;> obtain ⟨others, hothers, heq⟩ := bind_eq_ok.1 h <;>
      obtain rfl := pure_eq_ok.1 heq <;> refine .cons ?_ (ih hothers)
    · rename_i hall
      refine ⟨hall.symm, ?_, ?_⟩
      · simp only [Bool.and_eq_true, Bool.not_eq_eq_eq_not, Bool.not_true] at hall
        rw [hall.2]
        rfl
      · rintro name ⟨⟩
        exact ⟨table, hresolve, halias⟩
    · cases hstar : item.isStar with
      | true =>
        have haggregate : item.aggregation.isAggregate = true := by simp_all
        exact ⟨by simp [haggregate, hstar, SelectTerm.isStar], haggregate.symm, by rintro _ ⟨⟩⟩
      | false =>
        cases haggregate : item.aggregation.isAggregate with
        | true => exact ⟨by simp [hstar, SelectTerm.isStar], haggregate.symm, by rintro _ ⟨⟩⟩
        | false => exact ⟨by simp [hstar, SelectTerm.isStar], haggregate.symm, by rintro _ ⟨⟩⟩

/-- A request that selects something gets an item for each of its items. -/
theorem PlanContext.select_selects {context : PlanContext} {rootAlias : String}
    {items : List SelectItem} {terms : List SelectTerm}
    (h : context.select rootAlias items = .ok terms) :
    items = [] ∧ terms = [.star rootAlias] ∨ List.Forall₂ context.Selects items terms := by
  unfold select at h
  split at h
  · rename_i hempty
    exact .inl ⟨List.isEmpty_iff.1 hempty, (Except.ok.inj h).symm⟩
  · exact .inr (selectFrom_selects h)

/-! ### Plans -/

/-- The tables of a tree of joins, each with its alias. -/
theorem JoinPlan.IsTree.aliases_eq {rootId : String} {plan : JoinPlan} (h : plan.IsTree rootId) :
    plan.aliases = (rootId, tableAlias 1) ::
      plan.joins.map fun join => (join.table.id, join.aliasName) := by
  induction h with
  | start => rfl
  | add _ _ ih => simp [JoinPlan.add, ih]

namespace PlanStages.Compiles

variable {stages : PlanStages} {catalog : Catalog} {spec : QuerySpec}

/-- Every table with an alias is one that the statement reads. -/
theorem table?_isSome (h : stages.Compiles catalog spec) (limits : RowLimits) {id : String}
    {aliasName : String} (halias : stages.joins.aliasOf id = .ok aliasName) :
    ((stages.statement limits spec).table? aliasName).isSome = true := by
  obtain ⟨htree, -⟩ := h.isTree h.joined
  have hroot : stages.rootAlias = tableAlias 1 :=
    Except.ok.inj (h.rootAlias.symm.trans htree.aliasOf_root)
  have hnames : (stages.statement limits spec).sources.map Prod.fst =
      stages.joins.aliases.map Prod.snd := by
    rw [htree.aliases_eq, ← hroot]
    simp [SelectStatement.sources, PlanStages.statement, Function.comp_def]
  have hmem : aliasName ∈ (stages.statement limits spec).sources.map Prod.fst := by
    rw [hnames]
    exact List.mem_map_of_mem (JoinPlan.mem_aliases_of_aliasOf halias)
  obtain ⟨source, hsource, -⟩ := exists_find_of_mem_map Prod.fst hmem
  rw [SelectStatement.table?, hsource]
  rfl

/-- Every star stands for the columns of a table that the statement reads. -/
theorem star_table (h : stages.Compiles catalog spec) (limits : RowLimits) {aliasName : String}
    (hstar : .star aliasName ∈ stages.terms) :
    ((stages.statement limits spec).table? aliasName).isSome = true := by
  rcases PlanContext.select_selects h.terms with ⟨-, hterms⟩ | hselects
  · rw [hterms, List.mem_singleton] at hstar
    obtain rfl := SelectTerm.star.inj hstar
    exact h.table?_isSome limits h.rootAlias
  · obtain ⟨item, -, hitem⟩ := exists_item_of_forall₂ hselects _ hstar
    obtain ⟨table, -, halias⟩ := hitem.aliasName _ rfl
    exact h.table?_isSome limits halias

/-- Beside an aggregate there is no star unless the request mixes the two. -/
theorem no_star (h : stages.Compiles catalog spec) (hmixes : ¬ spec.MixesStars)
    (haggregate : ∃ term ∈ stages.terms, term.isAggregate = true) :
    ∀ term ∈ stages.terms, term.isStar = false := by
  obtain ⟨aggregate, hmem, haggregate⟩ := haggregate
  rcases PlanContext.select_selects h.terms with ⟨-, hterms⟩ | hselects
  · rw [hterms, List.mem_singleton] at hmem
    rw [hmem] at haggregate
    cases haggregate
  · intro term hterm
    by_contra hstar
    obtain ⟨item, hitem, hselected⟩ := exists_item_of_forall₂ hselects term hterm
    obtain ⟨other, hother, hcounted⟩ := exists_item_of_forall₂ hselects aggregate hmem
    have hall := hselected.isStar.symm.trans ((Bool.not_eq_false _).mp hstar)
    rw [Bool.and_eq_true, Bool.not_eq_true'] at hall
    exact hmixes ⟨⟨item, hitem, hall⟩, other, hother, hcounted.isAggregate ▸ haggregate⟩

/-- The places that a plan orders by are those of columns that are no aggregates. -/
theorem orders_located (h : stages.Compiles catalog spec) (limits : RowLimits) (place : Nat)
    (hplace : .ordinal place ∈ (stages.statement limits spec).orderBy.map Prod.fst) :
    (stages.statement limits spec).Locates place := by
  obtain ⟨⟨key, direction⟩, hentry, rfl⟩ := List.mem_map.1 hplace
  by_cases hgiven : spec.orderBy = []
  · have hkeys := h.orderBy
    rw [PlanContext.orderBy, hgiven, if_neg (by simp)] at hkeys
    split at hkeys <;> rw [PlanStages.statement, ← Except.ok.inj hkeys] at hentry
    · cases hentry
    · rename_i hstars
      obtain ⟨other, hother, heq⟩ := List.mem_map.1 hentry
      obtain ⟨heq, -⟩ := Prod.mk.inj heq
      obtain rfl := SortKey.ordinal.inj heq
      refine SelectStatement.locates_of_columnPlaces (fun term hterm => ?_) hother
      simpa using fun hstar => hstars (List.any_eq_true.2 ⟨term, hterm, hstar⟩)
  · obtain ⟨item, -, term, -, heq⟩ := exists_item_of_forall₂ (h.orders_given hgiven) _ hentry
    cases heq

/-- The groups of a request without any of its own are those of its columns. -/
theorem groupsSoundly (h : stages.Compiles catalog spec) (limits : RowLimits)
    (hnone : spec.groupBy = []) (hmixes : ¬ spec.MixesStars) :
    (stages.statement limits spec).GroupsSoundly := by
  have hkeys := h.groupBy
  rw [PlanContext.groupBy, hnone, if_neg (by simp)] at hkeys
  split at hkeys
  · rename_i haggregates
    have hstars := h.no_star hmixes (List.any_eq_true.1 haggregates)
    have hgroupBy : (stages.statement limits spec).groupBy =
        (columnPlaces stages.terms).map .ordinal := (Except.ok.inj hkeys).symm
    refine ⟨fun place hplace => ?_, h.orders_located limits, ?_⟩
    · rw [hgroupBy] at hplace
      obtain ⟨other, hother, heq⟩ := List.mem_map.1 hplace
      obtain rfl := SortKey.ordinal.inj heq
      exact SelectStatement.locates_of_columnPlaces hstars hother
    · intro _ place column hcolumn hplain
      have hmem := SelectStatement.mem_columnPlaces_of_output hstars hcolumn hplain
      exact ⟨.ordinal place, hgroupBy ▸ List.mem_map_of_mem hmem, rfl⟩
  · rename_i haggregates
    have hgroupBy : (stages.statement limits spec).groupBy = [] := (Except.ok.inj hkeys).symm
    refine ⟨fun place hplace => ?_, h.orders_located limits, fun haggregate => ?_⟩
    · rw [hgroupBy] at hplace
      cases hplace
    · exact absurd (List.any_eq_true.2 haggregate) haggregates

/-- Groups that a request asks for are compiled as they are, column by column. -/
theorem groups_given (h : stages.Compiles catalog spec) (hgiven : spec.groupBy ≠ []) :
    ∃ terms, stages.groupBy = terms.map .column ∧
      List.Forall₂ (fun ref term => PlanContext.column ⟨catalog, stages.joins⟩ ref = .ok term)
        spec.groupBy terms := by
  have hkeys := h.groupBy
  rw [PlanContext.groupBy, if_pos (by simpa using hgiven)] at hkeys
  exact PlanContext.exists_terms_of_keys hkeys

theorem covers_given (h : stages.Compiles catalog spec) (limits : RowLimits)
    (hgiven : spec.groupBy ≠ []) (place : Nat) (column : OutputColumn) :
    (stages.statement limits spec).Covers place column ↔ ∃ ref ∈ spec.groupBy,
      PlanContext.Writes ⟨catalog, stages.joins⟩ (Dialect.ofEngine stages.engine) ref
        column.text := by
  obtain ⟨terms, hgroupBy, hterms⟩ := h.groups_given hgiven
  have hkeys : (stages.statement limits spec).groupBy = terms.map .column := hgroupBy
  rw [← PlanContext.mem_texts_of_forall₂ hterms, SelectStatement.Covers, hkeys]
  simp [SortKey.Names, PlanStages.statement]

end PlanStages.Compiles

variable {limits : RowLimits} {catalog : Catalog} {spec : QuerySpec}

/-- The places that a plan orders by are those of columns of the result that are no aggregates. So
are those that it groups by, and beside aggregates it groups by all columns that are none, where the
request has no groups of its own and selects no star beside an aggregate. Groups of its own are
compiled as they are, one by one; a column that is no aggregate is then grouped by exactly if one of
them is written like it. -/
theorem QueryPlan.build_grouped {plan : QueryPlan}
    (h : QueryPlan.build limits catalog spec = .ok plan) :
    ∃ stages : PlanStages, stages.Compiles catalog spec ∧
      plan = stages.plan limits catalog spec ∧
      let statement := stages.statement limits spec
      let context : PlanContext := ⟨catalog, stages.joins⟩
      (∀ aliasName, .star aliasName ∈ statement.terms →
          (statement.table? aliasName).isSome = true) ∧
        (∀ place, .ordinal place ∈ statement.orderBy.map Prod.fst → statement.Locates place) ∧
        (spec.groupBy = [] → ¬ spec.MixesStars → statement.GroupsSoundly) ∧
        (spec.groupBy ≠ [] →
          (∃ terms, statement.groupBy = terms.map .column ∧
              List.Forall₂ (fun ref term => context.column ref = .ok term) spec.groupBy terms) ∧
            ∀ place column, statement.output? place = some column → column.aggregated = false →
              (statement.Covers place column ↔
                ∃ ref ∈ spec.groupBy, context.Writes statement.dialect ref column.text)) := by
  obtain ⟨stages, hcompiles, rfl⟩ := build_eq_ok h
  refine ⟨stages, hcompiles, rfl, fun _ => hcompiles.star_table limits,
    hcompiles.orders_located limits, hcompiles.groupsSoundly limits, fun hgiven => ?_⟩
  refine ⟨hcompiles.groups_given hgiven, fun place column _ _ => ?_⟩
  exact hcompiles.covers_given limits hgiven place column

/-- The people of the table counted, beside columns that are selected before and after the count. -/
def residentCountSpec (before after : List String) (groupBy : List ColumnRef) : QuerySpec where
  dataModelId := none
  tableIds := []
  select := before.map residentColumn ++ [⟨⟨"residents", "*", none⟩, .count, some "n"⟩] ++
    after.map residentColumn
  filters := []
  groupBy := groupBy
  orderBy := []
  limit := none
where
  residentColumn (column : String) : SelectItem := ⟨⟨"residents", column, none⟩, .none, some column⟩

theorem QueryPlan.build_grouped_countries :
    ∃ (plan : QueryPlan) (stages : PlanStages),
      QueryPlan.build ⟨10, 100⟩ residentsCatalog (residentCountSpec ["country"] [] []) = .ok plan ∧
        stages.Compiles residentsCatalog (residentCountSpec ["country"] [] []) ∧
        plan = stages.plan ⟨10, 100⟩ residentsCatalog (residentCountSpec ["country"] [] []) ∧
        (stages.statement ⟨10, 100⟩ (residentCountSpec ["country"] [] [])).GroupsSoundly := by
  have hbuilt : (QueryPlan.build ⟨10, 100⟩ residentsCatalog
      (residentCountSpec ["country"] [] [])).toOption.isSome = true := by
    decide +kernel
  cases hplan : QueryPlan.build ⟨10, 100⟩ residentsCatalog
      (residentCountSpec ["country"] [] []) with
  | error fault => simp [hplan, Except.toOption] at hbuilt
  | ok plan =>
    obtain ⟨stages, hcompiles, hstages, -, -, hsound, -⟩ := QueryPlan.build_grouped hplan
    refine ⟨plan, stages, rfl, hcompiles, hstages, hsound rfl ?_⟩
    simp [QuerySpec.MixesStars, residentCountSpec, residentCountSpec.residentColumn,
      SelectItem.isStar, Aggregation.isAggregate]

/-- A plan whose stages have been computed, with a statement that lacks a property. -/
theorem QueryPlan.exists_stages_of_run {lacks : SelectStatement → Prop} [DecidablePred lacks]
    {sql : String}
    (h : Except.toOption (do
        let found ← PlanScope.survey catalog spec
        let stages ← found.1.compile found.2 catalog spec
        return ((stages.plan limits catalog spec).sql,
          decide (lacks (stages.statement limits spec)))) = some (sql, false)) :
    ∃ stages : PlanStages, stages.Compiles catalog spec ∧
      build limits catalog spec = .ok (stages.plan limits catalog spec) ∧
      (stages.plan limits catalog spec).sql = sql ∧ ¬ lacks (stages.statement limits spec) := by
  cases hsurvey : PlanScope.survey catalog spec with
  | error fault =>
    rw [hsurvey] at h
    cases h
  | ok found =>
    rw [bind_of_ok hsurvey] at h
    cases hcompile : found.1.compile found.2 catalog spec with
    | error fault =>
      rw [hcompile] at h
      cases h
    | ok stages =>
      rw [hcompile] at h
      obtain ⟨hsql, hlacks⟩ := Prod.mk.inj (Option.some.inj h)
      refine ⟨stages, (PlanScope.compile_eq_ok hsurvey hcompile).2.2, ?_, hsql,
        of_decide_eq_false hlacks⟩
      rw [build_eq, bind_of_ok hsurvey]
      exact bind_of_ok hcompile

/-- The people by their names, although grouped by country. -/
def residentNamesSpec : QuerySpec :=
  residentCountSpec ["name"] [] [⟨"residents", "country", none⟩]

/-- All columns of the people beside their number and, once more, the country. -/
def residentColumnsSpec : QuerySpec :=
  residentCountSpec ["*"] ["country"] []

/-- A name that is selected but not among the requested groups is not grouped by. Beside a star, the
place of a selected column is that of another column of the result, here of the count. -/
theorem QueryPlan.build_grouped_unsoundly :
    (∃ stages : PlanStages, stages.Compiles residentsCatalog residentNamesSpec ∧
      build ⟨10, 100⟩ residentsCatalog residentNamesSpec =
        .ok (stages.plan ⟨10, 100⟩ residentsCatalog residentNamesSpec) ∧
      (stages.plan ⟨10, 100⟩ residentsCatalog residentNamesSpec).sql =
        "SELECT t1.\"name\" AS \"name\", COUNT(*) AS \"n\"\n" ++
          "FROM residents t1\nGROUP BY t1.\"country\"\nORDER BY 1 ASC\nLIMIT 10" ∧
      ¬ (stages.statement ⟨10, 100⟩ residentNamesSpec).GroupsSoundly) ∧
    ∃ stages : PlanStages, stages.Compiles residentsCatalog residentColumnsSpec ∧
      build ⟨10, 100⟩ residentsCatalog residentColumnsSpec =
        .ok (stages.plan ⟨10, 100⟩ residentsCatalog residentColumnsSpec) ∧
      (stages.plan ⟨10, 100⟩ residentsCatalog residentColumnsSpec).sql =
        "SELECT t1.*, COUNT(*) AS \"n\", t1.\"country\" AS \"country\"\n" ++
          "FROM residents t1\nGROUP BY 3\nLIMIT 10" ∧
      ¬ (stages.statement ⟨10, 100⟩ residentColumnsSpec).GroupsSoundly :=
  ⟨exists_stages_of_run (by decide +kernel), exists_stages_of_run (by decide +kernel)⟩

end SemanticLayer
