import SemanticLayer.Proofs.Plan.Filters

/-!
The columns that the statement of a plan names. A column is found without regard to letter case and
to blanks around its name, but the statement quotes its name as the request spells it. So a name
that is quoted is that of a column exactly if the request spells it as the table does.
-/

namespace SemanticLayer

open Text

/-! ### Columns of a request and of a statement -/

/-- The column that is selected, unless all columns are. -/
def SelectItem.ref? (item : SelectItem) : Option ColumnRef :=
  if item.isStar then none else some item.toColumnRef

/-- Whether the condition is written with its column. It is known without the column that a value is
none of no values. -/
def Condition.namesColumn : Condition → Bool
  | .among _ [] => false
  | _ => true

/-- The column that the filter is about, if its condition is written with it. -/
def FilterItem.ref? (item : FilterItem) : Option ColumnRef :=
  match item.condition with
  | .ok condition => if condition.namesColumn then some item.toColumnRef else none
  | .error _ => none

def SelectTerm.column? : SelectTerm → Option ColumnTerm
  | .star _ => none
  | .column term _ => some term
  | .aggregate _ term _ => term

def FilterTerm.column? (term : FilterTerm) : Option ColumnTerm :=
  if term.condition.namesColumn then some term.column else none

def SortKey.column? : SortKey → Option ColumnTerm
  | .ordinal _ => none
  | .column term => some term

/-- The columns that a statement names in its items, in order. -/
def SelectStatement.columns (statement : SelectStatement) : List ColumnTerm :=
  statement.terms.filterMap SelectTerm.column? ++
    statement.filters.filterMap FilterTerm.column? ++
    statement.groupBy.filterMap SortKey.column? ++
    statement.orderBy.filterMap fun entry => entry.1.column?

/-- The columns that a request refers to in the items that are compiled, in order. -/
def PlanStages.refs (stages : PlanStages) (catalog : Catalog) (spec : QuerySpec) :
    List ColumnRef :=
  spec.select.filterMap SelectItem.ref? ++
    ((PlanContext.keptFilters ⟨catalog, stages.joins⟩ stages.skipped spec.filters).filterMap
      fun entry => entry.2.ref?) ++
    spec.groupBy ++ spec.orderBy.map (·.toColumnRef)

namespace ColumnRef

/-- The name is that of a column of the table that is referred to. -/
def Declares (catalog : Catalog) (ref : ColumnRef) (name : String) : Prop :=
  ∃ table, catalog.resolve? ref.tableId = some table ∧ ∃ column ∈ table.columns, column.name = name

/-- How a statement names a column that a request refers to: under the alias of its table, and
spelled as in the request. The table has a column of that name, letter case and blanks aside. -/
structure IsNamedBy (catalog : Catalog) (joins : JoinPlan) (ref : ColumnRef)
    (term : ColumnTerm) : Prop where
  found : ∃ table, catalog.resolve? ref.tableId = some table ∧
    joins.aliases.find? table.id = some term.aliasName ∧
    ∃ column ∈ table.columns, lower column.name = lower (trim ref.column)
  column : term.column = ref.column
  part : term.part = ref.part

end ColumnRef

/-! ### Quoted names -/

/-- The characters of a name that stands between double quotation marks, of which two stand for
one. -/
def readDoubled : List Char → List Char
  | '"' :: '"' :: rest => '"' :: readDoubled rest
  | c :: rest => c :: readDoubled rest
  | [] => []

/-- The name that is read where a name has been quoted. -/
def Dialect.identifier (dialect : Dialect) (name : String) : String :=
  let quoted := name.toList.flatMap dialect.quotedChar
  match dialect with
  | .postgres => String.ofList (readDoubled quoted)
  | .bigQuery => String.ofList quoted

theorem readDoubled_quoted (chars : List Char) :
    readDoubled (chars.flatMap Dialect.postgres.quotedChar) = chars := by
  induction chars with
  | nil => rfl
  | cons c rest ih =>
    rw [List.flatMap_cons]
    by_cases hmark : c = '"'
    · subst hmark
      exact congrArg _ ih
    · simp [Dialect.quotedChar, hmark, readDoubled, ih]

/-- The one language reads just the name that was quoted. -/
@[simp]
theorem Dialect.identifier_postgres (name : String) : Dialect.postgres.identifier name = name := by
  simp [identifier, readDoubled_quoted]

/-- The other one reads the name without marks in it. -/
theorem Dialect.identifier_bigQuery (name : String) : Dialect.bigQuery.identifier name =
    String.ofList (name.toList.filter (· != '\x60')) := by
  unfold identifier
  dsimp only
  congr 1
  induction name.toList with
  | nil => rfl
  | cons c rest ih => by_cases hmark : c = '\x60' <;> simp_all [quotedChar]

/-! ### Compiled items -/

section Items

variable {catalog : Catalog} {joins : JoinPlan}

theorem Catalog.requireColumn_eq_ok {ref : ColumnRef} :
    catalog.requireColumn ref = .ok () ↔
      ∃ table, catalog.resolve? ref.tableId = some table ∧ table.hasColumn ref.column = true := by
  unfold requireColumn
  simp only [bind_eq_ok, require_eq_ok]
  refine exists_congr fun table => and_congr_right fun _ => ?_
  split
  · simp_all [pure_eq_ok]
  · rename_i hcolumn
    constructor
    · rintro ⟨⟩
    · exact fun hthere => absurd hthere hcolumn

/-- What is checked of the columns of a request: those that it mentions are there. -/
theorem Catalog.checkColumns_eq_ok {spec : QuerySpec} (h : catalog.checkColumns spec = .ok ()) :
    (∀ item ∈ spec.select, item.isStar = false → catalog.requireColumn item.toColumnRef = .ok ()) ∧
      ∀ ref ∈ spec.mentions, catalog.requireColumn ref = .ok () := by
  unfold checkColumns at h
  obtain ⟨⟨⟩, hselect, hmentions⟩ := bind_eq_ok.1 h
  refine ⟨fun item hitem hstar => ?_, forM_eq_ok.1 hmentions⟩
  have hchecked := forM_eq_ok.1 hselect item hitem
  rwa [checkSelected, hstar] at hchecked

/-- A column that is there is named under the alias of its table. -/
theorem ColumnRef.isNamedBy_of_alias {ref : ColumnRef} {table : Table} {aliasName : String}
    (hcolumn : catalog.requireColumn ref = .ok ())
    (htable : catalog.resolve? ref.tableId = some table)
    (halias : joins.aliases.find? table.id = some aliasName) :
    ref.IsNamedBy catalog joins ⟨aliasName, ref.column, ref.part⟩ := by
  obtain ⟨other, hother, hhas⟩ := Catalog.requireColumn_eq_ok.1 hcolumn
  obtain rfl := Option.some.inj (htable.symm.trans hother)
  obtain ⟨column, hfind⟩ := Option.isSome_iff_exists.1 hhas
  refine ⟨⟨table, htable, halias, column, List.mem_of_find?_eq_some hfind, ?_⟩, rfl, rfl⟩
  simpa [Table.columnKey] using List.find?_some hfind

theorem PlanContext.isNamedBy_of_column {ref : ColumnRef} {term : ColumnTerm}
    (hcolumn : catalog.requireColumn ref = .ok ())
    (h : PlanContext.column ⟨catalog, joins⟩ ref = .ok term) :
    ref.IsNamedBy catalog joins term := by
  unfold PlanContext.column at h
  simp only [bind_eq_ok, lift_eq_ok, pure_eq_ok] at h
  obtain ⟨table, htable, aliasName, halias, rfl⟩ := h
  exact ColumnRef.isNamedBy_of_alias hcolumn (Catalog.require_eq_ok.1 htable)
    (JoinPlan.aliasOf_eq_ok.1 halias)

theorem PlanContext.selectFrom_names {place : Nat} {taken : List String} {items : List SelectItem}
    {terms : List SelectTerm}
    (hcolumns : ∀ item ∈ items, item.isStar = false →
      catalog.requireColumn item.toColumnRef = .ok ())
    (h : PlanContext.selectFrom ⟨catalog, joins⟩ place taken items = .ok terms) :
    List.Forall₂ (ColumnRef.IsNamedBy catalog joins) (items.filterMap SelectItem.ref?)
      (terms.filterMap SelectTerm.column?) := by
  induction items generalizing place taken terms with
  | nil =>
    obtain rfl := Except.ok.inj h
    exact .nil
  | cons item rest ih =>
    have hrest := fun other hother => hcolumns other (List.mem_cons_of_mem _ hother)
    unfold PlanContext.selectFrom at h
    simp only [bind_eq_ok, lift_eq_ok] at h
    obtain ⟨table, htable, aliasName, halias, h⟩ := h
    rw [List.filterMap_cons, SelectItem.ref?]
    split at h
    · rename_i hall
      obtain ⟨others, hothers, heq⟩ := bind_eq_ok.1 h
      obtain rfl := pure_eq_ok.1 heq
      rw [Bool.and_eq_true] at hall
      rw [if_pos hall.1]
      have hlater := ih hrest hothers
      exact hlater
    · obtain ⟨others, hothers, heq⟩ := bind_eq_ok.1 h
      obtain rfl := pure_eq_ok.1 heq
      have hlater := ih hrest hothers
      cases hstar : item.isStar with
      | true =>
        have haggregate : item.aggregation.isAggregate = true := by simp_all
        rw [haggregate]
        exact hlater
      | false =>
        have hnamed := ColumnRef.isNamedBy_of_alias (hcolumns item (by simp) hstar)
          (Catalog.require_eq_ok.1 htable) (JoinPlan.aliasOf_eq_ok.1 halias)
        cases item.aggregation.isAggregate with
        | true => exact .cons hnamed hlater
        | false => exact .cons hnamed hlater

theorem PlanContext.select_names {rootAlias : String} {items : List SelectItem}
    {terms : List SelectTerm}
    (hcolumns : ∀ item ∈ items, item.isStar = false →
      catalog.requireColumn item.toColumnRef = .ok ())
    (h : PlanContext.select ⟨catalog, joins⟩ rootAlias items = .ok terms) :
    List.Forall₂ (ColumnRef.IsNamedBy catalog joins) (items.filterMap SelectItem.ref?)
      (terms.filterMap SelectTerm.column?) := by
  unfold PlanContext.select at h
  split at h
  · rename_i hempty
    obtain rfl := List.isEmpty_iff.1 hempty
    obtain rfl := Except.ok.inj h
    exact .nil
  · exact selectFrom_names hcolumns h

/-- Keys that are places in the select list name no column. -/
theorem filterMap_ordinal (places : List Nat) :
    (places.map SortKey.ordinal).filterMap SortKey.column? = [] := by
  simp [SortKey.column?]

theorem PlanContext.groupBy_names {items : List ColumnRef} {terms : List SelectTerm}
    {keys : List SortKey} (hcolumns : ∀ ref ∈ items, catalog.requireColumn ref = .ok ())
    (h : PlanContext.groupBy ⟨catalog, joins⟩ items terms = .ok keys) :
    List.Forall₂ (ColumnRef.IsNamedBy catalog joins) items (keys.filterMap SortKey.column?) := by
  unfold PlanContext.groupBy at h
  split at h
  · have hall := (List.forall₂_and_left _ _).2 ⟨hcolumns, forall₂_of_mapM h⟩
    rw [← List.filterMap_some (l := items)]
    refine List.rel_filterMap (fun ref key hkey => ?_) hall
    obtain ⟨term, hterm, rfl⟩ := map_eq_ok.1 hkey.2
    exact .some (isNamedBy_of_column hkey.1 hterm)
  · rename_i hempty
    have hnone : items = [] := by simpa using hempty
    subst hnone
    split at h <;> obtain rfl := Except.ok.inj h
    · rw [filterMap_ordinal]
      exact .nil
    · exact .nil

theorem PlanContext.orderBy_names {items : List OrderItem} {terms : List SelectTerm}
    {keys : List (SortKey × Direction)}
    (hcolumns : ∀ item ∈ items, catalog.requireColumn item.toColumnRef = .ok ())
    (h : PlanContext.orderBy ⟨catalog, joins⟩ items terms = .ok keys) :
    List.Forall₂ (ColumnRef.IsNamedBy catalog joins) (items.map (·.toColumnRef))
      (keys.filterMap fun entry => entry.1.column?) := by
  unfold PlanContext.orderBy at h
  split at h
  · have hall := (List.forall₂_and_left _ _).2 ⟨hcolumns, forall₂_of_mapM h⟩
    rw [← List.filterMap_eq_map]
    refine List.rel_filterMap (fun item key hkey => ?_) hall
    obtain ⟨term, hterm, heq⟩ := bind_eq_ok.1 hkey.2
    obtain rfl := pure_eq_ok.1 heq
    exact .some (isNamedBy_of_column hkey.1 hterm)
  · rename_i hempty
    have hnone : items = [] := by simpa using hempty
    subst hnone
    split at h <;> obtain rfl := Except.ok.inj h
    · exact .nil
    · simp [SortKey.column?, List.filterMap_map]

theorem PlanContext.filters_names {dialect : Dialect} {skipped : List String}
    {items : List FilterItem} {terms : List FilterTerm}
    (htables : ∀ item ∈ items, (catalog.resolve? item.tableId).isSome = true)
    (hcolumns : ∀ item ∈ items, catalog.requireColumn item.toColumnRef = .ok ())
    (h : PlanContext.filters ⟨catalog, joins⟩ dialect skipped items = .ok terms) :
    List.Forall₂ (ColumnRef.IsNamedBy catalog joins)
      ((PlanContext.keptFilters ⟨catalog, joins⟩ skipped items).filterMap fun entry => entry.2.ref?)
      (terms.filterMap FilterTerm.column?) := by
  rw [filters_eq htables] at h
  have hall := (List.forall₂_and_left _ _).2 ⟨fun entry => mem_keptFilters.1, forall₂_of_mapM h⟩
  refine List.rel_filterMap (fun entry term hterm => ?_) hall
  obtain ⟨⟨hitem, table, htable, -, halias⟩, hterm⟩ := hterm
  obtain ⟨condition, hcondition, rfl⟩ := map_eq_ok.1 hterm
  have hnamed := ColumnRef.isNamedBy_of_alias (hcolumns entry.2 hitem) htable halias
  simp only [FilterItem.ref?, FilterTerm.column?, (FilterItem.conditionIn_eq_ok.1 hcondition).1]
  split
  · exact .some hnamed
  · exact .none

end Items

/-! ### Text of a statement -/

/-- The one text stands, as it is, within the other. -/
def OccursIn (part whole : String) : Prop :=
  ∃ before after, whole = before ++ part ++ after

namespace OccursIn

variable {part whole : String}

theorem refl (part : String) : OccursIn part part :=
  ⟨"", "", by simp⟩

theorem append_left (before : String) (h : OccursIn part whole) :
    OccursIn part (before ++ whole) := by
  obtain ⟨left, right, rfl⟩ := h
  exact ⟨before ++ left, right, by simp [String.append_assoc]⟩

theorem append_right (after : String) (h : OccursIn part whole) :
    OccursIn part (whole ++ after) := by
  obtain ⟨left, right, rfl⟩ := h
  exact ⟨left, right ++ after, by simp [String.append_assoc]⟩

theorem trans {middle : String} (h : OccursIn part middle) (hnext : OccursIn middle whole) :
    OccursIn part whole := by
  obtain ⟨left, right, rfl⟩ := hnext
  exact (h.append_left left).append_right right

theorem intercalate {items : List String} (separator : String) (h : part ∈ items) :
    OccursIn part (separator.intercalate items) := by
  induction items with
  | nil => cases h
  | cons item rest ih =>
    cases rest with
    | nil =>
      rw [List.mem_singleton.1 h, String.intercalate_singleton]
      exact refl _
    | cons next others =>
      rw [String.intercalate_cons_of_ne_nil (by simp)]
      rcases List.mem_cons.1 h with rfl | h
      · exact ((refl _).append_right _).append_right _
      · exact (ih h).append_left _

theorem writePieces {dialect : Dialect} {pieces : List Piece} (taken : Nat)
    (h : Piece.text part ∈ pieces) : OccursIn part (writePieces dialect taken pieces) := by
  induction pieces generalizing taken with
  | nil => cases h
  | cons piece rest ih =>
    cases piece with
    | text s =>
      rcases List.mem_cons.1 h with heq | h
      · cases heq
        exact (refl _).append_right _
      · exact (ih taken h).append_left _
    | value v =>
      have hrest : Piece.text part ∈ rest := by simpa using h
      cases dialect with
      | postgres => exact (ih _ hrest).append_left _
      | bigQuery => exact (ih _ hrest).append_left _

end OccursIn

theorem ColumnTerm.occursIn_write (dialect : Dialect) (term : ColumnTerm) :
    OccursIn (dialect.column term.aliasName term.column) (term.write dialect) := by
  unfold ColumnTerm.write
  dsimp only
  split
  · exact .refl _
  · unfold Dialect.extract
    split
    · exact ((OccursIn.refl _).append_left _).append_right _
    · exact ((OccursIn.refl _).append_left _).append_right _

theorem Condition.exists_text {condition : Condition} (dialect : Dialect) (column : String)
    (h : condition.namesColumn = true) :
    ∃ s, Piece.text s ∈ condition.pieces dialect column ∧ OccursIn column s := by
  cases condition with
  | isNull => exact ⟨_, List.mem_cons_self, (OccursIn.refl _).append_right _⟩
  | isNotNull => exact ⟨_, List.mem_cons_self, (OccursIn.refl _).append_right _⟩
  | compare =>
    exact ⟨_, List.mem_cons_self,
      (((OccursIn.refl _).append_right _).append_right _).append_right _⟩
  | like =>
    have hoccurs (before after negation keyword : String) :
        OccursIn column (before ++ column ++ after ++ negation ++ keyword) :=
      ((((OccursIn.refl _).append_left _).append_right _).append_right _).append_right _
    cases dialect with
    | postgres => exact ⟨_, List.mem_cons_self, hoccurs _ _ _ _⟩
    | bigQuery => exact ⟨_, List.mem_cons_self, hoccurs _ _ _ _⟩
  | between => exact ⟨_, List.mem_cons_self, (OccursIn.refl _).append_right _⟩
  | among negated values =>
    cases values with
    | nil => cases h
    | cons =>
      cases negated <;> exact ⟨_, List.mem_cons_self,
        (((OccursIn.refl _).append_right _).append_right _).append_right _⟩

/-- A combination of terms has all of their pieces. -/
theorem subset_combineFrom (dialect : Dialect) (expression : List Piece)
    (terms : List FilterTerm) :
    expression ⊆ combineFrom dialect expression terms ∧
      ∀ term ∈ terms, term.pieces dialect ⊆ combineFrom dialect expression terms := by
  induction terms generalizing expression with
  | nil => exact ⟨List.Subset.refl _, by simp⟩
  | cons term rest ih =>
    obtain ⟨hexpression, hrest⟩ := ih
      ([.text "("] ++ expression ++ [.text (" " ++ term.connective.code ++ " (")] ++
        term.pieces dialect ++ [.text "))"])
    refine ⟨fun piece hpiece => hexpression (by simp [hpiece]), ?_⟩
    intro other hother piece hpiece
    rcases List.mem_cons.1 hother with rfl | hother
    · exact hexpression (by simp [hpiece])
    · exact hrest other hother hpiece

theorem subset_combine {dialect : Dialect} {terms : List FilterTerm} {term : FilterTerm}
    (h : term ∈ terms) : ∃ pieces, combine dialect terms = some pieces ∧
      term.pieces dialect ⊆ pieces := by
  cases terms with
  | nil => cases h
  | cons first rest =>
    obtain ⟨hexpression, hrest⟩ :=
      subset_combineFrom dialect ([.text "("] ++ first.pieces dialect ++ [.text ")"]) rest
    refine ⟨_, rfl, fun piece hpiece => ?_⟩
    rcases List.mem_cons.1 h with rfl | h
    · exact hexpression (by simp [hpiece])
    · exact hrest term h hpiece

theorem SelectTerm.occursIn_write {dialect : Dialect} {term : SelectTerm} {column : ColumnTerm}
    (h : term.column? = some column) : OccursIn (column.write dialect) (term.write dialect) := by
  cases term with
  | star => cases h
  | column =>
    cases h
    exact ((OccursIn.refl _).append_right _).append_right _
  | aggregate =>
    cases h
    exact ((((OccursIn.refl _).append_left _).append_right _).append_right _).append_right _

theorem SortKey.write_of_column {dialect : Dialect} {key : SortKey} {column : ColumnTerm}
    (h : key.column? = some column) : key.write dialect = column.write dialect := by
  cases key with
  | ordinal => cases h
  | column => cases h; rfl

namespace SelectStatement

variable {statement : SelectStatement} {term : ColumnTerm} {part : String}

theorem occursIn_clause {keyword : String} {items : List String} (h : part ∈ items) :
    ∃ line ∈ clause keyword items, OccursIn part line := by
  cases items with
  | nil => cases h
  | cons item rest =>
    exact ⟨_, List.mem_singleton_self _, (OccursIn.intercalate ", " h).append_left _⟩

/-- The columns of the items are written in the lines of the statement. -/
theorem exists_line (h : term ∈ statement.columns) :
    ∃ line ∈ statement.lines, OccursIn (term.write statement.dialect) line := by
  simp only [columns, List.mem_append, List.mem_filterMap] at h
  simp only [lines, List.mem_append, or_and_right, exists_or]
  rcases h with ((⟨item, hitem, hterm⟩ | ⟨filter, hfilter, hterm⟩) | ⟨key, hkey, hterm⟩) |
    ⟨⟨key, direction⟩, hkey, hterm⟩
  · refine .inl (.inl (.inl (.inl (.inl ⟨_, List.mem_cons_self, ?_⟩))))
    have hwritten : item.write statement.dialect ∈
        statement.terms.map (SelectTerm.write statement.dialect) := List.mem_map_of_mem hitem
    exact (SelectTerm.occursIn_write hterm).trans
      ((OccursIn.intercalate ", " hwritten).append_left _)
  · obtain ⟨pieces, hpieces, hsubset⟩ :
        ∃ pieces, statement.condition = some pieces ∧ filter.pieces statement.dialect ⊆ pieces :=
      subset_combine hfilter
    unfold FilterTerm.column? at hterm
    split at hterm
    · rename_i hnames
      cases hterm
      obtain ⟨s, hs, hoccurs⟩ :=
        Condition.exists_text statement.dialect (filter.column.write statement.dialect) hnames
      have hwritten : OccursIn (filter.column.write statement.dialect)
          ("WHERE " ++ writePieces statement.dialect 0 pieces) :=
        (hoccurs.trans (OccursIn.writePieces 0 (hsubset hs))).append_left _
      refine .inl (.inl (.inl (.inr ⟨_, ?_, hwritten⟩)))
      rw [hpieces]
      exact List.mem_singleton_self _
    · cases hterm
  · refine .inl (.inl (.inr (occursIn_clause (List.mem_map.2 ⟨key, hkey, ?_⟩))))
    exact SortKey.write_of_column hterm
  · have hwritten : OccursIn (term.write statement.dialect)
        (key.write statement.dialect ++ " " ++ direction.code) := by
      rw [← SortKey.write_of_column hterm]
      exact ((OccursIn.refl _).append_right _).append_right _
    obtain ⟨line, hline, hoccurs⟩ := occursIn_clause (List.mem_map.2 ⟨_, hkey, rfl⟩)
    exact .inl (.inr ⟨line, hline, hwritten.trans hoccurs⟩)

/-- The statement is written with all of the columns that it names. -/
theorem occursIn_write (h : term ∈ statement.columns) :
    OccursIn (statement.dialect.column term.aliasName term.column) statement.write := by
  obtain ⟨line, hline, hterm⟩ := exists_line h
  exact ((term.occursIn_write statement.dialect).trans hterm).trans
    (OccursIn.intercalate "\n" hline)

end SelectStatement

/-! ### Plans -/

variable {limits : RowLimits} {catalog : Catalog} {spec : QuerySpec}

/-- The statement of a plan names the columns that the compiled items refer to. -/
theorem PlanStages.Compiles.names {stages : PlanStages} (h : stages.Compiles catalog spec)
    (limits : RowLimits) :
    List.Forall₂ (ColumnRef.IsNamedBy catalog stages.joins) (stages.refs catalog spec)
      (stages.statement limits spec).columns := by
  obtain ⟨hselect, hmentions⟩ := Catalog.checkColumns_eq_ok h.columns
  have hmentioned {ref : ColumnRef} (hmem : ref ∈ spec.filters.map (·.toColumnRef) ∨
      ref ∈ spec.groupBy ∨ ref ∈ spec.orderBy.map (·.toColumnRef)) :
      catalog.requireColumn ref = .ok () := by
    refine hmentions ref ?_
    simpa only [QuerySpec.mentions, List.mem_append, or_assoc] using hmem
  have hfilters := PlanContext.filters_names (resolve_of_requested h.requested)
    (fun item hitem => hmentioned (.inl (List.mem_map_of_mem hitem))) h.filters
  have hgroupBy :=
    PlanContext.groupBy_names (fun ref href => hmentioned (.inr (.inl href))) h.groupBy
  have horderBy := PlanContext.orderBy_names
    (fun item hitem => hmentioned (.inr (.inr (List.mem_map_of_mem hitem)))) h.orderBy
  exact List.rel_append (List.rel_append (List.rel_append
    (PlanContext.select_names hselect h.terms) hfilters) hgroupBy) horderBy

/-- The statement of a plan is written with one quoted name for each item that is compiled with a
column. These names are those of columns of the items' tables exactly if the request spells all of
them as the tables do, marks that are left out apart. -/
theorem QueryPlan.build_columns_declared_iff {plan : QueryPlan}
    (h : QueryPlan.build limits catalog spec = .ok plan) :
    ∃ stages : PlanStages, stages.Compiles catalog spec ∧
      plan = stages.plan limits catalog spec ∧
      let dialect := Dialect.ofEngine plan.engine
      let refs := stages.refs catalog spec
      let terms := (stages.statement limits spec).columns
      (∀ term ∈ terms, OccursIn (dialect.column term.aliasName term.column) plan.sql) ∧
        List.Forall₂ (ColumnRef.IsNamedBy catalog stages.joins) refs terms ∧
        (List.Forall₂ (fun ref term => ref.Declares catalog (dialect.identifier term.column))
            refs terms ↔
          ∀ ref ∈ refs, ref.Declares catalog (dialect.identifier ref.column)) := by
  obtain ⟨stages, hcompiles, rfl⟩ := build_eq_ok h
  have hnames := hcompiles.names limits
  refine ⟨stages, hcompiles, rfl, fun _ => SelectStatement.occursIn_write, hnames, ?_, ?_⟩
  · intro hdeclared ref href
    obtain ⟨term, -, hterm, hnamed⟩ := exists_result_of_forall₂
      (List.Forall₂.mp (fun _ _ => And.intro) hdeclared hnames) ref href
    rwa [← hnamed.column]
  · intro hspelled
    refine List.Forall₂.imp (fun ref term hterm => ?_)
      ((List.forall₂_and_left _ _).2 ⟨hspelled, hnames⟩)
    rw [hterm.2.column]
    exact hterm.1

/-- A table with one column. -/
def customersTable : Table :=
  ⟨"customers", "customers", "customers", none, none, none, postgresEngine, some "customers", true,
    none, none, none, none, [⟨"id", "int"⟩]⟩

def customersCatalog : Catalog :=
  ⟨⟨"sales", "main", "Sales", true, none, none⟩, [customersTable], []⟩

/-- A request for one column of the table. -/
def customersSpec (column : String) : QuerySpec where
  dataModelId := none
  tableIds := []
  select := [⟨⟨"customers", column, none⟩, .none, some "key"⟩]
  filters := []
  groupBy := []
  orderBy := []
  limit := none

theorem QueryPlan.build_columns_declared_customers :
    ∃ (plan : QueryPlan) (stages : PlanStages),
      QueryPlan.build ⟨10, 100⟩ customersCatalog (customersSpec "id") = .ok plan ∧
      stages.Compiles customersCatalog (customersSpec "id") ∧
      List.Forall₂ (fun (ref : ColumnRef) (term : ColumnTerm) => ref.Declares customersCatalog
          ((Dialect.ofEngine plan.engine).identifier term.column))
        [⟨"customers", "id", none⟩] (stages.statement ⟨10, 100⟩ (customersSpec "id")).columns := by
  have hbuilt : (QueryPlan.build ⟨10, 100⟩ customersCatalog
      (customersSpec "id")).toOption.isSome = true := by
    decide +kernel
  have hidentifier (dialect : Dialect) : dialect.identifier "id" = "id" := by
    cases dialect <;> decide +kernel
  cases hplan : QueryPlan.build ⟨10, 100⟩ customersCatalog (customersSpec "id") with
  | error fault => simp [hplan, Except.toOption] at hbuilt
  | ok plan =>
    obtain ⟨stages, hcompiles, rfl, -, -, hdeclared⟩ := QueryPlan.build_columns_declared_iff hplan
    have hrefs : stages.refs customersCatalog (customersSpec "id") =
        [⟨"customers", "id", none⟩] := by
      simp [PlanStages.refs, customersSpec, SelectItem.ref?, SelectItem.isStar,
        PlanContext.keptFilters]
    rw [hrefs] at hdeclared
    refine ⟨_, stages, rfl, hcompiles, hdeclared.2 fun ref href => ?_⟩
    rw [List.mem_singleton.1 href, hidentifier]
    exact ⟨customersTable, by decide +kernel, ⟨"id", "int"⟩, List.mem_singleton_self _, rfl⟩

/-- A request that spells a column in its own letter case gets a statement with a quoted name that
no table has a column of. -/
theorem QueryPlan.build_undeclared_column :
    ∃ plan : QueryPlan, QueryPlan.build ⟨10, 100⟩ customersCatalog (customersSpec "ID") = .ok plan ∧
      plan.sql = "SELECT DISTINCT t1.\"ID\" AS \"key\"\n" ++
        "FROM customers t1\nORDER BY 1 ASC\nLIMIT 10" ∧
      ∀ table ∈ customersCatalog.tables, ∀ column ∈ table.columns, column.name ≠ "ID" := by
  have hsql : (QueryPlan.build ⟨10, 100⟩ customersCatalog (customersSpec "ID")).toOption.map
      QueryPlan.sql = some ("SELECT DISTINCT t1.\"ID\" AS \"key\"\n" ++
        "FROM customers t1\nORDER BY 1 ASC\nLIMIT 10") := by
    decide +kernel
  cases hplan : QueryPlan.build ⟨10, 100⟩ customersCatalog (customersSpec "ID") with
  | error fault => simp [hplan, Except.toOption] at hsql
  | ok plan =>
    rw [hplan] at hsql
    exact ⟨plan, rfl, Option.some.inj hsql, by decide⟩

end SemanticLayer
