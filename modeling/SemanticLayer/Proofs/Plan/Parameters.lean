import SemanticLayer.Proofs.Plan.Growth
import SemanticLayer.Proofs.Plan.Ordering
import SemanticLayer.Proofs.Plan.OutputNames
import SemanticLayer.Proofs.Plan.Placeholders
import SemanticLayer.Proofs.Sql.Parameter

/-!
The parameters that are read in a statement of the store: those of the places of its values, and
those of the names in it, quoted or not. The names that a plan makes up, aliases and names of output
columns, have none; but names of the catalog and of the request may be read as parameters.
-/

namespace SemanticLayer

open Sql (ReadsLike opens closes separates)

/-! ### Names and columns -/

/-- Marks that are doubled stand between what can be read alone. -/
theorem parametersFrom_quoted (before : Option Char) (left chars : List Char) :
    Sql.parametersFrom before (left ++ chars.flatMap Dialect.postgres.quotedChar) =
      Sql.parametersFrom before (left ++ chars) := by
  have hcalm : Sql.hidesColon '"' = false := by decide
  induction chars generalizing before left with
  | nil => rfl
  | cons c rest ih =>
    rw [List.flatMap_cons]
    by_cases hmark : c = '"'
    · subst hmark
      have hrest := ih none []
      rw [List.nil_append, List.nil_append] at hrest
      change Sql.parametersFrom before
        (left ++ '"' :: ([] ++ '"' :: rest.flatMap Dialect.postgres.quotedChar)) = _
      rw [Sql.parametersFrom_append_cons hcalm, Sql.parametersFrom_append_cons hcalm, hrest,
        Sql.parametersFrom_append_cons hcalm]
      rfl
    · have hchar : Dialect.postgres.quotedChar c = [c] := by simp [Dialect.quotedChar, hmark]
      rw [hchar, List.singleton_append, ← List.singleton_append, ← List.append_assoc, ih,
        List.append_assoc, List.singleton_append]

/-- A quoted name is read like the name. -/
theorem readsLike_quote (name : String) : ReadsLike [Dialect.postgres.quote name] [name] := by
  have hcalm : Sql.hidesColon '"' = false := by decide
  have hquote : Sql.parameters (Dialect.postgres.quote name) = Sql.parameters name := by
    unfold Sql.parameters Dialect.quote
    rw [String.toList_ofList, List.cons_append, Dialect.nameMark,
      Sql.parametersFrom_cons (by decide), Sql.parametersFrom_of_calm hcalm,
      Sql.parametersFrom_append_cons hcalm]
    simpa [Sql.parametersFrom] using parametersFrom_quoted none [] name.toList
  exact .of_eq (by simpa using hquote)

/-- The names in a column of an aliased table. -/
def ColumnTerm.names (term : ColumnTerm) : List String :=
  [term.aliasName, term.column]

theorem readsLike_column (aliasName column : String) :
    ReadsLike [Dialect.postgres.column aliasName column] [aliasName, column] := by
  have hsep : separates "." = true := by decide
  exact (ReadsLike.refl [aliasName]).between (readsLike_quote column) hsep

/-- What is taken out of a date reads like the date. -/
theorem readsLike_extract (part : DatePart) {date : String} {parts : List String}
    (h : ReadsLike [date] parts) :
    ReadsLike [Dialect.postgres.extract part.code date] parts := by
  unfold Dialect.extract
  split
  · have hopen : opens "CASE WHEN " = true := by decide
    have hmiddle : separates " IS NULL THEN NULL WHEN EXTRACT(MONTH FROM " = true := by
      decide
    have hclose : closes ") <= 6 THEN 1 ELSE 2 END" = true := by decide
    refine (((h.after hopen).between h hmiddle).before hclose).congr fun name => ?_
    rw [List.mem_append, or_self]
  · have hopen : opens ("EXTRACT(" ++ (if part.code == "week" then "WEEK"
        else Text.upper part.code) ++ " FROM ") = true := by
      cases part <;> decide
    have hclose : closes ")" = true := by decide
    exact (h.after hopen).before hclose

theorem ColumnTerm.readsLike (term : ColumnTerm) :
    ReadsLike [term.write .postgres] term.names := by
  unfold ColumnTerm.write
  dsimp only
  split
  · exact readsLike_column _ _
  · exact readsLike_extract _ (readsLike_column _ _)

/-- The names in a column, if there is one. -/
def columnNames (column : Option ColumnTerm) : List String :=
  (column.map ColumnTerm.names).getD []

/-! ### Numbers and places -/

theorem colon_not_mem_repr (n : Nat) : ':' ∉ n.repr.toList :=
  fun hmem => absurd (isDigit_of_mem_repr ':' hmem) (by decide)

theorem isWord_of_isDigit {c : Char} (h : c.isDigit = true) : Text.isWord c = true := by
  have hsmall : c.toNat < 128 := by
    have hbounds := isDigit_iff.1 h
    omega
  rw [Text.isWord, Text.isAlphanumeric_of_isAlphanum c hsmall (by simp [Char.isAlphanum, h]),
    Bool.or_true]

/-- The place of a value is read as the parameter with its number. -/
theorem parameters_place (number : Nat) :
    Sql.parameters (":" ++ parameterName number) = [parameterName number] := by
  have hchars : (parameterName number).toList = 'p' :: number.repr.toList := by
    simp [parameterName]
  refine Sql.parameters_word (fun hempty => ?_) fun c hc => ?_
  · simp [hempty] at hchars
  · rw [hchars] at hc
    rcases List.mem_cons.1 hc with rfl | hc
    · decide
    · exact isWord_of_isDigit (isDigit_of_mem_repr c hc)

theorem parameters_places (taken : Nat) (values : List Json) :
    (Dialect.postgres.places taken values).flatMap Sql.parameters =
      (QueryPlan.parameterFields (taken + 1) values).map Prod.fst := by
  rw [Dialect.places_postgres, QueryPlan.names_parameterFields, List.flatMap_map,
    List.map_eq_flatMap]
  simp only [parameters_place]

/-! ### Conditions -/

namespace Condition

/-- A condition is read like its column, if it is written with it, and the places of its values. -/
theorem readsLike {column : String} {parts : List String} (h : ReadsLike [column] parts)
    (taken : Nat) (condition : Condition) :
    ReadsLike [writePieces .postgres taken (condition.pieces .postgres column)]
      ((if condition.namesColumn then parts else []) ++
        Dialect.postgres.places taken condition.values) := by
  have hplace (taken : Nat) (value : Json) : ReadsLike [Dialect.postgres.place taken value]
      [Dialect.postgres.place taken value] := .refl _
  cases condition with
  | isNull =>
    have hclose : closes " IS NULL" = true := by decide
    simpa [pieces, writePieces_text, writePieces_nil, values, namesColumn, Dialect.places] using
      h.before hclose
  | isNotNull =>
    have hclose : closes " IS NOT NULL" = true := by decide
    simpa [pieces, writePieces_text, writePieces_nil, values, namesColumn, Dialect.places] using
      h.before hclose
  | compare comparison value =>
    have hsymbol : separates (" " ++ comparison.symbol ++ " ") = true := by
      cases comparison <;> decide
    have hwritten := h.between (hplace taken value) hsymbol
    simpa [FilterItem.write_compare, String.append_assoc, values, namesColumn, Dialect.places]
      using hwritten
  | like negated pattern =>
    have hopen : opens "CAST(" = true := by decide
    have hkeyword : separates (" AS TEXT) " ++ (if negated then "NOT " else "") ++ "ILIKE ") =
        true := by
      cases negated <;> decide
    have hwritten := (h.after hopen).between (hplace taken (.text pattern)) hkeyword
    simpa [pieces, writePieces_text, writePieces_value, writePieces_nil, String.append_assoc,
      values, namesColumn, Dialect.places] using hwritten
  | between low high =>
    have hfirst : separates " BETWEEN " = true := by decide
    have hsecond : separates " AND " = true := by decide
    have hwritten := (h.between (hplace taken low) hfirst).between (hplace (taken + 1) high) hsecond
    simpa [pieces, writePieces_text, writePieces_value, writePieces_nil, String.append_assoc,
      values, namesColumn, Dialect.places] using hwritten
  | among negated listed =>
    rw [FilterItem.write_among]
    cases listed with
    | nil =>
      have hnever : ':' ∉ (if negated then "1 = 1" else "1 = 0").toList := by
        cases negated <;> decide
      exact .fixed hnever
    | cons value rest =>
      have hkeyword : separates (if negated then " NOT IN (" else " IN (") = true := by
        cases negated <;> decide
      have hcomma : separates ", " = true := by decide
      have hclose : closes ")" = true := by decide
      exact (h.between (.intercalate hcomma _) hkeyword).before hclose

end Condition

/-- The names in the condition on a column. -/
def FilterTerm.names (term : FilterTerm) : List String :=
  columnNames term.column?

theorem FilterTerm.readsLike (term : FilterTerm) (taken : Nat) :
    ReadsLike [writePieces .postgres taken (term.pieces .postgres)]
      (term.names ++ Dialect.postgres.places taken term.condition.values) := by
  have hnames : term.names = if term.condition.namesColumn then term.column.names else [] := by
    unfold names column?
    split <;> rfl
  rw [hnames]
  exact term.condition.readsLike term.column.readsLike taken

/-- An expression is read like all that is combined in it. The places of a term come after those of
the expression so far. -/
theorem readsLike_combineFrom {expression : List Piece} {parts : List String}
    (h : ReadsLike [writePieces .postgres 0 expression] parts) (terms : List FilterTerm) :
    ReadsLike [writePieces .postgres 0 (combineFrom .postgres expression terms)]
      (parts ++ terms.flatMap FilterTerm.names ++
        Dialect.postgres.places (pieceValues expression).length
          (terms.flatMap (·.condition.values))) := by
  induction terms generalizing expression parts with
  | nil => simpa [combineFrom, Dialect.places] using h
  | cons term rest ih =>
    have hopen : opens "(" = true := by decide
    have hmiddle : separates (" " ++ term.connective.code ++ " (") = true := by
      cases term.connective <;> decide
    have hclose : closes "))" = true := by decide
    have hterm := ((h.after hopen).between
      (term.readsLike (pieceValues expression).length) hmiddle).before hclose
    have hcombined : ReadsLike [writePieces .postgres 0 ([.text "("] ++ expression ++
        [.text (" " ++ term.connective.code ++ " (")] ++ term.pieces .postgres ++ [.text "))"])]
        (parts ++ (term.names ++
          Dialect.postgres.places (pieceValues expression).length term.condition.values)) := by
      simpa [writePieces_append, writePieces_text, writePieces_nil, pieceValues,
        pieceValues_append, String.append_assoc] using hterm
    have hvalues : pieceValues (term.pieces .postgres) = term.condition.values :=
      Condition.pieceValues_pieces _ _ _
    rw [combineFrom]
    refine (ih hcombined).congr fun part => ?_
    simp only [pieceValues, pieceValues_append, hvalues, List.length_append, List.length_nil,
      Nat.add_zero, Nat.zero_add, List.flatMap_cons, Dialect.places_append, List.mem_append]
    tauto

theorem readsLike_combine {terms : List FilterTerm} {pieces : List Piece}
    (h : combine .postgres terms = some pieces) :
    ReadsLike [writePieces .postgres 0 pieces]
      (terms.flatMap FilterTerm.names ++
        Dialect.postgres.places 0 (terms.flatMap (·.condition.values))) := by
  cases terms with
  | nil => cases h
  | cons term rest =>
    obtain rfl := Option.some.inj h
    have hopen : opens "(" = true := by decide
    have hclose : closes ")" = true := by decide
    have hvalues : pieceValues (term.pieces .postgres) = term.condition.values :=
      Condition.pieceValues_pieces _ _ _
    have hfirst : ReadsLike [writePieces .postgres 0
        ([.text "("] ++ term.pieces .postgres ++ [.text ")"])]
        (term.names ++ Dialect.postgres.places 0 term.condition.values) := by
      simpa [writePieces_append, writePieces_text, writePieces_nil, String.append_assoc] using
        ((term.readsLike 0).after hopen).before hclose
    refine (readsLike_combineFrom hfirst rest).congr fun part => ?_
    simp only [pieceValues, pieceValues_append, hvalues, List.length_append, List.length_nil,
      Nat.add_zero, Nat.zero_add, List.flatMap_cons, Dialect.places_append, List.mem_append]
    tauto

/-! ### Statements -/

/-- The name that the plan gives an item: the alias of its table, or the name of its column. -/
def SelectTerm.label : SelectTerm → String
  | .star aliasName => aliasName
  | .column _ name => name
  | .aggregate _ _ name => name

/-- The names in an item of the select list. -/
def SelectTerm.names (term : SelectTerm) : List String :=
  columnNames term.column? ++ [term.label]

theorem SelectTerm.readsLike (term : SelectTerm) : ReadsLike [term.write .postgres] term.names := by
  have hname : separates " AS " = true := by decide
  cases term with
  | star aliasName =>
    have hclose : closes ".*" = true := by decide
    exact (ReadsLike.refl [aliasName]).before hclose
  | column term name => exact term.readsLike.between (readsLike_quote name) hname
  | aggregate aggregation operand name =>
    have hopen : opens (aggregation.keyword ++ "(" ++
        if aggregation == .countDistinct then "DISTINCT " else "") = true := by
      cases aggregation <;> decide
    have hclose : closes ")" = true := by decide
    have haround {text : String} {parts : List String} (h : ReadsLike [text] parts) :
        ReadsLike [aggregation.keyword ++ "(" ++
            (if aggregation == .countDistinct then "DISTINCT " else "") ++ text ++ ")" ++ " AS " ++
            Dialect.postgres.quote name] (parts ++ [name]) :=
      ((h.after hopen).before hclose).between (readsLike_quote name) hname
    cases operand with
    | none => exact haround (.fixed (by decide))
    | some term => exact haround term.readsLike

/-- The names in a key. -/
def SortKey.names (key : SortKey) : List String :=
  columnNames key.column?

theorem SortKey.readsLike (key : SortKey) : ReadsLike [key.write .postgres] key.names := by
  cases key with
  | ordinal place => exact .fixed (colon_not_mem_repr place)
  | column term => exact term.readsLike

/-- The names in a join. -/
def Join.names (join : Join) : List String :=
  [join.table.runtimeRef.getD "None", join.aliasName, join.knownAlias, join.knownColumn,
    join.aliasName, join.column]

theorem Join.readsLike (join : Join) : ReadsLike [join.write .postgres] join.names := by
  have hopen : opens "INNER JOIN " = true := by decide
  have hblank : separates " " = true := by decide
  have hon : separates " ON " = true := by decide
  have hequal : separates " = " = true := by decide
  exact (((((ReadsLike.refl [_]).after hopen).between (.refl [_]) hblank).between
    (readsLike_column _ _) hon).between (readsLike_column _ _) hequal)

namespace SelectStatement

/-- All names in a statement. -/
def names (statement : SelectStatement) : List String :=
  statement.terms.flatMap SelectTerm.names ++
    [statement.root.runtimeRef.getD "None", statement.rootAlias] ++
    statement.joins.flatMap Join.names ++ statement.filters.flatMap FilterTerm.names ++
    statement.groupBy.flatMap SortKey.names ++
    statement.orderBy.flatMap fun entry => entry.1.names

theorem readsLike_clause {keyword : String} (h : opens (keyword ++ " ") = true) {α : Type}
    (items : List α) {write : α → String} {partsOf : α → List String}
    (hitems : ∀ item, ReadsLike [write item] (partsOf item)) :
    ReadsLike (clause keyword (items.map write)) (items.flatMap partsOf) := by
  have hcomma : separates ", " = true := by decide
  refine ReadsLike.trans ?_ (.items items hitems)
  cases items with
  | nil => exact .refl []
  | cons item rest => exact (ReadsLike.intercalate hcomma _).after h

theorem readsLike_terms (distinct : Bool) (terms : List SelectTerm) :
    ReadsLike [(if distinct then "SELECT DISTINCT " else "SELECT ") ++
        ", ".intercalate (terms.map (SelectTerm.write .postgres))]
      (terms.flatMap SelectTerm.names) := by
  have hkeyword : opens (if distinct then "SELECT DISTINCT " else "SELECT ") = true := by
    cases distinct <;> decide
  have hcomma : separates ", " = true := by decide
  exact ((ReadsLike.intercalate hcomma _).trans (.items terms SelectTerm.readsLike)).after hkeyword

theorem readsLike_root (ref aliasName : String) :
    ReadsLike ["FROM " ++ ref ++ " " ++ aliasName] [ref, aliasName] := by
  have hkeyword : opens "FROM " = true := by decide
  have hblank : separates " " = true := by decide
  exact ((ReadsLike.refl [ref]).after hkeyword).between (.refl [aliasName]) hblank

theorem readsLike_condition (filters : List FilterTerm) :
    ReadsLike ((combine .postgres filters).map fun pieces =>
        "WHERE " ++ writePieces .postgres 0 pieces).toList
      (filters.flatMap FilterTerm.names ++
        Dialect.postgres.places 0 (filters.flatMap (·.condition.values))) := by
  have hkeyword : opens "WHERE " = true := by decide
  cases filters with
  | nil => exact .refl []
  | cons term rest => exact (readsLike_combine rfl).after hkeyword

theorem readsLike_orderBy (entry : SortKey × Direction) :
    ReadsLike [entry.1.write .postgres ++ " " ++ entry.2.code] entry.1.names := by
  have hclose : closes (" " ++ entry.2.code) = true := by
    cases entry.2 <;> decide
  rw [String.append_assoc]
  exact entry.1.readsLike.before hclose

theorem readsLike_limit (limit : Int) : ReadsLike ["LIMIT " ++ toString limit] [] := by
  have hkeyword : opens "LIMIT " = true := by decide
  refine ReadsLike.after (.fixed ?_) hkeyword
  cases limit with
  | ofNat n => exact colon_not_mem_repr n
  | negSucc n =>
    change ':' ∉ ("-" ++ (n + 1).repr).toList
    simpa using colon_not_mem_repr (n + 1)

/-- A statement is read like the names in it and the places of its values. -/
theorem readsLike_write {statement : SelectStatement} (h : statement.dialect = .postgres) :
    ReadsLike [statement.write]
      (statement.names ++ Dialect.postgres.places 0 statement.parameters) := by
  have hbreak : separates "\n" = true := by decide
  have hgroup : opens ("GROUP BY" ++ " ") = true := by decide
  have horder : opens ("ORDER BY" ++ " ") = true := by decide
  -- The lines one after the other, and then the places of values moved to the end.
  have hstart := (readsLike_terms statement.distinct statement.terms).append
    (readsLike_root (statement.root.runtimeRef.getD "None") statement.rootAlias)
  have hjoins := ReadsLike.items statement.joins Join.readsLike
  have hgroupBy := readsLike_clause hgroup statement.groupBy SortKey.readsLike
  have horderBy := readsLike_clause horder statement.orderBy readsLike_orderBy
  have hlines := ((((hstart.append hjoins).append (readsLike_condition statement.filters)).append
    hgroupBy).append horderBy).append (readsLike_limit statement.limit)
  rw [write, lines, condition, parameters_postgres h, h]
  refine (ReadsLike.intercalate hbreak _).trans (hlines.congr fun part => ?_)
  simp only [names, List.mem_append, List.not_mem_nil, false_or, or_assoc, or_comm, or_left_comm]

end SelectStatement

/-! ### Names of a plan -/

theorem Table.readsLike_ref (table : Table) :
    ReadsLike [table.runtimeRef.getD "None"] table.runtimeRef.toList := by
  cases table.runtimeRef with
  | none => exact .fixed (by decide)
  | some ref => exact .refl [ref]

theorem parameters_tableAlias (place : Nat) : Sql.parameters (tableAlias place) = [] := by
  refine Sql.parameters_eq_nil fun hmem => ?_
  have hdigits : ':' ∈ place.repr.toList := by simpa [tableAlias] using hmem
  exact colon_not_mem_repr place hdigits

theorem IsOutputName.parameters_eq_nil {name : String} (h : IsOutputName name) :
    Sql.parameters name = [] := by
  refine Sql.parameters_eq_nil fun hmem => ?_
  exact absurd (h.chars ':' hmem) (by decide)

namespace JoinPlan.IsTree

variable {rootId : String} {joins : JoinPlan}

theorem parameters_alias (h : joins.IsTree rootId) {id aliasName : String}
    (halias : joins.aliasOf id = .ok aliasName) : Sql.parameters aliasName = [] := by
  obtain ⟨place, hplace⟩ := h.alias_eq (JoinPlan.mem_aliases_of_aliasOf halias)
  exact (congrArg Sql.parameters hplace).trans (parameters_tableAlias _)

/-- A join is written with aliases and with the columns of its relationship. -/
theorem join_names (h : joins.IsTree rootId) {join : Join} (hjoin : join ∈ joins.joins) :
    Sql.parameters join.aliasName = [] ∧ Sql.parameters join.knownAlias = [] ∧
      ∀ column, column = join.knownColumn ∨ column = join.column ↔
        column = join.relationship.fromColumn ∨ column = join.relationship.toColumn := by
  obtain ⟨place, hplace⟩ := List.getElem?_of_mem hjoin
  obtain ⟨hattaches, -⟩ := h.attaches_at place join hplace
  obtain ⟨knownId, hknown, hends⟩ := hattaches.equates
  obtain ⟨known, hknownAlias⟩ := h.alias_eq (List.mem_of_mem_take hknown)
  refine ⟨?_, ?_, fun column => ?_⟩
  · rw [hattaches.aliasName_eq, parameters_tableAlias]
  · exact (congrArg Sql.parameters hknownAlias).trans (parameters_tableAlias _)
  · rcases hends with ⟨-, hfrom, -, hto⟩ | ⟨-, hto, -, hfrom⟩
    · rw [hfrom, hto]
    · rw [hfrom, hto, or_comm]

end JoinPlan.IsTree

section Labels

variable {catalog : Catalog} {joins : JoinPlan} {rootId : String}

/-- What the plan names itself has no parameters. -/
theorem PlanContext.selectFrom_labels (hjoins : joins.IsTree rootId) {place : Nat}
    {taken : List String} {items : List SelectItem} {terms : List SelectTerm}
    (h : PlanContext.selectFrom ⟨catalog, joins⟩ place taken items = .ok terms) :
    ∀ term ∈ terms, Sql.parameters term.label = [] := by
  induction items generalizing place taken terms with
  | nil =>
    obtain rfl := Except.ok.inj h
    simp
  | cons item rest ih =>
    unfold selectFrom at h
    simp only [bind_eq_ok, lift_eq_ok] at h
    obtain ⟨table, -, aliasName, halias, h⟩ := h
    split at h <;> obtain ⟨others, hothers, heq⟩ := bind_eq_ok.1 h <;>
      obtain rfl := pure_eq_ok.1 heq
    · exact List.forall_mem_cons.2 ⟨hjoins.parameters_alias halias, ih hothers⟩
    · refine List.forall_mem_cons.2 ⟨?_, ih hothers⟩
      have hname := (isOutputName_freeName taken (wantedName table item place)).parameters_eq_nil
      split <;> exact hname

theorem PlanContext.select_labels (hjoins : joins.IsTree rootId) {rootAlias : String}
    (hroot : joins.aliasOf rootId = .ok rootAlias) {items : List SelectItem}
    {terms : List SelectTerm}
    (h : PlanContext.select ⟨catalog, joins⟩ rootAlias items = .ok terms) :
    ∀ term ∈ terms, Sql.parameters term.label = [] := by
  unfold select at h
  split at h
  · obtain rfl := Except.ok.inj h
    exact List.forall_mem_singleton.2 (hjoins.parameters_alias hroot)
  · exact selectFrom_labels hjoins h

end Labels

theorem SelectStatement.mem_names {statement : SelectStatement} {name : String} :
    name ∈ statement.names ↔ name ∈ statement.terms.map SelectTerm.label ++
      ([statement.root.runtimeRef.getD "None", statement.rootAlias] ++
        (statement.joins.flatMap Join.names ++
          statement.columns.flatMap ColumnTerm.names)) := by
  have hcolumns {α : Type} (items : List α) (column? : α → Option ColumnTerm) :
      items.flatMap (fun item => columnNames (column? item)) =
        (items.filterMap column?).flatMap ColumnTerm.names := by
    induction items with
    | nil => rfl
    | cons item rest ih =>
      rw [List.flatMap_cons, List.filterMap_cons, ih]
      cases column? item <;> rfl
  have hterms : name ∈ statement.terms.flatMap SelectTerm.names ↔
      name ∈ (statement.terms.filterMap SelectTerm.column?).flatMap ColumnTerm.names ∨
        name ∈ statement.terms.map SelectTerm.label := by
    rw [← hcolumns]
    simp only [SelectTerm.names, List.mem_flatMap, List.mem_append, List.mem_singleton,
      List.mem_map, and_or_left, exists_or, eq_comm]
  have hfilters : statement.filters.flatMap FilterTerm.names = _ := hcolumns _ _
  have hgroupBy : statement.groupBy.flatMap SortKey.names = _ := hcolumns _ _
  have horderBy := hcolumns statement.orderBy fun entry => entry.1.column?
  simp only [names, columns, hfilters, hgroupBy, SortKey.names, horderBy, List.flatMap_append,
    List.mem_append, hterms, or_assoc, or_comm, or_left_comm]

namespace PlanStages

/-- The names of the catalog and of the request that a plan is made with: references to the joined
tables, the columns of the relationships, and the columns of the items that are compiled. -/
def spelled (stages : PlanStages) (catalog : Catalog) (spec : QuerySpec) : List String :=
  (stages.root :: stages.joins.joins.map Join.table).filterMap Table.runtimeRef ++
    stages.relationships.flatMap (fun r => [r.fromColumn, r.toColumn]) ++
    (stages.refs catalog spec).map ColumnRef.column

variable {stages : PlanStages} {catalog : Catalog} {spec : QuerySpec}

/-- The relationships that connect the tables of a request are those of the joins. -/
theorem Compiles.joined_perm (h : stages.Compiles catalog spec) :
    (stages.joins.joins.map Join.relationship).Perm stages.relationships := by
  have hstart : (JoinPlan.start stages.root.id).IsTree stages.root.id := .start
  have hgrown := JoinPlan.grow_of_ends hstart (by simp [JoinPlan.start]) h.ends_mem
  rcases hgrown with ⟨joins, hjoins, -, -, hperm⟩ | ⟨⟨fault, hfault, -⟩, -⟩
  · obtain rfl := Except.ok.inj (hjoins.symm.trans h.joined)
    exact hperm
  · cases hfault.symm.trans h.joined

/-- Joins are read like the references to their tables and the columns of the relationships. -/
theorem Compiles.readsLike_joins (h : stages.Compiles catalog spec) :
    ReadsLike (stages.joins.joins.flatMap Join.names)
      (stages.joins.joins.flatMap (·.table.runtimeRef.toList) ++
        stages.relationships.flatMap fun r => [r.fromColumn, r.toColumn]) := by
  obtain ⟨htree, -⟩ := h.isTree h.joined
  have hjoin : ∀ join ∈ stages.joins.joins, ReadsLike join.names
      (join.table.runtimeRef.toList ++
        [join.relationship.fromColumn, join.relationship.toColumn]) := by
    intro join hjoin
    obtain ⟨halias, hknown, hcolumns⟩ := htree.join_names hjoin
    have haliases : ReadsLike [join.aliasName, join.knownAlias] [] := .silent (by simp [*])
    have hnames := join.table.readsLike_ref.append <| haliases.append <|
      (ReadsLike.refl [join.knownColumn]).append <|
      (ReadsLike.silent (List.forall_mem_singleton.2 halias)).append (.refl [join.column])
    refine hnames.congr fun part => ?_
    simpa using or_congr_right (hcolumns part)
  refine (ReadsLike.flatMap hjoin).congr fun part => ?_
  simp only [List.mem_flatMap, List.mem_append, and_or_left, exists_or, ← h.joined_perm.mem_iff,
    List.mem_map, exists_exists_and_eq_and]

/-- The columns of a statement are read like the names that the request spells. -/
theorem Compiles.readsLike_columns (h : stages.Compiles catalog spec) (limits : RowLimits) :
    ReadsLike ((stages.statement limits spec).columns.flatMap ColumnTerm.names)
      ((stages.refs catalog spec).map ColumnRef.column) := by
  obtain ⟨htree, -⟩ := h.isTree h.joined
  have hnames := h.names limits
  have hspelled : (stages.refs catalog spec).map ColumnRef.column =
      (stages.statement limits spec).columns.map ColumnTerm.column := by
    rw [← List.forall₂_eq_eq_eq, List.forall₂_map_left_iff, List.forall₂_map_right_iff]
    exact hnames.imp fun ref term hnamed => hnamed.column.symm
  rw [hspelled, List.map_eq_flatMap]
  refine .flatMap fun term hterm => ?_
  obtain ⟨ref, -, ⟨table, -, halias, -⟩, -⟩ := exists_item_of_forall₂ hnames term hterm
  have hsilent : ReadsLike [term.aliasName] [] := .silent <| List.forall_mem_singleton.2 <|
    htree.parameters_alias (JoinPlan.aliasOf_eq_ok.2 halias)
  exact hsilent.append (.refl [term.column])

/-- The names in the statement of a plan are read like those that the catalog and the request
spell. -/
theorem Compiles.readsLike_names (h : stages.Compiles catalog spec) (limits : RowLimits) :
    ReadsLike (stages.statement limits spec).names (stages.spelled catalog spec) := by
  obtain ⟨htree, -⟩ := h.isTree h.joined
  have hlabels := PlanContext.select_labels htree h.rootAlias h.terms
  have hroot := htree.parameters_alias h.rootAlias
  have hmade : ReadsLike (stages.terms.map SelectTerm.label) [] := .silent <| by
    simpa using hlabels
  have hstart : ReadsLike [stages.root.runtimeRef.getD "None", stages.rootAlias]
      stages.root.runtimeRef.toList := by
    simpa using stages.root.readsLike_ref.append
      (ReadsLike.silent (List.forall_mem_singleton.2 hroot))
  have hall := hmade.append (hstart.append (h.readsLike_joins.append (h.readsLike_columns limits)))
  refine ((ReadsLike.refl _).congr fun name => SelectStatement.mem_names).trans
    (hall.congr fun name => ?_)
  simp [spelled, List.mem_filterMap, List.mem_flatMap, or_assoc]

end PlanStages

end SemanticLayer
