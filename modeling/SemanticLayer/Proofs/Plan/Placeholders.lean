import SemanticLayer.Proofs.Plan.Joins
import SemanticLayer.Proofs.Plan.Values

/-!
The condition of a statement beside its parameters. Each filter on a table with an alias makes one
clause around the places of its values, and each clause is combined with all before it. Where values
are parameters, the places are numbered from left to right over all clauses, and the parameter of a
number is the value that its place stands for.
-/

namespace SemanticLayer

/-! ### Places of values -/

namespace Dialect

/-- What is written for a value where `taken` parameters have been used before. -/
def place (dialect : Dialect) (taken : Nat) (value : Json) : String :=
  match dialect with
  | .postgres => ":" ++ parameterName (taken + 1)
  | .bigQuery => literal value

def places (dialect : Dialect) (taken : Nat) : List Json → List String
  | [] => []
  | v :: rest => dialect.place taken v :: dialect.places (taken + 1) rest

/-- The places of several lists of values, one list after the other. -/
def splitPlaces (dialect : Dialect) (taken : Nat) : List (List Json) → List (List String)
  | [] => []
  | values :: rest =>
    dialect.places taken values :: dialect.splitPlaces (taken + values.length) rest

variable {dialect : Dialect} {taken : Nat}

theorem places_postgres (values : List Json) : places .postgres taken values =
    (List.range' (taken + 1) values.length).map fun number => ":" ++ parameterName number := by
  induction values generalizing taken with
  | nil => rfl
  | cons v rest ih => rw [places, ih, List.length_cons, List.range'_succ, List.map_cons, place]

theorem places_bigQuery (values : List Json) :
    places .bigQuery taken values = values.map literal := by
  induction values generalizing taken with
  | nil => rfl
  | cons v rest ih => rw [places, ih, List.map_cons, place]

theorem length_places (values : List Json) :
    (dialect.places taken values).length = values.length := by
  induction values generalizing taken with
  | nil => rfl
  | cons v rest ih => rw [places, List.length_cons, ih, List.length_cons]

theorem places_append (left right : List Json) : dialect.places taken (left ++ right) =
    dialect.places taken left ++ dialect.places (taken + left.length) right := by
  induction left generalizing taken with
  | nil => rfl
  | cons v rest ih =>
    rw [List.cons_append, places, ih, places, List.cons_append, List.length_cons, Nat.add_assoc,
      Nat.add_comm 1]

theorem flatten_splitPlaces (lists : List (List Json)) :
    (dialect.splitPlaces taken lists).flatten = dialect.places taken lists.flatten := by
  induction lists generalizing taken with
  | nil => rfl
  | cons values rest ih =>
    rw [splitPlaces, List.flatten_cons, ih, List.flatten_cons, places_append]

theorem lengths_splitPlaces (lists : List (List Json)) :
    (dialect.splitPlaces taken lists).map List.length = lists.map List.length := by
  induction lists generalizing taken with
  | nil => rfl
  | cons values rest ih => rw [splitPlaces, List.map_cons, length_places, ih, List.map_cons]

end Dialect

/-! ### Written pieces -/

section Pieces

variable {dialect : Dialect} {taken : Nat}

theorem writePieces_nil : writePieces dialect taken [] = "" := rfl

theorem writePieces_text (s : String) (rest : List Piece) :
    writePieces dialect taken (.text s :: rest) = s ++ writePieces dialect taken rest := rfl

theorem writePieces_value (v : Json) (rest : List Piece) :
    writePieces dialect taken (.value v :: rest) =
      dialect.place taken v ++ writePieces dialect (taken + 1) rest := by
  cases dialect with
  | postgres => rfl
  | bigQuery =>
    rw [writePieces, Dialect.place, writePieces_bigQuery, writePieces_bigQuery]

theorem writePieces_append (left right : List Piece) :
    writePieces dialect taken (left ++ right) =
      writePieces dialect taken left ++
        writePieces dialect (taken + (pieceValues left).length) right := by
  induction left generalizing taken with
  | nil => simp [writePieces, pieceValues]
  | cons piece rest ih =>
    cases piece with
    | text s => simp [writePieces, pieceValues, ih, String.append_assoc]
    | value v =>
      rw [List.cons_append, writePieces_value, writePieces_value, ih, pieceValues,
        List.length_cons, String.append_assoc, Nat.add_assoc, Nat.add_comm 1]

theorem writePieces_commaPieces (values : List Json) :
    writePieces dialect taken (commaPieces values) =
      ", ".intercalate (dialect.places taken values) := by
  induction values using commaPieces.induct generalizing taken with
  | case1 => rfl
  | case2 v => rw [commaPieces, writePieces_value]; simp [writePieces, Dialect.places]
  | case3 v rest hrest ih =>
    obtain ⟨w, more, rfl⟩ := List.exists_cons_of_ne_nil hrest
    have hlist : ", ".intercalate (dialect.places taken (v :: w :: more)) =
        dialect.place taken v ++ ", " ++
          ", ".intercalate (dialect.places (taken + 1) (w :: more)) :=
      String.intercalate_cons_cons
    rw [commaPieces, writePieces_value, writePieces, ih, hlist, String.append_assoc]
    exact hrest

end Pieces

/-! ### Clauses -/

namespace FilterItem

/-- The clause of a filter on a column, around what is written for its values. -/
def clause (dialect : Dialect) (column : String) (item : FilterItem) (places : List String) :
    String :=
  let listed := ", ".intercalate places
  let like :=
    match dialect with
    | .postgres => "ILIKE "
    | .bigQuery => "LIKE "
  let asText :=
    match dialect with
    | .postgres => "CAST(" ++ column ++ " AS TEXT) "
    | .bigQuery => "CAST(" ++ column ++ " AS STRING) "
  match item.operator with
  | .equals => if isNullLike item.value then column ++ " IS NULL" else column ++ " = " ++ listed
  | .notEquals =>
    if isNullLike item.value then column ++ " IS NOT NULL" else column ++ " != " ++ listed
  | .contains | .startsWith | .endsWith => asText ++ like ++ listed
  | .notContains => asText ++ "NOT " ++ like ++ listed
  | .greaterThan => column ++ " > " ++ listed
  | .greaterOrEqual => column ++ " >= " ++ listed
  | .lessThan => column ++ " < " ++ listed
  | .lessOrEqual => column ++ " <= " ++ listed
  | .between => column ++ " BETWEEN " ++ " AND ".intercalate places
  | .isIn => if places.isEmpty then "1 = 0" else column ++ " IN (" ++ listed ++ ")"
  | .notIn => if places.isEmpty then "1 = 1" else column ++ " NOT IN (" ++ listed ++ ")"
  | .isNull => column ++ " IS NULL"
  | .isNotNull => column ++ " IS NOT NULL"
  | .unsupported _ => ""

variable {dialect : Dialect} {taken : Nat} {item : FilterItem}

theorem write_equality (negated : Bool) (value : Json) (column : String) :
    writePieces dialect taken ((equality negated value).pieces dialect column) =
      if isNullLike value then column ++ (if negated then " IS NOT NULL" else " IS NULL")
      else column ++ (if negated then " != " else " = ") ++ dialect.place taken value := by
  cases hnull : isNullLike value <;> cases negated <;>
    simp [equality, hnull, Condition.pieces, writePieces_text, writePieces_value, writePieces_nil,
      Comparison.symbol, String.append_assoc]

theorem write_compare (comparison : Comparison) (value : Json) (column : String) :
    writePieces dialect taken ((Condition.compare comparison value).pieces dialect column) =
      column ++ " " ++ comparison.symbol ++ " " ++ dialect.place taken value := by
  simp [Condition.pieces, writePieces_text, writePieces_value, writePieces_nil]

theorem write_among (negated : Bool) (values : List Json) (column : String) :
    writePieces dialect taken ((Condition.among negated values).pieces dialect column) =
      if values.isEmpty then (if negated then "1 = 1" else "1 = 0")
      else
        column ++ (if negated then " NOT IN (" else " IN (") ++
          ", ".intercalate (dialect.places taken values) ++ ")" := by
  cases values with
  | nil => cases negated <;> rfl
  | cons v rest =>
    cases negated <;>
      simp [Condition.pieces, writePieces_text, writePieces_append, writePieces_commaPieces,
        writePieces_nil, String.append_assoc]

/-- A condition is written as the clause of its filter, around what is written for the values that
the filter puts into the statement. -/
theorem write_condition {condition : Condition} (h : item.condition = .ok condition)
    (column : String) :
    writePieces dialect taken (condition.pieces dialect column) =
      item.clause dialect column (dialect.places taken item.placed) := by
  unfold FilterItem.condition at h
  unfold clause placed
  cases hoperator : item.operator with
  | equals | notEquals =>
    rw [hoperator] at h
    obtain rfl := Except.ok.inj h
    rw [write_equality]
    cases hnull : isNullLike item.value <;> simp [Dialect.places]
  | greaterThan | greaterOrEqual | lessThan | lessOrEqual =>
    rw [hoperator] at h
    obtain rfl := Except.ok.inj h
    rw [write_compare]
    simp [Dialect.places, Comparison.symbol, String.append_assoc]
  | contains | notContains | startsWith | endsWith =>
    rw [hoperator] at h
    obtain rfl := Except.ok.inj h
    cases dialect <;>
      simp [Condition.pieces, writePieces_text, writePieces_value, writePieces_nil, Dialect.places,
        String.append_assoc]
  | between =>
    rw [hoperator] at h
    dsimp only at h
    split at h
    · cases h
    · obtain rfl := Except.ok.inj h
      simp [Condition.pieces, writePieces_text, writePieces_value, writePieces_nil, Dialect.places,
        String.append_assoc]
  | isIn | notIn =>
    rw [hoperator] at h
    obtain rfl := Except.ok.inj h
    rw [write_among]
    cases listed item.value <;> simp [Dialect.places]
  | isNull | isNotNull =>
    rw [hoperator] at h
    obtain rfl := Except.ok.inj h
    simp [Condition.pieces, writePieces_text, writePieces_nil]
  | unsupported =>
    rw [hoperator] at h
    cases h

/-- The clause of a filter under the alias of its table, with the filter's connective. -/
def clauseUnder (dialect : Dialect) (entry : String × FilterItem) (places : List String) :
    Connective × String :=
  (entry.2.connective,
    entry.2.clause dialect (ColumnTerm.write dialect ⟨entry.1, entry.2.column, entry.2.part⟩)
      places)

end FilterItem

/-! ### Combined clauses -/

/-- Clauses combined from left to right into one expression, each in parentheses: the connective of
a clause stands between it and all that is before it, which has parentheses of its own. -/
inductive LeftNested : List (Connective × String) → String → Prop
  | one (connective : Connective) (clause : String) :
      LeftNested [(connective, clause)] ("(" ++ clause ++ ")")
  | snoc {clauses : List (Connective × String)} {before : String} (connective : Connective)
      (clause : String) : LeftNested clauses before →
        LeftNested (clauses ++ [(connective, clause)])
          ("(" ++ before ++ " " ++ connective.code ++ " (" ++ clause ++ "))")

section Combine

variable {dialect : Dialect} {kept : List (String × FilterItem)} {terms : List FilterTerm}
  {entry : String × FilterItem} {term : FilterTerm}

theorem FilterItem.write_term (h : FilterItem.termIn dialect entry = .ok term) (taken : Nat) :
    (term.connective, writePieces dialect taken (term.pieces dialect)) =
      FilterItem.clauseUnder dialect entry (dialect.places taken entry.2.placed) := by
  obtain ⟨condition, hcondition, rfl⟩ := map_eq_ok.1 h
  exact congrArg (Prod.mk _) (write_condition (FilterItem.conditionIn_eq_ok.1 hcondition).1 _)

theorem FilterItem.pieceValues_term (h : FilterItem.termIn dialect entry = .ok term) :
    pieceValues (term.pieces dialect) = entry.2.placed :=
  (Condition.pieceValues_pieces _ _ _).trans (values_of_term h)

theorem leftNested_combineFrom
    (h : List.Forall₂ (fun entry term => FilterItem.termIn dialect entry = .ok term) kept terms)
    {clauses : List (Connective × String)} {expression : List Piece}
    (hexpression : LeftNested clauses (writePieces dialect 0 expression)) :
    LeftNested
      (clauses ++ List.zipWith (FilterItem.clauseUnder dialect) kept
        (dialect.splitPlaces (pieceValues expression).length (kept.map (·.2.placed))))
      (writePieces dialect 0 (combineFrom dialect expression terms)) := by
  induction h generalizing clauses expression with
  | nil => simpa [combineFrom] using hexpression
  | @cons entry term rest _ hterm _ ih =>
    have hvalues := FilterItem.pieceValues_term hterm
    -- The places of the clause come after those of the expression so far.
    have hnext : LeftNested
        (clauses ++ [FilterItem.clauseUnder dialect entry
          (dialect.places (pieceValues expression).length entry.2.placed)])
        (writePieces dialect 0 ([.text "("] ++ expression ++
          [.text (" " ++ term.connective.code ++ " (")] ++ term.pieces dialect ++
          [.text "))"])) := by
      rw [← FilterItem.write_term hterm]
      simpa [writePieces_append, writePieces_text, writePieces_nil, pieceValues,
        pieceValues_append, String.append_assoc] using hexpression.snoc term.connective
          (writePieces dialect (pieceValues expression).length (term.pieces dialect))
    have hrest := ih hnext
    simp only [pieceValues, pieceValues_append, hvalues, List.length_append, List.length_nil,
      Nat.add_zero, List.append_assoc, List.singleton_append] at hrest
    simpa [combineFrom, Dialect.splitPlaces] using hrest

theorem leftNested_combine
    (h : List.Forall₂ (fun entry term => FilterItem.termIn dialect entry = .ok term) kept terms)
    {pieces : List Piece} (hpieces : combine dialect terms = some pieces) :
    LeftNested
      (List.zipWith (FilterItem.clauseUnder dialect) kept
        (dialect.splitPlaces 0 (kept.map (·.2.placed))))
      (writePieces dialect 0 pieces) := by
  cases h with
  | nil => cases hpieces
  | @cons entry term rest others hterm hrest =>
    obtain rfl := Option.some.inj hpieces
    have hvalues := FilterItem.pieceValues_term hterm
    have hfirst : LeftNested
        [FilterItem.clauseUnder dialect entry (dialect.places 0 entry.2.placed)]
        (writePieces dialect 0 ([.text "("] ++ term.pieces dialect ++ [.text ")"])) := by
      rw [← FilterItem.write_term hterm]
      simpa [writePieces_append, writePieces_text, writePieces_nil, String.append_assoc] using
        LeftNested.one term.connective (writePieces dialect 0 (term.pieces dialect))
    have hall := leftNested_combineFrom hrest hfirst
    simp only [pieceValues, pieceValues_append, hvalues, List.length_append, List.length_nil,
      Nat.add_zero, List.singleton_append] at hall
    simpa [Dialect.splitPlaces] using hall

end Combine

/-! ### Parameters -/

theorem parameterName_injective : Function.Injective parameterName := by
  intro left right h
  exact repr_injective (by simpa [parameterName] using h)

/-- What filters on tables are compiled to, an expression and parameters, where `kept` are the
filters on tables with an alias, each with it. Their clauses, in this order, make the expression;
the places of a clause are those of the values that its filter puts into it. Places of parameters
are numbered in the order in which they are written, and the parameters have these numbers and are
the values; other values are written out, and there are no parameters. -/
structure InStep (dialect : Dialect) (kept : List (String × FilterItem))
    (expression : Option String) (parameters : List (String × Json)) : Prop where
  absent : expression = none ↔ kept = []
  clauses : ∃ places : List (List String),
    places.map List.length = kept.map (·.2.placed.length) ∧
    (∀ text, expression = some text →
      LeftNested (List.zipWith (FilterItem.clauseUnder dialect) kept places) text) ∧
    match dialect with
    | .postgres => places.flatten = parameters.map fun parameter => ":" ++ parameter.1
    | .bigQuery => places.flatten = (kept.flatMap (·.2.placed)).map literal
  parameters : match dialect with
    | .postgres =>
      parameters.map Prod.fst =
          (List.range' 1 (kept.flatMap (·.2.placed)).length).map parameterName ∧
        (parameters.map Prod.fst).Nodup ∧ parameters.map Prod.snd = kept.flatMap (·.2.placed)
    | .bigQuery => parameters = []

/-- Where filters are compiled, their clauses and the parameters are complete and in step. -/
theorem filterTerms_inStep {dialect : Dialect} {aliases : Aliases}
    {items : List (String × FilterItem)} {terms : List FilterTerm}
    (h : filterTerms dialect aliases items = .ok terms) :
    InStep dialect (items.filterMap fun entry => (aliases.find? entry.1).map (·, entry.2))
      ((combine dialect terms).map (writePieces dialect 0))
      (QueryPlan.parameterFields 1
        (parametersOf dialect ((combine dialect terms).getD []))) := by
  rw [PlanContext.filterTerms_eq] at h
  generalize (items.filterMap fun entry => (aliases.find? entry.1).map (·, entry.2)) = kept at h ⊢
  have hterms := forall₂_of_mapM h
  have hvalues : pieceValues ((combine dialect terms).getD []) = kept.flatMap (·.2.placed) :=
    pieceValues_combine.trans (FilterItem.values_of_terms hterms)
  have hlengths : (dialect.splitPlaces 0 (kept.map (·.2.placed))).map List.length =
      kept.map (·.2.placed.length) := by
    rw [Dialect.lengths_splitPlaces, List.map_map]
    rfl
  have hplaces : (dialect.splitPlaces 0 (kept.map (·.2.placed))).flatten =
      dialect.places 0 (kept.flatMap (·.2.placed)) := by
    rw [Dialect.flatten_splitPlaces, List.flatMap_def]
  refine ⟨?_, ⟨_, hlengths, ?_, ?_⟩, ?_⟩
  · cases hterms with
    | nil => simp [combine]
    | cons => simp [combine]
  · intro text htext
    obtain ⟨pieces, hpieces, rfl⟩ := Option.map_eq_some_iff.1 htext
    exact leftNested_combine hterms hpieces
  · rw [hplaces]
    cases dialect with
    | postgres =>
      have hnames := congrArg (List.map (":" ++ ·))
        (QueryPlan.names_parameterFields 1 (kept.flatMap (·.2.placed)))
      rw [List.map_map, List.map_map] at hnames
      dsimp only [parametersOf]
      rw [hvalues, Dialect.places_postgres]
      exact hnames.symm
    | bigQuery => exact Dialect.places_bigQuery _
  · cases dialect with
    | postgres =>
      dsimp only [parametersOf]
      rw [hvalues, QueryPlan.names_parameterFields, QueryPlan.values_parameterFields]
      exact ⟨rfl, (List.nodup_range' 1).map parameterName_injective, rfl⟩
    | bigQuery => rfl

/-- A filter on a table without an alias stands between filters with two values, with a list, with
no value and with a pattern. -/
theorem filterTerms_inStep_orders :
    let amount : FilterItem := ⟨⟨"orders", "amount", none⟩, .between, .int 10, .int 20, .or⟩
    let state : FilterItem :=
      ⟨⟨"orders", "state", none⟩, .isIn, .list [.text "new", .text "paid"], .null, .and⟩
    let shelf : FilterItem := ⟨⟨"archive", "shelf", none⟩, .equals, .int 7, .null, .and⟩
    let closed : FilterItem := ⟨⟨"orders", "closed", none⟩, .equals, .null, .null, .or⟩
    let name : FilterItem := ⟨⟨"people", "name", none⟩, .contains, .text "Ann", .null, .and⟩
    let aliases : Aliases := [("orders", "t1"), ("people", "t2")]
    (filterTerms .postgres aliases
        [("orders", amount), ("orders", state), ("archive", shelf), ("orders", closed),
          ("people", name)]).toOption.isSome = true ∧
      InStep .postgres [("t1", amount), ("t1", state), ("t1", closed), ("t2", name)]
        (some ("((((t1.\"amount\" BETWEEN :p1 AND :p2) AND (t1.\"state\" IN (:p3, :p4))) OR " ++
          "(t1.\"closed\" IS NULL)) AND (CAST(t2.\"name\" AS TEXT) ILIKE :p5))"))
        [("p1", .int 10), ("p2", .int 20), ("p3", .text "new"), ("p4", .text "paid"),
          ("p5", .text "%Ann%")] := by
  intro amount state shelf closed name aliases
  refine ⟨by decide +kernel, ?_⟩
  let terms : List FilterTerm :=
    [⟨.or, ⟨"t1", "amount", none⟩, .between (.int 10) (.int 20)⟩,
      ⟨.and, ⟨"t1", "state", none⟩, .among false [.text "new", .text "paid"]⟩,
      ⟨.or, ⟨"t1", "closed", none⟩, .isNull⟩,
      ⟨.and, ⟨"t2", "name", none⟩, .like false "%Ann%"⟩]
  have h : filterTerms .postgres aliases
      [("orders", amount), ("orders", state), ("archive", shelf), ("orders", closed),
        ("people", name)] = .ok terms := rfl
  have hexpression : (combine .postgres terms).map (writePieces .postgres 0) =
      some ("((((t1.\"amount\" BETWEEN :p1 AND :p2) AND (t1.\"state\" IN (:p3, :p4))) OR " ++
        "(t1.\"closed\" IS NULL)) AND (CAST(t2.\"name\" AS TEXT) ILIKE :p5))") := by
    decide +kernel
  have hin := filterTerms_inStep h
  rw [hexpression] at hin
  exact hin

end SemanticLayer
