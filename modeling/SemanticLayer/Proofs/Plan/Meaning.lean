import Mathlib.Data.List.Infix
import SemanticLayer.Proofs.Plan.Filters

/-!
What a written clause says about a row. A column may have no value in the row; then a comparison is
neither true nor false, and so is every comparison with a value that is missing. A row passes where
its clause is true.
-/

namespace SemanticLayer

/-! ### Truth -/

inductive Truth where
  | holds
  | fails
  | unknown
  deriving Repr, DecidableEq

namespace Truth

def ofBool (b : Bool) : Truth :=
  if b then .holds else .fails

def not : Truth → Truth
  | .holds => .fails
  | .fails => .holds
  | .unknown => .unknown

def or : Truth → Truth → Truth
  | .holds, _ | _, .holds => .holds
  | .fails, .fails => .fails
  | _, _ => .unknown

/-- Whether one of several conditions holds. -/
def any (truths : List Truth) : Truth :=
  truths.foldr or .fails

theorem ofBool_eq_holds {b : Bool} : ofBool b = .holds ↔ b = true := by
  cases b <;> simp [ofBool]

theorem not_eq_holds {t : Truth} : t.not = .holds ↔ t = .fails := by
  cases t <;> simp [not]

theorem or_eq_holds {s t : Truth} : s.or t = .holds ↔ s = .holds ∨ t = .holds := by
  cases s <;> cases t <;> simp [or]

theorem or_eq_fails {s t : Truth} : s.or t = .fails ↔ s = .fails ∧ t = .fails := by
  cases s <;> cases t <;> simp [or]

theorem any_eq_holds {truths : List Truth} : any truths = .holds ↔ .holds ∈ truths := by
  induction truths with
  | nil => simp [any]
  | cons t rest ih =>
    have hany : any (t :: rest) = t.or (any rest) := rfl
    rw [hany, or_eq_holds, ih, List.mem_cons, eq_comm]

theorem any_eq_fails {truths : List Truth} : any truths = .fails ↔ ∀ t ∈ truths, t = .fails := by
  induction truths with
  | nil => simp [any]
  | cons t rest ih =>
    have hany : any (t :: rest) = t.or (any rest) := rfl
    rw [hany, or_eq_fails, ih, List.forall_mem_cons]

end Truth

/-! ### Values of columns -/

/-- A value of a column: its text, and whether it is the same as a value of a filter. -/
structure StoredValue where
  text : String
  same : Json → Truth
  same_null : same .null = .unknown

/-- Whether two values are of one kind and the same. Numbers that are undefined are. -/
def sameValue : Json → Json → Bool
  | .bool a, .bool b => a == b
  | .int m, .int n => m == n
  | .float x, .float y => if x.isNaN then y.isNaN else x == y
  | .text s, .text t => s == t
  | _, _ => false

/-- The value of a column that holds a value of a filter. -/
def StoredValue.of (v : Json) : StoredValue where
  text := v.plain
  same w := if w.isNull then .unknown else .ofBool (sameValue v w)
  same_null := rfl

/-- Whether a column has a value, where it has one. -/
def equalTo (x : Option StoredValue) (v : Json) : Truth :=
  x.elim .unknown (·.same v)

/-! ### Patterns -/

/-- A character as patterns see it: letter case counts in one language only. -/
def Dialect.fold : Dialect → Char → List Char
  | .postgres, c => Text.lowerChar c
  | .bigQuery, c => [c]

/-- Whether a text fits a pattern. A percent sign stands for any run of characters, an underscore
for any character, and a backslash takes the meaning from the character after it; nothing fits a
pattern that ends before that character. -/
def Dialect.fits (dialect : Dialect) : List Char → List Char → Bool
  | [], s => s.isEmpty
  | '%' :: pattern, s => s.tails.any (dialect.fits pattern)
  | '_' :: _, [] => false
  | '_' :: pattern, _ :: s => dialect.fits pattern s
  | ['\\'], _ => false
  | '\\' :: _ :: _, [] => false
  | '\\' :: c :: pattern, d :: s => dialect.fold c == dialect.fold d && dialect.fits pattern s
  | _ :: _, [] => false
  | c :: pattern, d :: s => dialect.fold c == dialect.fold d && dialect.fits pattern s

/-- Whether the text of a column fits a pattern. -/
def Dialect.like (dialect : Dialect) (x : Option StoredValue) (pattern : String) : Truth :=
  x.elim .unknown fun value => .ofBool (dialect.fits pattern.toList value.text.toList)

/-! ### Clauses -/

/-- The values of a list that is written with commas, up to the parenthesis behind it. -/
def readValues : List Piece → Option (List Json)
  | [.value v, .text ")"] => some [v]
  | .value v :: .text ", " :: rest => (readValues rest).map (v :: ·)
  | _ => none

/-- The truth of a clause on a column, read from its pieces, in a row where the column is `x`. -/
def clauseTruth? (dialect : Dialect) (column : String) (x : Option StoredValue) :
    List Piece → Option Truth
  | [.text s] =>
    if s = column ++ " IS NULL" then some (.ofBool x.isNone)
    else if s = column ++ " IS NOT NULL" then some (.ofBool x.isSome)
    else if s = "1 = 1" then some .holds
    else if s = "1 = 0" then some .fails
    else none
  | [.text s, .value v] =>
    if s = column ++ " = " then some (equalTo x v)
    else if s = column ++ " != " then some (equalTo x v).not
    else
      match dialect, v with
      | .postgres, .text pattern =>
        if s = "CAST(" ++ column ++ " AS TEXT) ILIKE " then some (dialect.like x pattern)
        else if s = "CAST(" ++ column ++ " AS TEXT) NOT ILIKE " then
          some (dialect.like x pattern).not
        else none
      | .bigQuery, .text pattern =>
        if s = "CAST(" ++ column ++ " AS STRING) LIKE " then some (dialect.like x pattern)
        else if s = "CAST(" ++ column ++ " AS STRING) NOT LIKE " then
          some (dialect.like x pattern).not
        else none
      | _, _ => none
  | .text s :: rest =>
    (readValues rest).bind fun values =>
      if s = column ++ " IN (" then some (.any (values.map (equalTo x)))
      else if s = column ++ " NOT IN (" then some (Truth.any (values.map (equalTo x))).not
      else none
  | _ => none

section Clauses

variable {dialect : Dialect} {column : String} {x : Option StoredValue}

theorem clauseTruth?_isNull :
    clauseTruth? dialect column x (Condition.isNull.pieces dialect column) =
      some (.ofBool x.isNone) := by
  simp [Condition.pieces, clauseTruth?]

theorem clauseTruth?_isNotNull :
    clauseTruth? dialect column x (Condition.isNotNull.pieces dialect column) =
      some (.ofBool x.isSome) := by
  simp [Condition.pieces, clauseTruth?]

theorem clauseTruth?_equal (v : Json) :
    clauseTruth? dialect column x ((Condition.compare .equal v).pieces dialect column) =
      some (equalTo x v) := by
  simp [Condition.pieces, Comparison.symbol, clauseTruth?, String.append_assoc]

theorem clauseTruth?_notEqual (v : Json) :
    clauseTruth? dialect column x ((Condition.compare .notEqual v).pieces dialect column) =
      some (equalTo x v).not := by
  simp [Condition.pieces, Comparison.symbol, clauseTruth?, String.append_assoc]

theorem ne_append_of_length_lt {s after : String} (column : String)
    (h : s.length < after.length) : s ≠ column ++ after := by
  rintro rfl
  rw [String.length_append] at h
  omega

theorem append_ne_append {before after sign : String} (column : String)
    (h : sign.length < before.length + after.length) :
    before ++ (column ++ after) ≠ column ++ sign := by
  intro heq
  have hlengths := congrArg String.length heq
  simp only [String.length_append] at hlengths
  omega

theorem clauseTruth?_like (negated : Bool) (pattern : String) :
    clauseTruth? dialect column x ((Condition.like negated pattern).pieces dialect column) =
      some (if negated then (dialect.like x pattern).not else dialect.like x pattern) := by
  -- The text before a pattern is too long to be that of a comparison.
  cases dialect <;> cases negated <;>
    simp (disch := decide) [Condition.pieces, clauseTruth?, String.append_assoc, append_ne_append]

theorem readValues_commaPieces {values : List Json} (h : values ≠ []) :
    readValues (commaPieces values ++ [.text ")"]) = some values := by
  induction values using commaPieces.induct with
  | case1 => exact absurd rfl h
  | case2 v => rfl
  | case3 v rest hrest ih =>
    have hread := ih hrest
    rw [commaPieces, List.cons_append, List.cons_append, readValues, hread, Option.map_some]
    exact hrest

theorem clauseTruth?_among (negated : Bool) (values : List Json) :
    clauseTruth? dialect column x ((Condition.among negated values).pieces dialect column) =
      some (if negated then (Truth.any (values.map (equalTo x))).not
        else .any (values.map (equalTo x))) := by
  cases values with
  | nil =>
    cases negated <;>
      simp (disch := decide) [Condition.pieces, clauseTruth?, ne_append_of_length_lt, Truth.any,
        Truth.not]
  | cons v rest =>
    have hread := readValues_commaPieces (List.cons_ne_nil v rest)
    cases negated <;> cases rest <;>
      simp_all [Condition.pieces, clauseTruth?, commaPieces, String.append_assoc]

end Clauses

/-! ### Filters -/

namespace FilterItem

/-- A filter with another operator and another value. -/
def asks (item : FilterItem) (operator : FilterOperator) (value : Json) : FilterItem :=
  { item with operator, value }

/-- The truth of the clause that a filter makes. -/
def truth? (dialect : Dialect) (column : String) (item : FilterItem) (x : Option StoredValue) :
    Option Truth :=
  (item.conditionIn dialect).toOption.bind fun condition =>
    clauseTruth? dialect column x (condition.pieces dialect column)

/-- Whether a row passes a filter. -/
def Passes (dialect : Dialect) (column : String) (item : FilterItem) (x : Option StoredValue) :
    Prop :=
  item.truth? dialect column x = some .holds

end FilterItem

/-- Whether values can be put into a statement. -/
def Dialect.Takes (dialect : Dialect) (values : List Json) : Prop :=
  dialect = .postgres ∨ ∀ v ∈ values, isWritable v = true

theorem Dialect.Takes.single {dialect : Dialect} {values : List Json} (h : dialect.Takes values)
    {v : Json} (hv : v ∈ values) : dialect.Takes [v] :=
  h.imp_right fun hall w hw => hall w (List.mem_singleton.1 hw ▸ hv)

namespace FilterItem

variable {dialect : Dialect} {column : String} {item : FilterItem} {x : Option StoredValue}

instance : Decidable (item.Passes dialect column x) :=
  inferInstanceAs (Decidable (item.truth? dialect column x = some .holds))

theorem truth?_of_condition {condition : Condition} (h : item.condition = .ok condition)
    (htakes : dialect.Takes condition.values) :
    item.truth? dialect column x =
      clauseTruth? dialect column x (condition.pieces dialect column) := by
  have hwritable : condition.isWritable dialect = true := by
    rw [Condition.isWritable, Bool.or_eq_true, beq_iff_eq, List.all_eq_true]
    exact htakes
  have hcondition : item.conditionIn dialect = .ok condition :=
    conditionIn_eq_ok.2 ⟨h, hwritable⟩
  rw [truth?, hcondition]
  rfl

end FilterItem

end SemanticLayer
