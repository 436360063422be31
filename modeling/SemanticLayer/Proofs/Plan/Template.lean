import Mathlib.Data.List.Forall2
import SemanticLayer.Plan.Basic

/-!
The fixed text of a statement and the places of values in it. A whole statement is a list of pieces,
of which only those of its condition are places of values. Two statements with the same fixed text
and the same places differ in nothing but their values.
-/

namespace SemanticLayer

/-! ### Places -/

/-- The pieces are the same text, or both are places of values. -/
inductive Piece.SamePlace : Piece → Piece → Prop
  | text (s : String) : SamePlace (.text s) (.text s)
  | value (v w : Json) : SamePlace (.value v) (.value w)

/-- The text before the first value, and the texts after each of the values. -/
def fixedTexts : List Piece → String × List String
  | [] => ("", [])
  | .text s :: rest => (s ++ (fixedTexts rest).1, (fixedTexts rest).2)
  | .value _ :: rest => ("", (fixedTexts rest).1 :: (fixedTexts rest).2)

/-- Fixed texts with values written between them. -/
def interleave (first : String) : List String → List Json → String
  | text :: texts, v :: values => first ++ literal v ++ interleave text texts values
  | _, _ => first

theorem interleave_append (before first : String) (texts : List String) (values : List Json) :
    interleave (before ++ first) texts values = before ++ interleave first texts values := by
  cases texts with
  | nil => rfl
  | cons text texts =>
    cases values with
    | nil => rfl
    | cons v values => simp [interleave, String.append_assoc]

/-- Where values are written out, nothing but their literals stands between the fixed texts. -/
theorem writePieces_bigQuery (taken : Nat) (pieces : List Piece) :
    writePieces .bigQuery taken pieces =
      interleave (fixedTexts pieces).1 (fixedTexts pieces).2 (pieceValues pieces) := by
  induction pieces with
  | nil => rfl
  | cons piece rest ih =>
    cases piece with
    | text s => rw [writePieces, ih, fixedTexts, pieceValues, interleave_append]
    | value v => simp [writePieces, ih, fixedTexts, pieceValues, interleave]

theorem length_fixedTexts (pieces : List Piece) :
    (fixedTexts pieces).2.length = (pieceValues pieces).length := by
  induction pieces with
  | nil => rfl
  | cons piece rest ih => cases piece <;> simp [fixedTexts, pieceValues, ih]

section SamePlaces

variable {left right : List Piece}

theorem fixedTexts_of_samePlaces (h : List.Forall₂ Piece.SamePlace left right) :
    fixedTexts left = fixedTexts right := by
  induction h with
  | nil => rfl
  | cons hpiece _ ih => cases hpiece <;> simp [fixedTexts, ih]

theorem length_pieceValues_of_samePlaces (h : List.Forall₂ Piece.SamePlace left right) :
    (pieceValues left).length = (pieceValues right).length := by
  rw [← length_fixedTexts, ← length_fixedTexts, fixedTexts_of_samePlaces h]

/-- Where values are handed over beside the text, the text is the same. -/
theorem writePieces_postgres_of_samePlaces (h : List.Forall₂ Piece.SamePlace left right)
    (taken : Nat) : writePieces .postgres taken left = writePieces .postgres taken right := by
  induction h generalizing taken with
  | nil => rfl
  | cons hpiece _ ih => cases hpiece <;> simp [writePieces, ih]

end SamePlaces

/-! ### Statements -/

theorem writePieces_append_text (dialect : Dialect) (taken : Nat) (pieces : List Piece)
    (s : String) :
    writePieces dialect taken (pieces ++ [.text s]) = writePieces dialect taken pieces ++ s := by
  induction pieces generalizing taken with
  | nil => simp [writePieces]
  | cons piece rest ih =>
    cases piece with
    | text => simp [writePieces, ih, String.append_assoc]
    | value => cases dialect <;> simp [writePieces, ih, String.append_assoc]

theorem pieceValues_append (pieces others : List Piece) :
    pieceValues (pieces ++ others) = pieceValues pieces ++ pieceValues others := by
  induction pieces with
  | nil => rfl
  | cons piece rest ih => cases piece <;> simp [pieceValues, ih]

namespace SelectStatement

variable (statement : SelectStatement)

/-- The lines before the condition. -/
def linesBefore : List String :=
  let keyword := if statement.distinct then "SELECT DISTINCT " else "SELECT "
  [keyword ++ ", ".intercalate (statement.terms.map (SelectTerm.write statement.dialect)),
    "FROM " ++ statement.root.runtimeRef.getD "None" ++ " " ++ statement.rootAlias] ++
  statement.joins.map (Join.write statement.dialect)

/-- The lines after the condition. -/
def linesAfter : List String :=
  clause "GROUP BY" (statement.groupBy.map (SortKey.write statement.dialect)) ++
    clause "ORDER BY" (statement.orderBy.map fun (key, direction) =>
      key.write statement.dialect ++ " " ++ direction.code) ++
    ["LIMIT " ++ toString statement.limit]

/-- The pieces of the whole statement: its condition, between all that is fixed. -/
def pieces : List Piece :=
  match statement.condition with
  | none => [.text ("\n".intercalate (statement.linesBefore ++ statement.linesAfter))]
  | some pieces =>
    [.text ("\n".intercalate statement.linesBefore ++ "\n" ++ "WHERE ")] ++ pieces ++
      [.text ("\n" ++ "\n".intercalate statement.linesAfter)]

theorem linesBefore_ne_nil : statement.linesBefore ≠ [] :=
  List.cons_ne_nil _ _

theorem linesAfter_ne_nil : statement.linesAfter ≠ [] :=
  List.append_ne_nil_of_right_ne_nil _ (List.cons_ne_nil _ _)

theorem lines_eq : statement.lines = statement.linesBefore ++
    ((statement.condition.map fun pieces =>
      "WHERE " ++ writePieces statement.dialect 0 pieces).toList ++ statement.linesAfter) := by
  simp only [lines, linesBefore, linesAfter, List.append_assoc]

/-- The statement is its pieces, written one after the other. -/
theorem write_eq : statement.write = writePieces statement.dialect 0 statement.pieces := by
  rw [write, lines_eq, pieces]
  cases statement.condition with
  | none => simp [writePieces]
  | some pieces =>
    dsimp only [Option.map_some, Option.toList_some, List.singleton_append]
    rw [String.intercalate_append_of_ne_nil statement.linesBefore_ne_nil (List.cons_ne_nil _ _),
      String.intercalate_cons_of_ne_nil statement.linesAfter_ne_nil, List.cons_append, writePieces,
      writePieces_append_text]
    simp only [String.append_assoc]

theorem pieceValues_pieces :
    pieceValues statement.pieces = pieceValues (statement.condition.getD []) := by
  rw [pieces]
  cases statement.condition with
  | none => rfl
  | some pieces => simp [pieceValues, pieceValues_append]

end SelectStatement

/-! ### Filters -/

/-- What is asked is the same, of values that may differ. -/
inductive Condition.SameShape : Condition → Condition → Prop
  | isNull : SameShape .isNull .isNull
  | isNotNull : SameShape .isNotNull .isNotNull
  | compare (comparison : Comparison) (v w : Json) :
      SameShape (.compare comparison v) (.compare comparison w)
  | like (negated : Bool) (pattern other : String) :
      SameShape (.like negated pattern) (.like negated other)
  | between (low high otherLow otherHigh : Json) :
      SameShape (.between low high) (.between otherLow otherHigh)
  | among (negated : Bool) {values others : List Json} (length : values.length = others.length) :
      SameShape (.among negated values) (.among negated others)

/-- The terms differ in nothing but the values of their conditions. -/
structure FilterTerm.SameShape (left right : FilterTerm) : Prop where
  connective : left.connective = right.connective
  column : left.column = right.column
  condition : left.condition.SameShape right.condition

theorem samePlaces_texts (s : String) : List.Forall₂ Piece.SamePlace [.text s] [.text s] :=
  .cons (.text s) .nil

theorem samePlaces_commaPieces {values others : List Json} (h : values.length = others.length) :
    List.Forall₂ Piece.SamePlace (commaPieces values) (commaPieces others) := by
  induction values generalizing others with
  | nil =>
    obtain rfl := List.eq_nil_of_length_eq_zero h.symm
    exact .nil
  | cons v rest ih =>
    obtain ⟨w, more, rfl⟩ := List.exists_cons_of_length_eq_add_one h.symm
    have hrest : rest.length = more.length := by simpa using h
    -- A comma follows if there are more values, on both sides.
    cases rest with
    | nil =>
      obtain rfl := List.eq_nil_of_length_eq_zero hrest.symm
      exact .cons (.value v w) .nil
    | cons =>
      obtain ⟨_, _, rfl⟩ := List.exists_cons_of_length_eq_add_one hrest.symm
      exact .cons (.value v w) (.cons (.text ", ") (ih hrest))

namespace Condition

variable {left right : Condition}

theorem SameShape.samePlaces (h : left.SameShape right) (dialect : Dialect) (column : String) :
    List.Forall₂ Piece.SamePlace (left.pieces dialect column) (right.pieces dialect column) := by
  cases h with
  | isNull => exact samePlaces_texts _
  | isNotNull => exact samePlaces_texts _
  | compare => exact .cons (.text _) (.cons (.value _ _) .nil)
  | like => cases dialect <;> exact .cons (.text _) (.cons (.value _ _) .nil)
  | between =>
    exact .cons (.text _) (.cons (.value _ _) (.cons (.text _) (.cons (.value _ _) .nil)))
  | @among negated values others length =>
    cases values with
    | nil =>
      obtain rfl := List.eq_nil_of_length_eq_zero length.symm
      cases negated <;> exact samePlaces_texts _
    | cons =>
      obtain ⟨_, _, rfl⟩ := List.exists_cons_of_length_eq_add_one length.symm
      cases negated <;> exact
        .cons (.text _) (List.rel_append (samePlaces_commaPieces length) (samePlaces_texts ")"))

/-- The places of a condition are those of its values. -/
theorem pieceValues_pieces (condition : Condition) (dialect : Dialect) (column : String) :
    pieceValues (condition.pieces dialect column) = condition.values := by
  have hcomma (values : List Json) : pieceValues (commaPieces values) = values := by
    induction values using commaPieces.induct with
    | case1 => rfl
    | case2 => rfl
    | case3 v rest hrest ih => rw [commaPieces, pieceValues, pieceValues, ih]; exact hrest
  cases condition with
  | like => cases dialect <;> rfl
  | among negated values =>
    cases values with
    | nil => cases negated <;> rfl
    | cons => cases negated <;> simp [pieces, pieceValues, pieceValues_append, hcomma, values]
  | _ => rfl

end Condition

section Combine

variable {dialect : Dialect} {left right terms : List FilterTerm}

theorem FilterTerm.SameShape.samePlaces {term other : FilterTerm} (h : term.SameShape other)
    (dialect : Dialect) :
    List.Forall₂ Piece.SamePlace (term.pieces dialect) (other.pieces dialect) := by
  unfold FilterTerm.pieces
  rw [h.column]
  exact h.condition.samePlaces dialect _

theorem combineFrom_samePlaces (h : List.Forall₂ FilterTerm.SameShape left right)
    {expression other : List Piece}
    (hexpression : List.Forall₂ Piece.SamePlace expression other) :
    List.Forall₂ Piece.SamePlace (combineFrom dialect expression left)
      (combineFrom dialect other right) := by
  induction h generalizing expression other with
  | nil => exact hexpression
  | cons hterm _ ih =>
    rw [combineFrom, combineFrom, hterm.connective]
    exact ih (List.rel_append (List.rel_append (List.rel_append (List.rel_append
      (samePlaces_texts _) hexpression) (samePlaces_texts _)) (hterm.samePlaces dialect))
      (samePlaces_texts _))

theorem pieceValues_combineFrom (expression : List Piece) :
    pieceValues (combineFrom dialect expression terms) =
      pieceValues expression ++ terms.flatMap (·.condition.values) := by
  induction terms generalizing expression with
  | nil => simp [combineFrom]
  | cons term rest ih =>
    rw [combineFrom, ih]
    simp [pieceValues, pieceValues_append, FilterTerm.pieces, Condition.pieceValues_pieces]

theorem combine_samePlaces (h : List.Forall₂ FilterTerm.SameShape left right) :
    Option.Rel (List.Forall₂ Piece.SamePlace) (combine dialect left) (combine dialect right) := by
  cases h with
  | nil => exact .none
  | cons hterm hrest =>
    exact .some (combineFrom_samePlaces hrest (List.rel_append (List.rel_append
      (samePlaces_texts _) (hterm.samePlaces dialect)) (samePlaces_texts _)))

/-- The places of combined terms are those of their values, in order. -/
theorem pieceValues_combine :
    pieceValues ((combine dialect terms).getD []) = terms.flatMap (·.condition.values) := by
  cases terms with
  | nil => rfl
  | cons term rest =>
    rw [combine, Option.getD_some, pieceValues_combineFrom]
    simp [pieceValues, pieceValues_append, FilterTerm.pieces, Condition.pieceValues_pieces]

end Combine

namespace SelectStatement

variable {statement : SelectStatement} {filters : List FilterTerm}

theorem values_eq :
    pieceValues statement.pieces = statement.filters.flatMap (·.condition.values) := by
  rw [pieceValues_pieces]
  exact pieceValues_combine

theorem parameters_postgres (h : statement.dialect = .postgres) :
    statement.parameters = statement.filters.flatMap (·.condition.values) := by
  rw [parameters, h]
  exact pieceValues_combine

theorem parameters_bigQuery (h : statement.dialect = .bigQuery) : statement.parameters = [] := by
  rw [parameters, h]
  rfl

/-- Statements whose filters differ in nothing but their values have the same fixed text, and the
same places. -/
theorem samePlaces_pieces (h : List.Forall₂ FilterTerm.SameShape statement.filters filters) :
    List.Forall₂ Piece.SamePlace statement.pieces { statement with filters }.pieces := by
  have hcombined : Option.Rel (List.Forall₂ Piece.SamePlace)
      (combine statement.dialect statement.filters) (combine statement.dialect filters) :=
    combine_samePlaces h
  unfold pieces condition
  dsimp only
  generalize combine statement.dialect statement.filters = pieces at hcombined ⊢
  generalize combine statement.dialect filters = others at hcombined ⊢
  cases hcombined with
  | none => exact samePlaces_texts _
  | some hsame =>
    exact List.rel_append (List.rel_append (samePlaces_texts _) hsame) (samePlaces_texts _)

end SelectStatement

end SemanticLayer
