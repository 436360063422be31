import SemanticLayer.Proofs.Plan.Placeholders

/-!
Texts between quotation marks. A text that is written out and a name that is quoted are read back as
they were, whatever marks, backslashes or other characters they hold: the closing mark is the last
character that was written, and the reader stops at no mark before it. So is the pattern of a filter
that is written out.
-/

namespace SemanticLayer

/-! ### Reading -/

/-- Reads up to the single quotation mark that closes a text, a backslash standing for the character
after it: the characters between the marks, and those that follow. A text that is not closed is
none. -/
def readEscaped : List Char → Option (List Char × List Char)
  | [] => none
  | '\'' :: rest => some ([], rest)
  | '\\' :: [] => none
  | '\\' :: c :: rest => (readEscaped rest).map fun (inner, after) => (c :: inner, after)
  | c :: rest => (readEscaped rest).map fun (inner, after) => (c :: inner, after)

/-- Reads up to the double quotation mark that closes a name, two marks standing for one. -/
def readDoubling : List Char → Option (List Char × List Char)
  | [] => none
  | '"' :: '"' :: rest => (readDoubling rest).map fun (inner, after) => ('"' :: inner, after)
  | '"' :: rest => some ([], rest)
  | c :: rest => (readDoubling rest).map fun (inner, after) => (c :: inner, after)

/-- Reads what starts with a mark: what stands between this mark and the one that closes it, and the
text after that. -/
def readMarked (mark : Char) (read : List Char → Option (List Char × List Char)) (text : String) :
    Option (String × String) :=
  match text.toList with
  | [] => none
  | c :: rest =>
    if c == mark then (read rest).map fun (inner, after) => (.ofList inner, .ofList after)
    else none

/-- Reads a text in single quotation marks. -/
def readLiteral (text : String) : Option (String × String) :=
  readMarked '\'' readEscaped text

/-- Reads a name in double quotation marks. -/
def readIdentifier (text : String) : Option (String × String) :=
  readMarked '"' readDoubling text

/-! ### Reading back -/

theorem readEscaped_of_plain {c : Char} (hmark : c ≠ '\'') (hescape : c ≠ '\\')
    (rest : List Char) : readEscaped (c :: rest) =
      (readEscaped rest).map fun (inner, after) => (c :: inner, after) := by
  rw [readEscaped]
  · exact hmark
  · exact fun h => absurd h hescape
  · exact fun _ _ h => absurd h hescape

theorem readDoubling_of_plain {c : Char} (hmark : c ≠ '"') (rest : List Char) :
    readDoubling (c :: rest) =
      (readDoubling rest).map fun (inner, after) => (c :: inner, after) := by
  rw [readDoubling]
  · exact fun _ h => absurd h hmark
  · exact hmark

/-- Escaped characters are read up to the mark that is set after them. -/
theorem readEscaped_escaped (chars after : List Char) :
    readEscaped (chars.flatMap escapedChar ++ '\'' :: after) = some (chars, after) := by
  induction chars with
  | nil => rfl
  | cons c rest ih =>
    rw [List.flatMap_cons, List.append_assoc]
    by_cases hspecial : c = '\\' ∨ c = '\''
    · have hchar : escapedChar c = ['\\', c] := by
        rw [escapedChar, if_pos (by simpa using hspecial)]
      rw [hchar, List.cons_append, List.singleton_append, readEscaped, ih]
      rfl
    · obtain ⟨hescape, hmark⟩ := not_or.1 hspecial
      have hchar : escapedChar c = [c] := by
        rw [escapedChar, if_neg (by simpa using hspecial)]
      rw [hchar, List.singleton_append, readEscaped_of_plain hmark hescape, ih]
      rfl

/-- A name with doubled marks is read up to the mark that is set after it, unless another mark
follows that one. -/
theorem readDoubling_quoted (chars : List Char) {after : List Char}
    (hafter : after.head? ≠ some '"') :
    readDoubling (chars.flatMap Dialect.postgres.quotedChar ++ '"' :: after) =
      some (chars, after) := by
  induction chars with
  | nil =>
    rw [List.flatMap_nil, List.nil_append, readDoubling]
    rintro rest rfl
    exact hafter rfl
  | cons c rest ih =>
    rw [List.flatMap_cons, List.append_assoc]
    by_cases hmark : c = '"'
    · subst hmark
      have hchar : Dialect.postgres.quotedChar '"' = ['"', '"'] := rfl
      rw [hchar, List.cons_append, List.singleton_append, readDoubling, ih]
      rfl
    · have hchar : Dialect.postgres.quotedChar c = [c] := by simp [Dialect.quotedChar, hmark]
      rw [hchar, List.singleton_append, readDoubling_of_plain hmark, ih]
      rfl

theorem readMarked_of_read {mark : Char} {read : List Char → Option (List Char × List Char)}
    {text inner after : String} {rest : List Char} (htext : text.toList = mark :: rest)
    (h : read rest = some (inner.toList, after.toList)) :
    readMarked mark read text = some (inner, after) := by
  rw [readMarked, htext]
  simp [h]

/-- A text that is written out is read back, whatever follows it. -/
theorem readLiteral_append (s after : String) :
    readLiteral (textLiteral s ++ after) = some (s, after) := by
  refine readMarked_of_read ?_ (readEscaped_escaped s.toList after.toList)
  simp [textLiteral]

/-- A quoted name is read back, whatever but another mark follows it. -/
theorem readIdentifier_append (name : String) {after : String}
    (hafter : after.toList.head? ≠ some '"') :
    readIdentifier (Dialect.postgres.quote name ++ after) = some (name, after) := by
  refine readMarked_of_read ?_ (readDoubling_quoted name.toList hafter)
  simp [Dialect.quote, Dialect.nameMark]

theorem readLiteral_textLiteral (s : String) : readLiteral (textLiteral s) = some (s, "") := by
  simpa using readLiteral_append s ""

/-! ### Patterns -/

namespace FilterItem

variable {item : FilterItem} {pattern : String}

/-- The pattern that a filter on texts is compiled to. -/
def pattern? (item : FilterItem) : Option String :=
  match item.operator with
  | .contains | .notContains => some ("%" ++ item.value.plain ++ "%")
  | .startsWith => some (item.value.plain ++ "%")
  | .endsWith => some ("%" ++ item.value.plain)
  | _ => none

/-- Filters on texts state that the pattern is fitted, or that it is not. -/
theorem condition_of_pattern (h : item.pattern? = some pattern) :
    item.condition = .ok (.like (item.operator == .notContains) pattern) := by
  unfold pattern? at h
  unfold condition
  cases hoperator : item.operator with
  | contains | notContains | startsWith | endsWith =>
    rw [hoperator] at h
    obtain rfl := Option.some.inj h
    rfl
  | _ =>
    rw [hoperator] at h
    cases h

/-- Patterns can be written in both languages. -/
theorem conditionIn_of_pattern (dialect : Dialect) (h : item.pattern? = some pattern) :
    item.conditionIn dialect = .ok (.like (item.operator == .notContains) pattern) := by
  rw [conditionIn_eq_ok]
  exact ⟨condition_of_pattern h, by simp [Condition.isWritable, Condition.values, isWritable]⟩

end FilterItem

/-- Where values are written out, so is the pattern of a condition. -/
theorem Condition.write_like (negated : Bool) (pattern column : String) (taken : Nat) :
    writePieces .bigQuery taken ((Condition.like negated pattern).pieces .bigQuery column) =
      "CAST(" ++ column ++ " AS STRING) " ++ (if negated then "NOT " else "") ++ "LIKE " ++
        textLiteral pattern := by
  simp [Condition.pieces, writePieces, literal, Json.plain]

/-- What stands between quotation marks stays between them. A text that is written out and a name
that is quoted are read back as they were, and the mark that closes them is the last character that
was written. The same holds of the pattern of every filter on texts, which can always be written. -/
theorem quoted_texts_read_back :
    (∀ s after : String, readLiteral (literal (.text s) ++ after) = some (s, after)) ∧
      (∀ name : String, readIdentifier (Dialect.postgres.quote name) = some (name, "")) ∧
      ∀ (item : FilterItem) (pattern : String), item.pattern? = some pattern →
        ∃ condition, item.conditionIn .bigQuery = .ok condition ∧
          ∀ (column : String) (taken : Nat), ∃ written,
            writePieces .bigQuery taken (condition.pieces .bigQuery column) =
              "CAST(" ++ column ++ " AS STRING) " ++
                (if item.operator = .notContains then "NOT " else "") ++ "LIKE " ++ written ∧
            readLiteral written = some (pattern, "") := by
  refine ⟨readLiteral_append, fun name => ?_, fun item pattern hpattern => ?_⟩
  · have hread : readIdentifier (Dialect.postgres.quote name ++ "") = some (name, "") :=
      readIdentifier_append name (by simp)
    simpa using hread
  · refine ⟨_, FilterItem.conditionIn_of_pattern .bigQuery hpattern, fun column taken =>
      ⟨textLiteral pattern, ?_, readLiteral_textLiteral pattern⟩⟩
    rw [Condition.write_like]
    simp only [beq_iff_eq]

/-- A value of a backslash and marks, as it would be if it were to close the text that it is in. -/
def closingFilter : FilterItem :=
  ⟨⟨"orders", "note", none⟩, .notContains, .text "\\' OR ''='", .null, .and⟩

theorem quoted_texts_read_back_closing :
    closingFilter.pattern? = some "%\\' OR ''='%" ∧
      ∃ condition, closingFilter.conditionIn .bigQuery = .ok condition ∧
        ∀ (column : String) (taken : Nat), ∃ written,
          writePieces .bigQuery taken (condition.pieces .bigQuery column) =
            "CAST(" ++ column ++ " AS STRING) " ++ "NOT " ++ "LIKE " ++ written ∧
          readLiteral written = some ("%\\' OR ''='%", "") := by
  have hpattern : closingFilter.pattern? = some "%\\' OR ''='%" := by decide
  exact ⟨hpattern, quoted_texts_read_back.2.2 closingFilter _ hpattern⟩

end SemanticLayer
