import SemanticLayer.Proofs.Inference.Naming
import SemanticLayer.Proofs.Inference.Spelling

/-!
A key that two tables have in common. Where a column of one name is named like the identifier of its
table in both tables, each of the two columns is also named after the identifier of the other table,
and this is what is noticed first: the pair counts as a reference, and never as one to one.
-/

namespace SemanticLayer

open Text

theorem getLast?_of_refersTo {column table : String} (h : refersTo column table = true) :
    (normalizeName column).toList.getLast? = some 'd' := by
  rcases suffix_of_refersTo h with ⟨before, hname⟩ | ⟨before, hname⟩
  · rw [← hname, List.getLast?_append]
    rfl
  · rw [← hname, List.getLast?_append]
    rfl

theorem refersTo_normalizeName {column table : String} (h : refersTo column table = true) :
    refersTo (normalizeName column) table = true := by
  rw [refersTo, normalizeName_normalizeName (getLast?_of_refersTo h)]
  exact h

namespace NamedColumn

variable {one two : NamedColumn}

/-- A column that is named like the identifier of its table, and not just as any identifier, refers
to the table, and so does every other column of that name. -/
theorem refersTo_of_isPrimaryKeyLike (hsame : normalizeName one.column = normalizeName two.column)
    (hname : normalizeName two.column ∉ surrogateNames)
    (htwo : isPrimaryKeyLike two.column two.table = true) : one.refersTo two = true := by
  rw [refersTo, hsame]
  simpa [isPrimaryKeyLike, hname] using htwo

theorem isPrimaryKey_of_isPrimaryKeyLike (hname : normalizeName two.column ∉ surrogateNames)
    (htwo : isPrimaryKeyLike two.column two.table = true) : two.isPrimaryKey = true := by
  have hrefers : two.refersTo two = true := refersTo_of_isPrimaryKeyLike rfl hname htwo
  rw [isPrimaryKey, isPrimaryKeyLike, Bool.or_eq_true]
  exact .inr (refersTo_normalizeName hrefers)

end NamedColumn

namespace NamingEvidence

variable {one two : NamedColumn}

/-- A key that two tables have in common is taken for a reference of the first table to the second
one, in either order. -/
theorem ofNames_of_commonKey (hsame : normalizeName one.column = normalizeName two.column)
    (hname : normalizeName one.column ∉ surrogateNames)
    (hone : isPrimaryKeyLike one.column one.table = true)
    (htwo : isPrimaryKeyLike two.column two.table = true) :
    ofNames one two =
        some ⟨some .manyToOne, .strong, [.sameName, .foreignKey, .tableReference, .primaryKey]⟩ ∧
      ofNames two one =
        some ⟨some .manyToOne, .strong, [.sameName, .foreignKey, .tableReference, .primaryKey]⟩ := by
  have hname' : normalizeName two.column ∉ surrogateNames := hsame ▸ hname
  have hfirst : one.refersTo two = true :=
    NamedColumn.refersTo_of_isPrimaryKeyLike hsame hname' htwo
  have hsecond : two.refersTo one = true :=
    NamedColumn.refersTo_of_isPrimaryKeyLike hsame.symm hname hone
  have hkey : two.isPrimaryKey = true := NamedColumn.isPrimaryKey_of_isPrimaryKeyLike hname' htwo
  have hkey' : one.isPrimaryKey = true := NamedColumn.isPrimaryKey_of_isPrimaryKeyLike hname hone
  unfold ofNames
  simp [hfirst, hsecond, hkey, hkey', hsame]

theorem ofNames_of_commonKey_customers :
    let one : NamedColumn := ⟨"customers", "customer_id"⟩
    let two : NamedColumn := ⟨"customer", "Customer_ID"⟩
    (normalizeName one.column = normalizeName two.column ∧
        normalizeName one.column ∉ surrogateNames ∧
        isPrimaryKeyLike one.column one.table = true ∧
        isPrimaryKeyLike two.column two.table = true) ∧
      ofNames one two =
        some ⟨some .manyToOne, .strong, [.sameName, .foreignKey, .tableReference, .primaryKey]⟩ := by
  intro one two
  have hsame : normalizeName one.column = normalizeName two.column := by decide +kernel
  have hname : normalizeName one.column ∉ surrogateNames := by decide +kernel
  have hone : isPrimaryKeyLike one.column one.table = true := by decide +kernel
  have htwo : isPrimaryKeyLike two.column two.table = true := by decide +kernel
  exact ⟨⟨hsame, hname, hone, htwo⟩, (ofNames_of_commonKey hsame hname hone htwo).1⟩

/-- A key in common is not taken for one to one. -/
theorem ofNames_commonKey_not_oneToOne :
    ¬ ∀ one two : NamedColumn, normalizeName one.column = normalizeName two.column →
      normalizeName one.column ∉ surrogateNames →
      isPrimaryKeyLike one.column one.table = true →
      isPrimaryKeyLike two.column two.table = true →
      ∃ naming, ofNames one two = some naming ∧ naming.cardinality = some .oneToOne ∧
        naming.strength = .strong := by
  intro h
  obtain ⟨naming, hnaming, hcardinality, -⟩ :=
    h ⟨"customers", "customer_id"⟩ ⟨"customer", "customer_id"⟩ (by decide +kernel)
      (by decide +kernel) (by decide +kernel) (by decide +kernel)
  have hfound : ofNames ⟨"customers", "customer_id"⟩ ⟨"customer", "customer_id"⟩ =
      some ⟨some .manyToOne, .strong,
        [.sameName, .foreignKey, .tableReference, .primaryKey]⟩ := by
    decide +kernel
  rw [hfound] at hnaming
  cases hnaming
  cases hcardinality

end NamingEvidence

end SemanticLayer
