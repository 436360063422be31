import Mathlib.Tactic.SplitIfs
import SemanticLayer.Inference.Score

/-!
What names can say. Strong names always have a direction or are one to one. Names that two columns
share say little: bare identifiers are the weakest of all, and identifiers that many tables share
are strong only where one of them refers to the other table.
-/

namespace SemanticLayer

open Text

namespace NamingEvidence

variable {one two : NamedColumn} {naming : NamingEvidence}

/-- Strong names decide the cardinality. -/
theorem cardinality_of_strong (h : ofNames one two = some naming)
    (hstrong : naming.strength = .strong) :
    naming.cardinality = some .manyToOne ∨ naming.cardinality = some .oneToMany ∨
      naming.cardinality = some .oneToOne := by
  unfold ofNames at h
  dsimp only at h
  split_ifs at h <;> cases h <;> simp at hstrong ⊢

/-- What can be said without strong names: something that is worth at most sixty points and decides
the cardinality, or the name alone. -/
theorem points_of_not_strong (h : ofNames one two = some naming)
    (hstrong : naming.strength ≠ .strong) :
    (reasonPoints naming.reasons ≤ 60 ∧ (naming.cardinality = some .manyToOne ∨
        naming.cardinality = some .oneToMany ∨ naming.cardinality = some .oneToOne)) ∨
      (reasonPoints naming.reasons ≤ 35 ∧
        (naming.cardinality = some .manyToMany ∨ naming.cardinality = none)) := by
  unfold ofNames at h
  dsimp only at h
  split_ifs at h <;> cases h <;> simp [reasonPoints, Reason.points] at hstrong ⊢

/-- The reasons that names give. -/
def nameReasons : List Reason :=
  [.sameName, .foreignKey, .primaryKey, .tableReference, .sharedForeignKey]

theorem reasons_subset (h : ofNames one two = some naming) : naming.reasons ⊆ nameReasons := by
  unfold ofNames at h
  dsimp only at h
  split_ifs at h <;> cases h <;> simp [nameReasons]

end NamingEvidence

/-! ### The other order -/

/-- The cardinality with the side of many rows first. -/
def manyFirst (cardinality : Option Cardinality) : Option Cardinality :=
  if cardinality == some .oneToMany then some .manyToOne else cardinality

/-- The evidence in the order that has the side of many rows first. -/
def NamingEvidence.manyFirst (naming : NamingEvidence) : NamingEvidence :=
  { naming with cardinality := SemanticLayer.manyFirst naming.cardinality }

/-- What names say does not depend on which column comes first, up to the direction. If each of two
tables refers to the other, either order sees the reference of the first one. -/
theorem NamingEvidence.ofNames_comm (one two : NamedColumn) :
    (ofNames two one).map manyFirst = (ofNames one two).map manyFirst := by
  unfold ofNames
  dsimp only
  -- Of the questions that are asked in turn, the other order swaps the first two and the next two.
  rw [Bool.and_comm two.isPrimaryKey, Bool.and_comm two.isForeignKey]
  generalize (one.refersTo two && two.isPrimaryKey) = first
  generalize (two.refersTo one && one.isPrimaryKey) = second
  generalize (one.refersTo two && two.isId) = third
  generalize (two.refersTo one && one.isId) = fourth
  generalize (one.isPrimaryKey && two.isPrimaryKey) = keys
  by_cases hsame : normalizeName one.column = normalizeName two.column
  · rw [hsame]
    cases first <;> cases second <;> cases third <;> cases fourth <;> cases keys <;>
      simp [manyFirst, SemanticLayer.manyFirst]
  · rw [beq_false_of_ne hsame, beq_false_of_ne (Ne.symm hsame)]
    cases first <;> cases second <;> cases third <;> cases fourth <;> cases keys <;>
      simp [manyFirst, SemanticLayer.manyFirst]

/-! ### Names that refer to a table -/

theorem suffix_of_refersTo {column table : String} (h : refersTo column table = true) :
    "_id".toList <:+ (normalizeName column).toList ∨
      "_uuid".toList <:+ (normalizeName column).toList := by
  unfold refersTo at h
  simp only [List.any_eq_true, Bool.or_eq_true, beq_iff_eq] at h
  obtain ⟨spelling, -, hname | hname⟩ := h
  · exact .inl ⟨spelling.toList, by rw [hname, String.toList_append]⟩
  · exact .inr ⟨spelling.toList, by rw [hname, String.toList_append]⟩

theorem not_refersTo_of_surrogate {name table : String} (h : name ∈ surrogateNames) :
    refersTo name table = false := by
  have hall : ∀ name ∈ surrogateNames, ¬("_id".toList <:+ (normalizeName name).toList ∨
      "_uuid".toList <:+ (normalizeName name).toList) := by decide +kernel
  exact Bool.eq_false_iff.2 fun hrefers => hall name h (suffix_of_refersTo hrefers)

theorem normalizeName_of_surrogate {name : String} (h : name ∈ surrogateNames) :
    normalizeName name = name := by
  have hall : ∀ name ∈ surrogateNames, normalizeName name = name := by decide +kernel
  exact hall name h

theorem normalizeName_of_sharedKey {name : String} (h : name ∈ sharedKeyNames) :
    normalizeName name = name := by
  have hall : ∀ name ∈ sharedKeyNames, normalizeName name = name := by decide +kernel
  exact hall name h

/-! ### Names that two columns share -/

namespace NamingEvidence

variable {one two : NamedColumn} {name : String}

/-- Two bare identifiers are hardly worth a mention. -/
theorem ofNames_surrogates (hname : name ∈ surrogateNames)
    (hone : normalizeName one.column = name) (htwo : normalizeName two.column = name) :
    ofNames one two = some ⟨some .oneToOne, .weak, [.primaryKey]⟩ := by
  have hrefers : one.refersTo two = false ∧ two.refersTo one = false := by
    rw [NamedColumn.refersTo, NamedColumn.refersTo, hone, htwo]
    exact ⟨not_refersTo_of_surrogate hname, not_refersTo_of_surrogate hname⟩
  have hkeys : one.isPrimaryKey = true ∧ two.isPrimaryKey = true := by
    unfold NamedColumn.isPrimaryKey isPrimaryKeyLike
    rw [hone, htwo, normalizeName_of_surrogate hname]
    simp [hname]
  unfold ofNames
  simp [hrefers, hkeys, hone, htwo, hname]

/-- An identifier that many tables share and that refers to the other table is that table's key if
the other table has it as well. -/
theorem isPrimaryKey_of_refersTo (hname : name ∈ sharedKeyNames)
    (hone : normalizeName one.column = name) (htwo : normalizeName two.column = name)
    (h : one.refersTo two = true) : two.isPrimaryKey = true := by
  rw [NamedColumn.refersTo, hone] at h
  unfold NamedColumn.isPrimaryKey isPrimaryKeyLike
  dsimp only
  rw [htwo, normalizeName_of_sharedKey hname, h, Bool.or_true]

/-- Two identifiers that many tables share decide nothing unless the names are strong. -/
theorem points_of_sharedKeys {naming : NamingEvidence} (h : ofNames one two = some naming)
    (hname : name ∈ sharedKeyNames) (hone : normalizeName one.column = name)
    (htwo : normalizeName two.column = name) (hstrong : naming.strength ≠ .strong) :
    reasonPoints naming.reasons ≤ 35 ∧
      (naming.cardinality = some .manyToMany ∨ naming.cardinality = none) := by
  have hfirst : one.refersTo two = true → two.isPrimaryKey = true :=
    isPrimaryKey_of_refersTo hname hone htwo
  have hsecond : two.refersTo one = true → one.isPrimaryKey = true :=
    isPrimaryKey_of_refersTo hname htwo hone
  have hsurrogate : name ∉ surrogateNames := by
    intro hmem
    have hall : ∀ name ∈ surrogateNames, name ∉ sharedKeyNames := by decide
    exact hall name hmem hname
  unfold ofNames at h
  dsimp only at h
  split_ifs at h <;> cases h <;> simp_all [reasonPoints, Reason.points]

end NamingEvidence

end SemanticLayer
