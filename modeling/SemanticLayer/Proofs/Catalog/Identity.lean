import Mathlib.Data.String.Basic
import Mathlib.Data.Sym.Sym2
import SemanticLayer.Catalog.Relationship

/-!
The identity of relationships as text. Where identifiers of tables are free of the marks that stand
between the parts of the text, it tells two relationships apart, except if the name of a column
contains such marks and an identifier itself, and so reads like the end of one column and the
beginning of the other.
-/

namespace SemanticLayer

open Text

/-! ### Ends of relationships -/

/-- One end of a relationship: a table and its column, the name trimmed and in lower case. -/
abbrev RelationshipEnd := String × String

def RelationshipEnd.ofColumn (tableId column : String) : RelationshipEnd :=
  (tableId, lower (trim column))

def RelationshipEnd.text (endpoint : RelationshipEnd) : String :=
  endpoint.1 ++ ":" ++ endpoint.2

/-- The two ends of a relationship, no matter which one comes first. -/
def relationshipEnds (fromTableId fromColumn toTableId toColumn : String) : Sym2 RelationshipEnd :=
  s(.ofColumn fromTableId fromColumn, .ofColumn toTableId toColumn)

/-- The end whose column goes on with the text of another end. -/
def RelationshipEnd.absorb (endpoint other : RelationshipEnd) : RelationshipEnd :=
  (endpoint.1, endpoint.2 ++ "|" ++ other.text)

/-- Two pairs of ends that are written alike: of three ends in a row, the one pair has absorbed the
last one into the middle one, and the other pair has absorbed the middle one into the first one. -/
inductive Confusable : Sym2 RelationshipEnd → Sym2 RelationshipEnd → Prop
  | intro {first middle last : RelationshipEnd} (one : first.text ≤ (middle.absorb last).text)
      (two : (first.absorb middle).text ≤ last.text) :
      Confusable s(first, middle.absorb last) s(first.absorb middle, last)

/-- The text is the written form of an identifier that is drawn at random: five groups of
hexadecimal digits with hyphens between them. -/
structure IsUuid (s : String) : Prop where
  groups : (s.toList.splitOn '-').map List.length = [8, 4, 4, 4, 12]
  digits : ∀ c ∈ s.toList, c ∈ "0123456789abcdef-".toList

instance (s : String) : Decidable (IsUuid s) :=
  decidable_of_iff
    ((s.toList.splitOn '-').map List.length = [8, 4, 4, 4, 12] ∧
      s.toList.all fun c => "0123456789abcdef-".toList.contains c)
    (by
      simp only [List.all_eq_true, List.contains_iff_mem]
      exact ⟨fun h => ⟨h.1, h.2⟩, fun h => ⟨h.groups, h.digits⟩⟩)

/-- None of the marks between the parts of a relationship's text occurs in the identifier. -/
def Separable (id : String) : Prop :=
  ':' ∉ id.toList ∧ '|' ∉ id.toList

theorem IsUuid.separable {id : String} (h : IsUuid id) : Separable id :=
  ⟨fun hmem => absurd (h.digits _ hmem) (by decide),
    fun hmem => absurd (h.digits _ hmem) (by decide)⟩

/-! ### Parts of texts -/

/-- Texts are parted at the first mark, whatever follows. -/
theorem append_mark_inj {mark : Char} {p q x y : List Char} (hp : mark ∉ p) (hq : mark ∉ q) :
    p ++ mark :: x = q ++ mark :: y ↔ p = q ∧ x = y := by
  constructor
  · intro h
    rcases List.append_eq_append_iff.1 h with ⟨rest, rfl, hrest⟩ | ⟨rest, rfl, hrest⟩
    · cases rest with
      | nil => exact ⟨by simp, (List.cons.inj hrest).2⟩
      | cons c others => simp [(List.cons.inj hrest).1] at hq
    · cases rest with
      | nil => exact ⟨by simp, (List.cons.inj hrest).2.symm⟩
      | cons c others => simp [(List.cons.inj hrest).1] at hp
  · rintro ⟨rfl, rfl⟩
    rfl

/-- Where the first column ends before the other one does, the other one contains a mark and the
second identifier, and the second column contains the other second identifier. -/
theorem exists_middle {q t x y z : List Char} (hq : '|' ∉ q) {more : List Char}
    (hz : z = x ++ '|' :: more) (h : q ++ ':' :: y = more ++ '|' :: t) :
    ∃ v, z = x ++ '|' :: (q ++ ':' :: v) ∧ y = v ++ '|' :: t := by
  rcases List.append_eq_append_iff.1 h with ⟨rest, rfl, hrest⟩ | ⟨rest, rfl, hrest⟩
  · cases rest with
    | nil => simp at hrest
    | cons c v =>
      obtain ⟨rfl, rfl⟩ := List.cons.inj hrest
      exact ⟨v, hz, rfl⟩
  · cases rest with
    | nil => simp at hrest
    | cons c others =>
      obtain ⟨rfl, -⟩ := List.cons.inj hrest
      simp at hq

/-- Two texts of relationships are the same if their parts are, or if a column of the one contains
what is between the columns of the other. -/
theorem parts_eq {p q r s x y z w : List Char} (hp : ':' ∉ p) (hr : ':' ∉ r) (hq : ':' ∉ q)
    (hs : ':' ∉ s) (hq' : '|' ∉ q) (hs' : '|' ∉ s)
    (h : p ++ ':' :: (x ++ '|' :: (q ++ ':' :: y)) = r ++ ':' :: (z ++ '|' :: (s ++ ':' :: w))) :
    p = r ∧ (x = z ∧ q = s ∧ y = w ∨
      (∃ v, z = x ++ '|' :: (q ++ ':' :: v) ∧ y = v ++ '|' :: (s ++ ':' :: w)) ∨
      ∃ v, x = z ++ '|' :: (s ++ ':' :: v) ∧ w = v ++ '|' :: (q ++ ':' :: y)) := by
  obtain ⟨rfl, hrest⟩ := (append_mark_inj hp hr).1 h
  refine ⟨rfl, ?_⟩
  rcases List.append_eq_append_iff.1 hrest with ⟨more, hz, hlater⟩ | ⟨more, hx, hlater⟩
  · cases more with
    | nil =>
      obtain ⟨rfl, rfl⟩ := (append_mark_inj hq hs).1 (List.cons.inj hlater).2
      exact .inl ⟨by simpa using hz.symm, rfl, rfl⟩
    | cons c more =>
      obtain ⟨rfl, hnext⟩ := List.cons.inj hlater
      exact .inr (.inl (exists_middle hq' hz hnext))
  · cases more with
    | nil =>
      obtain ⟨rfl, rfl⟩ := (append_mark_inj hs hq).1 (List.cons.inj hlater).2
      exact .inl ⟨by simpa using hx, rfl, rfl⟩
    | cons c more =>
      obtain ⟨rfl, hnext⟩ := List.cons.inj hlater
      exact .inr (.inr (exists_middle hs' hx hnext))

variable {e f g k : RelationshipEnd}

@[simp]
theorem RelationshipEnd.text_absorb (e f : RelationshipEnd) :
    (e.absorb f).text = e.text ++ "|" ++ f.text := by
  simp [text, absorb, String.append_assoc]

/-- Two pairs of ends are written alike if they are the same, or if a column of the one contains
what stands between the columns of the other. -/
theorem ends_of_text_eq (he : Separable e.1) (hf : Separable f.1) (hg : Separable g.1)
    (hk : Separable k.1) (h : e.text ++ "|" ++ f.text = g.text ++ "|" ++ k.text) :
    e = g ∧ f = k ∨ (∃ middle : RelationshipEnd, f = middle.absorb k ∧ g = e.absorb middle) ∨
      ∃ middle : RelationshipEnd, k = middle.absorb f ∧ e = g.absorb middle := by
  have hchars := congrArg String.toList h
  simp only [RelationshipEnd.text, String.toList_append, List.append_assoc] at hchars
  obtain ⟨hfirst, hcases⟩ := parts_eq he.1 hg.1 hf.1 hk.1 hf.2 hk.2 hchars
  have hid := String.toList_inj.1 hfirst
  rcases hcases with ⟨hcolumn, hsecond, hlast⟩ | ⟨v, hfront, hrest⟩ | ⟨v, hfront, hrest⟩
  · exact .inl ⟨Prod.ext hid (String.toList_inj.1 hcolumn),
      Prod.ext (String.toList_inj.1 hsecond) (String.toList_inj.1 hlast)⟩
  · refine .inr (.inl ⟨(f.1, String.ofList v), Prod.ext rfl ?_, Prod.ext hid.symm ?_⟩) <;>
      rw [← String.toList_inj]
    · simpa [RelationshipEnd.absorb, RelationshipEnd.text] using hrest
    · simpa [RelationshipEnd.absorb, RelationshipEnd.text] using hfront
  · refine .inr (.inr ⟨(k.1, String.ofList v), Prod.ext rfl ?_, Prod.ext hid ?_⟩) <;>
      rw [← String.toList_inj]
    · simpa [RelationshipEnd.absorb, RelationshipEnd.text] using hrest
    · simpa [RelationshipEnd.absorb, RelationshipEnd.text] using hfront

/-! ### Identities -/

section

variable {A a B b C c D d : String}

/-- The identity is written from the two ends, the one whose text comes first at the beginning. -/
theorem relationshipKey_of_ends (hends : relationshipEnds A a B b = s(e, f))
    (hle : e.text ≤ f.text) : relationshipKey A a B b = e.text ++ "|" ++ f.text := by
  have hkey : relationshipKey A a B b =
      if (RelationshipEnd.ofColumn B b).text < (RelationshipEnd.ofColumn A a).text then
        (RelationshipEnd.ofColumn B b).text ++ "|" ++ (RelationshipEnd.ofColumn A a).text
      else (RelationshipEnd.ofColumn A a).text ++ "|" ++ (RelationshipEnd.ofColumn B b).text := rfl
  rw [hkey]
  rcases Sym2.eq_iff.1 hends with ⟨rfl, rfl⟩ | ⟨rfl, rfl⟩
  · rw [if_neg (not_lt.2 hle)]
  · split
    · rfl
    · rename_i hnot
      rw [le_antisymm hle (not_lt.1 hnot)]

theorem exists_ordered (A a B b : String) :
    ∃ e f : RelationshipEnd, relationshipEnds A a B b = s(e, f) ∧ e.text ≤ f.text := by
  let one := RelationshipEnd.ofColumn A a
  let two := RelationshipEnd.ofColumn B b
  rcases le_total one.text two.text with hle | hle
  · exact ⟨_, _, rfl, hle⟩
  · exact ⟨_, _, Sym2.eq_swap, hle⟩

theorem separable_of_mem {end_ : RelationshipEnd} (hA : Separable A) (hB : Separable B)
    (h : end_ ∈ relationshipEnds A a B b) : Separable end_.1 := by
  rcases Sym2.mem_iff.1 h with rfl | rfl
  · exact hA
  · exact hB

theorem relationshipKey_of_confusable
    (h : Confusable (relationshipEnds A a B b) (relationshipEnds C c D d)) :
    relationshipKey A a B b = relationshipKey C c D d := by
  generalize hone : relationshipEnds A a B b = one at h
  generalize htwo : relationshipEnds C c D d = two at h
  obtain ⟨hle, hle'⟩ := h
  rw [relationshipKey_of_ends hone hle, relationshipKey_of_ends htwo hle']
  simp [String.append_assoc]

/-- Identities are the same where the ends are, in any order, or where the ends are written
alike. -/
theorem relationshipKey_eq_iff (hA : Separable A) (hB : Separable B) (hC : Separable C)
    (hD : Separable D) : relationshipKey A a B b = relationshipKey C c D d ↔
      relationshipEnds A a B b = relationshipEnds C c D d ∨
        Confusable (relationshipEnds A a B b) (relationshipEnds C c D d) ∨
        Confusable (relationshipEnds C c D d) (relationshipEnds A a B b) := by
  obtain ⟨e, f, hone, hle⟩ := exists_ordered A a B b
  obtain ⟨g, k, htwo, hle'⟩ := exists_ordered C c D d
  constructor
  · intro h
    rw [relationshipKey_of_ends hone hle, relationshipKey_of_ends htwo hle'] at h
    have he : Separable e.1 := separable_of_mem hA hB (hone ▸ Sym2.mem_mk_left e f)
    have hf : Separable f.1 := separable_of_mem hA hB (hone ▸ Sym2.mem_mk_right e f)
    have hg : Separable g.1 := separable_of_mem hC hD (htwo ▸ Sym2.mem_mk_left g k)
    have hk : Separable k.1 := separable_of_mem hC hD (htwo ▸ Sym2.mem_mk_right g k)
    rw [hone, htwo]
    rcases ends_of_text_eq he hf hg hk h with
      ⟨rfl, rfl⟩ | ⟨middle, rfl, rfl⟩ | ⟨middle, rfl, rfl⟩
    · exact .inl rfl
    · exact .inr (.inl ⟨hle, hle'⟩)
    · exact .inr (.inr ⟨hle', hle⟩)
  · rintro (hends | hconfusable | hconfusable)
    · rw [relationshipKey_of_ends hone hle, relationshipKey_of_ends (hends ▸ hone) hle]
    · exact relationshipKey_of_confusable hconfusable
    · exact (relationshipKey_of_confusable hconfusable).symm

/-- Ends with a mark in no column are not written like any others. -/
theorem not_confusable {one two : Sym2 RelationshipEnd} (h : ∀ e ∈ one, '|' ∉ e.2.toList) :
    ¬ Confusable one two ∧ ¬ Confusable two one := by
  constructor
  · rintro @⟨first, middle, last, -, -⟩
    exact h _ (Sym2.mem_mk_right _ _) (by simp [RelationshipEnd.absorb])
  · rintro @⟨first, middle, last, -, -⟩
    exact h _ (Sym2.mem_mk_left _ _) (by simp [RelationshipEnd.absorb])

/-- Between tables with random identifiers, two relationships have the same identity exactly if they
have the same ends, in any order, or if their ends are written alike. So relationships have the same
identity only if they have the same ends, provided that the names of the columns of one of them
contain no mark that stands between two ends. -/
theorem relationshipKey_identifies (hA : IsUuid A) (hB : IsUuid B) (hC : IsUuid C)
    (hD : IsUuid D) :
    (relationshipKey A a B b = relationshipKey C c D d ↔
        relationshipEnds A a B b = relationshipEnds C c D d ∨
          Confusable (relationshipEnds A a B b) (relationshipEnds C c D d) ∨
          Confusable (relationshipEnds C c D d) (relationshipEnds A a B b)) ∧
      ((∀ e ∈ relationshipEnds A a B b, '|' ∉ e.2.toList) →
        (relationshipKey A a B b = relationshipKey C c D d ↔
          relationshipEnds A a B b = relationshipEnds C c D d)) := by
  have hkeys := @relationshipKey_eq_iff A a B b C c D d hA.separable hB.separable hC.separable
    hD.separable
  refine ⟨hkeys, fun hmarks => hkeys.trans ?_⟩
  obtain ⟨hone, htwo⟩ := @not_confusable _ (relationshipEnds C c D d) hmarks
  simp [hone, htwo]

end

/-- Identifiers of three tables. -/
def ordersUuid : String := "1b9d6bcd-bbfd-4b2d-9b5d-ab8dfbbd4bed"
def customersUuid : String := "6ec0bd7f-11c0-43da-975e-2a8ad9ebae0b"
def regionsUuid : String := "9f2c4e1a-7b3d-4c5e-8f60-0a1b2c3d4e5f"

theorem isUuid_examples : IsUuid ordersUuid ∧ IsUuid customersUuid ∧ IsUuid regionsUuid := by
  decide +kernel

theorem relationshipKey_identifies_orders :
    IsUuid ordersUuid ∧ IsUuid customersUuid ∧
      relationshipKey ordersUuid "Customer_ID" customersUuid " id " =
        relationshipKey customersUuid "ID" ordersUuid "customer_id" ∧
      relationshipKey ordersUuid "customer_id" customersUuid "id" ≠
        relationshipKey ordersUuid "tenant_id" customersUuid "id" := by
  obtain ⟨horders, hcustomers, -⟩ := isUuid_examples
  refine ⟨horders, hcustomers, ?_, fun h => ?_⟩
  · have hends : relationshipEnds ordersUuid "Customer_ID" customersUuid " id " =
        relationshipEnds customersUuid "ID" ordersUuid "customer_id" := by
      decide +kernel
    exact (relationshipKey_identifies horders hcustomers hcustomers horders).1.2 (.inl hends)
  · have hmarks : ∀ e ∈ relationshipEnds ordersUuid "customer_id" customersUuid "id",
        '|' ∉ e.2.toList := by
      simp only [relationshipEnds, Sym2.mem_iff, forall_eq_or_imp, forall_eq]
      decide +kernel
    have hends := ((relationshipKey_identifies horders hcustomers horders hcustomers).2 hmarks).1 h
    exact absurd hends (by decide +kernel)

/-- The name of a column that contains another identifier reads like the end of one column and the
beginning of the other: relationships between different tables have the same identity. -/
theorem relationshipKey_collides :
    IsUuid ordersUuid ∧ IsUuid customersUuid ∧ IsUuid regionsUuid ∧
      relationshipEnds ordersUuid ("x|" ++ customersUuid ++ ":y") regionsUuid "z" ≠
        relationshipEnds ordersUuid "x" customersUuid ("y|" ++ regionsUuid ++ ":z") ∧
      relationshipKey ordersUuid ("x|" ++ customersUuid ++ ":y") regionsUuid "z" =
        relationshipKey ordersUuid "x" customersUuid ("y|" ++ regionsUuid ++ ":z") := by
  decide +kernel

end SemanticLayer
