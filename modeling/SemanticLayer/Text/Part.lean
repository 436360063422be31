/-!
Parts of texts: beginnings, ends and what lies between.
-/

namespace SemanticLayer.Text

def endsWith (text ending : String) : Bool :=
  ending.toList.isSuffixOf text.toList

section Endings

variable {text ending part : String}

theorem endsWith_iff : endsWith text ending = true ↔ ending.toList <:+ text.toList :=
  List.isSuffixOf_iff_suffix

@[simp]
theorem endsWith_append (stem ending : String) : endsWith (stem ++ ending) ending = true := by
  rw [endsWith_iff, String.toList_append]
  exact List.suffix_append _ _

@[simp]
theorem endsWith_append_append (stem part ending : String) :
    endsWith (stem ++ ending) (part ++ ending) = endsWith stem part := by
  rw [Bool.eq_iff_iff, endsWith_iff, endsWith_iff, String.toList_append, String.toList_append,
    List.suffix_append_self_iff]

theorem endsWith_trans (h : endsWith text ending = true) (hpart : endsWith ending part = true) :
    endsWith text part = true :=
  endsWith_iff.2 ((endsWith_iff.1 hpart).trans (endsWith_iff.1 h))

/-- Of two endings of a text the longer one ends with the shorter one. -/
theorem endsWith_of_length_le (h : endsWith text ending = true) (hpart : endsWith text part = true)
    (hle : part.toList.length ≤ ending.toList.length) : endsWith ending part = true :=
  endsWith_iff.2 (List.suffix_of_suffix_length_le (endsWith_iff.1 hpart) (endsWith_iff.1 h) hle)

/-- A text that ends with `ending` does not end with what `ending` could end with but does not. -/
theorem not_endsWith_of_endsWith (h : endsWith text ending = true)
    (hpart : endsWith ending part = false) (hle : part.toList.length ≤ ending.toList.length) :
    endsWith text part = false := by
  rw [← Bool.not_eq_true] at hpart ⊢
  exact fun htext => hpart (endsWith_of_length_le h htext hle)

end Endings

/-- Whether the characters `part` stand somewhere in a row. -/
def occursIn (part : List Char) : List Char → Bool
  | [] => part.isEmpty
  | c :: rest => part.isPrefixOf (c :: rest) || occursIn part rest

def holds (text part : String) : Bool :=
  occursIn part.toList text.toList

/-- The text without its last characters. -/
def dropLast (text : String) (count : Nat) : String :=
  String.ofList (text.toList.take (text.toList.length - count))

theorem dropLast_append (stem ending : String) {count : Nat} (h : ending.toList.length = count) :
    dropLast (stem ++ ending) count = stem := by
  rw [dropLast, String.toList_append, List.length_append, h, Nat.add_sub_cancel, List.take_left,
    String.ofList_toList]

/-- What follows the last occurrence of a character, the whole text where there is none. -/
def afterLast (mark : Char) (text : String) : String :=
  String.ofList (text.toList.reverse.takeWhile (· != mark)).reverse

end SemanticLayer.Text
