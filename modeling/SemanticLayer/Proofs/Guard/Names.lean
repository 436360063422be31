import Mathlib.Data.List.TakeWhile
import SemanticLayer.Guard
import SemanticLayer.Proofs.Text.Case

/-!
The letters and digits of a name. Neither letter case nor blanks, dots and quotation marks count for
them, so a name has the same ones before and after it is brought to its dotted form.
-/

namespace SemanticLayer

open Text Sql

/-- A small letter of the basic alphabet or a digit. -/
def isPlain (c : Char) : Bool :=
  c.isDigit || ('a' ≤ c && c ≤ 'z')

/-- The letters and digits that a character of a name counts for. -/
def plainOf (c : Char) : List Char :=
  (lowerChar c).filter isPlain

/-- The letters and digits that the characters of a name count for. -/
def plainOfAll (cs : List Char) : List Char :=
  cs.flatMap plainOf

@[simp]
theorem plainOfAll_nil : plainOfAll [] = [] := rfl

@[simp]
theorem plainOfAll_cons (c : Char) (cs : List Char) :
    plainOfAll (c :: cs) = plainOf c ++ plainOfAll cs := rfl

@[simp]
theorem plainOfAll_append (cs others : List Char) :
    plainOfAll (cs ++ others) = plainOfAll cs ++ plainOfAll others :=
  List.flatMap_append

theorem plainOfAll_eq_nil {cs : List Char} (h : ∀ c ∈ cs, plainOf c = []) : plainOfAll cs = [] :=
  List.flatMap_eq_nil_iff.2 h

@[simp]
theorem plainOf_dot : plainOf '.' = [] := by
  decide

theorem plainOf_of_isBlank {c : Char} (h : isBlank c = true) : plainOf c = [] := by
  have hall : ∀ code ∈ List.range' 9 5 ++ List.range' 28 5 ++ [133, 160, 5760] ++
      List.range' 8192 11 ++ [8232, 8233, 8239, 8287, 12288],
      plainOf (Char.ofNat code) = [] := by
    decide +kernel
  have hcode := hall c.toNat (by
    simp only [isBlank, Bool.or_eq_true, Bool.and_eq_true, decide_eq_true_eq, beq_iff_eq] at h
    simp only [List.mem_append, List.mem_range'_1, List.mem_cons, List.not_mem_nil]
    omega)
  rwa [Char.ofNat_toNat] at hcode

/-! ### Letter case -/

/-- A sigma counts for nothing, whichever form it takes at its place. -/
theorem filter_lowerFrom (before cs : List Char) :
    (lowerFrom before cs).filter isPlain = plainOfAll cs := by
  induction cs generalizing before with
  | nil => rfl
  | cons c rest ih =>
    rw [lowerFrom, List.filter_append, ih, plainOfAll_cons]
    congr 1
    split
    · rename_i hsigma
      obtain rfl : c = Char.ofNat 931 := by
        rw [← beq_iff_eq.1 hsigma, Char.ofNat_toNat]
      split <;> decide +kernel
    · rfl

theorem relaxReference_eq (name : String) :
    relaxReference name = String.ofList (plainOfAll name.toList) := by
  rw [← filter_lowerFrom [], relaxReference, lower, String.toList_ofList]
  rfl

theorem relaxReference_lower (name : String) :
    relaxReference (lower name) = relaxReference name := by
  rw [relaxReference, lower_lower, relaxReference]

/-! ### Blanks, dots and marks -/

theorem plainOfAll_dropWhile (cs : List Char) :
    plainOfAll (cs.dropWhile isBlank) = plainOfAll cs := by
  have hblanks : plainOfAll (cs.takeWhile isBlank) = [] :=
    plainOfAll_eq_nil fun c hc => plainOf_of_isBlank (List.mem_takeWhile_imp hc)
  calc plainOfAll (cs.dropWhile isBlank)
      = plainOfAll (cs.takeWhile isBlank ++ cs.dropWhile isBlank) := by
        rw [plainOfAll_append, hblanks, List.nil_append]
    _ = plainOfAll cs := by rw [List.takeWhile_append_dropWhile]

theorem plainOfAll_dropRight (cs : List Char) :
    plainOfAll (dropRight isBlank cs) = plainOfAll cs := by
  have hblanks : plainOfAll (cs.reverse.takeWhile isBlank).reverse = [] :=
    plainOfAll_eq_nil fun c hc =>
      plainOf_of_isBlank (List.mem_takeWhile_imp (List.mem_reverse.1 hc))
  calc plainOfAll (dropRight isBlank cs)
      = plainOfAll ((cs.reverse.dropWhile isBlank).reverse ++
          (cs.reverse.takeWhile isBlank).reverse) := by
        rw [plainOfAll_append, hblanks, List.append_nil, dropRight]
    _ = plainOfAll cs := by
        rw [← List.reverse_append, List.takeWhile_append_dropWhile, List.reverse_reverse]

@[simp]
theorem plainOfAll_trimChars (cs : List Char) : plainOfAll (trimChars cs) = plainOfAll cs := by
  rw [trimChars, plainOfAll_dropRight, plainOfAll_dropWhile]

theorem plainOfAll_splitName (part cs : List Char) :
    (splitName part cs).flatMap plainOfAll = plainOfAll part.reverse ++ plainOfAll cs := by
  induction cs generalizing part with
  | nil => simp [splitName]
  | cons c rest ih =>
    rw [splitName]
    split
    · rename_i hdot
      obtain rfl : c = '.' := beq_iff_eq.1 (Bool.and_eq_true_iff.1 hdot).1
      rw [List.flatMap_cons, ih, List.reverse_nil, plainOfAll_nil, List.nil_append, plainOfAll_cons,
        plainOf_dot, List.nil_append]
    · rw [ih, List.reverse_cons, plainOfAll_append, List.append_assoc]
      simp

theorem plainOfAll_halveMarks {mark : Char} (h : plainOf mark = []) (cs : List Char) :
    plainOfAll (halveMarks mark cs) = plainOfAll cs := by
  fun_induction halveMarks mark cs with
  | case1 c d rest hmarks ih =>
    obtain ⟨hc, hd⟩ := Bool.and_eq_true_iff.1 hmarks
    obtain rfl := beq_iff_eq.1 hc
    obtain rfl := beq_iff_eq.1 hd
    simp [ih, h]
  | case2 c d rest _ ih => rw [plainOfAll_cons, ih, ← plainOfAll_cons]
  | case3 => rfl

/-- The marks around a text count for nothing. -/
theorem plainOfAll_inside {mark : Char} (h : plainOf mark = []) {cs : List Char}
    (henclosed : isEnclosed mark cs = true) :
    plainOfAll (cs.drop 1).dropLast = plainOfAll cs := by
  simp only [isEnclosed, Bool.and_eq_true, decide_eq_true_eq, beq_iff_eq] at henclosed
  obtain ⟨⟨hlength, hhead⟩, hlast⟩ := henclosed
  obtain ⟨rest, rfl⟩ := List.head?_eq_some_iff.1 hhead
  have hrest : rest ≠ [] := by
    rintro rfl
    simp at hlength
  have hclosing : rest.getLast hrest = mark := by
    rwa [List.getLast?_cons, List.getLast?_eq_some_getLast hrest, Option.some.injEq,
      Option.getD_some] at hlast
  calc plainOfAll ((mark :: rest).drop 1).dropLast
      = plainOfAll (rest.dropLast ++ [rest.getLast hrest]) := by
        simp [hclosing, h]
    _ = plainOfAll (mark :: rest) := by
        rw [List.dropLast_append_getLast, plainOfAll_cons, h, List.nil_append]

theorem plainOfAll_unquote (s : String) :
    plainOfAll (unquote s).toList = plainOfAll s.toList := by
  have hback : plainOf '\x60' = [] := by decide
  have hdouble : plainOf '"' = [] := by decide
  unfold unquote
  dsimp only
  split
  · rename_i henclosed
    rw [String.toList_ofList, plainOfAll_halveMarks hback, plainOfAll_inside hback henclosed]
  · split
    · rename_i henclosed
      rw [String.toList_ofList, plainOfAll_halveMarks hdouble, plainOfAll_inside hdouble henclosed]
    · rfl

theorem plainOfAll_intercalate (parts : List String) :
    plainOfAll (".".intercalate parts).toList =
      parts.flatMap fun part => plainOfAll part.toList := by
  induction parts with
  | nil => rfl
  | cons part rest ih =>
    cases rest with
    | nil => simp
    | cons next others =>
      rw [String.intercalate_cons_of_ne_nil (List.cons_ne_nil _ _), String.toList_append,
        String.toList_append, plainOfAll_append, plainOfAll_append, ih, List.flatMap_cons]
      simp

/-! ### Dotted names -/

/-- Parts count for what they hold, whether or not they are trimmed and empty ones are left out. -/
theorem plainOfAll_present (parts : List (List Char)) :
    ((parts.map trimChars).filter fun part => !part.isEmpty).flatMap plainOfAll =
      parts.flatMap plainOfAll := by
  induction parts with
  | nil => rfl
  | cons part rest ih =>
    rw [List.map_cons, List.filter_cons, List.flatMap_cons, ← plainOfAll_trimChars part]
    split
    · rw [List.flatMap_cons, ih]
    · rename_i hempty
      have hpart : trimChars part = [] := by simpa using hempty
      rw [hpart, plainOfAll_nil, List.nil_append, ih]

/-- A name in its dotted form has the letters and digits of the name. -/
theorem relaxReference_normalizeReference (name : String) :
    relaxReference (normalizeReference name) = relaxReference name := by
  rw [normalizeReference, relaxReference_lower, relaxReference_eq, relaxReference_eq,
    plainOfAll_intercalate, List.flatMap_map]
  simp only [plainOfAll_unquote, String.toList_ofList]
  rw [plainOfAll_present, plainOfAll_splitName, plainOfAll_trimChars]
  rfl

end SemanticLayer
