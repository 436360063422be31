import Mathlib.Data.List.TakeDrop
import SemanticLayer.Json.Reader
import SemanticLayer.Json.Writer
import SemanticLayer.Proofs.Entries

/-!
Reading what was written. A value that is made of words, texts, lists and objects is read back
from its written form as it was: each character from its escape, each text up to its closing
quote, and each list and object up to the end of what was written for it. A text whose number has
too many digits is not read.
-/

namespace SemanticLayer.Json

/-! ### Characters -/

theorem hexValue_digitChar : ∀ digit < 16, hexValue? (Nat.digitChar digit) = some digit := by decide

/-- One more digit of a number in base sixteen, as the reader takes it. -/
def addDigit? (n : Option Nat) (c : Char) : Option Nat := do
  some (16 * (← n) + (← hexValue? c))

theorem foldl_addDigit_toDigits (n : Nat) :
    (Nat.toDigits 16 n).foldl addDigit? (some 0) = some n := by
  induction n using Nat.strongRecOn with
  | ind n ih =>
    by_cases hn : n < 16
    · rw [Nat.toDigits_of_lt_base hn]
      simp [addDigit?, hexValue_digitChar n hn]
    · rw [Nat.toDigits_of_base_le (by decide) (by omega), List.foldl_append, ih (n / 16) (by omega)]
      simp [addDigit?, hexValue_digitChar (n % 16) (Nat.mod_lt n (by decide)), Nat.div_add_mod]

theorem foldl_addDigit_replicate (count : Nat) :
    (List.replicate count '0').foldl addDigit? (some 0) = some 0 := by
  induction count with
  | zero => rfl
  | succ count ih =>
    rw [List.replicate_succ, List.foldl_cons]
    exact ih

theorem length_hexDigits {unit : Nat} (h : unit < 65536) : (Text.hexDigits 4 unit).length = 4 := by
  have hlength : (Nat.toDigits 16 unit).length ≤ 4 :=
    (Nat.length_toDigits_le_iff (by decide) (by decide)).2 (by omega)
  simp only [Text.hexDigits, List.length_append, List.length_replicate]
  omega

theorem hexQuad_hexDigits {unit : Nat} (h : unit < 65536) :
    hexQuad? (Text.hexDigits 4 unit) = some unit := by
  have hfold : (Text.hexDigits 4 unit).foldl addDigit? (some 0) = some unit := by
    rw [Text.hexDigits, List.foldl_append, foldl_addDigit_replicate, foldl_addDigit_toDigits]
  rw [hexQuad?, length_hexDigits h]
  exact hfold

/-- The characters of an escaped unit. -/
theorem toList_escapeUnit (unit : Nat) :
    (escapeUnit unit).toList = '\\' :: 'u' :: Text.hexDigits 4 unit := by
  simp [escapeUnit, String.toList_append]

section

variable {start fuel position : Nat} {rest done : List Char}

/-- The head of a text that goes on after an escaped unit. -/
theorem hexDigits_append {unit : Nat} (h : unit < 65536) (rest : List Char) :
    (Text.hexDigits 4 unit ++ rest).take 4 = Text.hexDigits 4 unit ∧
      (Text.hexDigits 4 unit ++ rest).drop 4 = rest ∧
      (Text.hexDigits 4 unit ++ rest).length = 4 + rest.length := by
  have hlength := length_hexDigits h
  refine ⟨?_, ?_, by rw [List.length_append, hlength]⟩
  · exact List.take_left' hlength
  · exact List.drop_left' hlength

theorem readText_quote :
    readText start (fuel + 1) ('"' :: rest) position done =
      .ok ⟨String.ofList done.reverse, rest, position + 1⟩ := by
  rw [readText.eq_def]
  rfl

/-- An escape of one letter stands for its character. -/
theorem readText_letter {e c : Char} (hletter : simpleEscape? e = some c) :
    readText start (fuel + 1) ('\\' :: e :: rest) position done =
      readText start fuel rest (position + 2) (c :: done) := by
  have he : e ≠ 'u' := by
    rintro rfl
    simp [simpleEscape?] at hletter
  rw [readText]
  · simp only [Char.reduceBEq, Bool.false_eq_true, if_false, if_true, hletter]
  · exact he

/-- A unit that is no half of a pair stands for the character with its code. -/
theorem readText_unit {unit : Nat} (hunit : unit < 65536) (hwhole : ¬(0xd800 ≤ unit ∧ unit < 0xe000))
    (hrest : rest ≠ []) :
    readText start (fuel + 1) ((escapeUnit unit).toList ++ rest) position done =
      readText start fuel rest (position + 6) (Char.ofNat unit :: done) := by
  obtain ⟨htake, hdrop, hlength⟩ := hexDigits_append hunit rest
  have hmore : ¬(Text.hexDigits 4 unit ++ rest).length ≤ 4 := by
    have := List.length_pos_iff.2 hrest
    omega
  have hnohalf : (decide (0xd800 ≤ unit) && decide (unit < 0xdc00)) = false := by
    simp only [Bool.and_eq_false_iff, decide_eq_false_iff_not]
    omega
  have hchar : charOfCode unit = Char.ofNat unit := by
    unfold charOfCode
    rw [if_neg (by simpa using hwhole)]
  rw [toList_escapeUnit, List.cons_append, List.cons_append, readText]
  simp only [Char.reduceBEq, Bool.false_eq_true, if_false, if_true, if_neg hmore, htake, hdrop,
    hexQuad_hexDigits hunit, hnohalf, hchar]

/-- Two halves of a pair stand for one character. -/
theorem readText_pair {high low : Nat} (hhigh : 0xd800 ≤ high ∧ high < 0xdc00)
    (hlow : 0xdc00 ≤ low ∧ low < 0xe000) (hrest : rest ≠ []) :
    readText start (fuel + 1) ((escapeUnit high).toList ++ ((escapeUnit low).toList ++ rest))
        position done =
      readText start fuel rest (position + 12)
        (Char.ofNat (0x10000 + (high - 0xd800) * 0x400 + (low - 0xdc00)) :: done) := by
  have hpositive := List.length_pos_iff.2 hrest
  obtain ⟨htakeLow, hdropLow, hlengthLow⟩ :=
    hexDigits_append (show low < 65536 by omega) rest
  obtain ⟨htake, hdrop, hlength⟩ := hexDigits_append (show high < 65536 by omega)
    ('\\' :: 'u' :: (Text.hexDigits 4 low ++ rest))
  have hfound : lowHalf? ('\\' :: 'u' :: (Text.hexDigits 4 low ++ rest)) = some low := by
    simp only [lowHalf?, htakeLow, hexQuad_hexDigits (show low < 65536 by omega)]
    rw [if_pos]
    simp only [Bool.and_eq_true, decide_eq_true_eq]
    omega
  have hmore :
      ¬(Text.hexDigits 4 high ++ '\\' :: 'u' :: (Text.hexDigits 4 low ++ rest)).length ≤ 4 := by
    simp only [List.length_cons] at hlength
    omega
  have hhalf : (decide (0xd800 ≤ high) && decide (high < 0xdc00)) = true := by
    simp only [Bool.and_eq_true, decide_eq_true_eq]
    omega
  have hafter : ('\\' :: 'u' :: (Text.hexDigits 4 low ++ rest)).drop 6 = rest := by
    simpa using hdropLow
  rw [toList_escapeUnit, toList_escapeUnit]
  simp only [List.cons_append]
  rw [readText]
  simp only [Char.reduceBEq, Bool.false_eq_true, if_false, if_true, if_neg hmore, htake, hdrop,
    hexQuad_hexDigits (show high < 65536 by omega), hhalf, hfound, hafter]

/-- A character beyond the two-byte units is put together from its halves. -/
theorem ofNat_pair {c : Char} (h : 65536 ≤ c.toNat) :
    Char.ofNat (0x10000 + (0xd800 + (c.toNat - 65536) / 1024 - 0xd800) * 0x400 +
      (0xdc00 + (c.toNat - 65536) % 1024 - 0xdc00)) = c := by
  have hcode : 0x10000 + (0xd800 + (c.toNat - 65536) / 1024 - 0xd800) * 0x400 +
      (0xdc00 + (c.toNat - 65536) % 1024 - 0xdc00) = c.toNat := by omega
  rw [hcode, Char.ofNat_toNat]

theorem readText_escapeChar (start fuel position : Nat) (done : List Char) (c : Char)
    (hrest : rest ≠ []) :
    ∃ next, readText start (fuel + 1) ((escapeChar c).toList ++ rest) position done =
      readText start fuel rest next (c :: done) := by
  have hvalid : c.toNat < 0xd800 ∨ 0xdfff < c.toNat ∧ c.toNat < 0x110000 := c.valid
  unfold escapeChar
  split_ifs with hquote hback hline hreturn htab hbackspace hfeed hplain hunit
  · rw [beq_iff_eq.1 hquote]
    exact ⟨_, readText_letter rfl⟩
  · rw [beq_iff_eq.1 hback]
    exact ⟨_, readText_letter rfl⟩
  · rw [beq_iff_eq.1 hline]
    exact ⟨_, readText_letter rfl⟩
  · rw [beq_iff_eq.1 hreturn]
    exact ⟨_, readText_letter rfl⟩
  · rw [beq_iff_eq.1 htab]
    exact ⟨_, readText_letter rfl⟩
  · have hc : Char.ofNat 8 = c := hbackspace ▸ Char.ofNat_toNat c
    rw [← hc]
    exact ⟨_, readText_letter rfl⟩
  · have hc : Char.ofNat 12 = c := hfeed ▸ Char.ofNat_toNat c
    rw [← hc]
    exact ⟨_, readText_letter rfl⟩
  · refine ⟨position + 1, ?_⟩
    simp only [Bool.and_eq_true, decide_eq_true_eq] at hplain
    have hchars : c.toString.toList = [c] := by simp
    rw [hchars, List.singleton_append, readText.eq_def]
    exact (if_neg hquote).trans ((if_neg hback).trans (if_neg (show ¬c.toNat < 32 by omega)))
  · exact ⟨_, by rw [readText_unit hunit (by omega) hrest, Char.ofNat_toNat]⟩
  · refine ⟨position + 12, ?_⟩
    rw [String.toList_append, List.append_assoc, readText_pair (by omega) (by omega) hrest,
      ofNat_pair (by omega)]

theorem escapeChar_ne_nil (c : Char) : (escapeChar c).toList ≠ [] := by
  have hunit : ∀ unit, (escapeUnit unit).toList ≠ [] := fun unit => by
    rw [toList_escapeUnit]
    exact List.cons_ne_nil _ _
  unfold escapeChar
  split_ifs
  iterate 7 exact List.cons_ne_nil _ _
  · simp
  · exact hunit _
  · rw [String.toList_append]
    exact List.append_ne_nil_of_left_ne_nil (hunit _) _

/-- The characters between the quotes of a written text. -/
def escaped (chars : List Char) : List Char :=
  chars.flatMap fun c => (escapeChar c).toList

theorem length_le_escaped (chars : List Char) : chars.length ≤ (escaped chars).length := by
  induction chars with
  | nil => exact Nat.le_refl 0
  | cons c chars ih =>
    have hc := List.length_pos_iff.2 (escapeChar_ne_nil c)
    simp only [escaped, List.flatMap_cons, List.length_append, List.length_cons] at ih ⊢
    omega

theorem readText_escaped (start position : Nat) (done : List Char) {chars : List Char}
    (hfuel : chars.length < fuel) :
    ∃ next, readText start fuel (escaped chars ++ '"' :: rest) position done =
      .ok ⟨String.ofList (done.reverse ++ chars), rest, next⟩ := by
  induction chars generalizing fuel position done with
  | nil =>
    obtain ⟨fuel, rfl⟩ := Nat.exists_eq_succ_of_ne_zero (Nat.pos_iff_ne_zero.1 hfuel)
    exact ⟨position + 1, by rw [List.append_nil]; exact readText_quote⟩
  | cons c chars ih =>
    obtain ⟨fuel, rfl⟩ := Nat.exists_eq_succ_of_ne_zero (Nat.ne_zero_of_lt hfuel)
    have hmore : escaped chars ++ '"' :: rest ≠ [] := by simp
    obtain ⟨next, hchar⟩ := readText_escapeChar start fuel position done c hmore
    obtain ⟨last, hrest⟩ := ih next (c :: done) (Nat.lt_of_succ_lt_succ hfuel)
    refine ⟨last, ?_⟩
    rw [escaped, List.flatMap_cons, List.append_assoc]
    refine hchar.trans (hrest.trans ?_)
    rw [List.reverse_cons, List.append_assoc, List.singleton_append]

end

theorem toList_writeText (s : String) :
    (writeText s).toList = '"' :: (escaped s.toList ++ ['"']) := by
  have hchars : (String.join (s.toList.map escapeChar)).toList = escaped s.toList := by
    rw [String.toList_join, List.flatMap_map]
    rfl
  simp [writeText, String.toList_append, hchars]

/-! ### Values -/

mutual

/-- The value is made of words, texts, lists and objects, and its objects hold each key once. -/
def IsWordy : Json → Prop
  | .null | .bool _ | .text _ => True
  | .int _ | .float _ => False
  | .list items => AreWordy items
  | .object fields => (fields.map Prod.fst).Nodup ∧ FieldsWordy fields

def AreWordy : List Json → Prop
  | [] => True
  | item :: rest => item.IsWordy ∧ AreWordy rest

def FieldsWordy : List (String × Json) → Prop
  | [] => True
  | (_, value) :: rest => value.IsWordy ∧ FieldsWordy rest

end

/-- What is written for the items of a list, up to its end. -/
def itemChars (items : List Json) : List Char :=
  [',', ' '].intercalate ((writeItems items).map String.toList)

/-- What is written for the fields of an object, up to its end. -/
def fieldChars (fields : List (String × Json)) : List Char :=
  [',', ' '].intercalate ((writeFields fields).map String.toList)

theorem toList_write_list (items : List Json) :
    (write (.list items)).toList = '[' :: (itemChars items ++ [']']) := by
  simp [write, itemChars, String.toList_append, String.toList_intercalate]

theorem toList_write_object (fields : List (String × Json)) :
    (write (.object fields)).toList = '\x7b' :: (fieldChars fields ++ ['\x7d']) := by
  simp [write, fieldChars, String.toList_append, String.toList_intercalate]

theorem itemChars_cons (item next : Json) (rest : List Json) :
    itemChars (item :: next :: rest) =
      item.write.toList ++ (',' :: ' ' :: itemChars (next :: rest)) := by
  simp [itemChars, writeItems, List.intercalate_cons_cons]

theorem itemChars_singleton (item : Json) : itemChars [item] = item.write.toList := by
  simp [itemChars, writeItems]

theorem fieldChars_singleton (field : String × Json) :
    fieldChars [field] = (writeText field.1).toList ++ (':' :: ' ' :: field.2.write.toList) := by
  simp [fieldChars, writeFields, String.toList_append]

theorem fieldChars_cons (field next : String × Json) (rest : List (String × Json)) :
    fieldChars (field :: next :: rest) =
      (writeText field.1).toList ++ (':' :: ' ' :: (field.2.write.toList ++
        (',' :: ' ' :: fieldChars (next :: rest)))) := by
  simp [fieldChars, writeFields, List.intercalate_cons_cons, String.toList_append]

theorem setField_eq_setEntry (fields : List (String × Json)) (key : String) (value : Json) :
    setField fields key value = setEntry fields key value := by
  induction fields with
  | nil => rfl
  | cons field rest ih =>
    rw [setField, setEntry, ih]
    split
    · rename_i hkey
      rw [beq_iff_eq.1 hkey]
    · rfl

theorem ofFields_of_nodup {fields : List (String × Json)} (h : (fields.map Prod.fst).Nodup) :
    ofFields fields = .object fields := by
  simp only [ofFields, setField_eq_setEntry]
  rw [foldl_setEntry h]

section

variable {rest : List Char} {position : Nat}

theorem skipSpacing_of_not_spacing {c : Char} (h : isSpacing c = false) :
    skipSpacing (c :: rest) position = (c :: rest, position) := by
  simp [skipSpacing, h]

theorem skipSpacing_blank {c : Char} (h : isSpacing c = false) :
    skipSpacing (' ' :: c :: rest) position = (c :: rest, position + 1) := by
  have hblank : isSpacing ' ' = true := by decide
  simp [skipSpacing, h, hblank]

/-- What is written for a value starts with a character that is no spacing, does not end a list, and
is no byte order mark. -/
theorem exists_head_write {value : Json} (h : value.IsWordy) :
    ∃ c chars, value.write.toList = c :: chars ∧ isSpacing c = false ∧ c ≠ ']' ∧
      c.toNat ≠ 0xfeff := by
  cases value with
  | null => exact ⟨'n', _, rfl, by decide⟩
  | bool b => cases b with
    | true => exact ⟨'t', _, rfl, by decide⟩
    | false => exact ⟨'f', _, rfl, by decide⟩
  | text s => exact ⟨'"', _, toList_writeText s, by decide⟩
  | list items => exact ⟨'[', _, toList_write_list items, by decide⟩
  | object fields => exact ⟨'\x7b', _, toList_write_object fields, by decide⟩
  | int _ | float _ => cases h

theorem readText_writeText (s : String) (start : Nat) :
    ∃ next, readText start (escaped s.toList ++ '"' :: rest).length.succ
        (escaped s.toList ++ '"' :: rest) position [] = .ok ⟨s, rest, next⟩ := by
  have hfuel : s.toList.length < (escaped s.toList ++ '"' :: rest).length.succ := by
    have := length_le_escaped s.toList
    rw [List.length_append]
    omega
  obtain ⟨next, hread⟩ := readText_escaped start position [] hfuel
  exact ⟨next, by rw [hread, List.reverse_nil, List.nil_append, String.ofList_toList]⟩

theorem exists_head_itemChars {item : Json} (h : item.IsWordy) (items : List Json) :
    ∃ c chars, itemChars (item :: items) = c :: chars ∧ isSpacing c = false ∧ c ≠ ']' := by
  obtain ⟨c, chars, hchars, hc⟩ := exists_head_write h
  cases items with
  | nil => exact ⟨c, chars, by rw [itemChars_singleton, hchars], hc.1, hc.2.1⟩
  | cons next items => exact ⟨c, _, by rw [itemChars_cons, hchars, List.cons_append], hc.1, hc.2.1⟩

theorem exists_head_fieldChars (field : String × Json) (fields : List (String × Json)) :
    ∃ chars, fieldChars (field :: fields) = '"' :: chars := by
  cases fields with
  | nil => exact ⟨_, by rw [fieldChars_singleton, toList_writeText, List.cons_append]⟩
  | cons next fields => exact ⟨_, by rw [fieldChars_cons, toList_writeText, List.cons_append]⟩

theorem readValue_bracket {c : Char} (hc : isSpacing c = false) (hend : c ≠ ']') (fuel : Nat)
    (chars : List Char) :
    readValue (fuel + 1) ('[' :: c :: chars) position =
      readItems fuel (c :: chars) (position + 1) [] := by
  rw [readValue, skipSpacing_of_not_spacing hc]
  dsimp only
  split
  · rename_i heq
    exact absurd (List.cons.inj heq).1 hend
  · rfl

theorem readValue_brace {c : Char} (hc : isSpacing c = false) (hend : c ≠ '\x7d') (fuel : Nat)
    (chars : List Char) :
    readValue (fuel + 1) ('\x7b' :: c :: chars) position =
      readFields fuel (c :: chars) (position + 1) [] := by
  rw [readValue, skipSpacing_of_not_spacing hc]
  dsimp only
  split
  · rename_i heq
    exact absurd (List.cons.inj heq).1 hend
  · rfl

end

/-- With the fuel, a value is read back from what was written for it, whatever follows. -/
def ReadsValues (fuel : Nat) : Prop :=
  ∀ value : Json, value.IsWordy → value.write.toList.length ≤ fuel → ∀ rest position,
    ∃ next, readValue fuel (value.write.toList ++ rest) position = .ok ⟨value, rest, next⟩

/-- So are the items of a list, up to its end. -/
def ReadsItems (fuel : Nat) : Prop :=
  ∀ item items, AreWordy (item :: items) → (itemChars (item :: items)).length < fuel →
    ∀ rest position done,
      ∃ next, readItems fuel (itemChars (item :: items) ++ ']' :: rest) position done =
        .ok ⟨.list (done.reverse ++ item :: items), rest, next⟩

/-- So are the fields of an object, up to its end. -/
def ReadsFields (fuel : Nat) : Prop :=
  ∀ field fields, FieldsWordy (field :: fields) → (fieldChars (field :: fields)).length < fuel →
    ∀ rest position done,
      ∃ next, readFields fuel (fieldChars (field :: fields) ++ '\x7d' :: rest) position done =
        .ok ⟨ofFields (done.reverse ++ field :: fields), rest, next⟩

/-- What is read after a field: the end of the object, or more fields. -/
def afterField (fuel next : Nat) (done : List (String × Json)) :
    List Char → Except ReadFault (Rest Json)
  | '\x7d' :: rest => .ok ⟨ofFields done.reverse, rest, next + 1⟩
  | ',' :: rest =>
    let (rest, after) := skipSpacing rest (next + 1)
    readFields fuel rest after done
  | _ => .error (.malformed next)

section

variable {fuel : Nat}

theorem ReadsValues.succ (hitems : ReadsItems fuel) (hfields : ReadsFields fuel) :
    ReadsValues (fuel + 1) := by
  intro value h hfuel rest position
  cases value with
  | null => exact ⟨position + 4, rfl⟩
  | bool b => cases b with
    | true => exact ⟨position + 4, rfl⟩
    | false => exact ⟨position + 5, rfl⟩
  | int _ | float _ => cases h
  | text s =>
    obtain ⟨next, hread⟩ := readText_writeText s position
    refine ⟨next, ?_⟩
    rw [write, toList_writeText, List.cons_append, List.append_assoc, readValue,
      List.singleton_append, hread]
    rfl
  | list items => cases items with
    | nil => exact ⟨position + 2, rfl⟩
    | cons item items =>
      obtain ⟨c, chars, hchars, hspacing, hend⟩ := exists_head_itemChars h.1 items
      rw [toList_write_list, List.length_cons, List.length_append, List.length_singleton] at hfuel
      obtain ⟨next, hread⟩ := hitems item items h (by omega) rest (position + 1) []
      refine ⟨next, ?_⟩
      rw [toList_write_list, List.cons_append, List.append_assoc, List.singleton_append]
      rw [hchars, List.cons_append] at hread ⊢
      exact (readValue_bracket hspacing hend fuel _).trans hread
  | object fields => cases fields with
    | nil => exact ⟨position + 2, rfl⟩
    | cons field fields =>
      obtain ⟨chars, hchars⟩ := exists_head_fieldChars field fields
      rw [toList_write_object, List.length_cons, List.length_append, List.length_singleton] at hfuel
      obtain ⟨next, hread⟩ := hfields field fields h.2 (by omega) rest (position + 1) []
      refine ⟨next, ?_⟩
      rw [toList_write_object, List.cons_append, List.append_assoc, List.singleton_append]
      rw [List.reverse_nil, List.nil_append, ofFields_of_nodup h.1] at hread
      rw [hchars, List.cons_append] at hread ⊢
      exact (readValue_brace (by decide) (by decide) fuel _).trans hread

theorem ReadsItems.succ (hvalues : ReadsValues fuel) (hitems : ReadsItems fuel) :
    ReadsItems (fuel + 1) := by
  intro item items h hfuel rest position done
  cases items with
  | nil =>
    rw [itemChars_singleton] at hfuel ⊢
    obtain ⟨next, hread⟩ := hvalues item h.1 (by omega) (']' :: rest) position
    refine ⟨next + 1, ?_⟩
    rw [readItems, hread]
    simp [bind, Except.bind, skipSpacing_of_not_spacing (show isSpacing ']' = false by decide)]
  | cons other items =>
    rw [itemChars_cons, List.length_append, List.length_cons, List.length_cons] at hfuel
    obtain ⟨c, chars, hchars, hspacing, -⟩ := exists_head_itemChars h.2.1 items
    obtain ⟨next, hread⟩ := hvalues item h.1 (by omega)
      (',' :: ' ' :: (itemChars (other :: items) ++ ']' :: rest)) position
    obtain ⟨last, hrest⟩ := hitems other items h.2 (by omega) rest (next + 1 + 1) (item :: done)
    refine ⟨last, ?_⟩
    rw [itemChars_cons, List.append_assoc, List.cons_append, List.cons_append, readItems, hread]
    rw [hchars, List.cons_append] at hrest ⊢
    simp only [bind, Except.bind, skipSpacing_of_not_spacing (show isSpacing ',' = false by decide),
      skipSpacing_blank hspacing]
    rw [hrest, List.reverse_cons, List.append_assoc, List.singleton_append]

/-- The first field is read, whatever stands where the next character is expected. -/
theorem readFields_first (hvalues : ReadsValues fuel) {key : String} {value : Json}
    (h : value.IsWordy) (hfuel : value.write.toList.length ≤ fuel) {c : Char}
    (hc : isSpacing c = false) (chars : List Char) (position : Nat) (done : List (String × Json)) :
    ∃ next, readFields (fuel + 1)
        ((writeText key).toList ++ (':' :: ' ' :: (value.write.toList ++ c :: chars))) position
          done =
      afterField fuel next ((key, value) :: done) (c :: chars) := by
  obtain ⟨head, tail, hhead, hspacing, -⟩ := exists_head_write h
  obtain ⟨between, hkey⟩ := readText_writeText key position
  obtain ⟨next, hread⟩ := hvalues value h hfuel (c :: chars) (between + 1 + 1)
  refine ⟨next, ?_⟩
  rw [toList_writeText]
  simp only [List.cons_append, List.append_assoc, List.nil_append]
  rw [readFields, hkey]
  rw [hhead, List.cons_append] at hread ⊢
  simp only [bind, Except.bind, skipSpacing_of_not_spacing (show isSpacing ':' = false by decide),
    skipSpacing_blank hspacing, hread, skipSpacing_of_not_spacing hc]
  rfl

theorem ReadsFields.succ (hvalues : ReadsValues fuel) (hfields : ReadsFields fuel) :
    ReadsFields (fuel + 1) := by
  rintro ⟨key, value⟩ fields h hfuel rest position done
  cases fields with
  | nil =>
    rw [fieldChars_singleton, List.length_append, List.length_cons, List.length_cons] at hfuel
    obtain ⟨next, hread⟩ := readFields_first hvalues h.1 (by dsimp only at hfuel; omega)
      (show isSpacing '\x7d' = false by decide) rest position done
    refine ⟨next + 1, ?_⟩
    rw [fieldChars_singleton, List.append_assoc, List.cons_append, List.cons_append]
    refine hread.trans ?_
    rw [afterField, List.reverse_cons]
  | cons field fields =>
    rw [fieldChars_cons, List.length_append, List.length_cons, List.length_cons,
      List.length_append, List.length_cons, List.length_cons] at hfuel
    dsimp only at hfuel
    obtain ⟨more, hmore⟩ := exists_head_fieldChars field fields
    obtain ⟨next, hread⟩ := readFields_first hvalues h.1 (by omega)
      (show isSpacing ',' = false by decide)
      (' ' :: (fieldChars (field :: fields) ++ '\x7d' :: rest)) position done
    obtain ⟨last, hrest⟩ := hfields field fields h.2 (by omega) rest (next + 1 + 1)
      ((key, value) :: done)
    refine ⟨last, ?_⟩
    rw [fieldChars_cons, List.append_assoc, List.cons_append, List.cons_append, List.append_assoc,
      List.cons_append, List.cons_append]
    refine hread.trans ?_
    rw [afterField]
    rw [hmore, List.cons_append] at hrest ⊢
    simp only [skipSpacing_blank (show isSpacing '"' = false by decide)]
    rw [hrest, List.reverse_cons, List.append_assoc, List.singleton_append]

theorem readsBack (fuel : Nat) : ReadsValues fuel ∧ ReadsItems fuel ∧ ReadsFields fuel := by
  induction fuel with
  | zero =>
    refine ⟨fun value h hfuel => ?_, fun item items _ hfuel => absurd hfuel (Nat.not_lt_zero _),
      fun field fields _ hfuel => absurd hfuel (Nat.not_lt_zero _)⟩
    obtain ⟨c, chars, hchars, -⟩ := exists_head_write h
    rw [hchars] at hfuel
    cases hfuel
  | succ fuel ih =>
    obtain ⟨hvalues, hitems, hfields⟩ := ih
    exact ⟨.succ hitems hfields, .succ hvalues hitems, .succ hvalues hfields⟩

end

/-- A value of words, texts, lists and objects is read from what is written for it. -/
theorem read_write {value : Json} (h : value.IsWordy) : read value.write = .ok value := by
  obtain ⟨c, chars, hchars, hspacing, -, hmark⟩ := exists_head_write h
  have hfuel : value.write.toList.length ≤ 2 * (c :: chars).length + 2 := by
    rw [hchars]
    omega
  obtain ⟨next, hread⟩ := (readsBack _).1 value h hfuel [] 0
  rw [List.append_nil, hchars] at hread
  unfold read
  rw [hchars]
  dsimp only
  rw [if_neg (by simpa using hmark), readChars, skipSpacing_of_not_spacing hspacing]
  simp only [bind, Except.bind, hread]
  rfl

/-! ### Whole numbers that are too long -/

/-- Digits are read up to the first character that is none. -/
theorem spanDigits_append {digits : List Char} (h : ∀ d ∈ digits, isPlainDigit d = true) {c : Char}
    (hc : isPlainDigit c = false) (rest : List Char) :
    spanDigits (digits ++ c :: rest) = (digits, c :: rest) := by
  rw [spanDigits, List.span_eq_takeWhile_dropWhile, List.takeWhile_append_of_pos h,
    List.dropWhile_append_of_pos h, List.takeWhile_cons_of_neg (by simp [hc]),
    List.dropWhile_cons_of_neg (by simp [hc]), List.append_nil]

/-- A list of one whole number with so many digits. -/
def longNumberText (digits : Nat) : String :=
  String.ofList ('[' :: (List.replicate digits '1' ++ [']']))

/-- Ones up to the end of a list are no number where they are too many. -/
theorem readNumber_ones {count : Nat} (h : Decimal.digitLimit < count + 1) (position : Nat) :
    readNumber ('1' :: (List.replicate count '1' ++ [']'])) position =
      .error (.tooManyDigits (count + 1)) := by
  have hwhole : wholeDigits? ('1' :: (List.replicate count '1' ++ [']'])) =
      some (List.replicate (count + 1) '1', [']']) := by
    have hones : ∀ d ∈ List.replicate (count + 1) '1', isPlainDigit d = true := by
      intro d hd
      rw [List.eq_of_mem_replicate hd]
      decide
    exact congrArg some (spanDigits_append hones (c := ']') (by decide) [])
  unfold readNumber
  simp [hwhole, fractionDigits, exponentPart?, h]

theorem read_longNumberText {digits : Nat} (h : Decimal.digitLimit < digits) :
    read (longNumberText digits) = .error (.tooManyDigits digits) := by
  obtain ⟨count, rfl⟩ := Nat.exists_eq_add_one_of_ne_zero (Nat.ne_zero_of_lt h)
  have hvalue : ∀ fuel position,
      readValue (fuel + 1) ('1' :: (List.replicate count '1' ++ [']'])) position =
        .error (.tooManyDigits (count + 1)) := by
    intro fuel position
    have hword : readWord? ('1' :: (List.replicate count '1' ++ [']'])) position = none := rfl
    rw [readValue, hword]
    · exact readNumber_ones h position
    all_goals simp
  have hlist : ∀ fuel,
      readValue (fuel + 3) ('[' :: '1' :: (List.replicate count '1' ++ [']'])) 0 =
        .error (.tooManyDigits (count + 1)) := by
    intro fuel
    rw [readValue_bracket (by decide) (by decide), readItems, hvalue]
    rfl
  have hfuel : 2 * ('[' :: '1' :: (List.replicate count '1' ++ [']'])).length + 2 =
      2 * count + 5 + 3 := by
    simp only [List.length_cons, List.length_append, List.length_replicate, List.length_nil]
    omega
  unfold read longNumberText
  rw [String.toList_ofList, List.replicate_succ, List.cons_append]
  dsimp only
  rw [if_neg (by decide), readChars, skipSpacing_of_not_spacing (by decide), hfuel]
  simp only [hlist]
  rfl

end SemanticLayer.Json
