import Mathlib.Data.List.TakeWhile
import SemanticLayer.Sql.Parameter

/-!
Parameters of texts that are put together. Where one of two texts ends or begins with a character
that is neither part of a word nor a colon nor a backslash, the parameters of both together are
those of the one and those of the other. An escaped text has none.
-/

namespace SemanticLayer.Sql

open Text

/-! ### Characters -/

section Characters

variable {before : Option Char} {c : Char}

theorem hidesColon_eq_false : hidesColon c = false ↔ c ≠ ':' ∧ c ≠ '\\' ∧ isWord c = false := by
  simp [hidesColon, and_assoc]

/-- What is to the left of a text counts only if it hides a colon. -/
theorem parametersFrom_of_calm (h : hidesColon c = false) (chars : List Char) :
    parametersFrom (some c) chars = parametersFrom none chars := by
  cases chars with
  | nil => rfl
  | cons d rest => simp only [parametersFrom, Option.any_some, h, Option.any_none]

/-- A parameter does not reach over a character that is part of no word. -/
theorem parameterAt_append_cons (h : hidesColon c = false) (left right : List Char) :
    parameterAt (left ++ c :: right) = parameterAt left := by
  obtain ⟨hcolon, -, hword⟩ := hidesColon_eq_false.1 h
  have htake : (left ++ c :: right).takeWhile isWord = left.takeWhile isWord := by
    rw [List.takeWhile_append, List.takeWhile_cons_of_neg (by simp [hword]), List.append_nil]
    split
    · rename_i hall
      exact ((List.takeWhile_prefix isWord).eq_of_length hall).symm
    · rfl
  have hle : (left.takeWhile isWord).length ≤ left.length :=
    (List.takeWhile_prefix isWord).length_le
  unfold parameterAt
  dsimp only
  rw [htake, List.drop_append_of_le_length hle]
  cases left.drop (left.takeWhile isWord).length with
  | nil => simp [hcolon]
  | cons => rfl

theorem parametersFrom_cons (hcolon : c ≠ ':') (rest : List Char) :
    parametersFrom before (c :: rest) = parametersFrom (some c) rest := by
  simp [parametersFrom, hcolon]

theorem parametersFrom_append_cons (h : hidesColon c = false) (left right : List Char) :
    parametersFrom before (left ++ c :: right) =
      parametersFrom before left ++ parametersFrom none right := by
  induction left generalizing before with
  | nil =>
    rw [List.nil_append, parametersFrom_cons (hidesColon_eq_false.1 h).1, parametersFrom_of_calm h]
    rfl
  | cons d rest ih =>
    rw [List.cons_append, parametersFrom, parametersFrom, ih, parameterAt_append_cons h,
      List.append_assoc]

end Characters

/-! ### Texts -/

/-- The text begins with a character that hides no colon and is part of no word. -/
def startsCalm (s : String) : Bool :=
  s.toList.head?.any fun c => !hidesColon c

/-- The text ends with such a character. -/
def endsCalm (s : String) : Bool :=
  s.toList.getLast?.any fun c => !hidesColon c

section Texts

variable {s left right : String}

theorem startsCalm_iff : startsCalm s = true ↔
    ∃ c rest, s.toList = c :: rest ∧ hidesColon c = false := by
  unfold startsCalm
  cases s.toList <;> simp

theorem endsCalm_iff : endsCalm s = true ↔
    ∃ front c, s.toList = front ++ [c] ∧ hidesColon c = false := by
  unfold endsCalm
  rcases List.eq_nil_or_concat s.toList with hnil | ⟨front, c, hchars⟩
  · simp [hnil]
  · rw [List.concat_eq_append] at hchars
    simp [hchars, and_assoc]

theorem endsCalm_append (h : endsCalm right = true) : endsCalm (left ++ right) = true := by
  obtain ⟨front, c, hchars, hc⟩ := endsCalm_iff.1 h
  exact endsCalm_iff.2 ⟨left.toList ++ front, c, by simp [hchars], hc⟩

theorem parameters_append_of_ends (h : endsCalm left = true) :
    parameters (left ++ right) = parameters left ++ parameters right := by
  obtain ⟨front, c, hchars, hc⟩ := endsCalm_iff.1 h
  have hleft : parameters left = parametersFrom none front := by
    rw [parameters, hchars, parametersFrom_append_cons hc]
    exact List.append_nil _
  rw [hleft, parameters, parameters, String.toList_append, hchars, List.append_assoc,
    List.singleton_append, parametersFrom_append_cons hc]

theorem parameters_append_of_starts (h : startsCalm right = true) :
    parameters (left ++ right) = parameters left ++ parameters right := by
  obtain ⟨c, rest, hchars, hc⟩ := startsCalm_iff.1 h
  have hright : parameters right = parametersFrom none rest := by
    rw [parameters, hchars, parametersFrom_cons (hidesColon_eq_false.1 hc).1,
      parametersFrom_of_calm hc]
  rw [hright, parameters, parameters, String.toList_append, hchars,
    parametersFrom_append_cons hc]

theorem parametersFrom_eq_nil {before : Option Char} {chars : List Char} (h : ':' ∉ chars) :
    parametersFrom before chars = [] := by
  induction chars generalizing before with
  | nil => rfl
  | cons c rest ih =>
    rw [List.mem_cons, not_or] at h
    rw [parametersFrom_cons (Ne.symm h.1), ih h.2]

/-- A text without colons has no parameters. -/
theorem parameters_eq_nil (h : ':' ∉ s.toList) : parameters s = [] :=
  parametersFrom_eq_nil h

/-- A colon and a word make a parameter of the word. -/
theorem parameters_word {word : String} (hne : word ≠ "")
    (h : ∀ c ∈ word.toList, isWord c = true) : parameters (":" ++ word) = [word] := by
  have hcolon : isWord ':' = false := by decide
  have hlater : parametersFrom (some ':') word.toList = [] :=
    parametersFrom_eq_nil fun hmem => by simp [h ':' hmem] at hcolon
  have hchars : (":" ++ word).toList = ':' :: word.toList := by simp
  have hword : parameterAt word.toList = some word := by
    unfold parameterAt
    have hall : word.toList.takeWhile isWord = word.toList := List.takeWhile_eq_self_iff.2 h
    rw [hall]
    simp [hne]
  rw [parameters, hchars, parametersFrom, hlater, hword]
  rfl

/-- Escaped colons make no parameters. -/
theorem parameters_escapeColons (s : String) : parameters (escapeColons s) = [] := by
  suffices hchars : ∀ (before : Option Char) (chars : List Char),
      parametersFrom before (chars.flatMap fun c => if c == ':' then ['\\', ':'] else [c]) = [] by
    rw [parameters, escapeColons, String.toList_ofList]
    exact hchars none s.toList
  intro before chars
  induction chars generalizing before with
  | nil => rfl
  | cons c rest ih =>
    rw [List.flatMap_cons]
    by_cases hcolon : c = ':'
    · -- The backslash before the colon hides it.
      subst hcolon
      rw [if_pos (beq_self_eq_true _), List.cons_append, List.singleton_append,
        parametersFrom_cons (by decide), parametersFrom, ih]
      rfl
    · rw [if_neg (by simpa using hcolon), List.singleton_append, parametersFrom_cons hcolon, ih]

end Texts

/-! ### Texts put together -/

/-- A text that may stand before any other one: it has no colons, and it hides none. -/
def opens (s : String) : Bool :=
  endsCalm s && !s.toList.contains ':'

/-- A text that may stand after any other one: it has no colons, and no word reaches into it. -/
def closes (s : String) : Bool :=
  startsCalm s && !s.toList.contains ':'

/-- A text that may stand between any two others. -/
def separates (s : String) : Bool :=
  opens s && closes s

theorem opens_iff {s : String} : opens s = true ↔ endsCalm s = true ∧ ':' ∉ s.toList := by
  simp [opens]

theorem closes_iff {s : String} : closes s = true ↔ startsCalm s = true ∧ ':' ∉ s.toList := by
  simp [closes]

/-- Texts have the parameters of their parts, wherever these stand in them. -/
def ReadsLike (texts parts : List String) : Prop :=
  ∀ name, name ∈ texts.flatMap parameters ↔ name ∈ parts.flatMap parameters

namespace ReadsLike

variable {left right middle : String} {texts more parts others : List String}

theorem refl (texts : List String) : ReadsLike texts texts :=
  fun _ => Iff.rfl

theorem trans (h : ReadsLike texts parts) (hnext : ReadsLike parts others) :
    ReadsLike texts others :=
  fun name => (h name).trans (hnext name)

/-- The order of the parts does not count, nor how often they occur. -/
theorem congr (h : ReadsLike texts parts) (hparts : ∀ part, part ∈ parts ↔ part ∈ others) :
    ReadsLike texts others := by
  intro name
  rw [h name]
  simp only [List.mem_flatMap, hparts]

/-- Texts without parameters read like nothing. -/
theorem silent (h : ∀ text ∈ texts, parameters text = []) : ReadsLike texts [] := by
  intro name
  rw [List.flatMap_eq_nil_iff.2 h, List.flatMap_nil]

theorem append (hleft : ReadsLike texts parts) (hright : ReadsLike more others) :
    ReadsLike (texts ++ more) (parts ++ others) := by
  intro name
  rw [List.flatMap_append, List.flatMap_append, List.mem_append, List.mem_append, hleft name,
    hright name]

theorem flatMap {α : Type} {list : List α} {textsOf partsOf : α → List String}
    (h : ∀ item ∈ list, ReadsLike (textsOf item) (partsOf item)) :
    ReadsLike (list.flatMap textsOf) (list.flatMap partsOf) := by
  induction list with
  | nil => exact refl []
  | cons item rest ih =>
    obtain ⟨hitem, hrest⟩ := List.forall_mem_cons.1 h
    exact hitem.append (ih hrest)

/-- Items are read like the parts of all of them. -/
theorem items {α : Type} (list : List α) {write : α → String} {partsOf : α → List String}
    (h : ∀ item, ReadsLike [write item] (partsOf item)) :
    ReadsLike (list.map write) (list.flatMap partsOf) := by
  rw [List.map_eq_flatMap]
  exact flatMap fun item _ => h item

/-- A text without colons reads like nothing. -/
theorem fixed (h : ':' ∉ left.toList) : ReadsLike [left] [] :=
  silent (List.forall_mem_singleton.2 (parameters_eq_nil h))

theorem of_eq (h : parameters left = texts.flatMap parameters) : ReadsLike [left] texts := by
  intro name
  rw [List.flatMap_singleton, h]

theorem after (hright : ReadsLike [right] parts) (h : opens left = true) :
    ReadsLike [left ++ right] parts := by
  obtain ⟨hends, hnone⟩ := opens_iff.1 h
  have hsplit : ReadsLike [left ++ right] ([left] ++ [right]) := .of_eq <| by
    simpa using parameters_append_of_ends hends
  exact hsplit.trans ((fixed hnone).append hright)

theorem before (hleft : ReadsLike [left] parts) (h : closes right = true) :
    ReadsLike [left ++ right] parts := by
  obtain ⟨hstarts, hnone⟩ := closes_iff.1 h
  have hsplit : ReadsLike [left ++ right] ([left] ++ [right]) := .of_eq <| by
    simpa using parameters_append_of_starts hstarts
  simpa using hsplit.trans (hleft.append (fixed hnone))

theorem between (hleft : ReadsLike [left] parts) (hright : ReadsLike [right] others)
    (h : separates middle = true) : ReadsLike [left ++ middle ++ right] (parts ++ others) := by
  obtain ⟨hopens, hcloses⟩ := Bool.and_eq_true_iff.1 h
  have hends : endsCalm (left ++ middle) = true := endsCalm_append (opens_iff.1 hopens).1
  have hsplit : ReadsLike [left ++ middle ++ right] ([left ++ middle] ++ [right]) := .of_eq <| by
    simpa using parameters_append_of_ends hends
  exact hsplit.trans ((hleft.before hcloses).append hright)

/-- Texts with separators between them are read one by one. -/
theorem intercalate (h : separates middle = true) (items : List String) :
    ReadsLike [middle.intercalate items] items := by
  induction items with
  | nil => exact fixed (by simp)
  | cons item rest ih =>
    cases rest with
    | nil => simpa using refl [item]
    | cons next others =>
      rw [String.intercalate_cons_of_ne_nil (List.cons_ne_nil _ _)]
      exact (refl [item]).between ih h

end ReadsLike

end SemanticLayer.Sql
