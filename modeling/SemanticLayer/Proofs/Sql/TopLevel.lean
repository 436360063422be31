import Mathlib.Data.List.Induction
import SemanticLayer.Proofs.Sql.Scan
import SemanticLayer.Sql.RowLimit

/-!
Keywords outside all parentheses. What the scan for a limit has found after some tokens is where the
last `LIMIT` of these stands and whether there is a `FETCH`, so tokens that are neither of these nor
parentheses make no difference to it.
-/

namespace SemanticLayer.Sql

open Text

/-! ### Places -/

/-- How many more parentheses the tokens open than they close. -/
def depth (tokens : List Token) : Int :=
  tokens.countP (·.isMark "(") - tokens.countP (·.isMark ")")

theorem depth_append (before after : List Token) :
    depth (before ++ after) = depth before + depth after := by
  simp only [depth, List.countP_append]
  omega

/-- The token is the keyword, in any letter case. -/
def Token.IsKeyword (word : String) (token : Token) : Prop :=
  token.kind.isKeyword = true ∧ upper token.text = word

instance (word : String) (token : Token) : Decidable (token.IsKeyword word) := by
  unfold Token.IsKeyword
  infer_instance

theorem Token.IsKeyword.isMark {word : String} {token : Token} (h : token.IsKeyword word)
    (mark : String) : token.isMark mark = false := by
  rw [← Bool.not_eq_true]
  intro hmark
  have hkind := h.1
  rw [beq_iff_eq.1 (Bool.and_eq_true_iff.1 hmark).1] at hkind
  cases hkind

/-- The keyword stands at the place outside all parentheses, `outer` of which are open before the
tokens. -/
structure StandsAt (outer : Int) (word : String) (tokens : List Token) (place : Nat) : Prop where
  outside : outer + depth (tokens.take place) = 0
  found : ∃ token, tokens[place]? = some token ∧ token.IsKeyword word

/-- The place is the last one where the keyword stands outside all parentheses. -/
structure IsLast (word : String) (tokens : List Token) (place : Nat) : Prop where
  stands : StandsAt 0 word tokens place
  last : ∀ later, StandsAt 0 word tokens later → later ≤ place

section

variable {outer : Int} {word : String} {tokens before after : List Token} {place : Nat}

theorem StandsAt.lt_length (h : StandsAt outer word tokens place) : place < tokens.length := by
  obtain ⟨token, htoken, -⟩ := h.found
  exact (List.getElem?_eq_some_iff.1 htoken).1

theorem IsLast.eq (h : IsLast word tokens place) {other : Nat} (hother : IsLast word tokens other) :
    place = other :=
  Nat.le_antisymm (hother.last _ h.stands) (h.last _ hother.stands)

theorem standsAt_append : StandsAt outer word (before ++ after) place ↔
    StandsAt outer word before place ∨
      ∃ k, place = before.length + k ∧ StandsAt (outer + depth before) word after k := by
  rcases Nat.lt_or_ge place before.length with hlt | hge
  · have hiff : StandsAt outer word (before ++ after) place ↔ StandsAt outer word before place := by
      constructor
      · rintro ⟨houtside, hfound⟩
        rw [List.take_append_of_le_length (Nat.le_of_lt hlt)] at houtside
        rw [List.getElem?_append_left hlt] at hfound
        exact ⟨houtside, hfound⟩
      · rintro ⟨houtside, hfound⟩
        refine ⟨?_, ?_⟩
        · rwa [List.take_append_of_le_length (Nat.le_of_lt hlt)]
        · rwa [List.getElem?_append_left hlt]
    rw [hiff, or_iff_left]
    rintro ⟨k, rfl, -⟩
    omega
  · obtain ⟨k, rfl⟩ : ∃ k, place = before.length + k := ⟨place - before.length, by omega⟩
    have hiff : StandsAt outer word (before ++ after) (before.length + k) ↔
        StandsAt (outer + depth before) word after k := by
      have htake : depth ((before ++ after).take (before.length + k)) =
          depth before + depth (after.take k) := by
        rw [List.take_length_add_append, depth_append]
      have hget : (before ++ after)[before.length + k]? = after[k]? := by
        rw [List.getElem?_append_right (by omega), Nat.add_sub_cancel_left]
      constructor
      · rintro ⟨houtside, hfound⟩
        rw [htake] at houtside
        rw [hget] at hfound
        exact ⟨by omega, hfound⟩
      · rintro ⟨houtside, hfound⟩
        refine ⟨?_, ?_⟩
        · rw [htake]
          omega
        · rwa [hget]
    rw [hiff]
    constructor
    · exact fun h => .inr ⟨k, rfl, h⟩
    · rintro (h | ⟨other, hother, h⟩)
      · have hlt := h.lt_length
        omega
      · obtain rfl : k = other := by omega
        exact h

theorem standsAt_singleton {token : Token} :
    StandsAt outer word [token] place ↔ place = 0 ∧ outer = 0 ∧ token.IsKeyword word := by
  constructor
  · rintro ⟨houtside, other, hother, hword⟩
    obtain rfl : place = 0 := by
      have hlt := (List.getElem?_eq_some_iff.1 hother).1
      simpa using hlt
    obtain rfl := Option.some.inj hother
    exact ⟨rfl, by simpa [depth] using houtside, hword⟩
  · rintro ⟨rfl, rfl, hword⟩
    exact ⟨rfl, token, rfl, hword⟩

/-- A keyword stands in the longer list where it does in the shorter one, or at the end. -/
theorem standsAt_concat {token : Token} : StandsAt 0 word (tokens ++ [token]) place ↔
    StandsAt 0 word tokens place ∨
      place = tokens.length ∧ depth tokens = 0 ∧ token.IsKeyword word := by
  rw [standsAt_append, Int.zero_add]
  simp [standsAt_singleton]

theorem isLast_concat {token : Token} (hdepth : depth tokens = 0) (htoken : token.IsKeyword word) :
    IsLast word (tokens ++ [token]) tokens.length := by
  refine ⟨standsAt_concat.2 (.inr ⟨rfl, hdepth, htoken⟩), fun later hlater => ?_⟩
  rcases standsAt_concat.1 hlater with h | ⟨rfl, -⟩
  · exact Nat.le_of_lt h.lt_length
  · exact Nat.le_refl _

theorem IsLast.concat {token : Token} (h : IsLast word tokens place)
    (hnot : ¬(depth tokens = 0 ∧ token.IsKeyword word)) : IsLast word (tokens ++ [token]) place := by
  refine ⟨standsAt_concat.2 (.inl h.stands), fun later hlater => ?_⟩
  rcases standsAt_concat.1 hlater with hearlier | ⟨-, hend⟩
  · exact h.last later hearlier
  · exact absurd hend hnot

/-! ### The scan -/

theorem LimitScan.depth_read (scan : LimitScan) (place : Nat) (token : Token) :
    (scan.read place token).depth = scan.depth + Sql.depth [token] := by
  have hone : ∀ mark : String, [token].countP (·.isMark mark) = if token.isMark mark then 1 else 0 :=
    fun mark => by rw [List.countP_singleton]
  have hmarks : token.isMark "(" = true → token.isMark ")" = false := by
    intro hopen
    obtain ⟨-, htext⟩ := Bool.and_eq_true_iff.1 hopen
    rw [Token.isMark, beq_iff_eq.1 htext]
    exact Bool.and_false _
  rw [Sql.depth, hone, hone, read]
  by_cases hopen : token.isMark "(" = true
  · rw [if_pos hopen, if_pos hopen, hmarks hopen]
    rfl
  · rw [if_neg hopen, if_neg hopen]
    by_cases hclose : token.isMark ")" = true
    · rw [if_pos hclose, if_pos hclose]
      rfl
    · rw [if_neg hclose, if_neg hclose]
      dsimp only
      split_ifs <;> simp

/-- Reading a keyword outside all parentheses changes what is found. -/
theorem LimitScan.read_eq (scan : LimitScan) (place : Nat) (token : Token) :
    (scan.read place token).limit =
        (if scan.depth = 0 ∧ token.IsKeyword "LIMIT" then some place else scan.limit) ∧
      ((scan.read place token).fetches = true ↔
        scan.fetches = true ∨ scan.depth = 0 ∧ token.IsKeyword "FETCH") := by
  by_cases hopen : token.isMark "(" = true ∨ token.isMark ")" = true
  · have hnot : ∀ word, ¬token.IsKeyword word := fun word hword => by
      rw [hword.isMark, hword.isMark] at hopen
      simp at hopen
    have hread : (scan.read place token).limit = scan.limit ∧
        (scan.read place token).fetches = scan.fetches := by
      rw [read]
      split
      · exact ⟨rfl, rfl⟩
      · rw [if_pos (hopen.resolve_left ‹_›)]
        exact ⟨rfl, rfl⟩
    simp [hread, hnot]
  · obtain ⟨hopen, hclose⟩ := not_or.1 hopen
    rw [read, if_neg hopen, if_neg hclose]
    by_cases hkeyword : scan.depth = 0 ∧ token.kind.isKeyword = true
    · rw [if_pos (by simpa using hkeyword)]
      by_cases hlimit : upper token.text = "LIMIT"
      · simp [hkeyword, Token.IsKeyword, hlimit]
      · by_cases hfetch : upper token.text = "FETCH"
        · simp [hkeyword, Token.IsKeyword, hfetch]
        · simp [Token.IsKeyword, hlimit, hfetch]
    · have hnot : ∀ word, ¬(scan.depth = 0 ∧ token.IsKeyword word) := fun word hword =>
        hkeyword ⟨hword.1, hword.2.1⟩
      rw [if_neg (by simpa using hkeyword), if_neg (hnot _)]
      simp [hnot]

theorem LimitScan.run_append (scan : LimitScan) (place : Nat) (before after : List Token) :
    scan.run place (before ++ after) = (scan.run place before).run (place + before.length) after := by
  induction before generalizing scan place with
  | nil => rfl
  | cons token before ih =>
    rw [List.cons_append, run, run, ih, List.length_cons, Nat.add_right_comm, Nat.add_assoc]

/-- What the scan finds: the last place of `LIMIT` outside all parentheses, and whether there is a
`FETCH`. -/
structure LimitScan.Finds (scan : LimitScan) (tokens : List Token) : Prop where
  depth : scan.depth = Sql.depth tokens
  limit : ∀ place, scan.limit = some place → IsLast "LIMIT" tokens place
  nowhere : scan.limit = none → ∀ place, ¬StandsAt 0 "LIMIT" tokens place
  fetches : scan.fetches = true ↔ ∃ place, StandsAt 0 "FETCH" tokens place

/-- One token more is read as it stands at the end of the list. -/
theorem LimitScan.Finds.read {scan : LimitScan} (h : scan.Finds tokens) (token : Token) :
    (scan.read tokens.length token).Finds (tokens ++ [token]) := by
  obtain ⟨hlimit, hfetches⟩ := scan.read_eq tokens.length token
  rw [h.depth] at hlimit hfetches
  constructor
  case depth => rw [depth_read, depth_append, h.depth]
  case limit =>
    intro place hplace
    rw [hlimit] at hplace
    split at hplace
    · rename_i hend
      obtain rfl := Option.some.inj hplace
      exact isLast_concat hend.1 hend.2
    · exact (h.limit place hplace).concat ‹_›
  case nowhere =>
    intro hnone place hplace
    rw [hlimit] at hnone
    split at hnone
    · cases hnone
    · rcases standsAt_concat.1 hplace with hearlier | ⟨-, hend⟩
      · exact h.nowhere hnone place hearlier
      · exact absurd hend ‹_›
  case fetches =>
    rw [hfetches, h.fetches]
    simp only [standsAt_concat, exists_or, exists_eq_left]

theorem LimitScan.finds_run (tokens : List Token) :
    (LimitScan.run ⟨0, none, false⟩ 0 tokens).Finds tokens := by
  induction tokens using List.reverseRecOn with
  | nil =>
    have hnot : ∀ word place, ¬StandsAt 0 word [] place := fun word place h =>
      absurd h.lt_length (Nat.not_lt_zero place)
    exact ⟨rfl, nofun, fun _ => hnot _, by simp [hnot, run]⟩
  | append_singleton tokens token ih =>
    rw [run_append, Nat.zero_add]
    exact ih.read token

/-! ### Idle tokens -/

/-- The token neither opens nor closes a parenthesis, nor is it the word for a limit. -/
structure Token.IsNeutral (token : Token) : Prop where
  opens : token.isMark "(" = false
  closes : token.isMark ")" = false
  limit : ¬token.IsKeyword "LIMIT"

theorem depth_of_isNeutral (h : ∀ token ∈ tokens, token.IsNeutral) : depth tokens = 0 := by
  have hopens : tokens.countP (·.isMark "(") = 0 :=
    List.countP_eq_zero.2 fun token hmem => by simp [(h token hmem).opens]
  have hcloses : tokens.countP (·.isMark ")") = 0 :=
    List.countP_eq_zero.2 fun token hmem => by simp [(h token hmem).closes]
  rw [depth, hopens, hcloses]
  rfl

theorem not_standsAt_of_isNeutral (h : ∀ token ∈ tokens, token.IsNeutral) :
    ¬StandsAt outer "LIMIT" tokens place := by
  rintro ⟨-, token, htoken, hword⟩
  exact (h token (List.mem_of_getElem? htoken)).limit hword

/-- Idle tokens in the place of others leave the last limit where it is. -/
theorem IsLast.replace {one two : List Token} (hone : ∀ token ∈ one, token.IsNeutral)
    (htwo : ∀ token ∈ two, token.IsNeutral) (hplace : place < before.length)
    (h : IsLast "LIMIT" (before ++ (one ++ after)) place) :
    IsLast "LIMIT" (before ++ (two ++ after)) place := by
  have hstands : ∀ {middle : List Token}, (∀ token ∈ middle, token.IsNeutral) → ∀ place,
      StandsAt 0 "LIMIT" (before ++ (middle ++ after)) place ↔
        StandsAt 0 "LIMIT" before place ∨ ∃ k, place = before.length + middle.length + k ∧
          StandsAt (depth before) "LIMIT" after k := by
    intro middle hmiddle place
    have hlater : ∀ k, StandsAt (0 + depth before) "LIMIT" (middle ++ after) k ↔
        ∃ n, k = middle.length + n ∧ StandsAt (depth before) "LIMIT" after n := by
      intro k
      rw [standsAt_append, depth_of_isNeutral hmiddle, Int.add_zero, Int.zero_add,
        or_iff_right (not_standsAt_of_isNeutral hmiddle)]
    rw [standsAt_append]
    refine or_congr Iff.rfl ⟨?_, ?_⟩
    · rintro ⟨k, rfl, hk⟩
      obtain ⟨n, rfl, hn⟩ := (hlater k).1 hk
      exact ⟨n, (Nat.add_assoc _ _ _).symm, hn⟩
    · rintro ⟨n, rfl, hn⟩
      exact ⟨middle.length + n, Nat.add_assoc _ _ _, (hlater _).2 ⟨n, rfl, hn⟩⟩
  constructor
  · refine (hstands htwo place).2 (((hstands hone place).1 h.stands).imp_right ?_)
    rintro ⟨n, rfl, -⟩
    omega
  · intro later hlater
    rcases (hstands htwo later).1 hlater with hbefore | ⟨n, -, hn⟩
    · exact h.last later ((hstands hone later).2 (.inl hbefore))
    · have hle := h.last _ ((hstands hone _).2 (.inr ⟨n, rfl, hn⟩))
      omega

end

end SemanticLayer.Sql
