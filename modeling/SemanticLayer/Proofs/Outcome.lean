import Mathlib.Data.List.Perm.Basic
import SemanticLayer.Fault

/-!
Computations that may fail: what a result says about the steps behind it, and which faults the steps
can end in.
-/

namespace SemanticLayer

variable {ε α β : Type}

theorem bind_eq_ok {x : Except ε α} {f : α → Except ε β} {b : β} :
    (x >>= f) = .ok b ↔ ∃ a, x = .ok a ∧ f a = .ok b := by
  cases x <;> simp [bind, Except.bind]

theorem bind_of_ok {x : Except ε α} {f : α → Except ε β} {a : α} (h : x = .ok a) :
    (x >>= f) = f a := by
  rw [h]
  rfl

theorem bind_eq_error {x : Except ε α} {f : α → Except ε β} {e : ε} :
    (x >>= f) = .error e ↔ x = .error e ∨ ∃ a, x = .ok a ∧ f a = .error e := by
  cases x <;> simp [bind, Except.bind]

theorem exists_bind {x : Except ε α} {f : α → Except ε β} {a : α} (hx : x = .ok a)
    (hf : ∃ b, f a = .ok b) : ∃ b, (x >>= f) = .ok b := by
  rwa [bind_of_ok hx]

theorem map_eq_ok {x : Except ε α} {f : α → β} {b : β} :
    (f <$> x) = .ok b ↔ ∃ a, x = .ok a ∧ f a = b := by
  cases x <;> simp [Functor.map, Except.map]

theorem pure_eq_ok {a b : α} : (pure a : Except ε α) = .ok b ↔ a = b := by
  simp [pure, Except.pure]

/-- Reporting a fault changes no result. -/
theorem lift_eq_ok {x : Except Report α} {a : α} :
    (liftM x : Except Fault α) = .ok a ↔ x = .ok a := by
  cases x <;> simp [liftM, monadLift, MonadLift.monadLift, Except.mapError]

/-- The results of a list are those of its items, in order. -/
theorem forall₂_of_mapM {f : α → Except ε β} {items : List α} {results : List β}
    (h : items.mapM f = .ok results) : List.Forall₂ (fun a b => f a = .ok b) items results := by
  induction items generalizing results with
  | nil =>
    rw [List.mapM_nil, pure_eq_ok] at h
    exact h ▸ .nil
  | cons item rest ih =>
    simp only [List.mapM_cons, bind_eq_ok, pure_eq_ok] at h
    obtain ⟨result, hresult, others, hothers, rfl⟩ := h
    exact .cons hresult (ih hothers)

/-- Lists whose items have the same outcomes one by one. -/
theorem mapM_eq_of_forall₂ {γ : Type} {f : α → Except ε γ} {g : β → Except ε γ} {items : List α}
    {others : List β} (h : List.Forall₂ (fun a b => f a = g b) items others) :
    items.mapM f = others.mapM g := by
  induction h with
  | nil => rfl
  | cons hhead _ ih => rw [List.mapM_cons, List.mapM_cons, hhead, ih]

theorem exists_mapM {f : α → Except ε β} {items : List α}
    (h : ∀ item ∈ items, ∃ b, f item = .ok b) : ∃ results, items.mapM f = .ok results := by
  induction items with
  | nil => exact ⟨[], rfl⟩
  | cons item rest ih =>
    obtain ⟨b, hb⟩ := h item List.mem_cons_self
    obtain ⟨results, hresults⟩ := ih fun other hother => h other (List.mem_cons_of_mem _ hother)
    rw [List.mapM_cons]
    exact exists_bind hb (exists_bind hresults ⟨b :: results, rfl⟩)

/-- A list fails with the fault of its first item that fails. -/
theorem mapM_eq_error {f : α → Except ε β} {items : List α} {e : ε} :
    items.mapM f = .error e ↔ ∃ before item after, items = before ++ item :: after ∧
      (∀ other ∈ before, ∃ b, f other = .ok b) ∧ f item = .error e := by
  induction items with
  | nil =>
    constructor
    · rintro ⟨⟩
    · rintro ⟨before, item, after, heq, -⟩
      simp at heq
  | cons first rest ih =>
    rw [List.mapM_cons, bind_eq_error]
    simp only [bind_eq_error, ih]
    constructor
    · rintro (hfirst | ⟨b, hb, ⟨before, item, after, rfl, hbefore, hitem⟩ | ⟨_, -, ⟨⟩⟩⟩)
      · exact ⟨[], first, rest, rfl, by simp, hfirst⟩
      · exact ⟨first :: before, item, after, rfl, List.forall_mem_cons.2 ⟨⟨b, hb⟩, hbefore⟩, hitem⟩
    · rintro ⟨_ | ⟨other, before⟩, item, after, heq, hbefore, hitem⟩
      · obtain ⟨rfl, rfl⟩ := List.cons.inj heq
        exact .inl hitem
      · obtain ⟨rfl, rfl⟩ := List.cons.inj heq
        obtain ⟨⟨b, hb⟩, hbefore⟩ := List.forall_mem_cons.1 hbefore
        exact .inr ⟨b, hb, .inl ⟨before, item, after, rfl, hbefore, hitem⟩⟩

/-- A check of a list is passed if all of its items pass. -/
theorem forM_eq_ok {f : α → Except ε Unit} {items : List α} :
    items.forM f = .ok () ↔ ∀ item ∈ items, f item = .ok () := by
  induction items with
  | nil => exact ⟨fun _ _ hitem => absurd hitem List.not_mem_nil, fun _ => rfl⟩
  | cons item rest ih =>
    rw [List.forM_eq_forM] at ih ⊢
    simp only [List.forM_cons, bind_eq_ok, ih, List.forall_mem_cons]
    exact ⟨fun ⟨_, hitem, hrest⟩ => ⟨hitem, hrest⟩, fun ⟨hitem, hrest⟩ => ⟨_, hitem, hrest⟩⟩

/-- Lists whose items pass the same checks one by one. -/
theorem forM_eq_of_forall₂ {f : α → Except ε Unit} {g : β → Except ε Unit} {items : List α}
    {others : List β} (h : List.Forall₂ (fun a b => f a = g b) items others) :
    items.forM f = others.forM g := by
  induction h with
  | nil => rfl
  | cons hhead _ ih =>
    rw [List.forM_eq_forM, List.forM_eq_forM] at ih ⊢
    rw [List.forM_cons, List.forM_cons, hhead, ih]

/-- Every result is that of an item. -/
theorem exists_item_of_forall₂ {related : α → β → Prop} {items : List α} {results : List β}
    (h : List.Forall₂ related items results) : ∀ b ∈ results, ∃ a ∈ items, related a b := by
  induction h with
  | nil => simp
  | cons hhead _ ih =>
    intro b hb
    rcases List.mem_cons.1 hb with rfl | hb
    · exact ⟨_, by simp, hhead⟩
    · obtain ⟨a, ha, hrelated⟩ := ih b hb
      exact ⟨a, by simp [ha], hrelated⟩

/-- Every item has a result. -/
theorem exists_result_of_forall₂ {related : α → β → Prop} {items : List α} {results : List β}
    (h : List.Forall₂ related items results) : ∀ a ∈ items, ∃ b ∈ results, related a b :=
  exists_item_of_forall₂ h.flip

/-! ### Faults -/

/-- The fault that a computation ends in, if it fails. -/
def fault? : Except ε α → Option ε
  | .ok _ => none
  | .error e => some e

theorem fault?_eq_some {x : Except ε α} {e : ε} : fault? x = some e ↔ x = .error e := by
  cases x <;> simp [fault?]

/-- If the computation fails, it does so with a fault that has the property. -/
def FailsOnly (p : ε → Prop) (x : Except ε α) : Prop :=
  ∀ e, x = .error e → p e

theorem FailsOnly.ok {p : ε → Prop} {a : α} : FailsOnly p (.ok a : Except ε α) := by
  intro e h
  cases h

theorem FailsOnly.mono {p q : ε → Prop} {x : Except ε α} (h : FailsOnly p x)
    (himp : ∀ e, p e → q e) : FailsOnly q x :=
  fun e heq => himp e (h e heq)

theorem FailsOnly.pure {p : ε → Prop} {a : α} : FailsOnly p (pure a : Except ε α) :=
  FailsOnly.ok

theorem FailsOnly.error {p : ε → Prop} {e : ε} (h : p e) :
    FailsOnly p (.error e : Except ε α) := by
  intro other heq
  cases heq
  exact h

/-- The second step may rely on what the first one returned. -/
theorem FailsOnly.bind {p : ε → Prop} {x : Except ε α} {f : α → Except ε β}
    (hx : FailsOnly p x) (hf : ∀ a, x = .ok a → FailsOnly p (f a)) : FailsOnly p (x >>= f) := by
  cases hresult : x with
  | error e => exact .error (hx e hresult)
  | ok a => exact hf a hresult

theorem FailsOnly.map {p : ε → Prop} {x : Except ε α} {f : α → β} (hx : FailsOnly p x) :
    FailsOnly p (f <$> x) := by
  cases hresult : x with
  | error e => exact .error (hx e hresult)
  | ok a => exact .ok

theorem FailsOnly.mapM {p : ε → Prop} {f : α → Except ε β} {items : List α}
    (hf : ∀ item ∈ items, FailsOnly p (f item)) : FailsOnly p (items.mapM f) := by
  induction items with
  | nil => exact .pure
  | cons item rest ih =>
    rw [List.mapM_cons]
    refine (hf item (by simp)).bind fun _ _ => ?_
    exact (ih fun other hother => hf other (by simp [hother])).bind fun _ _ => .pure

theorem FailsOnly.forM {p : ε → Prop} {f : α → Except ε PUnit} {items : List α}
    (hf : ∀ item ∈ items, FailsOnly p (f item)) : FailsOnly p (items.forM f) := by
  induction items with
  | nil => exact .pure
  | cons item rest ih =>
    rw [List.forM_eq_forM, List.forM_cons]
    refine (hf item (by simp)).bind fun _ _ => ?_
    exact ih fun other hother => hf other (by simp [hother])

/-- Whether the fault, if it is one that is reported, has a report with the property. -/
def Fault.Reports (p : Report → Prop) (fault : Fault) : Prop :=
  ∀ report, fault = .reported report → p report

theorem Fault.Reports.mono {p q : Report → Prop} {fault : Fault} (h : fault.Reports p)
    (himp : ∀ report, p report → q report) : fault.Reports q :=
  fun report heq => himp report (h report heq)

theorem Fault.reports_reported {p : Report → Prop} {report : Report} :
    (Fault.reported report).Reports p ↔ p report := by
  constructor
  · exact fun h => h report rfl
  · rintro h other heq
    cases heq
    exact h

theorem FailsOnly.lift {p : Report → Prop} {x : Except Report α} (h : FailsOnly p x) :
    FailsOnly (Fault.Reports p) (liftM x : Except Fault α) := by
  cases hresult : x with
  | error report => exact .error (Fault.reports_reported.2 (h report hresult))
  | ok a => exact .ok

/-! ### Two computations -/

/-- Both computations succeed, with related results, or both fail, with related faults. -/
inductive Agree {ε α β : Type} (faults : ε → ε → Prop) (results : α → β → Prop) :
    Except ε α → Except ε β → Prop
  | ok {a : α} {b : β} (h : results a b) : Agree faults results (.ok a) (.ok b)
  | error {e f : ε} (h : faults e f) : Agree faults results (.error e) (.error f)

namespace Agree

variable {α' β' : Type} {faults : ε → ε → Prop} {results : α → β → Prop}
  {later : α' → β' → Prop} {x : Except ε α} {y : Except ε β}

theorem refl (x : Except ε α) : Agree Eq Eq x x := by
  cases x with
  | ok a => exact .ok rfl
  | error e => exact .error rfl

theorem eq {x y : Except ε α} (h : Agree Eq Eq x y) : x = y := by
  cases h with
  | ok h => rw [h]
  | error h => rw [h]

/-- The second steps may rely on what the first ones returned. -/
theorem bind {f : α → Except ε α'} {g : β → Except ε β'} (h : Agree faults results x y)
    (hnext : ∀ a b, x = .ok a → y = .ok b → results a b → Agree faults later (f a) (g b)) :
    Agree faults later (x >>= f) (y >>= g) := by
  cases h with
  | ok hab => exact hnext _ _ rfl rfl hab
  | error hef => exact .error hef

/-- The same first step twice. -/
theorem bind_same (hfaults : ∀ e, faults e e) {f : α → Except ε α'} {g : α → Except ε β'}
    (hnext : ∀ a, x = .ok a → Agree faults later (f a) (g a)) :
    Agree faults later (x >>= f) (x >>= g) := by
  cases x with
  | ok a => exact hnext a rfl
  | error e => exact .error (hfaults e)

/-- First steps that both succeed. -/
theorem bind_ok {f : α → Except ε α'} {g : β → Except ε β'} (hx : ∃ a, x = .ok a)
    (hy : ∃ b, y = .ok b)
    (hnext : ∀ a b, x = .ok a → y = .ok b → Agree faults later (f a) (g b)) :
    Agree faults later (x >>= f) (y >>= g) := by
  obtain ⟨a, ha⟩ := hx
  obtain ⟨b, hb⟩ := hy
  rw [bind_of_ok ha, bind_of_ok hb]
  exact hnext a b ha hb

/-- Items that are related one by one. -/
theorem mapM {γ δ : Type} {related : γ → δ → Prop} {f : γ → Except ε α} {g : δ → Except ε β}
    {items : List γ} {others : List δ} (h : List.Forall₂ related items others)
    (hone : ∀ c d, related c d → Agree faults results (f c) (g d)) :
    Agree faults (List.Forall₂ results) (items.mapM f) (others.mapM g) := by
  induction h with
  | nil => exact .ok .nil
  | cons hhead _ ih =>
    rw [List.mapM_cons, List.mapM_cons]
    refine (hone _ _ hhead).bind fun _ _ _ _ hresult => ?_
    exact ih.bind fun _ _ _ _ hrest => .ok (.cons hresult hrest)

theorem map {f : α → α'} {g : β → β'} (h : Agree faults results x y)
    (hnext : ∀ a b, results a b → later (f a) (g b)) : Agree faults later (f <$> x) (g <$> y) := by
  cases h with
  | ok hab => exact .ok (hnext _ _ hab)
  | error hef => exact .error hef

theorem mono {moreFaults : ε → ε → Prop} {moreResults : α → β → Prop}
    (h : Agree faults results x y) (hfaults : ∀ e f, faults e f → moreFaults e f)
    (hresults : ∀ a b, x = .ok a → y = .ok b → results a b → moreResults a b) :
    Agree moreFaults moreResults x y := by
  cases h with
  | ok hab => exact .ok (hresults _ _ rfl rfl hab)
  | error hef => exact .error (hfaults _ _ hef)

/-- Where one of them succeeds, so does the other. -/
theorem exists_ok (h : Agree faults results x y) (hx : x.toOption.isSome = true) :
    ∃ a b, x = .ok a ∧ y = .ok b ∧ results a b := by
  cases h with
  | ok hab => exact ⟨_, _, rfl, rfl, hab⟩
  | error => simp [Except.toOption] at hx

theorem lift {reports : Report → Report → Prop} {faults : Fault → Fault → Prop}
    {x : Except Report α} {y : Except Report β} (h : Agree reports results x y)
    (hfaults : ∀ e f, reports e f → faults (.reported e) (.reported f)) :
    Agree faults results (liftM x : Except Fault α) (liftM y : Except Fault β) := by
  cases h with
  | ok hab => exact .ok hab
  | error hef => exact .error (hfaults _ _ hef)

end Agree

/-- Both computations succeed, or both fail with the same fault. -/
def FailsAlike (x : Except ε α) (y : Except ε β) : Prop :=
  Agree Eq (fun _ _ => True) x y

namespace FailsAlike

variable {x : Except ε α} {y : Except ε β}

theorem error_iff (h : FailsAlike x y) {e : ε} : x = .error e ↔ y = .error e := by
  cases h with
  | ok => simp
  | error heq => simp [heq]

theorem ok_iff (h : FailsAlike x y) : (∃ a, x = .ok a) ↔ ∃ b, y = .ok b := by
  cases h <;> simp

theorem map_left (x : Except ε α) (f : α → β) : FailsAlike (f <$> x) x := by
  cases x with
  | ok a => exact .ok trivial
  | error e => exact .error rfl

theorem mapM {γ : Type} {f : γ → Except ε α} {g : γ → Except ε β} {items : List γ}
    (h : ∀ item ∈ items, FailsAlike (f item) (g item)) :
    FailsAlike (items.mapM f) (items.mapM g) := by
  have hsame : List.Forall₂ (fun item other => FailsAlike (f item) (g other)) items items :=
    List.forall₂_same.2 h
  exact (Agree.mapM hsame fun _ _ hone => hone).mono (fun _ _ => id) fun _ _ _ _ _ => trivial

end FailsAlike

end SemanticLayer
