import Mathlib.Data.List.Perm.Basic

/-!
# Proofs: computations that may fail

How a composition of computations comes to an answer, and what a fold keeps as long as every step
of it succeeds.
-/

namespace Promotions.Fallible

variable {ε α β σ : Type}

theorem ok_bind (a : α) (f : α → Except ε β) : (.ok a >>= f) = f a := rfl

theorem error_bind (e : ε) (f : α → Except ε β) : (.error e >>= f) = .error e := rfl

theorem bind_eq_ok_iff {x : Except ε α} {f : α → Except ε β} {b : β} :
    (x >>= f) = .ok b ↔ ∃ a, x = .ok a ∧ f a = .ok b := by
  cases x with
  | error e => simp [bind, Except.bind]
  | ok a => simp [bind, Except.bind]

theorem bind_eq_error_iff {x : Except ε α} {f : α → Except ε β} {e : ε} :
    (x >>= f) = .error e ↔ x = .error e ∨ ∃ a, x = .ok a ∧ f a = .error e := by
  cases x with
  | error e => simp [bind, Except.bind]
  | ok a => simp [bind, Except.bind]

theorem pure_eq_ok_iff {a b : α} : (pure a : Except ε α) = .ok b ↔ a = b := by
  simp [pure, Except.pure]

theorem map_eq_ok_iff {x : Except ε α} {f : α → β} {b : β} :
    x.map f = .ok b ↔ ∃ a, x = .ok a ∧ f a = b := by
  cases x with
  | error e => simp [Except.map]
  | ok a => simp [Except.map]

theorem map_bind {γ : Type} (x : Except ε α) (f : α → Except ε β) (g : β → γ) :
    (x >>= f).map g = x >>= fun a => (f a).map g := by
  cases x with
  | error e => rfl
  | ok a => rfl

/-- The answers of a list of computations, each at the place of its computation. -/
theorem forall₂_of_mapM {f : α → Except ε β} {as : List α} {bs : List β}
    (h : as.mapM f = .ok bs) : List.Forall₂ (fun a b => f a = .ok b) as bs := by
  induction as generalizing bs with
  | nil =>
    rw [List.mapM_nil, pure_eq_ok_iff] at h
    rw [← h]
    exact List.Forall₂.nil
  | cons a as ih =>
    rw [List.mapM_cons] at h
    obtain ⟨b, hb, h⟩ := bind_eq_ok_iff.1 h
    obtain ⟨rest, hrest, h⟩ := bind_eq_ok_iff.1 h
    obtain rfl := pure_eq_ok_iff.1 h
    exact List.Forall₂.cons hb (ih hrest)

theorem mapM_of_forall₂ {f : α → Except ε β} {as : List α} {bs : List β}
    (h : List.Forall₂ (fun a b => f a = .ok b) as bs) : as.mapM f = .ok bs := by
  induction h with
  | nil => rfl
  | cons ha _ ih =>
    rw [List.mapM_cons, ha, ih]
    rfl

/-- A list of computations that fails has one that fails. -/
theorem exists_of_mapM_error {f : α → Except ε β} {as : List α} {e : ε}
    (h : as.mapM f = .error e) : ∃ a ∈ as, f a = .error e := by
  induction as with
  | nil => cases h
  | cons a as ih =>
    rw [List.mapM_cons] at h
    rcases bind_eq_error_iff.1 h with ha | ⟨b, -, h⟩
    · exact ⟨a, List.mem_cons_self, ha⟩
    · rcases bind_eq_error_iff.1 h with hrest | ⟨bs, -, h⟩
      · obtain ⟨a', ha', hfails⟩ := ih hrest
        exact ⟨a', List.mem_cons_of_mem _ ha', hfails⟩
      · cases h

theorem foldlM_nil_eq_ok_iff {step : σ → α → Except ε σ} {s s' : σ} :
    [].foldlM step s = .ok s' ↔ s = s' := by
  rw [List.foldlM_nil, pure_eq_ok_iff]

theorem foldlM_cons_eq_ok_iff {step : σ → α → Except ε σ} {a : α} {as : List α} {s s' : σ} :
    (a :: as).foldlM step s = .ok s' ↔ ∃ t, step s a = .ok t ∧ as.foldlM step t = .ok s' := by
  rw [List.foldlM_cons, bind_eq_ok_iff]

/-- What every step keeps is kept by a fold that succeeds. -/
theorem foldlM_invariant {step : σ → α → Except ε σ} {P : σ → Prop}
    (hstep : ∀ s a t, P s → step s a = .ok t → P t) {as : List α} {s s' : σ} (hs : P s)
    (h : as.foldlM step s = .ok s') : P s' := by
  induction as generalizing s with
  | nil => exact foldlM_nil_eq_ok_iff.1 h ▸ hs
  | cons a as ih =>
    obtain ⟨t, ht, h⟩ := foldlM_cons_eq_ok_iff.1 h
    exact ih (hstep s a t hs ht) h

/-- A fold that fails has a first step that fails. -/
theorem foldlM_eq_error_iff {step : σ → α → Except ε σ} {as : List α} {s : σ} {e : ε} :
    as.foldlM step s = .error e ↔
      ∃ pre a post t, as = pre ++ a :: post ∧ pre.foldlM step s = .ok t ∧ step t a = .error e := by
  constructor
  · intro h
    induction as generalizing s with
    | nil => simp [List.foldlM_nil, pure, Except.pure] at h
    | cons a as ih =>
      rw [List.foldlM_cons, bind_eq_error_iff] at h
      rcases h with h | ⟨t, ht, h⟩
      · exact ⟨[], a, as, s, rfl, rfl, h⟩
      · obtain ⟨pre, b, post, u, rfl, hu, hb⟩ := ih h
        exact ⟨a :: pre, b, post, u, rfl, foldlM_cons_eq_ok_iff.2 ⟨t, ht, hu⟩, hb⟩
  · rintro ⟨pre, a, post, t, rfl, ht, ha⟩
    rw [List.foldlM_append, bind_eq_error_iff]
    refine Or.inr ⟨t, ht, ?_⟩
    rw [List.foldlM_cons, bind_eq_error_iff]
    exact Or.inl ha

theorem forM_eq_foldlM (f : α → Except ε Unit) (as : List α) :
    as.forM f = as.foldlM (fun _ a => f a) () := by
  induction as with
  | nil => rfl
  | cons a as ih =>
    show (f a >>= fun _ => as.forM f) = _
    rw [ih, List.foldlM_cons]

theorem forM_eq_ok_iff {f : α → Except ε Unit} {as : List α} :
    as.forM f = .ok () ↔ ∀ a ∈ as, f a = .ok () := by
  induction as with
  | nil => exact ⟨fun _ => nofun, fun _ => rfl⟩
  | cons a as ih =>
    rw [forM_eq_foldlM, foldlM_cons_eq_ok_iff, List.forall_mem_cons, ← ih, forM_eq_foldlM]
    constructor
    · rintro ⟨_, ha, has⟩
      exact ⟨ha, has⟩
    · rintro ⟨ha, has⟩
      exact ⟨(), ha, has⟩

/-- Checks that are made one after the other fail as the first of them that fails. -/
theorem forM_eq_error_iff {f : α → Except ε Unit} {as : List α} {e : ε} :
    as.forM f = .error e ↔
      ∃ pre a post, as = pre ++ a :: post ∧ (∀ b ∈ pre, f b = .ok ()) ∧ f a = .error e := by
  rw [forM_eq_foldlM, foldlM_eq_error_iff]
  constructor
  · rintro ⟨pre, a, post, _, has, hpre, ha⟩
    rw [← forM_eq_foldlM, forM_eq_ok_iff] at hpre
    exact ⟨pre, a, post, has, hpre, ha⟩
  · rintro ⟨pre, a, post, has, hpre, ha⟩
    rw [← forM_eq_ok_iff, forM_eq_foldlM] at hpre
    exact ⟨pre, a, post, (), has, hpre, ha⟩

/-! ## Two computations beside each other -/

/-- Two computations fail for the same reason, or come to answers that are related. -/
inductive Alike (R : α → β → Prop) : Except ε α → Except ε β → Prop
  | ok {a : α} {b : β} (h : R a b) : Alike R (.ok a) (.ok b)
  | error (e : ε) : Alike R (.error e) (.error e)

theorem Alike.bind {α' β' : Type} {R : α → β → Prop} {S : α' → β' → Prop} {x : Except ε α}
    {y : Except ε β} {f : α → Except ε α'} {g : β → Except ε β'} (hxy : Alike R x y)
    (hfg : ∀ a b, R a b → Alike S (f a) (g b)) : Alike S (x >>= f) (y >>= g) := by
  cases hxy with
  | ok h => exact hfg _ _ h
  | error e => exact Alike.error e

theorem Alike.refl (x : Except ε α) : Alike (· = ·) x x := by
  cases x with
  | ok a => exact Alike.ok rfl
  | error e => exact Alike.error e

theorem Alike.ok_or_error {R : α → β → Prop} {x : Except ε α} {y : Except ε β} (h : Alike R x y) :
    (∃ a b, x = .ok a ∧ y = .ok b ∧ R a b) ∨ ∃ e, x = .error e ∧ y = .error e := by
  cases h with
  | ok h => exact .inl ⟨_, _, rfl, rfl, h⟩
  | error e => exact .inr ⟨e, rfl, rfl⟩

theorem Alike.mono {R S : α → β → Prop} {x : Except ε α} {y : Except ε β} (h : Alike R x y)
    (hRS : ∀ a b, R a b → S a b) : Alike S x y := by
  cases h with
  | ok h => exact .ok (hRS _ _ h)
  | error e => exact .error e

/-- Where answers are the same, the computations are. -/
theorem Alike.eq {x y : Except ε α} (h : Alike (· = ·) x y) : x = y := by
  cases h with
  | ok h => exact congrArg Except.ok h
  | error e => rfl

theorem Alike.of_eq {x y : Except ε α} (h : x = y) : Alike (· = ·) x y := h ▸ Alike.refl x

/-- After the same computation it is enough that what follows is alike. -/
theorem Alike.bind_same {α' β' : Type} {S : α' → β' → Prop} (x : Except ε α)
    {f : α → Except ε α'} {g : α → Except ε β'} (hfg : ∀ a, Alike S (f a) (g a)) :
    Alike S (x >>= f) (x >>= g) :=
  (Alike.refl x).bind fun a _ h => h ▸ hfg a

theorem Alike.map_eq {γ : Type} {R : α → β → Prop} {x : Except ε α} {y : Except ε β} {f : α → γ}
    {g : β → γ} (h : Alike R x y) (hfg : ∀ a b, R a b → f a = g b) : x.map f = y.map g := by
  cases h with
  | ok hR => exact congrArg Except.ok (hfg _ _ hR)
  | error e => rfl

/-- Folds whose steps keep states related come to related states. -/
theorem Alike.foldlM {σ' : Type} {R : σ → σ' → Prop} {step : σ → α → Except ε σ}
    {step' : σ' → α → Except ε σ'}
    (hstep : ∀ s s' a, R s s' → Alike R (step s a) (step' s' a)) (as : List α) {s : σ} {s' : σ'}
    (hs : R s s') : Alike R (as.foldlM step s) (as.foldlM step' s') := by
  induction as generalizing s s' with
  | nil => exact Alike.ok hs
  | cons a as ih =>
    rw [List.foldlM_cons, List.foldlM_cons]
    exact (hstep s s' a hs).bind fun t t' ht => ih ht

/-! ## Computations with the same answers -/

/-- Two computations come to the same answer if either comes to one. If they fail they may fail for
different reasons. -/
def SameAnswer (x y : Except ε α) : Prop := ∀ a, x = .ok a ↔ y = .ok a

namespace SameAnswer

variable {x y z : Except ε α}

@[refl] theorem refl (x : Except ε α) : SameAnswer x x := fun _ => Iff.rfl

theorem of_eq (h : x = y) : SameAnswer x y := h ▸ refl x

theorem of_errors (e e' : ε) : SameAnswer (.error e : Except ε α) (.error e') := fun a => by simp

@[symm] theorem symm (h : SameAnswer x y) : SameAnswer y x := fun a => (h a).symm

/-- Either both give one answer, or both fail. -/
theorem ok_or_error (h : SameAnswer x y) :
    (∃ a, x = .ok a ∧ y = .ok a) ∨ ∃ e e', x = .error e ∧ y = .error e' := by
  cases x with
  | ok a => exact .inl ⟨a, rfl, (h a).1 rfl⟩
  | error e =>
    cases y with
    | ok a => cases (h a).2 rfl
    | error e' => exact .inr ⟨e, e', rfl, rfl⟩

@[trans] theorem trans (h : SameAnswer x y) (h' : SameAnswer y z) : SameAnswer x z := fun a =>
  (h a).trans (h' a)

theorem bind {f g : α → Except ε β} (h : SameAnswer x y) (hfg : ∀ a, SameAnswer (f a) (g a)) :
    SameAnswer (x >>= f) (y >>= g) := by
  intro b
  rw [bind_eq_ok_iff, bind_eq_ok_iff]
  exact exists_congr fun a => and_congr (h a) (hfg a b)

theorem map (f : α → β) (h : SameAnswer x y) : SameAnswer (x.map f) (y.map f) := by
  intro b
  rw [map_eq_ok_iff, map_eq_ok_iff]
  exact exists_congr fun a => and_congr_left fun _ => h a

theorem mapM {f : α → Except ε β} {l l' : List α}
    (h : List.Forall₂ (fun a a' => SameAnswer (f a) (f a')) l l') :
    SameAnswer (l.mapM f) (l'.mapM f) := by
  induction h with
  | nil => exact refl _
  | cons ha _ ih =>
    rw [List.mapM_cons, List.mapM_cons]
    exact ha.bind fun b => ih.bind fun bs => refl _

end SameAnswer

/-- Things in another order come to the same answers in another order. -/
theorem exists_mapM_of_perm {f : α → Except ε β} {l l' : List α} (hperm : l.Perm l') {bs : List β}
    (h : l.mapM f = .ok bs) : ∃ bs', l'.mapM f = .ok bs' ∧ bs.Perm bs' := by
  obtain ⟨bs', hall, hperm'⟩ := List.perm_comp_forall₂ hperm.symm (forall₂_of_mapM h)
  exact ⟨bs', mapM_of_forall₂ hall, hperm'.symm⟩

end Promotions.Fallible
