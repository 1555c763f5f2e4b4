import Mathlib.Data.List.Perm.Basic
import Mathlib.Data.List.Perm.Subperm

/-!
# Proofs: lists that correspond to each other

Two lists correspond when they are equally long and a relation holds at each place. Members,
sublists and rearrangements of one of them have counterparts in the other.
-/

namespace Promotions.Correspondence

variable {α β : Type} {R : α → β → Prop}

theorem exists_left {as : List α} {bs : List β} (h : List.Forall₂ R as bs) {b : β} (hb : b ∈ bs) :
    ∃ a ∈ as, R a b := by
  induction h with
  | nil => simp at hb
  | @cons a b' as bs hab _ ih =>
    rcases List.mem_cons.1 hb with rfl | hb
    · exact ⟨a, List.mem_cons_self, hab⟩
    · obtain ⟨a', ha', hR⟩ := ih hb
      exact ⟨a', List.mem_cons_of_mem _ ha', hR⟩

/-- What follows from the relation for members holds at each place. -/
theorem imp_of_mem {S : α → β → Prop} {as : List α} {bs : List β} (h : List.Forall₂ R as bs)
    (hRS : ∀ a ∈ as, ∀ b ∈ bs, R a b → S a b) : List.Forall₂ S as bs := by
  induction h with
  | nil => exact List.Forall₂.nil
  | cons hab _ ih =>
    refine List.Forall₂.cons (hRS _ List.mem_cons_self _ List.mem_cons_self hab) (ih ?_)
    intro a ha b hb
    exact hRS a (List.mem_cons_of_mem _ ha) b (List.mem_cons_of_mem _ hb)

theorem exists_sublist {as : List α} {bs bs' : List β} (h : List.Forall₂ R as bs)
    (hsub : bs'.Sublist bs) : ∃ as', as'.Sublist as ∧ List.Forall₂ R as' bs' := by
  induction hsub generalizing as with
  | slnil => exact ⟨[], List.nil_sublist _, List.Forall₂.nil⟩
  | cons b _ ih =>
    cases h with
    | cons _ h =>
      obtain ⟨as', hsub', hall⟩ := ih h
      exact ⟨as', hsub'.cons _, hall⟩
  | cons_cons b _ ih =>
    cases h with
    | cons hab h =>
      obtain ⟨as', hsub', hall⟩ := ih h
      exact ⟨_ :: as', hsub'.cons_cons _, List.Forall₂.cons hab hall⟩

theorem exists_perm {as : List α} {bs bs' : List β} (h : List.Forall₂ R as bs)
    (hperm : bs.Perm bs') : ∃ as', as'.Perm as ∧ List.Forall₂ R as' bs' := by
  have hcomp : Relation.Comp (List.Forall₂ R) List.Perm as bs' := ⟨bs, h, hperm⟩
  rw [List.forall₂_comp_perm_eq_perm_comp_forall₂] at hcomp
  obtain ⟨as', hperm', hall⟩ := hcomp
  exact ⟨as', hperm'.symm, hall⟩

theorem exists_subperm {as : List α} {bs bs' : List β} (h : List.Forall₂ R as bs)
    (hsub : bs'.Subperm bs) : ∃ as', as'.Subperm as ∧ List.Forall₂ R as' bs' := by
  obtain ⟨bs₁, hperm, hsub₁⟩ := hsub
  obtain ⟨as₁, hsub', hall⟩ := exists_sublist h hsub₁
  obtain ⟨as', hperm', hall'⟩ := exists_perm hall hperm
  exact ⟨as', hperm'.subperm.trans hsub'.subperm, hall'⟩

end Promotions.Correspondence
