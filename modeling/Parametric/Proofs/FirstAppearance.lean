import Mathlib.Data.List.Nodup

/-! # Lists without repetitions, of keys or in the order of first appearance -/
namespace Parametric

section Key

variable {α β : Type} [DecidableEq β] {key : α → β} {xs : List α} {k : β} {a : α}

theorem find?_key_eq_none_iff : xs.find? (key · = k) = none ↔ k ∉ xs.map key := by
  simp

/-- A key that no two elements share leads to the one element that has it. -/
theorem find?_key_eq_some_iff (hn : (xs.map key).Nodup) :
    xs.find? (key · = k) = some a ↔ a ∈ xs ∧ key a = k := by
  constructor
  · intro h
    exact ⟨List.mem_of_find?_eq_some h, by simpa using List.find?_some h⟩
  · rintro ⟨ha, rfl⟩
    obtain ⟨before, after, rfl⟩ := List.append_of_mem ha
    rw [List.map_append, List.map_cons, List.nodup_middle, List.nodup_cons, List.mem_append,
      not_or] at hn
    rw [List.find?_append, find?_key_eq_none_iff.2 hn.1.1]
    simp

end Key

/-- What stands before the first element with a property, that element and the rest are determined by
the list. -/
theorem eq_of_append_cons_eq {α : Type} {p : α → Prop} {x y z w : List α} {a b : α}
    (hx : ∀ c ∈ x, ¬ p c) (ha : p a) (hy : ∀ c ∈ y, ¬ p c) (hb : p b)
    (h : x ++ a :: z = y ++ b :: w) : x = y ∧ a = b ∧ z = w := by
  induction x generalizing y with
  | nil =>
    cases y with
    | nil => exact ⟨rfl, List.cons.inj h⟩
    | cons d y =>
      obtain ⟨rfl, -⟩ := List.cons.inj h
      exact absurd ha (hy a List.mem_cons_self)
  | cons c x ih =>
    cases y with
    | nil =>
      obtain ⟨rfl, -⟩ := List.cons.inj h
      exact absurd hb (hx c List.mem_cons_self)
    | cons d y =>
      obtain ⟨rfl, htail⟩ := List.cons.inj h
      obtain ⟨rfl, hrest⟩ := ih (List.forall_mem_cons.1 hx).2 (List.forall_mem_cons.1 hy).2 htail
      exact ⟨rfl, hrest⟩

variable {α : Type} [BEq α]

@[elab_as_elim]
theorem first_appearance_induction {motive : List α → Prop} (nil : motive [])
    (cons : ∀ a xs, motive (xs.filter fun b => !b == a) → motive (a :: xs)) (xs : List α) :
    motive xs := by
  generalize hl : xs.length = k
  induction k using Nat.strongRecOn generalizing xs with
  | ind k ih =>
    cases xs with
    | nil => exact nil
    | cons a xs =>
      have hle := List.length_filter_le (fun b => !b == a) xs
      rw [List.length_cons] at hl
      exact cons a xs (ih _ (by omega) _ rfl)

variable [LawfulBEq α]

theorem nodup_eraseDups (xs : List α) : xs.eraseDups.Nodup := by
  induction xs using first_appearance_induction with
  | nil => simp
  | cons a xs ih =>
    rw [List.eraseDups_cons, List.nodup_cons, List.mem_eraseDups]
    exact ⟨by simp, ih⟩

theorem idxOf_lt_of_filter {p : α → Bool} {xs : List α} {a b : α} (hb : p b = true)
    (h : (xs.filter p).idxOf a < (xs.filter p).idxOf b) : xs.idxOf a < xs.idxOf b := by
  induction xs with
  | nil => exact h
  | cons x xs ih =>
    by_cases hxa : x = a
    · subst hxa
      have hne : x ≠ b := by
        rintro rfl
        exact Nat.lt_irrefl _ h
      rw [List.idxOf_cons_self, List.idxOf_cons_ne xs hne]
      exact Nat.succ_pos _
    · by_cases hx : p x = true
      · rw [List.filter_cons_of_pos hx, List.idxOf_cons_ne _ hxa] at h
        have hne : x ≠ b := by
          rintro rfl
          rw [List.idxOf_cons_self] at h
          exact Nat.not_lt_zero _ h
        rw [List.idxOf_cons_ne _ hne] at h
        rw [List.idxOf_cons_ne _ hxa, List.idxOf_cons_ne _ hne]
        exact Nat.succ_lt_succ (ih (Nat.lt_of_succ_lt_succ h))
      · have hne : x ≠ b := by
          rintro rfl
          exact hx hb
        rw [List.filter_cons_of_neg hx] at h
        rw [List.idxOf_cons_ne _ hxa, List.idxOf_cons_ne _ hne]
        exact Nat.succ_lt_succ (ih h)

theorem pairwise_eraseDups (xs : List α) :
    xs.eraseDups.Pairwise fun a b => xs.idxOf a < xs.idxOf b := by
  induction xs using first_appearance_induction with
  | nil => simp
  | cons a xs ih =>
    have hne : ∀ b ∈ (xs.filter fun b => !b == a).eraseDups, a ≠ b := by
      intro b hb
      have hmem := List.mem_eraseDups.1 hb
      rintro rfl
      simp at hmem
    rw [List.eraseDups_cons, List.pairwise_cons]
    constructor
    · intro b hb
      rw [List.idxOf_cons_self, List.idxOf_cons_ne xs (hne b hb)]
      exact Nat.succ_pos _
    · apply ih.imp_of_mem
      intro b c hb hc h
      rw [List.idxOf_cons_ne xs (hne b hb), List.idxOf_cons_ne xs (hne c hc)]
      exact Nat.succ_lt_succ (idxOf_lt_of_filter (by simpa using (hne c hc).symm) h)

/-- Some elements of a list, each once, in the order in which they first appear in it. -/
structure FirstAppearances (xs ys : List α) : Prop where
  mem : ∀ a ∈ xs, a ∈ ys
  nodup : xs.Nodup
  order : xs.Pairwise fun a b => ys.idxOf a < ys.idxOf b

theorem firstAppearances_filter (p : α → Bool) (xs : List α) :
    FirstAppearances (xs.filter p).eraseDups xs where
  mem a ha := List.mem_of_mem_filter (List.mem_eraseDups.1 ha)
  nodup := nodup_eraseDups _
  order := by
    apply (pairwise_eraseDups (xs.filter p)).imp_of_mem
    intro a b ha hb h
    exact idxOf_lt_of_filter (List.mem_filter.1 (List.mem_eraseDups.1 hb)).2 h

theorem filter_eraseDups (p : α → Bool) (xs : List α) :
    xs.eraseDups.filter p = (xs.filter p).eraseDups := by
  induction xs using first_appearance_induction with
  | nil => rfl
  | cons a xs ih =>
    rw [List.eraseDups_cons]
    by_cases ha : p a = true
    · rw [List.filter_cons_of_pos ha, List.filter_cons_of_pos ha, List.eraseDups_cons, ih,
        List.filter_filter, List.filter_filter]
      simp only [Bool.and_comm]
    · -- without `a` among the kept ones it does not matter that it was taken out
      have hsame : (xs.filter fun b => !b == a).filter p = xs.filter p := by
        rw [List.filter_filter]
        refine List.filter_congr fun b _ => ?_
        by_cases hb : b = a
        · simp [hb, ha]
        · simp [hb]
      rw [List.filter_cons_of_neg ha, List.filter_cons_of_neg ha, ih, hsame]

end Parametric
