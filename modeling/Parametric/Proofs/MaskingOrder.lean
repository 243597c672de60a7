import Mathlib.Data.List.Permutation
import Parametric.Proofs.Sweep

/-! # Looking for references masks the names that the tokenizer masks, in the same order

Both sort longest first and keep the order of the list among names of one length. So a name has its
turn after the longer ones and after those as long that stand before it. -/
namespace Parametric

namespace Formula

section LongestFirst

variable {α : Type} (size : α → Nat)

theorem longestFirst_filter (p : α → Bool) (xs : List α) :
    (longestFirst size xs).filter p = longestFirst size (xs.filter p) := by
  have hsize : ∀ a b, Option.guard p a = some b → size b = size a := by
    intro a b h
    rw [(Option.guard_eq_some_iff.1 h).1]
  simpa only [List.filterMap_eq_filter] using longestFirst_filterMap size hsize xs

/-- What is at least of some size is sorted first, and all else after it. -/
theorem longestFirst_cut (k : Nat) (xs : List α) :
    longestFirst size xs = longestFirst size (xs.filter (k ≤ size ·)) ++
      longestFirst size (xs.filter (size · < k)) := by
  obtain ⟨large, small, hs, hl, hm⟩ :=
    exists_append_of_pairwise size (longestFirst_pairwise size xs) k
  have hlarge : (longestFirst size xs).filter (k ≤ size ·) = large := by
    rw [hs, List.filter_append, List.filter_eq_self.2 (by simpa using hl),
      List.filter_eq_nil_iff.2 (by simpa using hm), List.append_nil]
  have hsmall : (longestFirst size xs).filter (size · < k) = small := by
    rw [hs, List.filter_append, List.filter_eq_nil_iff.2 (by simpa using hl),
      List.filter_eq_self.2 (by simpa using hm), List.nil_append]
  rw [← longestFirst_filter, ← longestFirst_filter, hlarge, hsmall, hs]

theorem longestFirst_of_size {k : Nat} {xs : List α} (h : ∀ a ∈ xs, size a = k) :
    longestFirst size xs = xs := by
  refine List.mergeSort_of_pairwise (List.pairwise_of_forall_mem_list fun a ha b hb => ?_)
  rw [h a ha, h b hb]
  exact decide_eq_true (Nat.le_refl k)

theorem filter_filter_of_imp {p q : α → Prop} [DecidablePred p] [DecidablePred q]
    (h : ∀ a, p a → q a) (xs : List α) :
    (xs.filter fun a => q a).filter (fun a => p a) = xs.filter fun a => p a := by
  rw [List.filter_filter]
  refine List.filter_congr fun a _ => ?_
  rw [← Bool.decide_and, decide_eq_decide, and_iff_left_of_imp (h a)]

/-- The larger elements come first, then those of some size in their order, then the smaller ones. -/
theorem longestFirst_cut_at (k : Nat) (xs : List α) :
    longestFirst size xs = longestFirst size (xs.filter (k < size ·)) ++
      (xs.filter (size · = k) ++ longestFirst size (xs.filter (size · < k))) := by
  have hequal : (xs.filter (size · < k + 1)).filter (k ≤ size ·) = xs.filter (size · = k) := by
    rw [List.filter_filter]
    refine List.filter_congr fun a _ => ?_
    rw [← Bool.decide_and, decide_eq_decide]
    omega
  have hsmall : (xs.filter (size · < k + 1)).filter (size · < k) = xs.filter (size · < k) :=
    filter_filter_of_imp (fun a h => by omega) xs
  have hstay : longestFirst size (xs.filter (size · = k)) = xs.filter (size · = k) :=
    longestFirst_of_size size (k := k) (by simp)
  rw [longestFirst_cut size (k + 1), longestFirst_cut size k (xs.filter (size · < k + 1)), hequal,
    hsmall, hstay]
  rfl

/-- An element has its place after the larger ones and after those of its size that stand before it.
Without it the others have the places that they had. -/
theorem longestFirst_append_cons (us vs : List α) (a : α) :
    ∃ later, longestFirst size (us ++ a :: vs) =
        longestFirst size (us.filter (size a ≤ size ·) ++ vs.filter (size a < size ·)) ++
          a :: later ∧
      longestFirst size (us ++ vs) =
        longestFirst size (us.filter (size a ≤ size ·) ++ vs.filter (size a < size ·)) ++ later := by
  have hlarger : (us.filter (size a ≤ size ·) ++ vs.filter (size a < size ·)).filter
      (size a < size ·) = us.filter (size a < size ·) ++ vs.filter (size a < size ·) := by
    rw [List.filter_append, filter_filter_of_imp (fun b => Nat.le_of_lt),
      filter_filter_of_imp (fun b h => h)]
  have hequal : (us.filter (size a ≤ size ·) ++ vs.filter (size a < size ·)).filter
      (size · = size a) = us.filter (size · = size a) := by
    have hnone : (vs.filter (size a < size ·)).filter (size · = size a) = [] := by
      simp +contextual
    rw [List.filter_append, filter_filter_of_imp (fun b => Nat.le_of_eq ∘ Eq.symm), hnone,
      List.append_nil]
  have hsmaller : (us.filter (size a ≤ size ·) ++ vs.filter (size a < size ·)).filter
      (size · < size a) = [] := by
    simp +contextual [Nat.le_of_lt]
  have hnil : longestFirst size ([] : List α) = [] := List.mergeSort_nil
  refine ⟨vs.filter (size · = size a) ++
    longestFirst size (us.filter (size · < size a) ++ vs.filter (size · < size a)), ?_, ?_⟩
  all_goals
    rw [longestFirst_cut_at size (size a) (us.filter (size a ≤ size ·) ++ _), hlarger, hequal,
      hsmaller, hnil, longestFirst_cut_at size (size a)]
    simp [List.filter_append]

end LongestFirst

end Formula

namespace Reference

open Formula

variable (d : Dialect)

theorem text_foldl_step (ps : List Parameter) (s : Sweep) :
    (ps.foldl (Sweep.step d) s).text =
      (ps.filterMap soughtName).foldl (fun t n => mask d n t) s.text := by
  induction ps generalizing s with
  | nil => rfl
  | cons p ps ih =>
    rw [List.foldl_cons, ih]
    cases h : soughtName p with
    | none => rw [step_of_not_sought d h, List.filterMap_cons_none h]
    | some n => rw [step_of_sought d h, List.filterMap_cons_some h, List.foldl_cons]

theorem text_sweep (ps : List Parameter) (text : Text) :
    (sweep d ps text).text = maskAll d (names ps) text := by
  rw [sweep, text_foldl_step, ← soughtNames_eq]
  rfl

theorem mem_foldl_step_of_notMem {ps : List Parameter} {id : Ident} (h : id ∉ ps.map (·.id))
    (s : Sweep) : id ∈ (ps.foldl (Sweep.step d) s).found ↔ id ∈ s.found := by
  induction ps generalizing s with
  | nil => rfl
  | cons p ps ih =>
    rw [List.map_cons, List.mem_cons, not_or] at h
    obtain ⟨hp, hps⟩ := h
    rw [List.foldl_cons, ih hps]
    unfold Sweep.step
    split
    · rfl
    · split
      · simp [hp]
      · rfl

theorem mem_step_iff {p : Parameter} {s : Sweep} (h : p.id ∉ s.found) :
    p.id ∈ (s.step d p).found ↔ ∃ n, p.name = some n ∧ mentions d n s.text = true := by
  unfold Sweep.step
  split
  case h_1 hn => simp [h, hn]
  case h_2 n hn =>
    split
    case isTrue hm => simp [hn, hm]
    case isFalse hm => simp [h, hn, hm]

/-- The parameters that have their turn before one that stands between `us` and `vs`: those with
longer names, and those before it with names as long. -/
def sooner (us : List Parameter) (p : Parameter) (vs : List Parameter) : List Parameter :=
  us.filter (nameLength p ≤ nameLength ·) ++ vs.filter (nameLength p < nameLength ·)

theorem nameLength_le_of_mem_sooner {us vs : List Parameter} {p q : Parameter}
    (h : q ∈ sooner us p vs) : nameLength p ≤ nameLength q := by
  rcases List.mem_append.1 h with h | h
  · exact of_decide_eq_true (List.mem_filter.1 h).2
  · exact Nat.le_of_lt (of_decide_eq_true (List.mem_filter.1 h).2)

theorem soughtNames_append_cons {p : Parameter} {n : Text} (hp : p.name = some n) (hn : n ≠ [])
    (us vs : List Parameter) :
    ∃ later, soughtNames (us ++ p :: vs) = soughtNames (sooner us p vs) ++ n :: later := by
  obtain ⟨later, hl, -⟩ := longestFirst_append_cons nameLength us vs p
  refine ⟨later.filterMap soughtName, ?_⟩
  rw [soughtNames_eq, soughtNames_eq, hl, List.filterMap_append,
    List.filterMap_cons_some (soughtName_eq_some_iff.2 ⟨hp, hn⟩), sooner]

theorem mem_of_iff_mentions {us vs : List Parameter} {p : Parameter}
    (hids : ((us ++ p :: vs).map (·.id)).Nodup) {text : Text} (ht : text.isBlank = false) :
    p ∈ Reference.of d (us ++ p :: vs) (some text) ↔
      ∃ n, p.name = some n ∧ mentions d n (maskAll d (names (sooner us p vs)) text) = true := by
  obtain ⟨later, hl, -⟩ := longestFirst_append_cons nameLength us vs p
  rw [← sooner] at hl
  have hperm := longestFirst_perm nameLength (us ++ p :: vs)
  rw [← (hperm.map (·.id)).nodup_iff, hl, List.map_append, List.map_cons, List.nodup_middle,
    List.nodup_cons, List.mem_append, not_or] at hids
  obtain ⟨⟨hbefore, hafter⟩, -⟩ := hids
  have hnot : p.id ∉ (sweep d (sooner us p vs) text).found := by
    rw [sweep, mem_foldl_step_of_notMem d hbefore]
    simp
  have hof : p ∈ Reference.of d (us ++ p :: vs) (some text) ↔
      p.id ∈ (sweep d (us ++ p :: vs) text).found := by
    simp [Reference.of, written?_some ht, Parameter.select]
  rw [hof, sweep, hl, List.foldl_append, List.foldl_cons, mem_foldl_step_of_notMem d hafter,
    ← text_sweep]
  exact mem_step_iff d hnot

/-- Looking for references leaves the text that masking the names leaves. If identities tell the
parameters apart, one is referenced just when its name stands delimited in what masking has left by
its own turn. -/
theorem sweep_masks_names (d : Dialect) (ps : List Parameter) {text : Text}
    (ht : text.isBlank = false) :
    (sweep d ps text).text = maskAll d (names ps) text ∧
      (∀ us p vs n, ps = us ++ p :: vs → p.name = some n → n ≠ [] →
        ∃ later, soughtNames ps = soughtNames (sooner us p vs) ++ n :: later) ∧
      ((ps.map (·.id)).Nodup → ∀ us p vs, ps = us ++ p :: vs →
        (p ∈ Reference.of d ps (some text) ↔ ∃ n, p.name = some n ∧ n ≠ [] ∧
          ∃ i, DelimitedAt d n (maskAll d (names (sooner us p vs)) text) i)) := by
  refine ⟨text_sweep d ps text, ?_, ?_⟩
  · rintro us p vs n rfl hp hn
    exact soughtNames_append_cons hp hn us vs
  · rintro hids us p vs rfl
    simp only [mem_of_iff_mentions d hids ht, mentions_iff_delimitedAt]

def called (id : Int) (name : Option Text) : Parameter :=
  ⟨.number id, name, false, .null, none, false⟩

def namesakes : List Parameter :=
  [called 1 (some "A"), called 2 none, called 3 (some "A"), called 4 (some "A B"), called 5 (some "")]

theorem sweep_masks_names_namesakes :
    Text.isBlank "A B+A" = false ∧ (namesakes.map (·.id)).Nodup ∧
      called 1 (some "A") ∈ Reference.of .standard namesakes (some "A B+A") ∧
      called 3 (some "A") ∉ Reference.of .standard namesakes (some "A B+A") := by
  have ht : Text.isBlank "A B+A" = false := by decide
  have hids : (namesakes.map (·.id)).Nodup := by decide
  obtain ⟨-, -, hown⟩ := sweep_masks_names .standard namesakes ht
  have hfirst : maskAll .standard (names (sooner [] (called 1 (some "A")) (namesakes.drop 1)))
      "A B+A" = "   +A" := by cbv
  have hsecond : mentions .standard "A" (maskAll .standard (names (sooner (namesakes.take 2)
      (called 3 (some "A")) (namesakes.drop 3))) "A B+A") = false := by cbv
  refine ⟨ht, hids, ?_, ?_⟩
  · refine (hown hids [] _ (namesakes.drop 1) rfl).2 ⟨"A", rfl, by simp, 4, ?_⟩
    rw [hfirst]
    exact ⟨by decide, by decide, by decide⟩
  · intro h
    obtain ⟨n, hn, hdel⟩ := (hown hids (namesakes.take 2) _ (namesakes.drop 3) rfl).1 h
    obtain rfl := Option.some.inj hn
    rw [← mentions_iff_delimitedAt, hsecond] at hdel
    exact Bool.false_ne_true hdel

end Reference

end Parametric
