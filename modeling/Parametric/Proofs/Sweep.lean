import Mathlib.Data.List.Nodup
import Parametric.Proofs.Occurrence
import Parametric.Snapshot
import Parametric.Reference

/-! # The spans found when names are looked for longest first, and the references they stand for -/
namespace Parametric

namespace Formula

section LongestFirst

variable {α β : Type} (size : α → Nat)

theorem longer_trans (a b c : α) (h : decide (size b ≤ size a) = true)
    (h' : decide (size c ≤ size b) = true) : decide (size c ≤ size a) = true :=
  decide_eq_true (Nat.le_trans (of_decide_eq_true h') (of_decide_eq_true h))

theorem longer_total (a b : α) :
    (decide (size b ≤ size a) || decide (size a ≤ size b)) = true := by
  simpa using Nat.le_total (size b) (size a)

theorem longestFirst_pairwise (xs : List α) :
    (longestFirst size xs).Pairwise fun a b => size b ≤ size a :=
  (List.pairwise_mergeSort (longer_trans size) (longer_total size) xs).imp of_decide_eq_true

theorem mem_longestFirst {xs : List α} {a : α} : a ∈ longestFirst size xs ↔ a ∈ xs :=
  List.mem_mergeSort

theorem longestFirst_perm (xs : List α) : (longestFirst size xs).Perm xs :=
  List.mergeSort_perm xs _

theorem longestFirst_cons (a : α) (xs : List α) :
    ∃ longer others, longestFirst size (a :: xs) = longer ++ a :: others ∧
      longestFirst size xs = longer ++ others ∧
      (∀ b ∈ longer, size a < size b) ∧ ∀ b ∈ others, size b ≤ size a := by
  obtain ⟨longer, others, hc, hs, hl⟩ :=
    List.mergeSort_cons (longer_trans size) (longer_total size) a xs
  refine ⟨longer, others, hc, hs, fun b hb => by simpa using hl b hb, fun b hb => ?_⟩
  have hp := longestFirst_pairwise size (a :: xs)
  rw [longestFirst, hc] at hp
  exact (List.pairwise_cons.1 (List.pairwise_append.1 hp).2.1).1 b hb

/-- The sort is stable, so it does not matter whether elements are left out before or after it. -/
theorem longestFirst_filterMap {f : α → Option β} {size' : β → Nat}
    (hf : ∀ a b, f a = some b → size' b = size a) (xs : List α) :
    (longestFirst size xs).filterMap f = longestFirst size' (xs.filterMap f) := by
  induction xs with
  | nil => simp [longestFirst]
  | cons a xs ih =>
    obtain ⟨longer, others, hc, hs, hl, ho⟩ := longestFirst_cons size a xs
    rw [hs, List.filterMap_append] at ih
    rw [hc, List.filterMap_append]
    cases ha : f a with
    | none => rw [List.filterMap_cons_none ha, List.filterMap_cons_none ha, ih]
    | some b =>
      rw [List.filterMap_cons_some ha, List.filterMap_cons_some ha]
      obtain ⟨longer', others', hc', hs', hl', ho'⟩ :=
        longestFirst_cons size' b (xs.filterMap f)
      rw [hs'] at ih
      have hlong : ∀ c ∈ longer.filterMap f, size' b < size' c := by
        intro c hm
        obtain ⟨x, hx, hfx⟩ := List.mem_filterMap.1 hm
        rw [hf a b ha, hf x c hfx]
        exact hl x hx
      have hshort : ∀ c ∈ others.filterMap f, size' c ≤ size' b := by
        intro c hm
        obtain ⟨x, hx, hfx⟩ := List.mem_filterMap.1 hm
        rw [hf a b ha, hf x c hfx]
        exact ho x hx
      have pick (us vs : List β) (hu : ∀ c ∈ us, size' b < size' c)
          (hv : ∀ c ∈ vs, size' c ≤ size' b) :
          (us ++ vs).filter (size' b < size' ·) = us := by
        rw [List.filter_append, List.filter_eq_self.2 (by simpa using hu),
          List.filter_eq_nil_iff.2 (by simpa using hv), List.append_nil]
      have heq : longer.filterMap f = longer' := by
        rw [← pick _ _ hlong hshort, ih, pick _ _ hl' ho']
      rw [heq] at ih
      rw [hc', heq, List.append_cancel_left ih]

/-- Sorted elements of at least some size come before the others. -/
theorem exists_append_of_pairwise {xs : List α} (h : xs.Pairwise fun a b => size b ≤ size a)
    (k : Nat) : ∃ large small, xs = large ++ small ∧ (∀ a ∈ large, k ≤ size a) ∧
      ∀ a ∈ small, size a < k := by
  induction xs with
  | nil => exact ⟨[], [], rfl, by simp, by simp⟩
  | cons a xs ih =>
    obtain ⟨ha, hxs⟩ := List.pairwise_cons.1 h
    by_cases hk : k ≤ size a
    · obtain ⟨large, small, rfl, hl, hs⟩ := ih hxs
      exact ⟨a :: large, small, rfl, List.forall_mem_cons.2 ⟨hk, hl⟩, hs⟩
    · refine ⟨[], a :: xs, rfl, by simp, List.forall_mem_cons.2 ⟨by omega, fun b hb => ?_⟩⟩
      have := ha b hb
      omega

end LongestFirst

variable (d : Dialect)

/-- The spans blanked when names are looked for one after the other. -/
def foundSpans : List Text → Text → List Span
  | [], _ => []
  | n :: names, text => maskedSpans d n text ++ foundSpans names (mask d n text)

theorem foldl_mask (names : List Text) (text : Text) :
    names.foldl (fun t n => mask d n t) text = blanked (foundSpans d names text) text := by
  induction names generalizing text with
  | nil => simp [foundSpans]
  | cons n names ih =>
    rw [List.foldl_cons, ih, foundSpans, blanked_append, ← mask_eq_blanked]

theorem foundSpans_append (names more : List Text) (text : Text) :
    foundSpans d (names ++ more) text =
      foundSpans d names text ++ foundSpans d more (blanked (foundSpans d names text) text) := by
  induction names generalizing text with
  | nil => simp [foundSpans]
  | cons n names ih =>
    simp [foundSpans, ih, blanked_append, ← mask_eq_blanked]

variable {d}

theorem mem_of_mem_foundSpans {names : List Text} {text : Text} {s : Span}
    (h : s ∈ foundSpans d names text) : s.name ∈ names ∧ s.name ≠ [] := by
  induction names generalizing text with
  | nil => simp [foundSpans] at h
  | cons n names ih =>
    rcases List.mem_append.1 h with h | h
    · obtain ⟨rfl, hn, _⟩ := mem_maskedSpans h
      exact ⟨List.mem_cons_self, hn⟩
    · exact ⟨List.mem_cons_of_mem n (ih h).1, (ih h).2⟩

theorem delimits_stop {names : List Text} {text : Text} {s : Span} (h : s ∈ foundSpans d names text)
    (hc : ∀ t ∈ foundSpans d names text, ¬ t.Covers s.stop) : delimits d text[s.stop]? = true := by
  induction names generalizing text with
  | nil => simp [foundSpans] at h
  | cons n names ih =>
    simp only [foundSpans, List.forall_mem_append] at hc
    rcases List.mem_append.1 h with h | h
    · exact (delimited_of_mem_maskedSpans h).2.2
    · have hd := ih h hc.2
      rwa [mask_eq_blanked, getElem?_blanked_of_not_covered hc.1] at hd

theorem delimits_before_start {names : List Text} {text : Text} {s : Span} {k : Nat}
    (h : s ∈ foundSpans d names text) (hk : s.start = k + 1)
    (hc : ∀ t ∈ foundSpans d names text, ¬ t.Covers k) : delimits d text[k]? = true := by
  induction names generalizing text with
  | nil => simp [foundSpans] at h
  | cons n names ih =>
    simp only [foundSpans, List.forall_mem_append] at hc
    rcases List.mem_append.1 h with h | h
    · have hd := (delimited_of_mem_maskedSpans h).2.1
      rwa [hk, before, mask_eq_blanked, getElem?_blanked_of_not_covered hc.1] at hd
    · have hd := ih h hc.2
      rwa [mask_eq_blanked, getElem?_blanked_of_not_covered hc.1] at hd

theorem exists_found_first {n : Text} {names : List Text} (hn : n ∉ names) (text : Text) :
    (∃ sp ∈ foundSpans d (n :: names) text, n = sp.name) ↔ maskedSpans d n text ≠ [] := by
  constructor
  · rintro ⟨sp, hsp, he⟩
    rcases List.mem_append.1 hsp with hsp | hsp
    · exact List.ne_nil_of_mem hsp
    · exact absurd (mem_of_mem_foundSpans hsp).1 (he ▸ hn)
  · intro hm
    obtain ⟨sp, hsp⟩ := List.exists_mem_of_ne_nil _ hm
    exact ⟨sp, List.mem_append_left _ hsp, (mem_maskedSpans hsp).1.symm⟩

theorem exists_found_other {n m : Text} (h : m ≠ n) (names : List Text) (text : Text) :
    (∃ sp ∈ foundSpans d (n :: names) text, m = sp.name) ↔
      ∃ sp ∈ foundSpans d names (mask d n text), m = sp.name := by
  constructor
  · rintro ⟨sp, hsp, rfl⟩
    rcases List.mem_append.1 hsp with hsp | hsp
    · exact absurd (mem_maskedSpans hsp).1 h
    · exact ⟨sp, hsp, rfl⟩
  · rintro ⟨sp, hsp, rfl⟩
    exact ⟨sp, List.mem_append_right _ hsp, rfl⟩

end Formula

/-! ### Parameters of a snapshot, told by their identities and by their names -/

theorem Snapshot.eq_of_id_eq {s : Snapshot} {p q : Parameter} (hp : p ∈ s.parameters)
    (hq : q ∈ s.parameters) (h : p.id = q.id) : p = q :=
  List.inj_on_of_nodup_map s.ids_nodup hp hq h

theorem Snapshot.eq_of_name_eq {s : Snapshot} {p q : Parameter} (hp : p ∈ s.parameters)
    (hq : q ∈ s.parameters) (h : p.name = q.name) : p = q :=
  List.inj_on_of_nodup_map s.names_nodup hp hq h

namespace Reference

open Formula

variable (d : Dialect)

/-- The name of a parameter, if there is anything to look for. -/
def soughtName (p : Parameter) : Option Text := p.name.filter (! ·.isEmpty)

theorem soughtName_eq_some_iff {p : Parameter} {n : Text} :
    soughtName p = some n ↔ p.name = some n ∧ n ≠ [] := by
  simp [soughtName, Option.filter_eq_some_iff]

/-- The names of parameters in the order in which they are looked for. -/
def soughtNames (ps : List Parameter) : List Text :=
  longestFirst List.length ((names ps).filter (! ·.isEmpty))

/-- The spans of a text at which names of parameters are found. -/
def spans (ps : List Parameter) (text : Text) : List Span :=
  foundSpans d (soughtNames ps) text

theorem maskAll_eq_blanked (ps : List Parameter) (text : Text) :
    maskAll d (names ps) text = blanked (spans d ps text) text :=
  foldl_mask d (soughtNames ps) text

theorem soughtNames_eq (ps : List Parameter) :
    soughtNames ps = (longestFirst nameLength ps).filterMap soughtName := by
  have hf : ∀ p n, soughtName p = some n → n.length = nameLength p := by
    intro p n h
    simp [nameLength, (soughtName_eq_some_iff.1 h).1]
  rw [longestFirst_filterMap nameLength hf, soughtNames, names, List.filter_filterMap]
  rfl

theorem mem_soughtNames {ps : List Parameter} {n : Text} :
    n ∈ soughtNames ps ↔ (∃ p ∈ ps, p.name = some n) ∧ n ≠ [] := by
  simp [soughtNames, names, mem_longestFirst]

theorem step_of_not_sought {p : Parameter} (h : soughtName p = none) (s : Sweep) :
    s.step d p = s := by
  unfold Sweep.step
  cases hp : p.name with
  | none => rfl
  | some n =>
    have hn : n = [] := by
      by_contra hn
      simp [soughtName_eq_some_iff.2 ⟨hp, hn⟩] at h
    simp [hn, mentions]

theorem step_of_sought {p : Parameter} {n : Text} (h : soughtName p = some n) (s : Sweep) :
    s.step d p = ⟨mask d n s.text,
      if maskedSpans d n s.text = [] then s.found else s.found ++ [p.id]⟩ := by
  unfold Sweep.step
  rw [(soughtName_eq_some_iff.1 h).1]
  simp only [mentions_iff]
  by_cases hm : maskedSpans d n s.text = []
  · simp [hm, mask_eq_blanked]
  · simp [hm]

/-- A parameter is found if and only if its name is, as no other parameter has that name. -/
theorem mem_foldl_step_iff (ps : List Parameter) (hn : (ps.map (·.name)).Nodup) (s : Sweep)
    (id : Ident) :
    id ∈ (ps.foldl (Sweep.step d) s).found ↔ id ∈ s.found ∨
      ∃ p ∈ ps, p.id = id ∧
        ∃ sp ∈ foundSpans d (ps.filterMap soughtName) s.text, p.name = some sp.name := by
  induction ps generalizing s with
  | nil => simp
  | cons p ps ih =>
    obtain ⟨hp, hn⟩ := List.nodup_cons.1 hn
    rw [List.foldl_cons, ih hn]
    cases h : soughtName p with
    | none =>
      rw [step_of_not_sought d h, List.filterMap_cons_none h]
      have hnone : ¬ ∃ sp ∈ foundSpans d (ps.filterMap soughtName) s.text,
          p.name = some sp.name := by
        rintro ⟨sp, hsp, he⟩
        have hs := soughtName_eq_some_iff.2 ⟨he, (mem_of_mem_foundSpans hsp).2⟩
        simp [h] at hs
      simp [hnone]
    | some n =>
      have hpn : p.name = some n := (soughtName_eq_some_iff.1 h).1
      have hp : some n ∉ ps.map (·.name) := hpn ▸ hp
      rw [step_of_sought d h, List.filterMap_cons_some h]
      have hnot : n ∉ ps.filterMap soughtName := by
        intro hm
        obtain ⟨q, hq, hqn⟩ := List.mem_filterMap.1 hm
        exact hp (List.mem_map.2 ⟨q, hq, (soughtName_eq_some_iff.1 hqn).1⟩)
      have hfirst : (∃ sp ∈ foundSpans d (n :: ps.filterMap soughtName) s.text,
          p.name = some sp.name) ↔ maskedSpans d n s.text ≠ [] := by
        simpa only [hpn, Option.some.injEq] using exists_found_first hnot s.text
      have hothers : ∀ q ∈ ps, (∃ sp ∈ foundSpans d (n :: ps.filterMap soughtName) s.text,
          q.name = some sp.name) ↔
          ∃ sp ∈ foundSpans d (ps.filterMap soughtName) (mask d n s.text),
            q.name = some sp.name := by
        intro q hq
        have hqn : q.name ≠ some n := fun he => hp (List.mem_map.2 ⟨q, hq, he⟩)
        cases hm : q.name with
        | none => simp
        | some m =>
          have hmn : m ≠ n := fun he => hqn (by rw [hm, he])
          simpa only [Option.some.injEq] using
            exists_found_other hmn (ps.filterMap soughtName) s.text
      have hrest := exists_congr fun q => and_congr_right fun hq =>
        and_congr_right fun (_ : q.id = id) => hothers q hq
      simp only [List.mem_cons, or_and_right, exists_or, exists_eq_left, hfirst, hrest]
      by_cases hm : maskedSpans d n s.text = []
      · simp [hm]
      · simp [hm, or_assoc, eq_comm]

theorem written?_some {text : Text} (h : text.isBlank = false) :
    written? (some text) = some text :=
  written?_eq_some_iff.2 ⟨rfl, h⟩

/-- The parameters that a formula references are those whose names were found in it. -/
theorem mem_of_iff (s : Snapshot) {text : Text} (ht : text.isBlank = false) (p : Parameter) :
    p ∈ Reference.of d s.parameters (some text) ↔
      p ∈ s.parameters ∧ ∃ sp ∈ spans d s.parameters text, p.name = some sp.name := by
  have hperm := longestFirst_perm nameLength s.parameters
  have hn := (hperm.map (·.name)).nodup_iff.2 s.names_nodup
  have hf := mem_foldl_step_iff d _ hn ⟨text, []⟩ p.id
  rw [← soughtNames_eq] at hf
  simp only [Reference.of, written?_some ht, Parameter.select, List.mem_filter, sweep,
    decide_eq_true_eq, hf, List.not_mem_nil, false_or, mem_longestFirst, spans]
  refine and_congr_right fun hp => ?_
  constructor
  · rintro ⟨q, hq, hid, h⟩
    rwa [← Snapshot.eq_of_id_eq hq hp hid]
  · intro h
    exact ⟨p, hp, rfl, h⟩

theorem not_isBlank_of_mem {d : Dialect} {ps : List Parameter} {text : Text} {p : Parameter}
    (h : p ∈ Reference.of d ps (some text)) : text.isBlank = false := by
  by_contra hb
  simp [Reference.of, written?, Option.filter, hb] at h

/-- Only parameters with a name are referenced, and only by a formula. -/
theorem exists_found_of_mem {d : Dialect} {s : Snapshot} {formula : Option Text} {p : Parameter}
    (h : p ∈ Reference.of d s.parameters formula) :
    ∃ f n, formula = some f ∧ p.name = some n ∧ ∃ sp ∈ spans d s.parameters f, sp.name = n := by
  cases formula with
  | none => simp [Reference.of] at h
  | some f =>
    obtain ⟨-, sp, hsp, hn⟩ := (mem_of_iff d s (not_isBlank_of_mem h) p).1 h
    exact ⟨f, sp.name, rfl, hn, sp, hsp, rfl⟩

theorem soughtNames_nodup (s : Snapshot) : (soughtNames s.parameters).Nodup := by
  have hnames : (names s.parameters).Nodup := by
    have h := s.names_nodup.filterMap (f := id) fun a a' n ha ha' => ha.trans ha'.symm
    rwa [List.filterMap_map] at h
  exact (longestFirst_perm _ _).nodup_iff.2 (hnames.filter _)

end Reference

end Parametric
