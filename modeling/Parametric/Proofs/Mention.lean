import Parametric.Proofs.Edge
import Parametric.Proofs.Occurrence
import Parametric.Reference

/-! # Where a name stands in a formula

A search that goes from one occurrence of a name to the next one after it, until one is delimited,
misses none, not even those that lie over each other. Masking blanks one of them if there is any. -/
namespace Parametric

namespace Formula

variable {d : Dialect} {name text : Text} {start i : Nat}

theorem add_length_le_of_occurs (hn : name ≠ []) (ho : name <+: text.drop i) :
    i + name.length ≤ text.length := by
  have hl := List.length_pos_iff.2 hn
  have hle := ho.length_le
  rw [List.length_drop] at hle
  omega

/-- The first position, from `start` on, at which a name stands. -/
def nextOccurrence (name text : Text) (start : Nat) : Option Nat :=
  (List.range' start (text.length + 1 - start)).find? fun i => name.isPrefixOf (text.drop i)

theorem nextOccurrence_eq_some (h : nextOccurrence name text start = some i) :
    start ≤ i ∧ i ≤ text.length ∧ name <+: text.drop i ∧
      ∀ j, start ≤ j → j < i → ¬ name <+: text.drop j := by
  obtain ⟨hi, hmem, hfirst⟩ := List.find?_range'_eq_some.1 h
  have hrange := List.mem_range'_1.1 hmem
  refine ⟨hrange.1, by omega, List.isPrefixOf_iff_prefix.1 hi, fun j hs hj ho => ?_⟩
  have hno := hfirst j hs hj
  simp [List.isPrefixOf_iff_prefix.2 ho] at hno

theorem nextOccurrence_eq_none (hn : name ≠ []) (h : nextOccurrence name text start = none) {j : Nat}
    (hj : start ≤ j) : ¬ name <+: text.drop j := by
  intro ho
  have hlen := add_length_le_of_occurs hn ho
  have hno := List.find?_range'_eq_none.1 h j hj (by omega)
  simp [List.isPrefixOf_iff_prefix.2 ho] at hno

/-- Goes from each occurrence that is not delimited to the next one that begins after it. -/
def seek (d : Dialect) (name text : Text) (start : Nat) : Bool :=
  match h : nextOccurrence name text start with
  | none => false
  | some i =>
    (delimits d (before none text i) && delimits d text[i + name.length]?) ||
      seek d name text (i + 1)
termination_by text.length + 1 - start
decreasing_by
  have hi := nextOccurrence_eq_some h
  omega

theorem seek_iff (hn : name ≠ []) :
    seek d name text start = true ↔ ∃ i, start ≤ i ∧ DelimitedAt d name text i := by
  fun_induction seek d name text start with
  | case1 start hnone =>
    refine iff_of_false Bool.false_ne_true ?_
    rintro ⟨i, hs, hd⟩
    exact nextOccurrence_eq_none hn hnone hs hd.occurs
  | case2 start i hsome ih =>
    obtain ⟨hs, -, ho, hfirst⟩ := nextOccurrence_eq_some hsome
    have hhere : (delimits d (before none text i) && delimits d text[i + name.length]?) = true ↔
        DelimitedAt d name text i :=
      Bool.and_eq_true_iff.trans ⟨fun ⟨hl, hr⟩ => ⟨ho, hl, hr⟩, fun hd => ⟨hd.left, hd.right⟩⟩
    rw [Bool.or_eq_true, hhere, ih]
    constructor
    · rintro (hd | ⟨j, hj, hd⟩)
      · exact ⟨i, hs, hd⟩
      · exact ⟨j, by omega, hd⟩
    · rintro ⟨j, hj, hd⟩
      -- nothing stands between the start and the occurrence that was found
      rcases Nat.lt_trichotomy j i with hlt | rfl | hgt
      · exact absurd hd.occurs (hfirst j hj hlt)
      · exact .inl hd
      · exact .inr ⟨j, hgt, hd⟩

theorem mentions_eq_seek (name text : Text) :
    mentions d name text = (!name.isEmpty && seek d name text 0) := by
  rw [Bool.eq_iff_iff, mentions_iff_delimitedAt, Bool.and_eq_true, Bool.not_eq_true',
    List.isEmpty_eq_false_iff]
  refine and_congr_right fun hn => ?_
  rw [seek_iff hn]
  simp only [Nat.zero_le, true_and]

theorem delimits_getElem?_iff (hi : i ≤ text.length) : delimits d text[i]? = true ↔
    i = text.length ∨ ∃ c, text[i]? = some c ∧ d.isBoundary c = true := by
  rcases hi.eq_or_lt with rfl | hlt
  · simp [delimits]
  · simp [delimits, hlt, hlt.ne]

theorem delimits_before_iff (hi : i ≤ text.length) : delimits d (before none text i) = true ↔
    i = 0 ∨ ∃ c, text[i - 1]? = some c ∧ d.isBoundary c = true := by
  cases i with
  | zero => simp [before, delimits]
  | succ i =>
    have hlt : i < text.length := hi
    simp [before, delimits, hlt]

theorem delimitedAt_iff (hn : name ≠ []) : DelimitedAt d name text i ↔
    name <+: text.drop i ∧
      (i = 0 ∨ ∃ c, text[i - 1]? = some c ∧ d.isBoundary c = true) ∧
      (i + name.length = text.length ∨
        ∃ c, text[i + name.length]? = some c ∧ d.isBoundary c = true) := by
  constructor
  · rintro ⟨ho, hl, hr⟩
    have hlen := add_length_le_of_occurs hn ho
    exact ⟨ho, (delimits_before_iff (by omega)).1 hl, (delimits_getElem?_iff hlen).1 hr⟩
  · rintro ⟨ho, hl, hr⟩
    have hlen := add_length_le_of_occurs hn ho
    exact ⟨ho, (delimits_before_iff (by omega)).2 hl, (delimits_getElem?_iff hlen).2 hr⟩

theorem exists_of_covers {s : Span} (hs : s ∈ maskedSpans d name text) (hc : s.Covers i) :
    ∃ c ∈ name, text[i]? = some c := by
  obtain ⟨ho, -⟩ := delimited_of_mem_maskedSpans hs
  obtain ⟨rfl, -, -⟩ := mem_maskedSpans hs
  obtain ⟨k, rfl⟩ := Nat.exists_eq_add_of_le hc.1
  have hk : k < s.name.length := Nat.lt_of_add_lt_add_left hc.2
  exact ⟨s.name[k], List.getElem_mem hk, occurs_iff.1 ho k hk⟩

/-- A name that is found is blanked, which changes whatever of it is no blank. -/
theorem mask_ne_iff :
    mask d name text ≠ text ↔ mentions d name text = true ∧ ∃ c ∈ name, c ≠ ' ' := by
  rw [mentions_iff, mask_eq_blanked]
  constructor
  · intro hne
    constructor
    · intro hnone
      exact hne (by rw [hnone, blanked_nil])
    · by_contra! hblank
      refine hne (List.ext_getElem? fun i => ?_)
      by_cases hc : ∃ s ∈ maskedSpans d name text, s.Covers i
      · obtain ⟨s, hs, hi⟩ := hc
        obtain ⟨c, hc, htext⟩ := exists_of_covers hs hi
        rw [getElem?_blanked, htext, Option.map_some, if_pos ⟨s, hs, hi⟩, hblank c hc]
      · exact getElem?_blanked_of_not_covered (fun s hs hi => hc ⟨s, hs, hi⟩) text
  · rintro ⟨hsome, c, hc, hne⟩ heq
    obtain ⟨s, hs⟩ := List.exists_mem_of_ne_nil _ hsome
    obtain ⟨ho, -⟩ := delimited_of_mem_maskedSpans hs
    obtain ⟨rfl, -, -⟩ := mem_maskedSpans hs
    obtain ⟨k, hk, rfl⟩ := List.mem_iff_getElem.1 hc
    have hcover : s.Covers (s.start + k) :=
      ⟨Nat.le_add_right s.start k, Nat.add_lt_add_left hk s.start⟩
    exact hne (eq_blank_of_covered hs hcover (heq ▸ occurs_iff.1 ho k hk))

end Formula

namespace Reference

open Formula

theorem isNamedIn_iff {d : Dialect} {p : Parameter} {formula : Option Text} :
    isNamedIn d p formula = true ↔ ∃ n f, p.name = some n ∧ formula = some f ∧ n ≠ [] ∧
      ∃ i, DelimitedAt d n f i := by
  unfold isNamedIn
  split
  · rename_i n f hn
    simp [hn, mentions_iff_delimitedAt]
  · rename_i h
    simp only [Bool.false_eq_true, false_iff, not_exists, not_and]
    intro n f hn hf
    exact absurd hf (h n f hn)

/-- A parameter is named in a formula exactly if its name stands somewhere in it with an end of the
text or a delimiter on each side. The search from one occurrence to the next finds that out, and
masking the name shows it, unless there are only blanks to be blanked. -/
theorem named_iff_stands (d : Dialect) (p : Parameter) (formula : Option Text) :
    (isNamedIn d p formula = true ↔
      ∃ name text i, p.name = some name ∧ formula = some text ∧ name ≠ [] ∧ name <+: text.drop i ∧
        (i = 0 ∨ ∃ c, text[i - 1]? = some c ∧ d.isBoundary c = true) ∧
        (i + name.length = text.length ∨
          ∃ c, text[i + name.length]? = some c ∧ d.isBoundary c = true)) ∧
      ∀ name text, p.name = some name → formula = some text →
        isNamedIn d p formula = (!name.isEmpty && seek d name text 0) ∧
        (mask d name text ≠ text ↔ isNamedIn d p formula = true ∧ ∃ c ∈ name, c ≠ ' ') := by
  constructor
  · rw [isNamedIn_iff]
    constructor
    · rintro ⟨name, text, hp, hf, hn, i, hd⟩
      exact ⟨name, text, i, hp, hf, hn, (delimitedAt_iff hn).1 hd⟩
    · rintro ⟨name, text, i, hp, hf, hn, hstands⟩
      exact ⟨name, text, hp, hf, hn, i, (delimitedAt_iff hn).2 hstands⟩
  · rintro name text hp rfl
    have hmentions : isNamedIn d p (some text) = mentions d name text := by simp [isNamedIn, hp]
    rw [hmentions]
    exact ⟨mentions_eq_seek name text, mask_ne_iff⟩

theorem named_iff_stands_overlap :
    let p : Parameter := ⟨.number 1, some "ab ab", false, .null, none, false⟩
    isNamedIn .standard p (some "cab ab ab") = true ∧
      mask .standard "ab ab" "cab ab ab" ≠ "cab ab ab" := by
  intro p
  obtain ⟨hnamed, hmore⟩ := named_iff_stands .standard p (some "cab ab ab")
  have hin : isNamedIn .standard p (some "cab ab ab") = true :=
    hnamed.2 ⟨_, _, 4, rfl, rfl, by decide, by decide, .inr ⟨' ', by decide, by decide⟩,
      .inl (by decide)⟩
  obtain ⟨-, hmask⟩ := hmore _ _ rfl rfl
  exact ⟨hin, hmask.2 ⟨hin, 'a', by decide, by decide⟩⟩

end Reference

end Parametric
