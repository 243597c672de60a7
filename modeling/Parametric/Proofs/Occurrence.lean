import Mathlib.Data.List.Pairwise
import Parametric.Formula.Mask

/-! # Delimited occurrences of names, and the spans of a text that masking blanks -/
namespace Parametric.Formula

variable (d : Dialect)

/-- The left neighbour of a position; `left` stands before the first character. -/
def before (left : Option Char) (text : Text) : Nat → Option Char
  | 0 => left
  | i + 1 => text[i]?

/-- A name stands at a position of a text, with delimiters on both sides. -/
structure DelimitedAt (name text : Text) (i : Nat) : Prop where
  occurs : name <+: text.drop i
  left : delimits d (before none text i) = true
  right : delimits d text[i + name.length]? = true

/-- A place in a text where a name stands. -/
structure Span where
  start : Nat
  name : Text
  deriving DecidableEq

namespace Span

def stop (s : Span) : Nat := s.start + s.name.length

def Covers (s : Span) (i : Nat) : Prop := s.start ≤ i ∧ i < s.stop

instance (s : Span) (i : Nat) : Decidable (s.Covers i) :=
  inferInstanceAs (Decidable (s.start ≤ i ∧ i < s.stop))

def Meets (s t : Span) : Prop := ∃ i, s.Covers i ∧ t.Covers i

theorem meets_iff {s t : Span} (hs : s.name ≠ []) (ht : t.name ≠ []) :
    s.Meets t ↔ s.start < t.stop ∧ t.start < s.stop := by
  have hs := List.length_pos_iff.2 hs
  have ht := List.length_pos_iff.2 ht
  constructor
  · rintro ⟨i, hi, hj⟩
    unfold Covers at hi hj
    omega
  · intro h
    refine ⟨max s.start t.start, ?_, ?_⟩
    all_goals
      unfold Covers stop at *
      omega

end Span

/-- The text with every position of the given spans blanked. -/
def blanked (spans : List Span) (text : Text) : Text :=
  text.mapIdx fun i c => if ∃ s ∈ spans, s.Covers i then ' ' else c

theorem getElem?_blanked (spans : List Span) (text : Text) (i : Nat) :
    (blanked spans text)[i]? =
      text[i]?.map fun c => if ∃ s ∈ spans, s.Covers i then ' ' else c := by
  simp [blanked]

@[simp] theorem length_blanked (spans : List Span) (text : Text) :
    (blanked spans text).length = text.length := by
  simp [blanked]

@[simp] theorem blanked_nil (text : Text) : blanked [] text = text := by
  apply List.ext_getElem?
  simp [getElem?_blanked]

theorem blanked_append (spans more : List Span) (text : Text) :
    blanked (spans ++ more) text = blanked more (blanked spans text) := by
  apply List.ext_getElem?
  intro i
  simp only [getElem?_blanked, Option.map_map, List.mem_append, or_and_right, exists_or]
  congr 1
  funext c
  by_cases h : ∃ s ∈ spans, s.Covers i <;> simp [h]

theorem getElem?_blanked_of_not_covered {spans : List Span} {i : Nat}
    (h : ∀ s ∈ spans, ¬ s.Covers i) (text : Text) : (blanked spans text)[i]? = text[i]? := by
  have hn : ¬ ∃ s ∈ spans, s.Covers i := fun ⟨s, hs, hc⟩ => h s hs hc
  simp [getElem?_blanked, hn]

theorem eq_blank_of_covered {spans : List Span} {text : Text} {i : Nat} {s : Span} (hs : s ∈ spans)
    (hc : s.Covers i) {c : Char} (h : (blanked spans text)[i]? = some c) : c = ' ' := by
  rw [getElem?_blanked, Option.map_eq_some_iff] at h
  obtain ⟨_, _, h⟩ := h
  rw [if_pos ⟨s, hs, hc⟩] at h
  exact h.symm

/-- The positions at which `maskFrom` begins to blank an occurrence. -/
def startsFrom (name : Text) (skip : Nat) (left : Option Char) : Text → List Nat
  | [] => []
  | c :: rest =>
    match skip with
    | skip + 1 => (startsFrom name skip (some ' ') rest).map (· + 1)
    | 0 =>
      if opensWith d name left (c :: rest) then
        0 :: (startsFrom name (name.length - 1) (some ' ') rest).map (· + 1)
      else (startsFrom name 0 (some c) rest).map (· + 1)

theorem opensWith_iff (name : Text) (left : Option Char) (text : Text) :
    opensWith d name left text = true ↔
      name <+: text ∧ delimits d left = true ∧ delimits d text[name.length]? = true := by
  simp [opensWith, List.head?_drop, and_assoc]

theorem before_cons (left : Option Char) (c : Char) (text : Text) (i : Nat) :
    before left (c :: text) (i + 1) = before (some c) text i := by
  cases i <;> rfl

variable {d} {name : Text}

theorem skip_le_of_mem_startsFrom {skip : Nat} {left : Option Char} {text : Text} {i : Nat}
    (h : i ∈ startsFrom d name skip left text) : skip ≤ i := by
  induction text generalizing skip left i with
  | nil => simp [startsFrom] at h
  | cons c rest ih =>
    cases skip with
    | zero => exact Nat.zero_le i
    | succ skip =>
      obtain ⟨j, hj, rfl⟩ := List.mem_map.1 h
      have := ih hj
      omega

/-- The left neighbour of a blanked occurrence is looked at after masking, the right one before. -/
theorem delimited_of_mem_startsFrom {skip : Nat} {left : Option Char} {text : Text} {i : Nat}
    (h : i ∈ startsFrom d name skip left text) :
    name <+: text.drop i ∧ delimits d (before left (maskFrom d name skip left text) i) = true ∧
      delimits d text[i + name.length]? = true := by
  induction text generalizing skip left i with
  | nil => simp [startsFrom] at h
  | cons c rest ih =>
    have shift {skip : Nat} {e : Char} {j : Nat} (hj : j ∈ startsFrom d name skip (some e) rest) :
        name <+: (c :: rest).drop (j + 1) ∧
          delimits d (before left (e :: maskFrom d name skip (some e) rest) (j + 1)) = true ∧
          delimits d (c :: rest)[j + 1 + name.length]? = true := by
      have hi := ih hj
      rw [before_cons, Nat.add_right_comm]
      exact hi
    cases skip with
    | succ skip =>
      obtain ⟨j, hj, rfl⟩ := List.mem_map.1 h
      exact shift hj
    | zero =>
      simp only [startsFrom] at h
      unfold maskFrom
      split at h
      case isTrue ho =>
        simp only [ho, if_true]
        rcases List.mem_cons.1 h with rfl | h
        · simpa [before] using (opensWith_iff d name left (c :: rest)).1 ho
        · obtain ⟨j, hj, rfl⟩ := List.mem_map.1 h
          exact shift hj
      case isFalse ho =>
        simp only [ho]
        obtain ⟨j, hj, rfl⟩ := List.mem_map.1 h
        exact shift hj

theorem startsFrom_pairwise (skip : Nat) (left : Option Char) (text : Text) :
    (startsFrom d name skip left text).Pairwise fun i j => i + name.length ≤ j := by
  induction text generalizing skip left with
  | nil => simp [startsFrom]
  | cons c rest ih =>
    have shift (skip : Nat) (left : Option Char) :
        ((startsFrom d name skip left rest).map (· + 1)).Pairwise
          fun i j => i + name.length ≤ j := by
      rw [List.pairwise_map]
      refine (ih skip left).imp fun h => ?_
      omega
    cases skip with
    | succ skip => exact shift skip (some ' ')
    | zero =>
      simp only [startsFrom]
      split
      · refine List.pairwise_cons.2 ⟨?_, shift _ _⟩
        intro i hi
        obtain ⟨j, hj, rfl⟩ := List.mem_map.1 hi
        have := skip_le_of_mem_startsFrom hj
        omega
      · exact shift 0 (some c)

theorem maskFrom_skip (u t : Text) : maskFrom d name u.length (some ' ') (u ++ t) =
    List.replicate u.length ' ' ++ maskFrom d name 0 (some ' ') t := by
  induction u with
  | nil => rfl
  | cons c u ih =>
    rw [List.length_cons, List.cons_append, maskFrom, ih]
    rfl

/-- The positions that masking blanks: those still to skip and those of the occurrences begun. -/
def Hides (length skip : Nat) (starts : List Nat) (i : Nat) : Prop :=
  i < skip ∨ ∃ j ∈ starts, j ≤ i ∧ i < j + length

instance (length skip : Nat) (starts : List Nat) (i : Nat) :
    Decidable (Hides length skip starts i) :=
  inferInstanceAs (Decidable (_ ∨ _))

theorem hides_map_succ (length skip : Nat) (starts : List Nat) (i : Nat) :
    Hides length (skip + 1) (starts.map (· + 1)) (i + 1) ↔ Hides length skip starts i := by
  constructor
  · rintro (h | ⟨_, hj, h⟩)
    · exact Or.inl (by omega)
    · obtain ⟨j, hm, rfl⟩ := List.mem_map.1 hj
      exact Or.inr ⟨j, hm, by omega⟩
  · rintro (h | ⟨j, hj, h⟩)
    · exact Or.inl (by omega)
    · exact Or.inr ⟨j + 1, List.mem_map_of_mem hj, by omega⟩

theorem hides_zero_cons (length : Nat) (starts : List Nat) (i : Nat) :
    Hides length 0 (0 :: starts) i ↔ Hides length length starts i := by
  simp [Hides]

theorem not_hides_zero (length : Nat) (starts : List Nat) :
    ¬ Hides length 0 (starts.map (· + 1)) 0 := by
  rintro (h | ⟨_, hj, h⟩)
  · exact Nat.lt_irrefl 0 h
  · obtain ⟨j, _, rfl⟩ := List.mem_map.1 hj
    omega

theorem hides_zero_succ (length : Nat) (starts : List Nat) (i : Nat) :
    Hides length 0 (starts.map (· + 1)) (i + 1) ↔ Hides length 0 starts i := by
  have h : i + 1 < 0 ↔ i + 1 < 0 + 1 := by omega
  exact (or_congr h Iff.rfl).trans (hides_map_succ length 0 starts i)

theorem getElem?_maskFrom (hn : name ≠ []) (skip : Nat) (left : Option Char) (text : Text)
    (i : Nat) :
    (maskFrom d name skip left text)[i]? = text[i]?.map fun c =>
      if Hides name.length skip (startsFrom d name skip left text) i then ' ' else c := by
  obtain ⟨k, hk⟩ := Nat.exists_eq_succ_of_ne_zero (mt List.length_eq_zero_iff.1 hn)
  induction text generalizing skip left i with
  | nil => simp [maskFrom]
  | cons c rest ih =>
    cases skip with
    | succ skip =>
      cases i with
      | zero => simp [maskFrom, Hides]
      | succ i => simp only [maskFrom, startsFrom, List.getElem?_cons_succ, ih, hides_map_succ]
    | zero =>
      simp only [maskFrom, startsFrom]
      split
      · cases i with
        | zero => simp [Hides, hk]
        | succ i =>
          simp only [List.getElem?_cons_succ, ih, hides_zero_cons]
          simp only [hk, Nat.succ_eq_add_one, hides_map_succ, Nat.add_sub_cancel]
      · cases i with
        | zero => simp [not_hides_zero]
        | succ i => simp only [List.getElem?_cons_succ, ih, hides_zero_succ]

/-- An occurrence with delimiters is blanked unless it starts inside one that is. -/
theorem hides_of_delimited (hn : name ≠ []) {skip : Nat} {left : Option Char} {text : Text} {i : Nat}
    (ho : name <+: text.drop i)
    (hl : delimits d (before left (maskFrom d name skip left text) i) = true)
    (hr : delimits d text[i + name.length]? = true) :
    Hides name.length skip (startsFrom d name skip left text) i := by
  obtain ⟨k, hk⟩ := Nat.exists_eq_succ_of_ne_zero (mt List.length_eq_zero_iff.1 hn)
  induction text generalizing skip left i with
  | nil => exact absurd (by simpa using ho) hn
  | cons c rest ih =>
    cases skip with
    | succ skip =>
      cases i with
      | zero => exact Or.inl (Nat.zero_lt_succ skip)
      | succ i =>
        rw [maskFrom, before_cons] at hl
        rw [Nat.add_right_comm] at hr
        exact (hides_map_succ _ _ _ _).2 (ih ho hl hr)
    | zero =>
      simp only [maskFrom, startsFrom] at hl ⊢
      split at hl
      case isTrue hopen =>
        rw [if_pos hopen, hides_zero_cons]
        cases i with
        | zero => exact Or.inl (by omega)
        | succ i =>
          rw [before_cons] at hl
          rw [Nat.add_right_comm] at hr
          simp only [hk, Nat.succ_eq_add_one, hides_map_succ, Nat.add_sub_cancel] at hl ⊢
          simpa [hk] using ih ho hl hr
      case isFalse hopen =>
        rw [if_neg hopen]
        cases i with
        | zero =>
          refine absurd ((opensWith_iff d name left (c :: rest)).2 ⟨ho, hl, ?_⟩) hopen
          simpa using hr
        | succ i =>
          rw [before_cons] at hl
          rw [Nat.add_right_comm] at hr
          exact (hides_zero_succ _ _ _).2 (ih ho hl hr)

theorem mentionedFrom_iff (left : Option Char) (text : Text) :
    mentionedFrom d name left text = true ↔ startsFrom d name 0 left text ≠ [] := by
  induction text generalizing left with
  | nil => simp [mentionedFrom, startsFrom]
  | cons c rest ih =>
    simp only [mentionedFrom, startsFrom, Bool.or_eq_true, ih]
    split <;> simp_all

/-- The occurrences of a name that masking blanks in a text. -/
def maskedSpans (d : Dialect) (name text : Text) : List Span :=
  if name.isEmpty then [] else (startsFrom d name 0 none text).map (⟨·, name⟩)

theorem mask_eq_blanked (name text : Text) :
    mask d name text = blanked (maskedSpans d name text) text := by
  unfold mask maskedSpans
  split
  case isTrue => simp
  case isFalse hn =>
    apply List.ext_getElem?
    intro i
    have hc : Hides name.length 0 (startsFrom d name 0 none text) i ↔
        ∃ s ∈ (startsFrom d name 0 none text).map (Span.mk · name), s.Covers i := by
      simp only [List.mem_map, exists_exists_and_eq_and]
      exact or_iff_right (Nat.not_lt_zero i)
    rw [getElem?_maskFrom (by simpa using hn), getElem?_blanked]
    simp only [hc]

@[simp] theorem length_mask (name text : Text) : (mask d name text).length = text.length := by
  rw [mask_eq_blanked, length_blanked]

theorem mentions_iff (name text : Text) :
    mentions d name text = true ↔ maskedSpans d name text ≠ [] := by
  unfold mentions maskedSpans
  cases name.isEmpty <;> simp [mentionedFrom_iff]

/-- The first occurrence that masking blanks is delimited in the text as it was. -/
theorem exists_delimited_start {left : Option Char} {text : Text}
    (h : startsFrom d name 0 left text ≠ []) :
    ∃ i ∈ startsFrom d name 0 left text, name <+: text.drop i ∧
      delimits d (before left text i) = true ∧ delimits d text[i + name.length]? = true := by
  induction text generalizing left with
  | nil => simp [startsFrom] at h
  | cons c rest ih =>
    simp only [startsFrom] at h ⊢
    split
    case isTrue ho =>
      obtain ⟨hp, hl, hr⟩ := (opensWith_iff d name left (c :: rest)).1 ho
      exact ⟨0, List.mem_cons_self, hp, hl, by simpa using hr⟩
    case isFalse ho =>
      simp only [ho, Bool.false_eq_true, if_false, ne_eq, List.map_eq_nil_iff] at h
      obtain ⟨i, hi, hp, hl, hr⟩ := ih h
      refine ⟨i + 1, List.mem_map_of_mem hi, hp, by rwa [before_cons], ?_⟩
      rwa [Nat.add_right_comm]

theorem exists_delimited_of_maskedSpans {text : Text} (h : maskedSpans d name text ≠ []) :
    ∃ s ∈ maskedSpans d name text, DelimitedAt d name text s.start := by
  unfold maskedSpans at h ⊢
  split at h
  case isTrue => exact absurd rfl h
  case isFalse hn =>
    rw [if_neg hn]
    obtain ⟨i, hi, hp, hl, hr⟩ := exists_delimited_start (by simpa using h)
    exact ⟨⟨i, name⟩, List.mem_map_of_mem hi, hp, hl, hr⟩

theorem mentionedFrom_of_delimited (hn : name ≠ []) {left : Option Char} {text : Text} {i : Nat}
    (hp : name <+: text.drop i) (hl : delimits d (before left text i) = true)
    (hr : delimits d text[i + name.length]? = true) : mentionedFrom d name left text = true := by
  induction text generalizing left i with
  | nil => exact absurd (by simpa using hp) hn
  | cons c rest ih =>
    rw [mentionedFrom, Bool.or_eq_true]
    cases i with
    | zero => exact Or.inl ((opensWith_iff d name left (c :: rest)).2 ⟨hp, hl, by simpa using hr⟩)
    | succ i =>
      rw [before_cons] at hl
      rw [Nat.add_right_comm] at hr
      exact Or.inr (ih hp hl hr)

theorem mentions_iff_delimitedAt (text : Text) :
    mentions d name text = true ↔ name ≠ [] ∧ ∃ i, DelimitedAt d name text i := by
  constructor
  · intro h
    obtain ⟨s, hs, hd⟩ := exists_delimited_of_maskedSpans ((mentions_iff name text).1 h)
    simp only [mentions, Bool.and_eq_true, Bool.not_eq_true', List.isEmpty_eq_false_iff] at h
    exact ⟨h.1, s.start, hd⟩
  · rintro ⟨hn, i, hd⟩
    have hm := mentionedFrom_of_delimited hn hd.occurs hd.left hd.right
    simp [mentions, hn, hm]

theorem mem_maskedSpans {text : Text} {s : Span} (h : s ∈ maskedSpans d name text) :
    s.name = name ∧ name ≠ [] ∧ s.start ∈ startsFrom d name 0 none text := by
  unfold maskedSpans at h
  split at h
  case isTrue => simp at h
  case isFalse hn =>
    obtain ⟨i, hi, rfl⟩ := List.mem_map.1 h
    exact ⟨rfl, by simpa using hn, hi⟩

theorem maskedSpans_pairwise (name text : Text) :
    (maskedSpans d name text).Pairwise fun s t => s.stop ≤ t.start := by
  unfold maskedSpans
  split
  · exact List.Pairwise.nil
  · exact List.pairwise_map.2 (startsFrom_pairwise 0 none text)

theorem maskedSpans_apart {text : Text} {s t : Span} (hs : s ∈ maskedSpans d name text)
    (ht : t ∈ maskedSpans d name text) : s = t ∨ s.stop ≤ t.start ∨ t.stop ≤ s.start := by
  have hsymm : Std.Symm fun s t : Span => s.stop ≤ t.start ∨ t.stop ≤ s.start :=
    ⟨fun _ _ h => h.symm⟩
  have hp : (maskedSpans d name text).Pairwise fun s t => s.stop ≤ t.start ∨ t.stop ≤ s.start :=
    (maskedSpans_pairwise name text).imp Or.inl
  by_cases h : s = t
  · exact Or.inl h
  · exact Or.inr (hp.forall hs ht h)

/-- A blanked occurrence begins after a delimiter of the masked text and ends before one of the
text as it was. -/
theorem delimited_of_mem_maskedSpans {text : Text} {s : Span} (h : s ∈ maskedSpans d name text) :
    name <+: text.drop s.start ∧
      delimits d (before none (mask d name text) s.start) = true ∧
      delimits d text[s.stop]? = true := by
  obtain ⟨rfl, hn, hs⟩ := mem_maskedSpans h
  have hm : mask d s.name text = maskFrom d s.name 0 none text := by simp [mask, hn]
  rw [hm]
  exact delimited_of_mem_startsFrom hs

theorem covered_of_delimited (hn : name ≠ []) {text : Text} {i : Nat}
    (ho : name <+: text.drop i)
    (hl : delimits d (before none (mask d name text) i) = true)
    (hr : delimits d text[i + name.length]? = true) :
    ∃ s ∈ maskedSpans d name text, s.Covers i := by
  have hm : mask d name text = maskFrom d name 0 none text := by simp [mask, hn]
  rw [hm] at hl
  obtain h | ⟨j, hj, h⟩ := hides_of_delimited hn ho hl hr
  · exact absurd h (Nat.not_lt_zero i)
  · refine ⟨⟨j, name⟩, ?_, h⟩
    simpa [maskedSpans, hn] using hj

end Parametric.Formula
