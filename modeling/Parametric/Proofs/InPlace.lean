import Parametric.Proofs.LongestMatch
import Parametric.Proofs.Mention

/-! # Masking a name in place

Masking a name in one pass gives the text that comes of blanking one occurrence after the other in a
copy. It is also what is put together from the slices between the occurrences, where only the end of
the last one tells which left neighbours are blanked by now. -/
namespace Parametric.Formula

variable {d : Dialect} {name text : Text} {last i : Nat}

theorem delimitedAt_iff_opensWith :
    DelimitedAt d name text i ↔ opensWith d name (before none text i) (text.drop i) = true := by
  rw [opensWith_iff, List.getElem?_drop]
  exact ⟨fun h => ⟨h.occurs, h.left, h.right⟩, fun ⟨ho, hl, hr⟩ => ⟨ho, hl, hr⟩⟩

instance (d : Dialect) (name text : Text) (i : Nat) : Decidable (DelimitedAt d name text i) :=
  decidable_of_iff _ delimitedAt_iff_opensWith.symm

/-- Goes over a copy of the text. Where the name stands between delimiters of the copy, as it is by
then, it is blanked and the scan goes on behind it. -/
def scan (d : Dialect) (name copy : Text) (i : Nat) : Text :=
  if name ≠ [] ∧ i < copy.length then
    if DelimitedAt d name copy i then scan d name (blanked [⟨i, name⟩] copy) (i + name.length)
    else scan d name copy (i + 1)
  else copy
termination_by copy.length - i
decreasing_by
  all_goals grind [length_blanked, List.length_pos_iff]

def neighbour (text : Text) (last : Nat) : Nat → Option Char
  | 0 => none
  | i + 1 => if i < last then some ' ' else text[i]?

/-- Puts slices of the text together, with blanks for each occurrence of the name between delimiters.
All up to `last` is there already, and occurrences are looked for from `i` on. -/
def splice (d : Dialect) (name text : Text) (last i : Nat) : Text :=
  match h : nextOccurrence name text i with
  | none => text.drop last
  | some k =>
    if name ≠ [] ∧ delimits d (neighbour text last k) = true ∧
        delimits d text[k + name.length]? = true then
      (text.take k).drop last ++ List.replicate name.length ' ' ++
        splice d name text (k + name.length) (k + name.length)
    else splice d name text last (k + 1)
termination_by text.length + 1 - i
decreasing_by
  all_goals
    have hk := nextOccurrence_eq_some h
    grind [List.length_pos_iff]

/-! ## One step of masking -/

theorem maskFrom_drop_of_not_opens {left : Option Char} (hi : i < text.length)
    (h : ¬ opensWith d name left (text.drop i) = true) :
    maskFrom d name 0 left (text.drop i) =
      text[i] :: maskFrom d name 0 text[i]? (text.drop (i + 1)) := by
  rw [List.drop_eq_getElem_cons hi] at h ⊢
  rw [maskFrom, if_neg h, List.getElem?_eq_getElem hi]

theorem maskFrom_drop_of_opens (hn : name ≠ []) {left : Option Char}
    (h : opensWith d name left (text.drop i) = true) :
    maskFrom d name 0 left (text.drop i) = List.replicate name.length ' ' ++
      maskFrom d name 0 (some ' ') (text.drop (i + name.length)) := by
  obtain ⟨more, hmore⟩ := ((opensWith_iff ..).1 h).1
  have hrest : text.drop (i + name.length) = more := by
    rw [← List.drop_drop, ← hmore, List.drop_left]
  obtain ⟨a, u, rfl⟩ := List.exists_cons_of_ne_nil hn
  rw [hrest, ← hmore, List.cons_append]
  rw [← hmore, List.cons_append] at h
  rw [maskFrom, if_pos h, List.length_cons, Nat.add_sub_cancel, maskFrom_skip]
  rfl

/-! ## The copy -/

theorem blanked_singleton {s : Span} (hs : s.stop ≤ text.length) :
    blanked [s] text =
      text.take s.start ++ List.replicate s.name.length ' ' ++ text.drop s.stop := by
  have hfront : (text.take s.start).length = s.start :=
    List.length_take_of_le (Nat.le_trans (Nat.le_add_right ..) hs)
  apply List.ext_getElem?
  intro j
  rw [getElem?_blanked, List.append_assoc]
  simp only [List.mem_singleton, exists_eq_left, Span.Covers, Span.stop] at hs ⊢
  grind

theorem before_stop_blanked {s : Span} (hn : s.name ≠ []) (hs : s.stop ≤ text.length) :
    before none (blanked [s] text) s.stop = some ' ' := by
  have hl := List.length_pos_iff.2 hn
  cases hk : s.stop with
  | zero => exact absurd hk (Nat.ne_of_gt (Nat.lt_add_left s.start hl))
  | succ k =>
    have hcovers : s.Covers k := by
      unfold Span.Covers
      unfold Span.stop at *
      omega
    rw [before, getElem?_blanked, List.getElem?_eq_getElem (by omega), Option.map_some,
      if_pos ⟨s, List.mem_singleton_self s, hcovers⟩]

/-- What is done of the copy stays, and what is before it is masked. -/
theorem scan_eq (hn : name ≠ []) (copy : Text) (i : Nat) : scan d name copy i =
    copy.take i ++ maskFrom d name 0 (before none copy i) (copy.drop i) := by
  fun_induction scan d name copy i with
  | case1 copy i h hd ih =>
    have hstop : (Span.mk i name).stop ≤ copy.length := add_length_le_of_occurs hn hd.occurs
    have hlength : (copy.take i ++ List.replicate name.length ' ').length = i + name.length := by
      simp [Nat.le_of_lt h.2]
    have hbefore := before_stop_blanked (s := ⟨i, name⟩) hn hstop
    rw [Span.stop] at hbefore
    rw [ih, maskFrom_drop_of_opens hn (delimitedAt_iff_opensWith.1 hd), hbefore,
      blanked_singleton hstop, List.take_left' hlength, List.drop_left' hlength, Span.stop,
      List.append_assoc]
  | case2 copy i h hd ih =>
    rw [ih, maskFrom_drop_of_not_opens h.2 (mt delimitedAt_iff_opensWith.2 hd),
      List.take_succ_eq_append_getElem h.2, List.append_assoc, List.singleton_append]
    rfl
  | case3 copy i h =>
    have hi : copy.length ≤ i := Nat.le_of_not_lt fun hi => h ⟨hn, hi⟩
    rw [List.take_of_length_le hi, List.drop_of_length_le hi, maskFrom, List.append_nil]

/-! ## The slices -/

theorem slice_append_slice {k : Nat} (hlast : last ≤ i) (hik : i ≤ k) :
    (text.take i).drop last ++ (text.take k).drop i = (text.take k).drop last := by
  have h := List.take_append_drop (i - last) ((text.take k).drop last)
  rwa [List.drop_drop, Nat.add_sub_cancel' hlast, ← List.drop_take, List.take_take,
    Nat.min_eq_left hik] at h

theorem maskFrom_drop_of_forall_not_opens {k : Nat} (hlast : last ≤ i) (hik : i ≤ k)
    (hk : k ≤ text.length) (hno : ∀ j, i ≤ j → j < k →
      ¬ opensWith d name (neighbour text last j) (text.drop j) = true) :
    maskFrom d name 0 (neighbour text last i) (text.drop i) =
      (text.take k).drop i ++ maskFrom d name 0 (neighbour text last k) (text.drop k) := by
  induction k, hik using Nat.le_induction with
  | base =>
    rw [List.drop_eq_nil_of_le (List.length_take_le i text), List.nil_append]
  | succ k hik ih =>
    have hneighbour : neighbour text last (k + 1) = text[k]? :=
      if_neg (Nat.not_lt.2 (Nat.le_trans hlast hik))
    have hfront : i ≤ (text.take k).length := by
      rwa [List.length_take_of_le (Nat.le_of_lt hk)]
    rw [ih (Nat.le_of_lt hk) fun j hj hlt => hno j hj (Nat.lt_succ_of_lt hlt),
      maskFrom_drop_of_not_opens hk (hno k hik (Nat.lt_succ_self k)), hneighbour,
      List.take_succ_eq_append_getElem hk, List.drop_append_of_le_length hfront, List.append_assoc,
      List.singleton_append]

/-- What is put together up to a position is there, and what is behind it is masked. -/
theorem splice_eq (hn : name ≠ []) (hlast : last ≤ i) : splice d name text last i =
    (text.take i).drop last ++ maskFrom d name 0 (neighbour text last i) (text.drop i) := by
  -- the name begins only where it stands, so that it does not before the occurrence that is found
  have absent {j : Nat} {left : Option Char} (hj : ¬ name <+: text.drop j) :
      ¬ opensWith d name left (text.drop j) = true := fun h => hj ((opensWith_iff ..).1 h).1
  fun_induction splice d name text last i with
  | case1 last i hnone =>
    rcases Nat.le_total i text.length with hi | hi
    · rw [maskFrom_drop_of_forall_not_opens hlast hi (Nat.le_refl _) fun j hj _ =>
          absent (nextOccurrence_eq_none hn hnone hj), List.drop_length, maskFrom, List.append_nil,
        slice_append_slice hlast hi, List.take_length]
    · rw [List.take_of_length_le hi, List.drop_of_length_le hi, maskFrom, List.append_nil]
  | case2 last i k hsome hd ih =>
    obtain ⟨hik, hk, ho, hfirst⟩ := nextOccurrence_eq_some hsome
    have hopens : opensWith d name (neighbour text last k) (text.drop k) = true := by
      rw [opensWith_iff, List.getElem?_drop]
      exact ⟨ho, hd.2⟩
    have hneighbour : neighbour text (k + name.length) (k + name.length) = some ' ' := by
      obtain ⟨m, hm⟩ := Nat.exists_eq_succ_of_ne_zero
        (Nat.ne_of_gt (Nat.lt_add_left k (List.length_pos_iff.2 hn)))
      rw [hm]
      exact if_pos (Nat.lt_succ_self m)
    rw [ih (Nat.le_refl _), hneighbour, List.drop_eq_nil_of_le (List.length_take_le ..),
      List.nil_append, maskFrom_drop_of_forall_not_opens hlast hik hk fun j hj hlt =>
        absent (hfirst j hj hlt), maskFrom_drop_of_opens hn hopens, ← List.append_assoc,
      slice_append_slice hlast hik, List.append_assoc]
  | case3 last i k hsome hd ih =>
    obtain ⟨hik, hk, ho, hfirst⟩ := nextOccurrence_eq_some hsome
    have hlt : k + 1 ≤ text.length :=
      Nat.le_trans (Nat.add_le_add_left (List.length_pos_iff.2 hn) k) (add_length_le_of_occurs hn ho)
    have hclosed : ¬ opensWith d name (neighbour text last k) (text.drop k) = true := by
      rw [opensWith_iff, List.getElem?_drop]
      exact fun h => hd ⟨hn, h.2⟩
    have hno : ∀ j, i ≤ j → j < k + 1 →
        ¬ opensWith d name (neighbour text last j) (text.drop j) = true := by
      intro j hj hjk
      rcases Nat.lt_succ_iff_lt_or_eq.1 hjk with hjk | rfl
      · exact absent (hfirst j hj hjk)
      · exact hclosed
    rw [ih (by omega), maskFrom_drop_of_forall_not_opens hlast (Nat.le_succ_of_le hik) hlt hno,
      ← List.append_assoc, slice_append_slice hlast (Nat.le_succ_of_le hik)]

/-! ## What is left to find -/

/-- Masking a solid name leaves none of it to be found, as no blanked neighbour delimits it. -/
theorem not_delimitedAt_mask (hs : Solid d name) (hn : name ≠ []) (i : Nat) :
    ¬ DelimitedAt d name (mask d name text) i := by
  rw [mask_eq_blanked]
  intro hd
  -- blanks complete no occurrence, so this one is in the text already and was blanked itself
  have hlong : ∀ s ∈ maskedSpans d name text, name.length ≤ s.name.length := fun s hm =>
    Nat.le_of_eq (congrArg List.length (mem_maskedSpans hm).1.symm)
  have hdel : ∀ s ∈ maskedSpans d name text,
      s.name ≠ [] ∧ DelimitedAt d s.name text s.start := by
    intro s hm
    obtain ⟨rfl, hne, -⟩ := mem_maskedSpans hm
    exact ⟨hne, delimitedAt_of_mem_maskedSpans hs hm⟩
  have hno := not_meets_of_occurs hs.tight hn hlong hd.occurs
  have htext := (delimitedAt_blanked_iff hs hn hdel hno).1 hd
  obtain ⟨s, hm, hmeets⟩ := exists_meets_of_delimitedAt hs hn htext
  exact hno s hm hmeets

theorem mask_of_forall_not_delimitedAt (h : ∀ i, ¬ DelimitedAt d name text i) :
    mask d name text = text := by
  by_contra hne
  obtain ⟨-, i, hd⟩ := (mentions_iff_delimitedAt text).1 (mask_ne_iff.1 hne).1
  exact h i hd

/-- Masking a name is blanking it in place, and it is putting slices together. It changes characters
of disjoint occurrences only and the length not at all. After masking a solid name it does not stand
anywhere any more, so that there is nothing to mask a second time. -/
theorem mask_eq_scan (d : Dialect) (name text : Text) (hn : name ≠ []) :
    mask d name text = scan d name text 0 ∧
      mask d name text = splice d name text 0 0 ∧
      (mask d name text).length = text.length ∧
      (∃ spans : List Span, spans.Pairwise (fun s t => ¬ s.Meets t) ∧
        (∀ s ∈ spans, s.name = name ∧ name <+: text.drop s.start) ∧
        mask d name text = blanked spans text) ∧
      (Solid d name → (∀ i, ¬ DelimitedAt d name (mask d name text) i) ∧
        mask d name (mask d name text) = mask d name text) := by
  have hmask : mask d name text = maskFrom d name 0 none text := by simp [mask, hn]
  refine ⟨?_, ?_, length_mask name text, ⟨maskedSpans d name text, ?_, ?_, mask_eq_blanked name text⟩,
    fun hs => ?_⟩
  · rw [hmask, scan_eq hn]
    rfl
  · rw [hmask, splice_eq hn (Nat.le_refl 0)]
    simp [neighbour]
  · exact (maskedSpans_pairwise name text).imp not_meets_of_stop_le
  · exact fun s hm => ⟨(mem_maskedSpans hm).1, (delimited_of_mem_maskedSpans hm).1⟩
  · exact ⟨not_delimitedAt_mask hs hn, mask_of_forall_not_delimitedAt (not_delimitedAt_mask hs hn)⟩

theorem mask_eq_scan_overlap :
    ("ab ab" : Text) ≠ [] ∧ Solid .standard "ab ab" ∧
      scan .standard "ab ab" "ab ab ab ab ab" 0 = "            ab" ∧
      splice .standard "ab ab" "ab ab ab ab ab" 0 0 = "            ab" ∧
      ∀ i, ¬ DelimitedAt .standard "ab ab" "            ab" i := by
  have hn : ("ab ab" : Text) ≠ [] := by decide
  have hs : Solid .standard "ab ab" := by decide
  have hmask : mask .standard "ab ab" "ab ab ab ab ab" = "            ab" := by decide
  obtain ⟨hscan, hsplice, -, -, hsolid⟩ := mask_eq_scan .standard "ab ab" "ab ab ab ab ab" hn
  rw [hmask] at hscan hsplice hsolid
  exact ⟨hn, hs, hscan.symm, hsplice.symm, (hsolid hs).1⟩

end Parametric.Formula
