import Parametric.Proofs.Edge
import Parametric.Proofs.Sweep

/-! # References as the longest matches of names

Names that begin and end with characters of their own keep apart from each other. The spans that
masking blanks are then occurrences in the text as it was written. -/
namespace Parametric

namespace Formula

/-- The first and the last character are neither blanks nor boundaries. -/
structure Solid (d : Dialect) (name : Text) : Prop where
  head : ∀ c ∈ name.head?, c ≠ ' ' ∧ d.isBoundary c = false
  last : ∀ c ∈ name.getLast?, c ≠ ' ' ∧ d.isBoundary c = false

-- one character at most is looked at on either side, never all characters there are
instance (d : Dialect) (name : Text) : Decidable (Solid d name) :=
  let first := Option.decidableForallMem (p := fun c => c ≠ ' ' ∧ d.isBoundary c = false) name.head?
  let final := Option.decidableForallMem (p := fun c => c ≠ ' ' ∧ d.isBoundary c = false) name.getLast?
  @decidable_of_iff _ _ ⟨fun h => ⟨h.1, h.2⟩, fun h => ⟨h.head, h.last⟩⟩
    (@instDecidableAnd _ _ first final)

variable {d : Dialect} {name text : Text} {spans : List Span} {i : Nat}

theorem Solid.edged (h : Solid d name) : Edged (fun c => c ≠ ' ' ∧ d.isBoundary c = false) name :=
  ⟨h.head, h.last⟩

theorem Solid.tight (h : Solid d name) : Edged (· ≠ ' ') name :=
  ⟨fun c hc => (h.head c hc).1, fun c hc => (h.last c hc).1⟩

theorem Solid.not_delimits_first (h : Solid d name) (hn : name ≠ []) (ho : name <+: text.drop i) :
    delimits d text[i]? = false := by
  obtain ⟨c, hc, _, hb⟩ := h.edged.first hn ho
  simpa [hc, delimits] using hb

theorem Solid.not_delimits_final (h : Solid d name) (hn : name ≠ []) (ho : name <+: text.drop i) :
    delimits d (before none text (i + name.length)) = false := by
  obtain ⟨c, hc, _, hb⟩ := h.edged.final hn ho
  obtain ⟨k, hk⟩ := Nat.exists_eq_succ_of_ne_zero (mt List.length_eq_zero_iff.1 hn)
  simp only [hk, Nat.succ_eq_add_one, ← Nat.add_assoc, Nat.add_sub_cancel] at hc ⊢
  simpa [before, hc, delimits] using hb

/-- In a text with longer names blanked, a name stands only where nothing was blanked: it would
have to begin or end in a blank otherwise. -/
theorem not_meets_of_occurs (he : Edged (· ≠ ' ') name) (hn : name ≠ [])
    (hlong : ∀ s ∈ spans, name.length ≤ s.name.length)
    (ho : name <+: (blanked spans text).drop i) : ∀ s ∈ spans, ¬ s.Meets ⟨i, name⟩ := by
  rintro s hmem ⟨k, hk, hk'⟩
  have hl := hlong s hmem
  by_cases hi : s.Covers i
  · obtain ⟨c, hc, hne⟩ := he.first hn ho
    exact hne (eq_blank_of_covered hmem hi hc)
  · obtain ⟨c, hc, hne⟩ := he.final hn ho
    refine hne (eq_blank_of_covered hmem ?_ hc)
    simp only [Span.Covers, Span.stop] at *
    omega

theorem occurs_blanked_iff (h : ∀ s ∈ spans, ¬ s.Meets ⟨i, name⟩) :
    name <+: (blanked spans text).drop i ↔ name <+: text.drop i := by
  simp only [occurs_iff]
  refine forall₂_congr fun k hk => ?_
  rw [getElem?_blanked_of_not_covered]
  exact fun s hs hc => h s hs ⟨i + k, hc, Nat.le_add_right i k, Nat.add_lt_add_left hk i⟩

/-- The neighbours of a solid name are not blanked, as no delimited name stands right beside it. -/
theorem delimitedAt_blanked_iff (hs : Solid d name) (hn : name ≠ [])
    (hd : ∀ s ∈ spans, s.name ≠ [] ∧ DelimitedAt d s.name text s.start)
    (h : ∀ s ∈ spans, ¬ s.Meets ⟨i, name⟩) :
    DelimitedAt d name (blanked spans text) i ↔ DelimitedAt d name text i := by
  have same (ho : name <+: text.drop i) :
      before none (blanked spans text) i = before none text i ∧
        (blanked spans text)[i + name.length]? = text[i + name.length]? := by
    have hl := List.length_pos_iff.2 hn
    constructor
    · cases i with
      | zero => rfl
      | succ k =>
        refine getElem?_blanked_of_not_covered (fun s hmem hc => ?_) text
        have hm := h s hmem
        rw [Span.meets_iff (hd s hmem).1 hn] at hm
        have hstop : s.stop = k + 1 := by
          simp only [Span.Covers, Span.stop] at *
          omega
        have hr := (hd s hmem).2.right
        rw [← Span.stop, hstop, hs.not_delimits_first hn ho] at hr
        exact Bool.false_ne_true hr
    · refine getElem?_blanked_of_not_covered (fun s hmem hc => ?_) text
      have hm := h s hmem
      rw [Span.meets_iff (hd s hmem).1 hn] at hm
      have hstart : s.start = i + name.length := by
        simp only [Span.Covers, Span.stop] at *
        omega
      have hleft := (hd s hmem).2.left
      rw [hstart, hs.not_delimits_final hn ho] at hleft
      exact Bool.false_ne_true hleft
  constructor
  · intro hb
    have ho := (occurs_blanked_iff h).1 hb.occurs
    exact ⟨ho, (same ho).1 ▸ hb.left, (same ho).2 ▸ hb.right⟩
  · intro ht
    have hm := same ht.occurs
    exact ⟨(occurs_blanked_iff h).2 ht.occurs, hm.1 ▸ ht.left, hm.2 ▸ ht.right⟩

/-- What masking one solid name blanks are delimited occurrences already before. -/
theorem delimitedAt_of_mem_maskedSpans (hs : Solid d name) {s : Span}
    (h : s ∈ maskedSpans d name text) : DelimitedAt d name text s.start := by
  obtain ⟨hname, hn, _⟩ := mem_maskedSpans h
  obtain ⟨ho, hl, hr⟩ := delimited_of_mem_maskedSpans h
  refine ⟨ho, ?_, by rwa [Span.stop, hname] at hr⟩
  cases hk : s.start with
  | zero => rfl
  | succ k =>
    rw [hk, before, mask_eq_blanked, getElem?_blanked_of_not_covered] at hl
    · exact hl
    intro t ht hc
    have hstop : t.stop = s.start := by
      rcases maskedSpans_apart ht h with rfl | hts | hst
      · unfold Span.Covers at hc
        omega
      · unfold Span.Covers at hc
        omega
      · simp only [Span.Covers, Span.stop] at *
        omega
    have hr := (delimited_of_mem_maskedSpans ht).2.2
    rw [hstop, hs.not_delimits_first hn ho] at hr
    exact Bool.false_ne_true hr

theorem exists_meets_of_delimitedAt (hs : Solid d name) (hn : name ≠ [])
    (h : DelimitedAt d name text i) : ∃ s ∈ maskedSpans d name text, s.Meets ⟨i, name⟩ := by
  by_contra hno
  have hno : ∀ s ∈ maskedSpans d name text, ¬ s.Meets ⟨i, name⟩ :=
    fun s hmem hm => hno ⟨s, hmem, hm⟩
  have hl := List.length_pos_iff.2 hn
  have hleft : before none (mask d name text) i = before none text i := by
    cases i with
    | zero => rfl
    | succ k =>
      rw [mask_eq_blanked]
      refine getElem?_blanked_of_not_covered (fun s hmem hc => ?_) text
      have hm := hno s hmem
      obtain ⟨hname, _, _⟩ := mem_maskedSpans hmem
      rw [Span.meets_iff (hname ▸ hn) hn] at hm
      have hstop : s.stop = k + 1 := by
        simp only [Span.Covers, Span.stop] at *
        omega
      have hr := (delimited_of_mem_maskedSpans hmem).2.2
      rw [hstop, hs.not_delimits_first hn h.occurs] at hr
      exact Bool.false_ne_true hr
  obtain ⟨s, hmem, hc⟩ := covered_of_delimited hn h.occurs (hleft ▸ h.left) h.right
  exact hno s hmem ⟨i, hc, Nat.le_refl i, Nat.lt_add_of_pos_right hl⟩

/-- Spans of a text that settle which of the given names it mentions, and where. -/
structure Settled (d : Dialect) (names : List Text) (text : Text) (spans : List Span) : Prop where
  delimited : ∀ s ∈ spans, s.name ∈ names ∧ s.name ≠ [] ∧ DelimitedAt d s.name text s.start
  apart : spans.Pairwise fun s t => ¬ s.Meets t
  longest : ∀ n ∈ names, ∀ i, DelimitedAt d n text i →
    ∃ s ∈ spans, n.length ≤ s.name.length ∧ s.Meets ⟨i, n⟩

theorem settled_nil (d : Dialect) (text : Text) : Settled d [] text [] :=
  ⟨by simp, List.Pairwise.nil, by simp⟩

theorem not_meets_of_stop_le {s t : Span} (h : s.stop ≤ t.start) : ¬ s.Meets t := by
  rintro ⟨k, hs, ht⟩
  simp only [Span.Covers] at hs ht
  omega

theorem Settled.step {names : List Text} (h : Settled d names text spans) (hs : Solid d name)
    (hn : name ≠ []) (hlong : ∀ m ∈ names, name.length ≤ m.length) :
    Settled d (names ++ [name]) text (spans ++ maskedSpans d name (blanked spans text)) := by
  have hlong' : ∀ s ∈ spans, name.length ≤ s.name.length :=
    fun s hm => hlong _ (h.delimited s hm).1
  have hd : ∀ s ∈ spans, s.name ≠ [] ∧ DelimitedAt d s.name text s.start :=
    fun s hm => (h.delimited s hm).2
  have hnew : ∀ s ∈ maskedSpans d name (blanked spans text), s.name = name ∧
      (∀ t ∈ spans, ¬ t.Meets s) ∧ DelimitedAt d name text s.start := by
    intro s hm
    obtain ⟨rfl, _, _⟩ := mem_maskedSpans hm
    have hb := delimitedAt_of_mem_maskedSpans hs hm
    have hno := not_meets_of_occurs hs.tight hn hlong' hb.occurs
    exact ⟨rfl, hno, (delimitedAt_blanked_iff hs hn hd hno).1 hb⟩
  refine ⟨?_, List.pairwise_append.2 ⟨h.apart, ?_, ?_⟩, ?_⟩
  · intro s hm
    rcases List.mem_append.1 hm with hm | hm
    · exact ⟨List.mem_append_left _ (h.delimited s hm).1, hd s hm⟩
    · obtain ⟨rfl, _, hdel⟩ := hnew s hm
      exact ⟨List.mem_append_right _ List.mem_cons_self, hn, hdel⟩
  · exact (maskedSpans_pairwise name _).imp not_meets_of_stop_le
  · exact fun s hm t ht => (hnew t ht).2.1 s hm
  · intro m hm i hdel
    rcases List.mem_append.1 hm with hm | hm
    · obtain ⟨s, hsp, hmeet⟩ := h.longest m hm i hdel
      exact ⟨s, List.mem_append_left _ hsp, hmeet⟩
    · obtain rfl := List.mem_singleton.1 hm
      -- the occurrence is there untouched, or what was blanked of it belongs to a longer name
      by_cases hno : ∀ s ∈ spans, ¬ s.Meets ⟨i, m⟩
      · have hb := (delimitedAt_blanked_iff hs hn hd hno).2 hdel
        obtain ⟨s, hsp, hmeet⟩ := exists_meets_of_delimitedAt hs hn hb
        exact ⟨s, List.mem_append_right _ hsp, (hnew s hsp).1 ▸ Nat.le_refl _, hmeet⟩
      · simp only [not_forall, not_not] at hno
        obtain ⟨s, hsp, hmeet⟩ := hno
        exact ⟨s, List.mem_append_left _ hsp, hlong' s hsp, hmeet⟩

theorem Settled.foundSpans {done : List Text} (names : List Text) (h : Settled d done text spans)
    (hsolid : ∀ n ∈ names, n ≠ [] ∧ Solid d n)
    (horder : (done ++ names).Pairwise fun m n => n.length ≤ m.length) :
    Settled d (done ++ names) text (spans ++ foundSpans d names (blanked spans text)) := by
  induction names generalizing done spans with
  | nil => simpa [Formula.foundSpans] using h
  | cons n names ih =>
    obtain ⟨⟨hn, hs⟩, hrest⟩ := List.forall_mem_cons.1 hsolid
    have hlong : ∀ m ∈ done, n.length ≤ m.length :=
      fun m hm => (List.pairwise_append.1 horder).2.2 m hm n List.mem_cons_self
    have hstep := ih (h.step hs hn hlong) hrest (by simpa using horder)
    rw [blanked_append, ← mask_eq_blanked] at hstep
    simpa [Formula.foundSpans] using hstep

end Formula

namespace Reference

open Formula

variable {d : Dialect}

theorem settled_spans (ps : List Parameter)
    (hsolid : ∀ p ∈ ps, ∀ n, p.name = some n → n ≠ [] → Solid d n) (text : Text) :
    Settled d (soughtNames ps) text (spans d ps text) := by
  have hs : ∀ n ∈ soughtNames ps, n ≠ [] ∧ Solid d n := by
    intro n hn
    obtain ⟨⟨p, hp, hname⟩, hne⟩ := mem_soughtNames.1 hn
    exact ⟨hne, hsolid p hp n hname hne⟩
  have h := (settled_nil d text).foundSpans (soughtNames ps) hs (longestFirst_pairwise _ _)
  simpa [spans] using h

/-- A formula references the parameters whose names stand at disjoint spans of it, each delimited
in the formula as written, and no other delimited name is longer than all the spans it meets. -/
theorem of_eq_longest_matches (d : Dialect) (s : Snapshot)
    (hsolid : ∀ p ∈ s.parameters, ∀ n, p.name = some n → n ≠ [] → Solid d n)
    (text : Text) (ht : text.isBlank = false) :
    ∃ spans : List Span,
      spans.Pairwise (fun a b => ¬ a.Meets b) ∧
      (∀ sp ∈ spans, (∃ p ∈ s.parameters, p.name = some sp.name) ∧ sp.name ≠ [] ∧
        DelimitedAt d sp.name text sp.start) ∧
      maskAll d (names s.parameters) text = blanked spans text ∧
      (∀ p, p ∈ Reference.of d s.parameters (some text) ↔
        p ∈ s.parameters ∧ ∃ sp ∈ spans, p.name = some sp.name) ∧
      ∀ p ∈ s.parameters, ∀ n i, p.name = some n → n ≠ [] → DelimitedAt d n text i →
        ∃ sp ∈ spans, n.length ≤ sp.name.length ∧ sp.Meets ⟨i, n⟩ := by
  have h := settled_spans s.parameters hsolid text
  refine ⟨spans d s.parameters text, h.apart, ?_, maskAll_eq_blanked d s.parameters text,
    fun p => mem_of_iff d s ht p, ?_⟩
  · intro sp hsp
    obtain ⟨hname, hne, hdel⟩ := h.delimited sp hsp
    exact ⟨(mem_soughtNames.1 hname).1, hne, hdel⟩
  · intro p hp n i hname hne hdel
    exact h.longest n (mem_soughtNames.2 ⟨⟨p, hp, hname⟩, hne⟩) i hdel

def widths : Snapshot where
  parameters := [⟨.number 1, some "Width", false, .null, none, false⟩,
    ⟨.number 2, some "Width Offset", false, .null, none, false⟩,
    ⟨.number 3, none, false, .null, none, false⟩]
  ids_nodup := by decide
  names_nodup := by decide

theorem longest_matches_widths :
    (∀ p ∈ widths.parameters, ∀ n, p.name = some n → n ≠ [] → Solid Dialect.standard n) ∧
    Text.isBlank "Width Offset+Width" = false ∧
    ∃ spans : List Span,
      spans.Pairwise (fun a b => ¬ a.Meets b) ∧
      (∀ sp ∈ spans, (∃ p ∈ widths.parameters, p.name = some sp.name) ∧ sp.name ≠ [] ∧
        DelimitedAt Dialect.standard sp.name "Width Offset+Width" sp.start) ∧
      maskAll Dialect.standard (names widths.parameters) "Width Offset+Width" =
        blanked spans "Width Offset+Width" ∧
      (∀ p, p ∈ Reference.of Dialect.standard widths.parameters (some "Width Offset+Width") ↔
        p ∈ widths.parameters ∧ ∃ sp ∈ spans, p.name = some sp.name) ∧
      ∀ p ∈ widths.parameters, ∀ n i, p.name = some n → n ≠ [] →
        DelimitedAt Dialect.standard n "Width Offset+Width" i →
        ∃ sp ∈ spans, n.length ≤ sp.name.length ∧ sp.Meets ⟨i, n⟩ := by
  have hsolid : ∀ p ∈ widths.parameters, ∀ n, p.name = some n → n ≠ [] →
      Solid Dialect.standard n := by
    intro p hp n hn _
    simp only [widths, List.mem_cons, List.not_mem_nil, or_false] at hp
    rcases hp with rfl | rfl | rfl
    · obtain rfl := Option.some.inj hn
      decide
    · obtain rfl := Option.some.inj hn
      decide
    · simp at hn
  have ht : Text.isBlank "Width Offset+Width" = false := by decide
  exact ⟨hsolid, ht, of_eq_longest_matches Dialect.standard widths hsolid _ ht⟩

end Reference

end Parametric
