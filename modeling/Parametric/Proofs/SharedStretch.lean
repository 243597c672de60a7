import Parametric.Proofs.Sweep

/-! # What masking finds in a stretch that two texts share

Whether a name is found at a place depends on the characters of the occurrence, on one neighbour on
either side and on what is blanked before it. So texts that share a stretch with its neighbours have
the same names found in it, as long as nothing found reaches over an end of the stretch. -/
namespace Parametric.Formula

/-- From `a` on in one text and from `a'` on in the other, `n` characters and their neighbours are
the same. -/
structure Shares (text text' : Text) (a a' n : Nat) : Prop where
  left : before none text a = before none text' a'
  same : ∀ k ≤ n, text[a + k]? = text'[a' + k]?

/-- No span covers a neighbour of the `n` characters from `a` on. -/
structure Spares (spans : List Span) (a n : Nat) : Prop where
  left : ∀ s ∈ spans, ∀ k, a = k + 1 → ¬ s.Covers k
  right : ∀ s ∈ spans, ¬ s.Covers (a + n)

/-- The spans that start on the stretch are the same. -/
def Match (spans spans' : List Span) (a a' n : Nat) : Prop :=
  ∀ k < n, ∀ name, (⟨a + k, name⟩ : Span) ∈ spans ↔ (⟨a' + k, name⟩ : Span) ∈ spans'

variable {text text' : Text} {spans spans' more more' : List Span} {a a' n k : Nat}

theorem Shares.symm (h : Shares text text' a a' n) : Shares text' text a' a n :=
  ⟨h.left.symm, fun k hk => (h.same k hk).symm⟩

theorem Match.symm (h : Match spans spans' a a' n) : Match spans' spans a' a n :=
  fun k hk name => (h k hk name).symm

theorem spares_append_iff : Spares (spans ++ more) a n ↔ Spares spans a n ∧ Spares more a n := by
  constructor
  · intro h
    obtain ⟨hleft, hright⟩ := h
    rw [List.forall_mem_append] at hleft hright
    exact ⟨⟨hleft.1, hright.1⟩, ⟨hleft.2, hright.2⟩⟩
  · rintro ⟨h, hmore⟩
    exact ⟨List.forall_mem_append.2 ⟨h.left, hmore.left⟩, List.forall_mem_append.2 ⟨h.right, hmore.right⟩⟩

theorem Match.append (h : Match spans spans' a a' n) (hmore : Match more more' a a' n) :
    Match (spans ++ more) (spans' ++ more') a a' n := fun k hk name => by
  rw [List.mem_append, List.mem_append, h k hk, hmore k hk]

theorem Spares.exists_start (h : Spares spans a n) {s : Span} (hs : s ∈ spans)
    (hc : s.Covers (a + k)) : ∃ j ≤ k, s = ⟨a + j, s.name⟩ := by
  have ha : a ≤ s.start := by
    by_contra hlt
    obtain ⟨m, rfl⟩ := Nat.exists_eq_succ_of_ne_zero (n := a) (by omega)
    refine h.left s hs m rfl ⟨by omega, ?_⟩
    have := hc.2
    omega
  refine ⟨s.start - a, ?_, ?_⟩
  · have := hc.1
    omega
  · rw [Nat.add_sub_cancel' ha]

theorem Spares.add_length_le (h : Spares spans a n) {name : Text} (hk : k < n)
    (hs : (⟨a + k, name⟩ : Span) ∈ spans) : k + name.length ≤ n := by
  have hc := h.right _ hs
  simp only [Span.Covers, Span.stop] at hc
  omega

theorem Spares.covers_of_match {m : Nat} (h : Spares spans a n) (hm : Match spans spans' a a' m)
    (hk : k < m)
    (hc : ∃ s ∈ spans, s.Covers (a + k)) : ∃ s ∈ spans', s.Covers (a' + k) := by
  obtain ⟨s, hs, hc⟩ := hc
  obtain ⟨j, hj, he⟩ := h.exists_start hs hc
  rw [he] at hs hc
  refine ⟨_, (hm j (by omega) s.name).1 hs, ?_⟩
  simp only [Span.Covers, Span.stop] at hc ⊢
  omega

theorem Spares.before_blanked (h : Spares spans a n) (text : Text) :
    before none (blanked spans text) a = before none text a := by
  cases a with
  | zero => rfl
  | succ m => exact getElem?_blanked_of_not_covered (fun s hs => h.left s hs m rfl) text

/-- Spans that match up to a place of the stretch blank it in both texts or in neither. -/
theorem Shares.getElem?_blanked {m : Nat} (h : Shares text text' a a' n) (hs : Spares spans a n)
    (hs' : Spares spans' a' n) (hm : Match spans spans' a a' m) (hk : k < m) (hn : k ≤ n) :
    (blanked spans text)[a + k]? = (blanked spans' text')[a' + k]? := by
  have hc : (∃ s ∈ spans, s.Covers (a + k)) ↔ ∃ s ∈ spans', s.Covers (a' + k) :=
    ⟨hs.covers_of_match hm hk, hs'.covers_of_match hm.symm hk⟩
  simp only [Formula.getElem?_blanked, h.same k hn, hc]

theorem Shares.blanked (h : Shares text text' a a' n) (hs : Spares spans a n)
    (hs' : Spares spans' a' n) (hm : Match spans spans' a a' n) :
    Shares (blanked spans text) (blanked spans' text') a a' n where
  left := by rw [hs.before_blanked, hs'.before_blanked, h.left]
  same k hk := by
    rcases Nat.lt_or_eq_of_le hk with hlt | rfl
    · exact h.getElem?_blanked hs hs' hm hlt hk
    · rw [getElem?_blanked_of_not_covered hs.right, getElem?_blanked_of_not_covered hs'.right]
      exact h.same k hk

variable {d : Dialect} {name : Text}

/-- What is found at a place of the stretch in one text is found there in the other one, if the
same is found on the stretch before. -/
theorem Shares.mem_maskedSpans (h : Shares text text' a a' n)
    (hs : Spares (maskedSpans d name text) a n) (hs' : Spares (maskedSpans d name text') a' n)
    (hm : Match (maskedSpans d name text) (maskedSpans d name text') a a' k) (hk : k < n)
    (hf : (⟨a + k, name⟩ : Span) ∈ maskedSpans d name text) :
    (⟨a' + k, name⟩ : Span) ∈ maskedSpans d name text' := by
  obtain ⟨hp, hl, hr⟩ := delimited_of_mem_maskedSpans hf
  have hn := (Formula.mem_maskedSpans hf).2.1
  have hlen := hs.add_length_le hk hf
  have hp' : name <+: text'.drop (a' + k) := by
    rw [List.prefix_iff_getElem?] at hp ⊢
    intro i hi
    rw [List.getElem?_drop, Nat.add_assoc, ← h.same (k + i) (by omega), ← Nat.add_assoc,
      ← List.getElem?_drop]
    exact hp i hi
  have hl' : delimits d (before none (mask d name text') (a' + k)) = true := by
    rw [mask_eq_blanked] at hl ⊢
    cases k with
    | zero => rwa [Nat.add_zero, hs'.before_blanked, ← h.left, ← hs.before_blanked]
    | succ j =>
      change delimits d (Formula.blanked _ text')[a' + j]? = true
      rwa [← h.getElem?_blanked hs hs' hm j.lt_succ_self (by omega)]
  have hr' : delimits d text'[a' + k + name.length]? = true := by
    rw [Nat.add_assoc, ← h.same _ hlen, ← Nat.add_assoc]
    exact hr
  obtain ⟨s, hmem, hc⟩ := covered_of_delimited hn hp' hl' hr'
  obtain ⟨j, hj, he⟩ := hs'.exists_start hmem hc
  rw [(Formula.mem_maskedSpans hmem).1] at he
  subst he
  rcases Nat.lt_or_eq_of_le hj with hj | rfl
  · -- an earlier occurrence over this place would be found in both texts
    have hbefore := (hm j hj name).2 hmem
    simp only [Span.Covers, Span.stop] at hc
    rcases maskedSpans_apart hbefore hf with heq | hstop | hstop
    · simp only [Span.mk.injEq] at heq
      omega
    · simp only [Span.stop] at hstop
      omega
    · simp only [Span.stop] at hstop
      omega
  · exact hmem

/-- So both texts have the same occurrences on the stretch, by induction on the place. -/
theorem Shares.maskedSpans_match (h : Shares text text' a a' n)
    (hs : Spares (maskedSpans d name text) a n) (hs' : Spares (maskedSpans d name text') a' n) :
    Match (maskedSpans d name text) (maskedSpans d name text') a a' n := by
  suffices ∀ k ≤ n, Match (maskedSpans d name text) (maskedSpans d name text') a a' k from
    this n (Nat.le_refl n)
  intro k hk
  induction k with
  | zero => exact fun j hj => absurd hj (Nat.not_lt_zero j)
  | succ k ih =>
    have hm := ih (Nat.le_of_succ_le hk)
    intro j hj name'
    rcases Nat.lt_succ_iff_lt_or_eq.1 hj with hj | rfl
    · exact hm j hj name'
    · constructor
      · intro hf
        obtain rfl := (Formula.mem_maskedSpans hf).1
        exact h.mem_maskedSpans hs hs' hm hk hf
      · intro hf
        obtain rfl := (Formula.mem_maskedSpans hf).1
        exact h.symm.mem_maskedSpans hs' hs hm.symm hk hf

theorem Shares.foundSpans_match (names : List Text) (h : Shares text text' a a' n)
    (hs : Spares (foundSpans d names text) a n) (hs' : Spares (foundSpans d names text') a' n) :
    Match (foundSpans d names text) (foundSpans d names text') a a' n := by
  induction names generalizing text text' with
  | nil => simp [Match, foundSpans]
  | cons name names ih =>
    obtain ⟨hfirst, hrest⟩ := spares_append_iff.1 hs
    obtain ⟨hfirst', hrest'⟩ := spares_append_iff.1 hs'
    have hm := h.maskedSpans_match hfirst hfirst'
    have hnext := h.blanked hfirst hfirst' hm
    rw [← mask_eq_blanked, ← mask_eq_blanked] at hnext
    exact hm.append (ih hnext hrest hrest')

end Parametric.Formula
