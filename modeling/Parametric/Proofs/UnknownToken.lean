import Parametric.Proofs.SingleWord

/-! # Tokens that are left of a formula are pieces of it, and each is of some class

Where the blank is no boundary, what masking blanks could run together with what it leaves. But a
masked name is found between boundaries, and these stand until they are masked themselves. So a piece
between boundaries is masked as a whole or not at all. -/
namespace Parametric.Formula

variable {d : Dialect} {names : List Text} {text t : Text}

/-- A text between boundaries with no blank at its ends. -/
structure IsPiece (d : Dialect) (text t : Text) : Prop where
  ne_nil : t ≠ []
  unbroken : Unbroken d t
  tight : Edged (· ≠ ' ') t
  stands : t <:+: text

theorem isPiece_of_mem_tokens (h : t ∈ tokens d text) : IsPiece d text t := by
  have trimmed (w : Text) (hw : Unbroken d w) (h : t ∈ tokens d w) : IsPiece d w t := by
    obtain ⟨ht, hne⟩ := List.mem_filter.1 h
    rw [cutBy_unbroken hw, List.map_singleton, List.mem_singleton] at ht
    subst ht
    have hin := Text.trimBy_infix (· = ' ') w
    have he := Text.edged_trimBy (· = ' ') w
    exact ⟨by simpa using hne, fun c hc => hw c (hin.subset hc),
      ⟨fun c hc => of_decide_eq_false (he.head c hc), fun c hc => of_decide_eq_false (he.last c hc)⟩,
      hin⟩
  induction text using words_induction (d := d) with
  | word w hw => exact trimmed w hw h
  | more w b rest hw hb ih =>
    rw [tokens_append_cons hb, List.mem_append] at h
    rcases h with h | h
    · obtain ⟨hne, hu, he, hin⟩ := trimmed w hw h
      exact ⟨hne, hu, he, hin.trans (List.prefix_append w (b :: rest)).isInfix⟩
    · obtain ⟨hne, hu, he, hin⟩ := ih h
      have hrest : rest <:+ w ++ b :: rest :=
        (List.suffix_cons b rest).trans (List.suffix_append w (b :: rest))
      exact ⟨hne, hu, he, hin.trans hrest.isInfix⟩

/-- In a text with found names blanked, a text between boundaries stands where nothing was blanked:
its first character is no blank, and what is blanked further on has a boundary before it. -/
theorem not_covered_of_occurs (hn : t ≠ []) (hu : Unbroken d t) (he : Edged (· ≠ ' ') t) {i : Nat}
    (ho : t <+: (blanked (foundSpans d names text) text).drop i) {k : Nat} (hk : k < t.length) :
    ∀ s ∈ foundSpans d names text, ¬ s.Covers (i + k) := by
  induction k with
  | zero =>
    intro s hs hc
    obtain ⟨c, hat, hne⟩ := he.first hn ho
    exact hne (eq_blank_of_covered hs hc hat)
  | succ k ih =>
    intro s hs hc
    have hbefore := ih (Nat.lt_of_succ_lt hk)
    have hstart : s.start = i + k + 1 := by
      have hno := hbefore s hs
      unfold Span.Covers at hc hno
      omega
    have hd := delimits_before_start hs hstart hbefore
    have hat := occurs_iff.1 ho k (Nat.lt_of_succ_lt hk)
    rw [getElem?_blanked_of_not_covered hbefore] at hat
    rw [hat, delimits, hu _ (List.getElem_mem _)] at hd
    exact Bool.false_ne_true hd

theorem IsPiece.of_blanked (h : IsPiece d (blanked (foundSpans d names text) text) t) :
    IsPiece d text t := by
  obtain ⟨hne, hu, he, hin⟩ := h
  obtain ⟨i, ho⟩ := exists_occurs hin
  have hapart : ∀ s ∈ foundSpans d names text, ¬ s.Meets ⟨i, t⟩ := by
    rintro s hs ⟨j, hc, hi, hj⟩
    obtain ⟨k, rfl⟩ := Nat.exists_eq_add_of_le hi
    exact not_covered_of_occurs hne hu he ho (Nat.lt_of_add_lt_add_left hj) s hs hc
  exact ⟨hne, hu, he, infix_of_occurs ((occurs_blanked_iff hapart).1 ho)⟩

theorem isPiece_of_mem_unknownTokens {formula : Option Text}
    (h : t ∈ unknownTokens d formula names) :
    ∃ f, formula = some f ∧ IsPiece d (stripLiterals f) t := by
  unfold unknownTokens at h
  cases hf : written? formula with
  | none => simp [hf] at h
  | some f =>
    rw [hf] at h
    have hpiece := isPiece_of_mem_tokens h
    rw [maskAll, foldl_mask] at hpiece
    exact ⟨f, (written?_eq_some_iff.1 hf).1, hpiece.of_blanked⟩

/-- What is left when literals and known names are gone are pieces of the formula without its
literals. Those that may be names and the suspicious ones are listed apart, each once and in the order
in which they first appear. All others are numbers or reserved functions. -/
theorem unknown_tokens_are_classified_pieces (d : Dialect) (formula : Option Text)
    (names : List Text) :
    (∀ t ∈ unknownTokens d formula names,
      ∃ f, formula = some f ∧ IsPiece d (stripLiterals f) t) ∧
    FirstAppearances (invalidTokens d formula names) (unknownTokens d formula names) ∧
    FirstAppearances (suspiciousTokens d formula names) (unknownTokens d formula names) ∧
    (invalidTokens d formula names).Disjoint (suspiciousTokens d formula names) ∧
    ∀ t ∈ unknownTokens d formula names, t ∉ invalidTokens d formula names →
      t ∉ suspiciousTokens d formula names → t.isNumeric = true ∨ d.isReserved t = true := by
  have hinvalid {t : Text} : t ∈ invalidTokens d formula names ↔
      t ∈ unknownTokens d formula names ∧ mayBeName d t = true := by
    rw [invalidTokens, List.mem_eraseDups, List.mem_filter]
  have hsuspicious {t : Text} : t ∈ suspiciousTokens d formula names ↔
      t ∈ unknownTokens d formula names ∧ isSuspicious t = true := by
    rw [suspiciousTokens, List.mem_eraseDups, List.mem_filter]
  refine ⟨fun t => isPiece_of_mem_unknownTokens, firstAppearances_filter _ _,
    firstAppearances_filter _ _, ?_, ?_⟩
  · intro t hi hs
    have hname := (hinvalid.1 hi).2
    have hdigit := (hsuspicious.1 hs).2
    simp only [mayBeName, isSuspicious, Bool.and_eq_true, Bool.not_eq_true'] at hname hdigit
    simp [hdigit.1] at hname
  · intro t ht hi hs
    obtain ⟨f, -, hpiece⟩ := isPiece_of_mem_unknownTokens ht
    rw [hinvalid, and_iff_right ht] at hi
    rw [hsuspicious, and_iff_right ht] at hs
    by_contra hno
    obtain ⟨hnumeric, hreserved⟩ := not_or.1 hno
    cases hdigit : startsWithDigit t with
    | true => exact hs (by simp [isSuspicious, hdigit, hnumeric])
    | false => exact hi (by simp [mayBeName, hpiece.ne_nil, hdigit, hnumeric, hreserved])

def dashes : Dialect := ⟨["sin"], ['-'], by decide⟩

theorem unknown_tokens_are_classified_pieces_dashes :
    unknownTokens dashes (some "W-x y-2in-sin") ["W"] = ["x y", "2in", "sin"] ∧
      IsPiece dashes (stripLiterals "W-x y-2in-sin") "x y" ∧
      ("sin" : Text) ∉ invalidTokens dashes (some "W-x y-2in-sin") ["W"] ∧
      ("sin" : Text) ∉ suspiciousTokens dashes (some "W-x y-2in-sin") ["W"] ∧
      (Text.isNumeric "sin" = true ∨ dashes.isReserved "sin" = true) := by
  have htokens : unknownTokens dashes (some "W-x y-2in-sin") ["W"] = ["x y", "2in", "sin"] := by cbv
  have hinvalid : ("sin" : Text) ∉ invalidTokens dashes (some "W-x y-2in-sin") ["W"] := by
    decide +kernel
  have hsuspicious : ("sin" : Text) ∉ suspiciousTokens dashes (some "W-x y-2in-sin") ["W"] := by
    decide +kernel
  obtain ⟨hpieces, -, -, -, hrest⟩ :=
    unknown_tokens_are_classified_pieces dashes (some "W-x y-2in-sin") ["W"]
  refine ⟨htokens, ?_, hinvalid, hsuspicious, hrest _ ?_ hinvalid hsuspicious⟩
  · obtain ⟨f, hf, hpiece⟩ := hpieces "x y" (htokens ▸ List.mem_cons_self)
    exact Option.some.inj hf ▸ hpiece
  · rw [htokens]
    decide

end Parametric.Formula
