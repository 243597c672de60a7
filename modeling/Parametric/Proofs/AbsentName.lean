import Parametric.Formula.Token
import Parametric.Proofs.LongestMatch
import Parametric.Proofs.MaskingOrder

/-! # Names that do not stand in a text do not count for it

Masking writes blanks into a text, and these could complete a name with blanks in it. But when a name
has its turn, only names at least as long are blanked, and it would have to begin or end in them. -/
namespace Parametric

namespace Formula

variable {d : Dialect} {name text : Text}

theorem maskedSpans_of_absent (h : ¬ name <:+: text) : maskedSpans d name text = [] := by
  apply List.eq_nil_iff_forall_not_mem.2
  intro s hs
  exact h (infix_of_occurs (delimited_of_mem_maskedSpans hs).1)

theorem mask_of_absent (h : ¬ name <:+: text) : mask d name text = text := by
  rw [mask_eq_blanked, maskedSpans_of_absent h, blanked_nil]

theorem foundSpans_of_absent {names : List Text} (h : ∀ n ∈ names, ¬ n <:+: text) :
    foundSpans d names text = [] := by
  induction names with
  | nil => rfl
  | cons n names ih =>
    obtain ⟨hn, h⟩ := List.forall_mem_cons.1 h
    rw [foundSpans, maskedSpans_of_absent hn, mask_of_absent hn, ih h, List.append_nil]

/-- Blanking names at least as long completes no name. -/
theorem infix_of_infix_blanked {spans : List Span} (he : Edged (· ≠ ' ') name)
    (hlong : ∀ s ∈ spans, name.length ≤ s.name.length) (h : name <:+: blanked spans text) :
    name <:+: text := by
  by_cases hn : name = []
  · rw [hn]
    exact List.nil_infix
  · obtain ⟨i, ho⟩ := exists_occurs h
    exact infix_of_occurs ((occurs_blanked_iff (not_meets_of_occurs he hn hlong ho)).1 ho)

/-- What a name has its turn in is the text with names at least as long blanked. -/
theorem mask_foldl_of_absent {names : List Text} (he : Edged (· ≠ ' ') name)
    (hlong : ∀ n ∈ names, name.length ≤ n.length) (h : ¬ name <:+: text) :
    mask d name (names.foldl (fun t n => mask d n t) text) =
      names.foldl (fun t n => mask d n t) text := by
  apply mask_of_absent
  rw [foldl_mask]
  exact mt (infix_of_infix_blanked he fun s hs => hlong _ (mem_of_mem_foundSpans hs).1) h

theorem maskAll_append_cons (he : Edged (· ≠ ' ') name) (h : ¬ name <:+: text)
    (names more : List Text) :
    maskAll d (names ++ name :: more) text = maskAll d (names ++ more) text := by
  have hn : name ≠ [] := by
    rintro rfl
    exact h List.nil_infix
  have hfilter : (names ++ name :: more).filter (! ·.isEmpty) =
      names.filter (! ·.isEmpty) ++ name :: more.filter (! ·.isEmpty) := by simp [hn]
  obtain ⟨later, hwith, hwithout⟩ := longestFirst_append_cons List.length
    (names.filter (! ·.isEmpty)) (more.filter (! ·.isEmpty)) name
  have hp := longestFirst_pairwise List.length
    (names.filter (! ·.isEmpty) ++ name :: more.filter (! ·.isEmpty))
  rw [hwith] at hp
  have hlong := fun n hn => (List.pairwise_append.1 hp).2.2 n hn name List.mem_cons_self
  rw [maskAll, maskAll, hfilter, List.filter_append, hwith, hwithout, List.foldl_append,
    List.foldl_append, List.foldl_cons, mask_foldl_of_absent he hlong h]

end Formula

namespace Reference

open Formula

variable {d : Dialect}

/-- A parameter without anything to look for, or one whose name has no blank at its ends and does
not stand in the text. -/
def IsAbsent (name : Option Text) (text : Text) : Prop :=
  ∀ n, name = some n → n ≠ [] → Edged (· ≠ ' ') n ∧ ¬ n <:+: text

theorem step_sweep_of_isAbsent {us vs : List Parameter} {p : Parameter} {text : Text}
    (h : IsAbsent p.name text) :
    (sweep d (sooner us p vs) text).step d p = sweep d (sooner us p vs) text := by
  cases hs : soughtName p with
  | none => exact step_of_not_sought d hs _
  | some n =>
    obtain ⟨hp, hn⟩ := soughtName_eq_some_iff.1 hs
    obtain ⟨he, habs⟩ := h n hp hn
    have hlong : ∀ s ∈ spans d (sooner us p vs) text, n.length ≤ s.name.length := by
      intro s hs
      obtain ⟨⟨q, hq, hqn⟩, -⟩ := mem_soughtNames.1 (mem_of_mem_foundSpans hs).1
      have hle := nameLength_le_of_mem_sooner hq
      simpa [nameLength, hp, hqn] using hle
    have hno : ¬ n <:+: (sweep d (sooner us p vs) text).text := by
      rw [text_sweep, maskAll_eq_blanked]
      exact mt (infix_of_infix_blanked he hlong) habs
    rw [step_of_sought d hs, mask_of_absent hno, maskedSpans_of_absent hno, if_pos rfl]

theorem sweep_append_cons {p : Parameter} {text : Text} (h : IsAbsent p.name text)
    (us vs : List Parameter) : sweep d (us ++ p :: vs) text = sweep d (us ++ vs) text := by
  obtain ⟨later, hwith, hwithout⟩ := longestFirst_append_cons nameLength us vs p
  have hstep : (sweep d (sooner us p vs) text).step d p = sweep d (sooner us p vs) text :=
    step_sweep_of_isAbsent h
  rw [sweep, sooner] at hstep
  rw [sweep, sweep, hwith, hwithout, List.foldl_append, List.foldl_append, List.foldl_cons, hstep]

theorem of_append_cons {p : Parameter} {formula : Option Text} {us vs : List Parameter}
    (hid : p.id ∉ (us ++ vs).map (·.id)) (h : ∀ f, formula = some f → IsAbsent p.name f) :
    Reference.of d (us ++ p :: vs) formula = Reference.of d (us ++ vs) formula := by
  unfold Reference.of
  cases hf : written? formula with
  | none => rfl
  | some f =>
    have hsweep := sweep_append_cons (d := d) (h f (written?_eq_some_iff.1 hf).1) us vs
    have hperm := longestFirst_perm nameLength (us ++ vs)
    have hnot : p.id ∉ (sweep d (us ++ vs) f).found := by
      rw [← (hperm.map (·.id)).mem_iff] at hid
      rw [sweep, mem_foldl_step_of_notMem d hid]
      exact List.not_mem_nil
    simp only [hsweep, Parameter.select, List.filter_append]
    rw [List.filter_cons_of_neg (by simpa using hnot)]

theorem unknownTokens_append_cons {name : Text} {formula : Option Text} (he : Edged (· ≠ ' ') name)
    (h : ∀ f, formula = some f → ¬ name <:+: stripLiterals f) (names more : List Text) :
    unknownTokens d formula (names ++ name :: more) = unknownTokens d formula (names ++ more) := by
  unfold unknownTokens
  cases hf : written? formula with
  | none => rfl
  | some f => simp only [maskAll_append_cons he (h f (written?_eq_some_iff.1 hf).1)]

/-- The parameter under another name. -/
def renamed (p : Parameter) (name : Option Text) : Parameter := { p with name := name }

/-- A parameter whose name does not stand in a formula makes no difference to its references, at
whatever place of the list, and may be called by any other such name. Neither does a known name make
one to the unknown tokens, if it does not stand in the formula without its literals. -/
theorem absent_names_do_not_count (d : Dialect) (formula : Option Text) :
    (∀ us vs p, p.id ∉ (us ++ vs).map (·.id) → (∀ f, formula = some f → IsAbsent p.name f) →
      Reference.of d (us ++ p :: vs) formula = Reference.of d (us ++ vs) formula ∧
      ∀ name, (∀ f, formula = some f → IsAbsent name f) →
        (Reference.of d (us ++ renamed p name :: vs) formula).map (·.id) =
          (Reference.of d (us ++ p :: vs) formula).map (·.id)) ∧
    ∀ names more name, Edged (· ≠ ' ') name →
      (∀ f, formula = some f → ¬ name <:+: stripLiterals f) →
      unknownTokens d formula (names ++ name :: more) =
        unknownTokens d formula (names ++ more) := by
  constructor
  · intro us vs p hid h
    have hof := of_append_cons (d := d) hid h
    refine ⟨hof, fun name hname => ?_⟩
    rw [hof, of_append_cons (p := renamed p name) hid hname]
  · intro names more name he h
    exact unknownTokens_append_cons he h names more

/-- A name that stands only in what masking another one leaves, and in this not at its turn. -/
theorem absent_names_do_not_count_blanks :
    maskAll .standard ["AB"] "W-AB-V" = "W-  -V" ∧
      (called 2 (some "W-  -V")).id ∉ ([called 1 (some "AB")] ++ [called 3 (some "V")]).map (·.id) ∧
      IsAbsent (some "W-  -V") "W-AB-V" ∧ IsAbsent none "W-AB-V" ∧
      (Reference.of .standard ([called 1 (some "AB")] ++ called 2 (some "W-  -V") ::
        [called 3 (some "V")]) (some "W-AB-V")).map (·.id) = [.number 1, .number 3] ∧
      (Reference.of .standard ([called 1 (some "AB")] ++ called 2 none ::
        [called 3 (some "V")]) (some "W-AB-V")).map (·.id) = [.number 1, .number 3] ∧
      Edged (· ≠ ' ') "W-  -V" ∧ ¬ ("W-  -V" : Text) <:+: stripLiterals "W-AB-V" ∧
      unknownTokens .standard (some "W-AB-V") ["AB", "W-  -V"] = ["W", "V"] := by
  have hid : (called 2 (some "W-  -V")).id ∉
      ([called 1 (some "AB")] ++ [called 3 (some "V")]).map (·.id) := by decide
  have he : Edged (· ≠ ' ') ("W-  -V" : Text) := by decide
  have hname : IsAbsent (some "W-  -V") "W-AB-V" := by
    intro n hn _
    obtain rfl := Option.some.inj hn
    exact ⟨he, by decide⟩
  have hnone : IsAbsent none "W-AB-V" := fun n hn => by simp at hn
  have hstripped : ¬ ("W-  -V" : Text) <:+: stripLiterals "W-AB-V" := by decide
  obtain ⟨hof, hunknown⟩ := absent_names_do_not_count .standard (some "W-AB-V")
  obtain ⟨hwithout, hrenamed⟩ := hof [called 1 (some "AB")] [called 3 (some "V")]
    (called 2 (some "W-  -V")) hid fun f hf => Option.some.inj hf ▸ hname
  have hids : (Reference.of .standard ([called 1 (some "AB")] ++ [called 3 (some "V")])
      (some "W-AB-V")).map (·.id) = [.number 1, .number 3] := by cbv
  refine ⟨by cbv, hid, hname, hnone, ?_, ?_, he, hstripped, ?_⟩
  · rw [hwithout, hids]
  · have hnew := hrenamed none fun f hf => Option.some.inj hf ▸ hnone
    rw [hwithout, hids] at hnew
    exact hnew
  · have hsame := hunknown ["AB"] [] "W-  -V" he fun f hf => Option.some.inj hf ▸ hstripped
    exact hsame.trans (by cbv)

end Reference

end Parametric
