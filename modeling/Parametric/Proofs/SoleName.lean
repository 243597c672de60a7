import Parametric.Graph.Chain
import Parametric.Proofs.AbsentName
import Parametric.Proofs.ReferenceRelation
import Parametric.Proofs.SingleWord

/-! # A formula that is one name

A name is looked for after the longer ones, and none of these can stand in a formula that is this
name and blanks around it. Then all of the formula is blank, and no shorter name is found in it. -/
namespace Parametric

namespace Formula

/-- Blanks beside which a name may begin and end. -/
def Margin (d : Dialect) (t : Text) : Prop := ∀ c ∈ t, isBlank c = true ∧ d.isBoundary c = true

variable {d : Dialect} {name lead trail : Text}

theorem Margin.delimits_head (h : Margin d trail) : delimits d trail.head? = true := by
  cases trail with
  | nil => rfl
  | cons c trail => exact (h c List.mem_cons_self).2

theorem not_infix_of_blank (hn : name ≠ []) (he : Edged (isBlank · = false) name) {t : Text}
    (ht : ∀ c ∈ t, isBlank c = true) : ¬ name <:+: t := by
  intro h
  obtain ⟨i, ho⟩ := exists_occurs h
  obtain ⟨a, hat, ha⟩ := he.first hn ho
  rw [ht a (List.mem_of_getElem? hat)] at ha
  exact Bool.noConfusion ha

theorem not_isBlank_of_infix (hn : name ≠ []) (he : Edged (isBlank · = false) name) {t : Text}
    (h : name <:+: t) : t.isBlank = false := by
  rw [Bool.eq_false_iff]
  intro hblank
  exact not_infix_of_blank hn he (List.all_eq_true.1 hblank) h

theorem maskFrom_margin (hn : name ≠ []) (he : Edged (isBlank · = false) name)
    (hl : Margin d lead) {left : Option Char} (hleft : delimits d left = true) (t : Text) :
    maskFrom d name 0 left (lead ++ t) = lead ++ maskFrom d name 0 none t := by
  induction lead generalizing left with
  | nil => exact maskFrom_congr hleft t
  | cons c lead ih =>
    obtain ⟨⟨hblank, hc⟩, hl⟩ := List.forall_mem_cons.1 hl
    have hno : opensWith d name left (c :: (lead ++ t)) = false := by
      rw [Bool.eq_false_iff]
      intro h
      obtain ⟨a, hac, ha⟩ := he.first (i := 0) hn ((opensWith_iff ..).1 h).1
      rw [← Option.some.inj hac, hblank] at ha
      exact Bool.noConfusion ha
    rw [List.cons_append, maskFrom_boundary hc hno, ih hl rfl, List.cons_append]

theorem mask_padded (hd : d.isBoundary ' ' = true) (hn : name ≠ [])
    (he : Edged (isBlank · = false) name) (hl : Margin d lead) (ht : Margin d trail) :
    mask d name (lead ++ (name ++ trail)) =
      lead ++ (List.replicate name.length ' ' ++ trail) := by
  have htrail : maskFrom d name 0 (some ' ') trail = trail := by
    have hleft : delimits d (some ' ') = true := hd
    have h := maskFrom_margin hn he ht hleft []
    simpa [maskFrom] using h
  have hopens : opensWith d name none (name ++ trail) = true := by
    rw [opensWith_iff, ← List.head?_drop, List.drop_left]
    exact ⟨List.prefix_append name trail, rfl, ht.delimits_head⟩
  have hne : ¬ name.isEmpty = true := by simpa using hn
  rw [mask, if_neg hne, maskFrom_margin hn he hl rfl]
  obtain ⟨a, more, rfl⟩ := List.exists_cons_of_ne_nil hn
  rw [List.cons_append] at hopens ⊢
  rw [maskFrom, if_pos hopens, List.length_cons, Nat.add_sub_cancel, maskFrom_skip, htrail]
  rfl

theorem not_infix_mask_padded (hd : d.isBoundary ' ' = true) (hn : name ≠ [])
    (he : Edged (isBlank · = false) name) (hl : Margin d lead) (ht : Margin d trail) {m : Text}
    (hm : m ≠ []) (hem : Edged (isBlank · = false) m) :
    ¬ m <:+: mask d name (lead ++ (name ++ trail)) := by
  rw [mask_padded hd hn he hl ht]
  refine not_infix_of_blank hm hem fun c hc => ?_
  rcases List.mem_append.1 hc with hc | hc
  · exact (hl c hc).1
  rcases List.mem_append.1 hc with hc | hc
  · rw [List.eq_of_mem_replicate hc]
    rfl
  · exact (ht c hc).1

theorem maskedSpans_padded_ne_nil (hd : d.isBoundary ' ' = true) (hn : name ≠ [])
    (he : Edged (isBlank · = false) name) (hl : Margin d lead) (ht : Margin d trail) :
    maskedSpans d name (lead ++ (name ++ trail)) ≠ [] := by
  intro hnil
  have hno := not_infix_mask_padded hd hn he hl ht hn he
  rw [mask_eq_blanked, hnil, blanked_nil] at hno
  exact hno ⟨lead, trail, List.append_assoc ..⟩

theorem infix_of_infix_padded (hl : Margin d lead) (ht : Margin d trail) {m : Text} (hm : m ≠ [])
    (hem : Edged (isBlank · = false) m) (h : m <:+: lead ++ (name ++ trail)) : m <:+: name :=
  hem.infix_of_append_right hm (fun c hc => by simp [(ht c hc).1])
    (hem.infix_of_append hm (fun c hc => by simp [(hl c hc).1]) h)

end Formula

namespace Reference

open Formula

variable {d : Dialect} {s : Snapshot} {q : Parameter} {n lead trail : Text}

/-- Every name that there is has something in it and no blank at its ends. -/
def TidyNames (ps : List Parameter) : Prop :=
  ∀ p ∈ ps, ∀ n ∈ p.name, n ≠ [] ∧ Edged (isBlank · = false) n

instance (ps : List Parameter) : Decidable (TidyNames ps) :=
  inferInstanceAs (Decidable (∀ p ∈ ps, ∀ n ∈ p.name, n ≠ [] ∧ Edged (isBlank · = false) n))

theorem TidyNames.of_sought {ps : List Parameter} (h : TidyNames ps) {m : Text}
    (hm : m ∈ soughtNames ps) : m ≠ [] ∧ Edged (isBlank · = false) m := by
  obtain ⟨⟨p, hp, hpm⟩, -⟩ := mem_soughtNames.1 hm
  exact h p hp m hpm

/-- In a formula that is one name nothing but this name is found. -/
theorem spans_padded (hd : d.isBoundary ' ' = true) (hs : TidyNames s.parameters)
    (hq : q ∈ s.parameters) (hqn : q.name = some n) (hl : Margin d lead) (ht : Margin d trail) :
    spans d s.parameters (lead ++ (n ++ trail)) = maskedSpans d n (lead ++ (n ++ trail)) := by
  obtain ⟨hn, he⟩ := hs q hq n hqn
  obtain ⟨longer, shorter, hsought⟩ := List.append_of_mem (mem_soughtNames.2 ⟨⟨q, hq, hqn⟩, hn⟩)
  have hnodup := soughtNames_nodup s
  have hlong := longestFirst_pairwise List.length ((names s.parameters).filter (! ·.isEmpty))
  rw [← soughtNames, hsought] at hlong
  rw [hsought] at hnodup
  have hlonger : ∀ m ∈ longer, ¬ m <:+: lead ++ (n ++ trail) := by
    intro m hm h
    obtain ⟨hm', hem⟩ := hs.of_sought (hsought ▸ List.mem_append_left _ hm)
    have hpiece := infix_of_infix_padded hl ht hm' hem h
    have hle := (List.pairwise_append.1 hlong).2.2 m hm n List.mem_cons_self
    have heq := hpiece.eq_of_length (Nat.le_antisymm hpiece.length_le hle)
    exact (List.nodup_append.1 hnodup).2.2 m hm n List.mem_cons_self heq
  have hshorter : ∀ m ∈ shorter, ¬ m <:+: mask d n (lead ++ (n ++ trail)) := by
    intro m hm
    have hm' : m ∈ soughtNames s.parameters := by simp [hsought, hm]
    exact not_infix_mask_padded hd hn he hl ht (hs.of_sought hm').1 (hs.of_sought hm').2
  rw [spans, hsought, foundSpans_append, foundSpans_of_absent hlonger, blanked_nil, foundSpans,
    foundSpans_of_absent hshorter, List.nil_append, List.append_nil]

theorem of_padded (hd : d.isBoundary ' ' = true) (hs : TidyNames s.parameters)
    (hq : q ∈ s.parameters) (hqn : q.name = some n) (hl : Margin d lead) (ht : Margin d trail) :
    Reference.of d s.parameters (some (lead ++ (n ++ trail))) = [q] := by
  obtain ⟨hn, he⟩ := hs q hq n hqn
  have hf := not_isBlank_of_infix hn he ⟨lead, trail, List.append_assoc ..⟩
  have hmem : ∀ p, p ∈ Reference.of d s.parameters (some (lead ++ (n ++ trail))) ↔ p ∈ [q] := by
    intro p
    rw [mem_of_iff d s hf, spans_padded hd hs hq hqn hl ht, List.mem_singleton]
    constructor
    · rintro ⟨hp, sp, hsp, hpn⟩
      rw [(mem_maskedSpans hsp).1, ← hqn] at hpn
      exact Snapshot.eq_of_name_eq hp hq hpn
    · rintro rfl
      obtain ⟨sp, hsp⟩ := List.exists_mem_of_ne_nil _ (maskedSpans_padded_ne_nil hd hn he hl ht)
      exact ⟨hq, sp, hsp, by rw [hqn, (mem_maskedSpans hsp).1]⟩
  have hsub := of_sublist d s.parameters (some (lead ++ (n ++ trail)))
  have hnodup := s.ids_nodup.of_map.sublist hsub
  exact List.perm_singleton.1 ((List.perm_ext_iff_of_nodup hnodup (List.nodup_singleton q)).2 hmem)

end Reference

namespace Chain

open Formula Reference

/-- The blanks that may stand around a formula. -/
def padding : Text := [' ', '\t', '\r', '\n']

/-- A formula is a single reference to the parameter whose name it is, whatever this name is made
of and whatever other names there are in it. -/
theorem single_iff_name_eq_trim (d : Dialect) (hd : ∀ c ∈ padding, d.isBoundary c = true)
    (s : Snapshot) (hs : TidyNames s.parameters) (f : Text)
    (hl : f.takeWhile isBlank ⊆ padding) (ht : f.rtakeWhile isBlank ⊆ padding) :
    (∀ p, single? d s.parameters (some f) = some p ↔
        p ∈ s.parameters ∧ p.name = some f.trim) ∧
      (single? d s.parameters (some f) = none ↔ ∀ p ∈ s.parameters, p.name ≠ some f.trim) := by
  have hlead : Margin d (f.takeWhile isBlank) := fun c hc =>
    ⟨List.mem_takeWhile_imp hc, hd c (hl hc)⟩
  have htrail : Margin d ((f.dropWhile isBlank).rtakeWhile isBlank) := fun c hc =>
    ⟨List.mem_rtakeWhile_imp hc, hd c (ht (Text.mem_rtakeWhile_of_dropWhile hc))⟩
  have hsome : ∀ p, single? d s.parameters (some f) = some p ↔
      p ∈ s.parameters ∧ p.name = some f.trim := by
    intro p
    rw [single?_eq_some_iff]
    constructor
    · rintro ⟨g, hg, hof, hname⟩
      obtain rfl := Option.some.inj (written?_eq_some_iff.1 hg).1
      exact ⟨of_subset d s.parameters _ (hof ▸ List.mem_singleton_self p), hname⟩
    · rintro ⟨hp, hname⟩
      obtain ⟨hn, he⟩ := hs p hp _ hname
      have hof := of_padded (hd ' ' (by decide)) hs hp hname hlead htrail
      rw [Text.trim, ← Text.exists_append_trimBy] at hof
      have hblank := not_isBlank_of_infix hn he (Text.trimBy_infix isBlank f)
      exact ⟨f, written?_some hblank, hof, hname⟩
  refine ⟨hsome, ?_⟩
  rw [Option.eq_none_iff_forall_ne_some]
  exact forall_congr' fun p => by rw [ne_eq, hsome, not_and]

def nested : Snapshot where
  parameters := [called 1 (some "Width"), called 2 (some "Width + 1"), called 3 (some "1"),
    called 4 none, called 5 (some "New Width + 1")]
  ids_nodup := by decide
  names_nodup := by decide

theorem single_iff_name_eq_trim_nested :
    (∀ c ∈ padding, Dialect.standard.isBoundary c = true) ∧ TidyNames nested.parameters ∧
      single? .standard nested.parameters (some "\t Width + 1\r\n") =
        some (called 2 (some "Width + 1")) ∧
      single? .standard nested.parameters (some "Width + 2") = none := by
  have hd : ∀ c ∈ padding, Dialect.standard.isBoundary c = true :=
    List.all_eq_true.1 (by decide)
  have hs : TidyNames nested.parameters := by decide
  refine ⟨hd, hs, ?_, ?_⟩
  · exact ((single_iff_name_eq_trim .standard hd nested hs "\t Width + 1\r\n"
      (by decide) (by decide)).1 _).2 ⟨by simp [nested], by decide⟩
  · exact (single_iff_name_eq_trim .standard hd nested hs "Width + 2"
      (by decide) (by decide)).2.2 (by decide)

end Chain

end Parametric
