import Parametric.Proofs.CycleCheck
import Parametric.Proofs.FirstAppearance
import Parametric.Proofs.HostCall

/-! # Edits that end without an answer

There are two ways. A formula has a name that is not known, and the registry, asked about that name or
about the formula, raises something that no handler takes. Or the host raises something that cannot be
put into words. -/
namespace Parametric

/-- Each parameter on the path is referenced by a formula and so has a name. -/
theorem Cycle.isShowable_detect (d : Dialect) (share : Bool) (s : Snapshot) (target : Parameter)
    (formula : Option Text) : (detect d share target formula s.parameters).isShowable = true := by
  have hnamed {f : Option Text} {p : Parameter} (hp : p ∈ Reference.of d s.parameters f) :
      p.name.isSome = true := by
    obtain ⟨_, n, -, hn, -⟩ := Reference.exists_found_of_mem hp
    simp [hn]
  rcases detect_spec d share s target formula with
    ⟨earlier, root, later, path, hof, hd, hpath, -⟩ | ⟨hd, -⟩
  · have hroot : root ∈ Reference.of d s.parameters formula := by simp [hof]
    have hall : ∀ p ∈ path, p.name.isSome = true :=
      hpath.forall_mem (hnamed hroot) fun _ _ hq _ => hnamed hq
    rw [hd]
    simpa [Verdict.isShowable, Verdict.pathNames] using hall
  · rw [hd]
    rfl

/-- The formula that the checks of an edit look at. A copy is checked once its source fits. -/
def Edit.reviewed? : Edit → Option Text
  | .set _ formula => written? formula
  | .copy target source =>
    if source.dataType.same target.dataType then written? source.formula else none
  | .clear _ | .trust _ _ => none

namespace Registry

variable {r : Registry} {t formula : Text} {e : Raised}

/-- The look-up of a token that may be a unit raises what no handler takes. -/
structure FailsOn (r : Registry) (t : Text) (e : Raised) : Prop where
  mayBeSuffix : mayBeSuffix t = true
  raised : r.name t = .error e
  unhandled : e.isOneOf lookupClasses = false

/-- Reading a formula raises what no handler takes. The handlers are about the calculation, and not
about the question whether the quantity that it gives has units. -/
inductive FailsToRead (r : Registry) (formula : Text) (e : Raised) : Prop
  | calculation (raised : r.parse formula = .error e) (unhandled : e.isOneOf parseClasses = false)
  | units (raised : r.parse formula = .ok (.quantity (.error e)))

theorem isSuffix_eq_error_iff : r.isSuffix t = .error e ↔ r.FailsOn t e := by
  unfold isSuffix
  split
  case isTrue ht =>
    rw [Raised.orNo_eq_error_iff]
    constructor
    · rintro ⟨h, hn⟩
      cases hname : r.name t with
      | ok name => simp [hname, Except.map] at h
      | error f =>
        obtain rfl : f = e := by simpa [hname, Except.map] using h
        exact ⟨ht, hname, hn⟩
    · rintro ⟨-, hname, hn⟩
      exact ⟨by simp [hname, Except.map], hn⟩
  case isFalse ht => exact iff_of_false (by simp) fun h => ht h.mayBeSuffix

theorem isSuffix_eq_ok_true_iff :
    r.isSuffix t = .ok true ↔ mayBeSuffix t = true ∧ ∃ name, r.name t = .ok name := by
  unfold isSuffix
  split
  case isTrue ht =>
    rw [Raised.orNo_eq_ok_true_iff, and_iff_right ht]
    cases r.name t <;> simp [Except.map]
  case isFalse ht => simp [ht]

theorem isValue_eq_error_iff : r.isValue formula = .error e ↔ r.FailsToRead formula e := by
  unfold isValue
  constructor
  · intro h
    split at h
    case h_1 isDimensionless hr =>
      cases isDimensionless with
      | ok b => simp [Except.map] at h
      | error f =>
        obtain rfl : f = e := by simpa [Except.map] using h
        exact .units hr
    case h_2 => simp at h
    case h_3 f hr =>
      obtain ⟨hf, hn⟩ := Raised.orNo_eq_error_iff.1 h
      exact .calculation (hr.trans (congrArg _ (Except.error.inj hf))) hn
  · rintro (⟨hr, hn⟩ | hr)
    · rw [hr]
      exact Raised.orNo_eq_error_iff.2 ⟨rfl, hn⟩
    · rw [hr]
      rfl

end Registry

namespace Guard

/-- A question about the unknown names of a formula, or about the formula itself, to which there is no
answer. The names come one after the other, and the formula is only read when all of them are
answered and one of them is a unit. -/
inductive Unanswered (r : Registry) (unknown : List Text) (formula : Text) (e : Raised) : Prop
  | name {before after : List Text} {t : Text} (split : unknown = before ++ t :: after)
      (answered : ∀ u ∈ before, ∀ e, ¬ r.FailsOn u e) (fails : r.FailsOn t e)
  | value {t name : Text} (answered : ∀ u ∈ unknown, ∀ e, ¬ r.FailsOn u e) (mem : t ∈ unknown)
      (mayBeSuffix : Registry.mayBeSuffix t = true) (known : r.name t = .ok name)
      (fails : r.FailsToRead formula e)

structure AreSuffixes (r : Registry) (unknown likely : List Text) : Prop where
  answered : ∀ t ∈ unknown, ∀ e, ¬ r.FailsOn t e
  sublist : likely.Sublist unknown
  mem_iff : ∀ t, t ∈ likely ↔ t ∈ unknown ∧ r.isSuffix t = .ok true

variable {g : Guard}

theorem suffixes_spec (ts : List Text) :
    (∃ likely, g.suffixes ts = .ok likely ∧ AreSuffixes g.registry ts likely) ∨
      ∃ before t after e, g.suffixes ts = .error e ∧ ts = before ++ t :: after ∧
        (∀ u ∈ before, ∀ e, ¬ g.registry.FailsOn u e) ∧ g.registry.FailsOn t e := by
  induction ts with
  | nil => exact .inl ⟨[], rfl, by simp, List.Sublist.refl _, by simp⟩
  | cons t ts ih =>
    unfold suffixes
    cases ht : g.registry.isSuffix t with
    | error e =>
      exact .inr ⟨[], t, ts, e, rfl, rfl, by simp, Registry.isSuffix_eq_error_iff.1 ht⟩
    | ok b =>
      have hanswered : ∀ e, ¬ g.registry.FailsOn t e := fun e he => by
        simp [Registry.isSuffix_eq_error_iff.2 he] at ht
      rcases ih with ⟨likely, hl, hs⟩ | ⟨before, u, after, e, he, rfl, hb, hu⟩
      · rw [hl]
        refine .inl ⟨_, rfl, List.forall_mem_cons.2 ⟨hanswered, hs.answered⟩, ?_, fun u => ?_⟩
        · cases b
          · exact hs.sublist.cons t
          · exact hs.sublist.cons_cons t
        · cases b <;> simp only [Bool.false_eq_true, if_true, if_false, List.mem_cons, hs.mem_iff] <;>
            grind
      · rw [he]
        exact .inr ⟨t :: before, u, after, e, rfl, rfl, List.forall_mem_cons.2 ⟨hanswered, hb⟩, hu⟩

variable {σ : Type} {host : Host σ} {s : σ} {ps : List Parameter} {t : Snapshot}
  {target : Parameter} {formula : Text} {f : Failure} {e : Raised}

theorem isValue_eq_error_iff {unknown likely : List Text}
    (hs : AreSuffixes g.registry unknown likely) :
    g.isValue formula likely = .error e ↔ Unanswered g.registry unknown formula e := by
  unfold isValue
  constructor
  · intro h
    split at h
    case isTrue => simp at h
    case isFalse hne =>
      obtain ⟨t, ht⟩ := List.exists_mem_of_ne_nil likely fun hnil => hne (List.isEmpty_iff.2 hnil)
      obtain ⟨ht, hunit⟩ := (hs.mem_iff t).1 ht
      obtain ⟨hsuffix, name, hname⟩ := Registry.isSuffix_eq_ok_true_iff.1 hunit
      exact .value hs.answered ht hsuffix hname (Registry.isValue_eq_error_iff.1 h)
  · rintro (⟨rfl, -, hf⟩ | ⟨-, ht, hsuffix, hname, hf⟩)
    · exact absurd hf (hs.answered _ (by simp) e)
    · have hmem := (hs.mem_iff _).2 ⟨ht, Registry.isSuffix_eq_ok_true_iff.2 ⟨hsuffix, _, hname⟩⟩
      rw [if_neg fun hnil => List.ne_nil_of_mem hmem (List.isEmpty_iff.1 hnil)]
      exact Registry.isValue_eq_error_iff.2 hf

theorem unanswered_append_cons_iff {before after : List Text} {u : Text} {e' : Raised}
    {r : Registry} (hb : ∀ u ∈ before, ∀ e, ¬ r.FailsOn u e) (hu : r.FailsOn u e') :
    Unanswered r (before ++ u :: after) formula e ↔ e = e' := by
  constructor
  · rintro (⟨hsplit, hb', ht⟩ | ⟨hall, -⟩)
    · obtain ⟨-, rfl, -⟩ := eq_of_append_cons_eq (p := fun x => ∃ e, r.FailsOn x e)
        (by simpa using hb) ⟨e', hu⟩ (by simpa using hb') ⟨e, ht⟩ hsplit
      exact Except.error.inj (ht.raised.symm.trans hu.raised)
    · exact absurd hu (hall u (by simp) e')
  · rintro rfl
    exact .name rfl hb hu

theorem reviewUnknown_eq_failed_iff {unknown : List Text} :
    g.reviewUnknown target formula unknown = .failed f ↔
      ∃ e, f = .raised e ∧ Unanswered g.registry unknown formula e := by
  unfold reviewUnknown
  rcases suffixes_spec (g := g) unknown with ⟨likely, hl, hs⟩ | ⟨before, u, after, e, he, rfl, hb, hu⟩
  · simp only [← isValue_eq_error_iff hs, hl, Bind.bind, Except.bind, pure, Except.pure]
    cases g.isValue formula likely with
    | error e => simp [eq_comm]
    | ok b => simp
  · simp only [he, Bind.bind, Except.bind, unanswered_append_cons_iff hb hu, exists_eq_right,
      Review.failed.injEq]
    exact eq_comm

/-- Past the unknown names every question has an answer. -/
theorem review_eq_failed_iff :
    g.review target formula t.parameters = .failed f ↔ ∃ e, f = .raised e ∧
      Unanswered g.registry (Reference.invalid g.dialect t.parameters (some formula)) formula e := by
  unfold review
  split
  case h_1 unknown rest hu =>
    rw [hu]
    exact reviewUnknown_eq_failed_iff
  case h_2 hu =>
    have hnone (e : Raised) : ¬ Unanswered g.registry [] formula e := by
      rintro (⟨hsplit, -⟩ | ⟨-, hmem, -⟩)
      · simp at hsplit
      · simp at hmem
    simp only [hu, hnone, and_false, exists_false, iff_false]
    split
    case h_1 => simp
    have hshow : (g.verdict target formula t.parameters).isShowable = true :=
      Cycle.isShowable_detect g.dialect g.share t target (some formula)
    rw [if_pos hshow]
    split <;> simp

/-- The host was called and raised something whose text raises in turn. -/
def Untold (host : Host σ) (s : σ) (calls : List (Parameter × Option Text)) (e : Raised) : Prop :=
  ∃ p formula r, calls = [(p, formula)] ∧ host s p formula = .error r ∧ r.text = .error e

theorem not_untold_nil : ¬ Untold host s [] e := by
  simp [Untold]

theorem outcome_commit_eq_failed_iff {formula : Option Text} {suspicious : List Text} :
    (commit host s target formula suspicious).outcome = .failed f ↔
      ∃ e, f = .raised e ∧ Untold host s (commit host s target formula suspicious).calls e := by
  have ha := answered_commit host s target formula suspicious
  rw [calls_commit]
  generalize (commit host s target formula suspicious).outcome = outcome,
    (commit host s target formula suspicious).store = store at ha ⊢
  cases ha with
  | taken h => simp [Untold, h]
  | refused h hm =>
    obtain ⟨text, ht⟩ := Refusal.exists_text_of_shown hm
    simp [Untold, h, ht]
  | untold h he => simp [Untold, h, he, eq_comm]

theorem set_failed_iff {formula : Option Text} :
    (g.set host s target formula ps).outcome = .failed f ↔
      (∃ x, written? formula = some x ∧ g.review target x ps = .failed f) ∨
        ∃ e, f = .raised e ∧ Untold host s (g.set host s target formula ps).calls e := by
  unfold set
  split
  case h_1 hw => simp [hw, outcome_commit_eq_failed_iff]
  case h_2 x hw =>
    simp only [hw, Option.some.injEq, exists_eq_left']
    cases g.review target x ps with
    | failed e => simp [stop, not_untold_nil]
    | rejected r => simp [stop, not_untold_nil]
    | passed suspicious => simp [outcome_commit_eq_failed_iff]

/-- An edit is done or rejected, unless a question about its formula has no answer or the host was
called and what it raised cannot be put into words. -/
theorem run_failed_iff (g : Guard) (host : Host σ) (s : σ) (edit : Edit) (t : Snapshot)
    (f : Failure) : (g.run host s edit t.parameters).outcome = .failed f ↔
      ∃ e, f = .raised e ∧
        ((∃ formula, edit.reviewed? = some formula ∧ Unanswered g.registry
            (Reference.invalid g.dialect t.parameters (some formula)) formula e) ∨
          Untold host s (g.run host s edit t.parameters).calls e) := by
  have hset (target : Parameter) (formula : Option Text) :
      (g.set host s target formula t.parameters).outcome = .failed f ↔
        ∃ e, f = .raised e ∧
          ((∃ x, written? formula = some x ∧ Unanswered g.registry
              (Reference.invalid g.dialect t.parameters (some x)) x e) ∨
            Untold host s (g.set host s target formula t.parameters).calls e) := by
    rw [set_failed_iff]
    simp only [review_eq_failed_iff, and_or_left, exists_or]
    refine or_congr_left ⟨?_, ?_⟩
    · rintro ⟨x, hx, e, rfl, he⟩
      exact ⟨e, rfl, x, hx, he⟩
    · rintro ⟨e, rfl, x, hx, he⟩
      exact ⟨x, hx, e, rfl, he⟩
  cases edit with
  | set target formula => exact hset target formula
  | copy target source =>
    unfold run copy
    dsimp only [Edit.reviewed?]
    split
    case h_1 hw => simp [hw, reject, stop, not_untold_nil]
    case h_2 x hw =>
      have hx : written? (some x) = written? source.formula := by rw [← hw, written?_written?]
      split
      · rw [hset, hx]
      · simp [reject, stop, not_untold_nil]
  | clear target => simp [run, Edit.reviewed?, outcome_commit_eq_failed_iff]
  | trust target formula => simp [run, Edit.reviewed?, outcome_commit_eq_failed_iff]

set_option maxRecDepth 10000 in
theorem outcome_setLone_failed :
    (setLone none "12 ft / 0").outcome =
      .failed (.raised Calculation.Fault.divisionByZero.raised) := by
  have hunknown : Reference.invalid .standard lone.parameters (some "12 ft / 0") =
      [("ft" : Text)] := by decide +kernel
  have hname : Registry.table.name "ft" = .ok ("ft" : Text) := by decide +kernel
  have hparse : Registry.table.parse "12 ft / 0" =
      .error Calculation.Fault.divisionByZero.raised := rfl
  have hanswered : ∀ u ∈ [("ft" : Text)], ∀ e, ¬ Registry.table.FailsOn u e := by
    rintro _ hu e he
    rw [List.mem_singleton.1 hu] at he
    cases hname.symm.trans he.raised
  refine set_failed_iff.2 (.inl ⟨"12 ft / 0", rfl, review_eq_failed_iff.2 ⟨_, rfl, ?_⟩⟩)
  rw [hunknown]
  exact .value hanswered List.mem_cons_self (by decide) hname (.calculation hparse (by decide))

end Guard

end Parametric
