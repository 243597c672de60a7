import Parametric.Edit.Guard

/-! # What one edit comes to: an end before the host is called, or one call of the host -/
namespace Parametric

namespace Edit

def isChecked : Edit → Bool
  | .trust _ _ => false
  | _ => true

def target : Edit → Parameter
  | .set p _ | .copy p _ | .clear p | .trust p _ => p

def formula : Edit → Option Text
  | .set _ f | .trust _ f => f
  | .copy _ source => source.formula
  | .clear _ => none

end Edit

namespace Outcome

/-- The host was asked to take a formula and did not. -/
def IsRefusal : Outcome → Prop
  | rejected (.refused ..) => True
  | _ => False

end Outcome

namespace Guard

variable {g : Guard} {σ : Type} {host : Host σ} {s : σ} {ps : List Parameter}

/-- A formula passes when it names nothing unknown, refers to no instance parameter from a type
parameter and closes no cycle. -/
theorem review_eq_passed {target : Parameter} {formula : Text} {suspicious : List Text}
    (h : g.review target formula ps = .passed suspicious) :
    Reference.invalid g.dialect ps (some formula) = [] ∧
      g.instanceReferences target formula ps = [] ∧
      (g.verdict target formula ps).wouldCycle = false := by
  unfold review at h
  split at h
  · unfold reviewUnknown at h
    dsimp only at h
    split at h <;> simp at h
  · rename_i hi
    split at h
    · simp at h
    · rename_i hr
      dsimp only at h
      split at h
      · split at h <;> simp at h
      · rename_i hv
        exact ⟨hi, hr, by simpa using hv⟩

theorem not_isRefusal_of_review {target : Parameter} {formula : Text} {r : Rejection}
    (h : g.review target formula ps = .rejected r) : ¬ (Outcome.rejected r).IsRefusal := by
  unfold review at h
  split at h
  · unfold reviewUnknown at h
    dsimp only at h
    split at h
    · simp at h
    · obtain rfl := Review.rejected.inj h
      exact id
  · split at h
    · obtain rfl := Review.rejected.inj h
      exact id
    · dsimp only at h
      split at h
      · split at h
        · obtain rfl := Review.rejected.inj h
          exact id
        · simp at h
      · simp at h

/-- What a checked edit may ask the host to take. -/
def Passes (g : Guard) (ps : List Parameter) (target : Parameter) (formula : Option Text) : Prop :=
  ∀ f, formula = some f → ∃ suspicious, g.review target f ps = .passed suspicious

/-- The two courses of an edit. When the host is called, a checked edit has passed the checks. -/
inductive Course (g : Guard) (host : Host σ) (s : σ) (ps : List Parameter) (edit : Edit) :
    Attempt σ → Prop
  | stopped {outcome : Outcome} (entries : List Entry) (hd : outcome ≠ .done)
      (hr : ¬ outcome.IsRefusal) : Course g host s ps edit (stop s outcome entries)
  | called (suspicious : List Text)
      (hp : edit.isChecked = true → g.Passes ps edit.target (written? edit.formula)) :
      Course g host s ps edit (commit host s edit.target (written? edit.formula) suspicious)

/-- What comes of a call of the host, by what it answers. -/
inductive Answered (host : Host σ) (s : σ) (target : Parameter) (formula : Option Text)
    (suspicious : List Text) : Outcome → σ → Prop
  | taken {s' : σ} (h : host s target formula = .ok s') :
      Answered host s target formula suspicious .done s'
  | refused {r : Refusal} {message : Text} (h : host s target formula = .error r)
      (hm : r.shown = .ok message) :
      Answered host s target formula suspicious
        (.rejected (.refused target.name message suspicious)) s
  | untold {r : Refusal} {e : Raised} (h : host s target formula = .error r)
      (he : r.text = .error e) :
      Answered host s target formula suspicious (.failed (.raised e)) s

theorem answered_commit (host : Host σ) (s : σ) (target : Parameter) (formula : Option Text)
    (suspicious : List Text) : Answered host s target formula suspicious
      (commit host s target formula suspicious).outcome
      (commit host s target formula suspicious).store := by
  unfold commit
  cases h : host s target formula with
  | ok s' => exact .taken h
  | error r =>
    dsimp only
    cases hm : r.shown with
    | ok message => exact .refused h hm
    | error e => exact .untold h (Refusal.shown_eq_error_iff.1 hm)

@[simp] theorem calls_commit (target : Parameter) (formula : Option Text) (suspicious : List Text) :
    (commit host s target formula suspicious).calls = [(target, formula)] := by
  unfold commit
  split <;> rfl

def Review.ending? : Review → Option Outcome
  | .failed f => some (.failed f)
  | .rejected r => some (.rejected r)
  | .passed _ => none

theorem Review.ending?_eq_rejected_iff {r : Review} {q : Rejection} :
    r.ending? = some (.rejected q) ↔ r = .rejected q := by
  cases r <;> simp [ending?]

/-- An outcome that no call of the host has is one that the checks of a written formula come to. -/
theorem outcome_set_eq_iff {o : Outcome} {target : Parameter}
    (ho : ∀ f suspicious, (commit host s target f suspicious).outcome ≠ o)
    {formula : Option Text} : (g.set host s target formula ps).outcome = o ↔
      ∃ f, written? formula = some f ∧ (g.review target f ps).ending? = some o := by
  unfold set
  split
  case h_1 hw => simp [hw, ho]
  case h_2 f hw =>
    simp only [hw, Option.some.injEq, exists_eq_left']
    cases g.review target f ps with
    | failed e => simp [Review.ending?, stop]
    | rejected r => simp [Review.ending?, stop]
    | passed suspicious => simp [Review.ending?, ho]

theorem passes_none (target : Parameter) : g.Passes ps target none :=
  fun _ h => by simp at h

/-- A copy goes this way, too, once its source is known to fit. -/
theorem course_set {edit : Edit} {formula : Option Text} (hf : edit.formula = formula) :
    g.Course host s ps edit (g.set host s edit.target formula ps) := by
  unfold set
  split
  case h_1 hw =>
    have hp : g.Passes ps edit.target (written? edit.formula) := by
      rw [hf, hw]
      exact passes_none edit.target
    have hc : g.Course host s ps edit _ := .called [] fun _ => hp
    rwa [hf, hw] at hc
  case h_2 f hw =>
    split
    · exact .stopped _ (by simp) id
    · rename_i r hr
      exact .stopped _ (by simp) (not_isRefusal_of_review hr)
    · rename_i suspicious hr
      have hp : g.Passes ps edit.target (written? edit.formula) := by
        rw [hf, hw]
        rintro _ ⟨rfl⟩
        exact ⟨suspicious, hr⟩
      have hc : g.Course host s ps edit _ := .called suspicious fun _ => hp
      rwa [hf, hw] at hc

theorem course_run (edit : Edit) : g.Course host s ps edit (g.run host s edit ps) := by
  cases edit with
  | set target formula => exact course_set rfl
  | copy target source =>
    unfold run copy
    dsimp only
    split
    · exact .stopped _ (by simp) id
    · rename_i f hw
      split
      · exact course_set (written?_eq_some_iff.1 hw).1
      · exact .stopped _ (by simp) id
  | clear target => exact .called [] fun _ => passes_none target
  | trust target formula => exact .called [] fun h => by simp [Edit.isChecked] at h

end Guard

end Parametric
