import Parametric.Text.Basic

/-! # Exceptions: their class, the classes above it and their text, and which of them a handler takes -/
namespace Parametric

/-- An exception. A handler of its class or of one `above` that class takes it. -/
structure Raised where
  kind : Text
  above : List Text := []
  text : Text := []
  deriving DecidableEq

namespace Raised

def isOneOf (classes : List Text) (e : Raised) : Bool := (e.kind :: e.above).any (· ∈ classes)

theorem isOneOf_cons (a b : Text) (classes : List Text) (e : Raised) :
    e.isOneOf (a :: b :: classes) = (e.isOneOf [a] || e.isOneOf (b :: classes)) := by
  rw [Bool.eq_iff_iff]
  simp only [isOneOf, List.any_eq_true, decide_eq_true_eq, List.mem_cons, List.not_mem_nil,
    or_false, Bool.or_eq_true, and_or_left, exists_or]

/-- A question that counts as answered with no when one of these classes is raised. -/
def orNo (classes : List Text) : Except Raised Bool → Except Raised Bool
  | .ok b => .ok b
  | .error e => if e.isOneOf classes then .ok false else .error e

theorem orNo_eq_error_iff {classes : List Text} {x : Except Raised Bool} {e : Raised} :
    orNo classes x = .error e ↔ x = .error e ∧ e.isOneOf classes = false := by
  cases x with
  | ok b => simp [orNo]
  | error f =>
    rw [orNo]
    by_cases hf : f.isOneOf classes = true
    · simp only [if_pos hf, reduceCtorEq, Except.error.injEq, false_iff, not_and]
      rintro rfl
      simp [hf]
    · simp only [if_neg hf, Except.error.injEq]
      refine ⟨?_, And.left⟩
      rintro rfl
      exact ⟨rfl, Bool.eq_false_iff.2 hf⟩

theorem orNo_eq_ok_true_iff {classes : List Text} {x : Except Raised Bool} :
    orNo classes x = .ok true ↔ x = .ok true := by
  cases x with
  | ok b => rfl
  | error e =>
    rw [orNo]
    split <;> simp

end Raised

/-- What a host raises when it does not take a formula. Its text is asked for afterwards, and asking
may raise in turn. -/
structure Refusal where
  kind : Text
  kind_ne_nil : kind ≠ []
  text : Except Raised Text

namespace Refusal

/-- The text or, where that is empty, the class. -/
def shown (r : Refusal) : Except Raised Text :=
  r.text.map fun t => if t.isEmpty then r.kind else t

theorem exists_text_of_shown {r : Refusal} {t : Text} (h : r.shown = .ok t) :
    ∃ text, r.text = .ok text := by
  unfold shown at h
  cases ht : r.text with
  | error e => simp [ht, Except.map] at h
  | ok text => exact ⟨text, rfl⟩

theorem shown_eq_error_iff {r : Refusal} {e : Raised} : r.shown = .error e ↔ r.text = .error e := by
  unfold shown
  cases r.text <;> simp [Except.map]

end Refusal

end Parametric
