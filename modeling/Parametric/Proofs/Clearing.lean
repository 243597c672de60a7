import Parametric.Proofs.CycleCheck
import Parametric.Proofs.EditReview
import Parametric.Proofs.EditRun

/-! # Clearing formulas makes no other edit illegal

Without a formula fewer parameters lead to the target. The search takes other ways then, so the two
verdicts are compared by what can be reached at all. -/
namespace Parametric

open Relation

/-- A snapshot with the formulas of some parameters cleared, one after the other. -/
def Snapshot.clear (s : Snapshot) (ids : List Ident) : Snapshot :=
  ids.foldl (fun t id => t.replace id none) s

theorem Snapshot.parameters_clear (s : Snapshot) (ids : List Ident) :
    (s.clear ids).parameters =
      s.parameters.map fun p => if p.id ∈ ids then { p with formula := none } else p := by
  induction ids generalizing s with
  | nil => simp [clear]
  | cons id ids ih =>
    rw [clear, List.foldl_cons, ← clear, ih, replace, List.map_map]
    refine List.map_congr_left fun p _ => ?_
    rw [Function.comp_apply, replaced_id, replaced]
    by_cases hi : p.id = id
    · simp [hi]
    · simp [hi]

theorem References.of_replace_none {d : Dialect} {s : Snapshot} {id a b : Ident}
    (h : References d (s.replace id none).parameters a b) : References d s.parameters a b := by
  obtain ⟨_, hr, rfl, hb⟩ := h
  obtain ⟨p, hp, rfl⟩ := List.mem_map.1 hr
  rw [Snapshot.replaced_id]
  by_cases hi : p.id = id
  · have hnone : (Snapshot.replaced id none p).formula = none := by
      rw [Snapshot.replaced_formula, if_pos hi, written?_none]
    rw [dependencies, hnone] at hb
    simp [Reference.of] at hb
  · rw [Snapshot.replaced, if_neg hi, dependencies, ids_of_replace] at hb
    exact ⟨p, hp, rfl, hb⟩

theorem Cycle.detect_wouldCycle_iff (d : Dialect) (share : Bool) (s : Snapshot) (target : Parameter)
    (formula : Option Text) : (detect d share target formula s.parameters).wouldCycle = true ↔
      ∃ b ∈ (Reference.of d s.parameters formula).map (·.id),
        ReflTransGen (References d s.parameters) b target.id := by
  rcases detect_spec d share s target formula with
    ⟨earlier, root, later, path, hof, hd, hp, -⟩ | ⟨hd, hn⟩
  · rw [hd]
    refine iff_of_true rfl ⟨root.id, ?_, hp.leads⟩
    simp [hof]
  · rw [hd]
    refine iff_of_false (by simp [Verdict.none]) ?_
    rintro ⟨_, hb, hlead⟩
    obtain ⟨p, hp, rfl⟩ := List.mem_map.1 hb
    exact hn p hp hlead

/-- A formula that closes a cycle after a clearing closes one before it. -/
theorem Cycle.wouldCycle_of_replace_none {d : Dialect} {share : Bool} {s : Snapshot} {id : Ident}
    {target : Parameter} {formula : Option Text}
    (h : (detect d share target formula (s.replace id none).parameters).wouldCycle = true) :
    (detect d share target formula s.parameters).wouldCycle = true := by
  rw [detect_wouldCycle_iff] at h ⊢
  obtain ⟨b, hb, hlead⟩ := h
  rw [ids_of_replace] at hb
  exact ⟨b, hb, ReflTransGen.mono (fun _ _ => References.of_replace_none) _ _ hlead⟩

/-- What the names and the classes of the parameters alone make illegal. -/
def Rejection.isNaming : Rejection → Bool
  | .unknownReference .. | .instanceReference .. => true
  | _ => false

namespace Guard

variable {g : Guard} {target : Parameter} {unknown : List Text} {instances : List (Option Text)}
  {v v' : Cycle.Verdict} {suspicious : List Text}

/-- A verdict that finds no more cycles lets pass what passes. -/
theorem answer_eq_passed {f : Text} {more : List Text}
    (hv : v'.wouldCycle = true → v.wouldCycle = true)
    (h : g.answer target f unknown instances v suspicious = .passed more) :
    g.answer target f unknown instances v' suspicious = .passed more := by
  cases unknown with
  | cons t ts => exact h
  | nil =>
    cases instances with
    | cons n ns => exact h
    | nil =>
      simp only [answer] at h ⊢
      split at h
      · split at h <;> simp at h
      · rename_i hno
        rw [if_neg fun hyes => hno (hv hyes), h]

/-- No verdict makes a difference to the checks before it. -/
theorem answer_eq_rejected_iff {f : Text} {r : Rejection} (hr : r.isNaming = true) :
    g.answer target f unknown instances v suspicious = .rejected r ↔
      g.answer target f unknown instances v' suspicious = .rejected r := by
  have hno (v : Cycle.Verdict) : g.answer target f [] [] v suspicious ≠ .rejected r := by
    simp only [answer]
    split
    · split
      · rintro ⟨⟩
        simp [Rejection.isNaming] at hr
      · simp
    · simp
  cases unknown with
  | cons t ts => rfl
  | nil =>
    cases instances with
    | cons n ns => rfl
    | nil => exact iff_of_false (hno v) (hno v')

variable {s : Snapshot} {σ σ' : Type} {host : Host σ} {x : σ} {formula : Option Text}

theorem outcome_commit_ne_of_isNaming {r : Rejection} (hr : r.isNaming = true) {f : Option Text} :
    (commit host x target f suspicious).outcome ≠ .rejected r := by
  have ha := answered_commit host x target f suspicious
  generalize (commit host x target f suspicious).outcome = outcome,
    (commit host x target f suspicious).store = store at ha ⊢
  cases ha with
  | refused =>
    rintro ⟨⟩
    simp [Rejection.isNaming] at hr
  | _ => simp

theorem review_eq_passed_of_clear {f : Text} (ids : List Ident)
    (h : g.review target f s.parameters = .passed suspicious) :
    g.review target f (s.clear ids).parameters = .passed suspicious := by
  induction ids generalizing s with
  | nil => exact h
  | cons id ids ih =>
    refine ih ?_
    rw [review_eq_answer] at h
    rw [review_replace]
    exact answer_eq_passed Cycle.wouldCycle_of_replace_none h

theorem review_eq_rejected_iff_clear {f : Text} {r : Rejection} (hr : r.isNaming = true)
    (ids : List Ident) : g.review target f s.parameters = .rejected r ↔
      g.review target f (s.clear ids).parameters = .rejected r := by
  induction ids generalizing s with
  | nil => rfl
  | cons id ids ih =>
    refine Iff.trans ?_ ih
    rw [review_eq_answer, review_replace]
    exact answer_eq_rejected_iff hr

theorem calls_set_of_passes {ps : List Parameter} (h : g.Passes ps target (written? formula)) :
    (g.set host x target formula ps).calls = [(target, written? formula)] := by
  unfold set
  split
  case h_1 hw => rw [calls_commit, hw]
  case h_2 f hw =>
    obtain ⟨suspicious, hr⟩ := h f hw
    rw [hr, hw]
    exact calls_commit target (some f) suspicious

theorem passes_of_calls_set {ps : List Parameter} (h : (g.set host x target formula ps).calls ≠ []) :
    g.Passes ps target (written? formula) := by
  intro f hw
  simp only [set, hw] at h
  cases hr : g.review target f ps with
  | failed e => simp [hr, stop] at h
  | rejected r => simp [hr, stop] at h
  | passed suspicious => exact ⟨suspicious, rfl⟩

/-- What reaches the host reaches it also after formulas of parameters were cleared, and what is
rejected for its names or their classes is rejected for the same ones. -/
theorem set_clear (g : Guard) (s : Snapshot) (ids : List Ident) (target : Parameter)
    (formula : Option Text) (host : Host σ) (x : σ) (host' : Host σ') (x' : σ') :
    ((g.set host x target formula s.parameters).calls ≠ [] →
      (g.set host' x' target formula (s.clear ids).parameters).calls =
        (g.set host x target formula s.parameters).calls) ∧
    ∀ r : Rejection, r.isNaming = true →
      ((g.set host x target formula s.parameters).outcome = .rejected r ↔
        (g.set host' x' target formula (s.clear ids).parameters).outcome = .rejected r) := by
  constructor
  · intro hc
    have hp := passes_of_calls_set hc
    have hp' : g.Passes (s.clear ids).parameters target (written? formula) := by
      intro f hf
      obtain ⟨suspicious, hr⟩ := hp f hf
      exact ⟨suspicious, review_eq_passed_of_clear ids hr⟩
    rw [calls_set_of_passes hp, calls_set_of_passes hp']
  · intro r hr
    rw [outcome_set_eq_iff fun _ _ => outcome_commit_ne_of_isNaming hr,
      outcome_set_eq_iff fun _ _ => outcome_commit_ne_of_isNaming hr]
    simp only [Review.ending?_eq_rejected_iff]
    exact exists_congr fun f => and_congr_right fun _ => review_eq_rejected_iff_clear hr ids

theorem set_clear_loop :
    let g : Guard := ⟨.standard, false, .table⟩
    let s := three (some "B") (some "A") none
    let target := Cycle.plain 3 "C" none
    (g.set (Snapshot.host none) s target (some "A + B") s.parameters).calls ≠ [] ∧
      (g.set (Snapshot.host none) s target (some "A + B") (s.clear [.number 1]).parameters).calls =
        [(target, some ("A + B" : Text))] := by
  intro g s target
  have hc : (g.set (Snapshot.host none) s target (some "A + B") s.parameters).calls =
      [(target, some ("A + B" : Text))] := by cbv
  have hne : (g.set (Snapshot.host none) s target (some "A + B") s.parameters).calls ≠ [] := by
    rw [hc]
    exact List.cons_ne_nil _ _
  exact ⟨hne, ((set_clear g s [.number 1] target _ (Snapshot.host none) s (Snapshot.host none)
    s).1 hne).trans hc⟩

end Guard

end Parametric
