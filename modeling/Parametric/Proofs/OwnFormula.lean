import Parametric.Proofs.EditReview
import Parametric.Proofs.EditRun
import Parametric.Proofs.RecursiveSearch
import Parametric.Proofs.Replacement

/-! # The answer to an edit does not depend on the formula that its target holds

The search for a cycle ends at the target and never goes on from there. On two snapshots that differ
in the target's own formula it takes the same way. -/
namespace Parametric

namespace Search

variable {next next' : Parameter → List Parameter} {goal : Ident} {r : Parameter → Parameter}

mutual

/-- A search over other accounts of the parameters goes the same way if all of them but the goal
reference the same. -/
theorem Finds.map (hid : ∀ p, (r p).id = p.id)
    (hn : ∀ p, p.id ≠ goal → next' (r p) = (next p).map r) {p : Parameter} {visited : List Ident}
    {answer : Option (List Parameter) × List Ident} :
    Finds next goal p visited answer →
      Finds next' goal (r p) visited (answer.1.map (List.map r), answer.2)
  | .goal hg => .goal ((hid p).trans hg)
  | .again hg hv => .again (by rwa [hid]) (by rwa [hid])
  | .enter hg hv h => by
    have hfirst := FindsFirst.map hid hn h
    rw [← hn p hg, ← hid p] at hfirst
    have hfinds := Finds.enter (by rwa [hid]) (by rwa [hid]) hfirst
    simpa [Option.map_map, Function.comp_def] using hfinds

theorem FindsFirst.map (hid : ∀ p, (r p).id = p.id)
    (hn : ∀ p, p.id ≠ goal → next' (r p) = (next p).map r) {untried : List Parameter}
    {visited : List Ident} {answer : Option (List Parameter) × List Ident} :
    FindsFirst next goal untried visited answer →
      FindsFirst next' goal (untried.map r) visited (answer.1.map (List.map r), answer.2)
  | .nil => .nil
  | .found h => .found (Finds.map hid hn h)
  | .none h h' => .none (Finds.map hid hn h) (FindsFirst.map hid hn h')

end

theorem path_map {ps ps' : List Parameter} (hs : ∀ p, (next p).Sublist ps)
    (hs' : ∀ p, (next' p).Sublist ps') (hid : ∀ p, (r p).id = p.id)
    (hn : ∀ p, p.id ≠ goal → next' (r p) = (next p).map r) (root : Parameter)
    (visited : List Ident) :
    path next' goal ps'.length (r root) visited =
      ((path next goal ps.length root visited).1.map (List.map r),
        (path next goal ps.length root visited).2) :=
  (finds_path goal hs' (r root) visited).eq ((finds_path goal hs root visited).map hid hn)

end Search

namespace Parameter

/-- Two accounts of one parameter, whatever formulas they tell of. -/
structure Resembles (p q : Parameter) : Prop where
  id : p.id = q.id
  name : p.name = q.name
  isInstance : p.isInstance = q.isInstance

end Parameter

namespace Cycle

/-- A verdict in terms of other accounts of the parameters. -/
def Verdict.map (r : Parameter → Parameter) (v : Verdict) : Verdict :=
  ⟨v.wouldCycle, v.direct.map r, v.path.map r⟩

def Verdict.bare (v : Verdict) : Verdict := v.map Parameter.bare

theorem Verdict.isShowable_bare (v : Verdict) : v.bare.isShowable = v.isShowable := by
  simp [isShowable, bare, map, pathNames, Function.comp_def, Parameter.bare]

variable (d : Dialect) (s : Snapshot) (id : Ident) (f : Option Text)

theorem dependencies_replaced {p : Parameter} (hp : p.id ≠ id) :
    dependencies d (Snapshot.replaced id f p) (s.replace id f).parameters =
      (dependencies d p s.parameters).map (Snapshot.replaced id f) := by
  rw [dependencies, of_replace, Snapshot.replaced_formula, if_neg hp, dependencies]

theorem firstPath_replace (share : Bool) (visited : List Ident) (roots : List Parameter) :
    firstPath d share id (s.replace id f).parameters visited
        (roots.map (Snapshot.replaced id f)) =
      (firstPath d share id s.parameters visited roots).map
        fun found => (Snapshot.replaced id f found.1, found.2.map (Snapshot.replaced id f)) := by
  induction roots generalizing visited with
  | nil => rfl
  | cons root roots ih =>
    have hpath := Search.path_map (searchable s).sublist (searchable (s.replace id f)).sublist
      (Snapshot.replaced_id id f) (fun p hp => dependencies_replaced d s id f hp) root visited
    rw [List.map_cons, firstPath, firstPath, hpath]
    cases (Search.path (dependencies d · s.parameters) id s.parameters.length root visited).1 with
    | some path => rfl
    | none => exact ih _

variable {d s f}

theorem detect_replace (share : Bool) (target : Parameter) (formula : Option Text) :
    detect d share target formula (s.replace target.id f).parameters =
      (detect d share target formula s.parameters).map (Snapshot.replaced target.id f) := by
  unfold detect
  rw [of_replace, firstPath_replace]
  cases firstPath d share target.id s.parameters [] (Reference.of d s.parameters formula) with
  | none => rfl
  | some found => rfl

theorem bare_detect_replace (share : Bool) (target : Parameter) (formula : Option Text) :
    (detect d share target formula (s.replace target.id f).parameters).bare =
      (detect d share target formula s.parameters).bare := by
  rw [detect_replace]
  simp [Verdict.bare, Verdict.map, Function.comp_def, Snapshot.bare_replaced]

end Cycle

/-- A rejection that tells of a path by its parameters, and not of the formulas that these hold. -/
def Rejection.bare : Rejection → Rejection
  | .cycle target v => .cycle target v.bare
  | r => r

def Outcome.bare : Outcome → Outcome
  | .rejected r => .rejected r.bare
  | o => o

namespace Guard

def Review.bare : Review → Review
  | .rejected r => .rejected r.bare
  | r => r

theorem Review.cases_of_bare_eq {r r' : Review} (h : r.bare = r'.bare) :
    (∃ e, r = .failed e ∧ r' = .failed e) ∨
      (∃ q q', r = .rejected q ∧ r' = .rejected q' ∧ q.bare = q'.bare) ∨
      ∃ suspicious, r = .passed suspicious ∧ r' = .passed suspicious := by
  cases r <;> cases r' <;> simp_all [bare]

variable {g : Guard} {target target' : Parameter} {formula : Text}

theorem bare_reviewUnknown (unknown : List Text) :
    (g.reviewUnknown target formula unknown).bare = g.reviewUnknown target formula unknown := by
  unfold reviewUnknown
  dsimp only
  split <;> rfl

theorem bare_answer (unknown : List Text) (instances : List (Option Text)) (v : Cycle.Verdict)
    (suspicious : List Text) :
    (g.answer target formula unknown instances v suspicious).bare =
      g.answer target formula unknown instances v.bare suspicious := by
  have hv : v.bare.wouldCycle = v.wouldCycle := rfl
  unfold answer
  split
  · exact bare_reviewUnknown _
  · rfl
  · rw [v.isShowable_bare, hv]
    split
    · split <;> rfl
    · rfl

theorem bare_review_replace (s : Snapshot) (f : Option Text) :
    (g.review target formula (s.replace target.id f).parameters).bare =
      (g.review target formula s.parameters).bare := by
  rw [review_replace, bare_answer, verdict, Cycle.bare_detect_replace, review_eq_answer,
    bare_answer, verdict]

theorem review_resembles (h : target.Resembles target') (ps : List Parameter) :
    g.review target formula ps = g.review target' formula ps := by
  have hi : g.instanceReferences target formula ps = g.instanceReferences target' formula ps := by
    rw [instanceReferences, instanceReferences, h.isInstance]
  have hv : g.verdict target formula ps = g.verdict target' formula ps := by
    rw [verdict, verdict, Cycle.detect, Cycle.detect, h.id]
  have hu (unknown : List Text) :
      g.reviewUnknown target formula unknown = g.reviewUnknown target' formula unknown := by
    rw [reviewUnknown, reviewUnknown, h.name]
  simp only [review_eq_answer, hi, hv, answer, hu, h.name]

variable {σ σ' : Type} {host : Host σ} {x : σ} {host' : Host σ'} {x' : σ'} {s s' : Snapshot}

/-- Two attempts at one formula come to the same: the checks end both of them, with the same
findings, or both call their host with the formula. -/
inductive EndsAlike (host : Host σ) (x : σ) (target : Parameter) (host' : Host σ') (x' : σ')
    (target' : Parameter) (formula : Option Text) : Attempt σ → Attempt σ' → Prop
  | stopped {o o' : Outcome} (ho : o.bare = o'.bare) (hd : o ≠ .done) (entries entries' : List Entry) :
      EndsAlike host x target host' x' target' formula (stop x o entries) (stop x' o' entries')
  | called (suspicious : List Text) :
      EndsAlike host x target host' x' target' formula
        (commit host x target (written? formula) suspicious)
        (commit host' x' target' (written? formula) suspicious)

theorem endsAlike_set (hs : s.replace target.id none = s'.replace target.id none)
    (ht : target.Resembles target') (formula : Option Text) :
    EndsAlike host x target host' x' target' formula (g.set host x target formula s.parameters)
      (g.set host' x' target' formula s'.parameters) := by
  have hreview (f : Text) :
      (g.review target f s.parameters).bare = (g.review target' f s'.parameters).bare := by
    rw [← bare_review_replace s none, hs, bare_review_replace, review_resembles ht]
  have hcalled (suspicious : List Text) : EndsAlike host x target host' x' target' formula
      (commit host x target (written? formula) suspicious)
      (commit host' x' target' (written? formula) suspicious) := .called suspicious
  unfold set
  split
  case h_1 hw =>
    rw [hw] at hcalled
    exact hcalled []
  case h_2 f hw =>
    rw [hw] at hcalled
    rcases Review.cases_of_bare_eq (hreview f) with
      ⟨e, hr, hr'⟩ | ⟨r, r', hr, hr', hb⟩ | ⟨suspicious, hr, hr'⟩
    · rw [hr, hr']
      exact .stopped rfl (by simp) _ _
    · have ho : (Outcome.rejected r).bare = (Outcome.rejected r').bare :=
        congrArg Outcome.rejected hb
      rw [hr, hr']
      exact .stopped ho (by simp) _ _
    · rw [hr, hr']
      exact hcalled suspicious

theorem commit_host_of_contains (hc : s.contains target.id = true) (f : Option Text)
    (suspicious : List Text) :
    (commit (Snapshot.host none) s target f suspicious).outcome = .done ∧
      (commit (Snapshot.host none) s target f suspicious).store = s.replace target.id f := by
  have ho : Snapshot.host none s target f = .ok (s.replace target.id f) := by
    simp [Snapshot.host, Snapshot.withFormula?, hc]
  simp [commit, ho]

theorem contains_of_commit_host {f : Option Text} {suspicious : List Text}
    (hd : (commit (Snapshot.host none) s target f suspicious).outcome = .done) :
    s.contains target.id = true := by
  have ha := answered_commit (Snapshot.host none) s target f suspicious
  rw [hd] at ha
  generalize (commit (Snapshot.host none) s target f suspicious).store = store at ha
  cases ha with
  | taken ho => exact (Snapshot.eq_replace_of_withFormula? (isFaithful_host none _ _ _ _ ho)).1

theorem EndsAlike.again {t : Snapshot} {formula : Option Text} {first second : Attempt Snapshot}
    (h : EndsAlike (Snapshot.host none) s target (Snapshot.host none) t target' formula first second)
    (hd : first.outcome = .done) (ht : target.id = target'.id)
    (he : t = s.replace target.id (written? formula)) :
    first.store = t ∧ second.outcome = .done ∧ second.store = t := by
  cases h with
  | stopped ho hd' => exact absurd hd hd'
  | called suspicious =>
    have hc := contains_of_commit_host hd
    have hc' : t.contains target'.id = true := by
      rw [← ht, he, Snapshot.contains_replace, hc]
    obtain ⟨hdone, hstore⟩ := commit_host_of_contains hc' (written? formula) suspicious
    refine ⟨(commit_host_of_contains hc _ suspicious).2.trans he.symm, hdone, ?_⟩
    rw [hstore, ← ht, he, Snapshot.replace_replace]

/-- The formula that a parameter holds makes no difference to an attempt to give it another one. So
a formula that was taken is taken again, and then nothing changes. -/
theorem set_ignores_own_formula (g : Guard) {s s' : Snapshot} {target target' : Parameter}
    (hs : s.replace target.id none = s'.replace target.id none) (ht : target.Resembles target')
    (formula : Option Text) :
    (∀ {σ σ' : Type} (host : Host σ) (x : σ) (host' : Host σ') (x' : σ'),
      EndsAlike host x target host' x' target' formula (g.set host x target formula s.parameters)
        (g.set host' x' target' formula s'.parameters)) ∧
    ∀ first, g.set (Snapshot.host none) s target formula s.parameters = first →
      first.outcome = .done →
      (g.set (Snapshot.host none) first.store target' formula first.store.parameters).outcome =
          .done ∧
        (g.set (Snapshot.host none) first.store target' formula first.store.parameters).store =
          first.store := by
  refine ⟨fun host x host' x' => endsAlike_set hs ht formula, ?_⟩
  rintro _ rfl hd
  have hrepeat : s.replace target.id none =
      (s.replace target.id (written? formula)).replace target.id none := by
    rw [Snapshot.replace_replace]
  have hends : EndsAlike (Snapshot.host none) s target (Snapshot.host none)
      (s.replace target.id (written? formula)) target' formula _ _ :=
    endsAlike_set (g := g) hrepeat ht formula
  obtain ⟨hstore, hdone, hsame⟩ := hends.again hd ht.id rfl
  rw [hstore]
  exact ⟨hdone, hsame⟩

theorem set_ignores_own_formula_loop :
    let g : Guard := ⟨.standard, false, .table⟩
    let s := three (some "A + C") (some "A") none
    let s' := three none (some "A") none
    let target := Cycle.plain 1 "A" none
    let target' := Cycle.plain 1 "A" (some "B + B")
    s.replace target.id none = s'.replace target.id none ∧ target.Resembles target' ∧
      EndsAlike (Snapshot.host none) s target (Snapshot.host none) s' target' (some "B")
        (g.set (Snapshot.host none) s target (some "B") s.parameters)
        (g.set (Snapshot.host none) s' target' (some "B") s'.parameters) ∧
      ∃ first, g.set (Snapshot.host none) s target (some "C") s.parameters = first ∧
        first.outcome = .done ∧
        (g.set (Snapshot.host none) first.store target' (some "C") first.store.parameters).outcome =
          .done := by
  intro g s s' target target'
  have hs : s.replace target.id none = s'.replace target.id none := rfl
  have ht : target.Resembles target' := ⟨rfl, rfl, rfl⟩
  have hd : (g.set (Snapshot.host none) s target (some "C") s.parameters).outcome = .done := by cbv
  exact ⟨hs, ht, (set_ignores_own_formula g hs ht (some "B")).1 _ s _ s', _, rfl, hd,
    ((set_ignores_own_formula g hs ht (some "C")).2 _ rfl hd).1⟩

end Guard

end Parametric
