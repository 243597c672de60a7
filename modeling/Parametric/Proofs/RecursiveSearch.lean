import Parametric.Proofs.ReferenceRelation

/-! # The search with a trail does what the recursive depth-first search does

The trail stands for the calls that are open: the frame of a parameter holds the references that its
call has not gone through yet. -/
namespace Parametric.Search

variable (next : Parameter → List Parameter) (goal : Ident)

mutual

/-- The recursive search from one parameter: the path that it finds, if any, and all that is visited
after it. -/
inductive Finds : Parameter → List Ident → Option (List Parameter) × List Ident → Prop
  | goal {p : Parameter} {visited : List Ident} (hg : p.id = goal) :
      Finds p visited (some [p], visited)
  | again {p : Parameter} {visited : List Ident} (hg : p.id ≠ goal) (hv : p.id ∈ visited) :
      Finds p visited (none, visited)
  | enter {p : Parameter} {visited visited' : List Ident} {found : Option (List Parameter)}
      (hg : p.id ≠ goal) (hv : p.id ∉ visited)
      (h : FindsFirst (next p) (p.id :: visited) (found, visited')) :
      Finds p visited (found.map (p :: ·), visited')

/-- The first path that is found from parameters tried in order, each with what was visited before. -/
inductive FindsFirst : List Parameter → List Ident → Option (List Parameter) × List Ident → Prop
  | nil {visited : List Ident} : FindsFirst [] visited (none, visited)
  | found {p : Parameter} {untried path : List Parameter} {visited visited' : List Ident}
      (h : Finds p visited (some path, visited')) :
      FindsFirst (p :: untried) visited (some path, visited')
  | none {p : Parameter} {untried : List Parameter} {visited visited' : List Ident}
      {answer : Option (List Parameter) × List Ident} (h : Finds p visited (none, visited'))
      (h' : FindsFirst untried visited' answer) : FindsFirst (p :: untried) visited answer

end

/-- The steps of the search with a trail up to its end, however many there are. -/
inductive Halts : State → Option (List Parameter) × List Ident → Prop
  | ended {s : State} {found : Option (List Parameter)} {visited : List Ident}
      (h : step next goal s = .ended found visited) : Halts s (found, visited)
  | searching {s s' : State} {answer : Option (List Parameter) × List Ident}
      (h : step next goal s = .searching s') (h' : Halts s' answer) : Halts s answer

/-- How a search goes on after one of its open calls has returned. -/
inductive Resumes (trail : List Frame) :
    Option (List Parameter) × List Ident → Option (List Parameter) × List Ident → Prop
  | found {path : List Parameter} {visited : List Ident} :
      Resumes trail (some path, visited) (some (nodes trail ++ path), visited)
  | none {visited : List Ident} {answer : Option (List Parameter) × List Ident}
      (h : Halts next goal ⟨trail, visited⟩ answer) : Resumes trail (none, visited) answer

variable {next goal}

mutual

theorem Finds.eq {p : Parameter} {visited : List Ident}
    {answer answer' : Option (List Parameter) × List Ident} :
    Finds next goal p visited answer → Finds next goal p visited answer' → answer = answer'
  | .goal hg, h' => by
    cases h' with
    | goal => rfl
    | again hg' => exact absurd hg hg'
    | enter hg' => exact absurd hg hg'
  | .again hg hv, h' => by
    cases h' with
    | goal hg' => exact absurd hg' hg
    | again => rfl
    | enter _ hv' => exact absurd hv hv'
  | .enter hg hv h, h' => by
    cases h' with
    | goal hg' => exact absurd hg' hg
    | again _ hv' => exact absurd hv' hv
    | enter _ _ h' =>
      have he := FindsFirst.eq h h'
      rw [Prod.mk.injEq] at he
      rw [he.1, he.2]

theorem FindsFirst.eq {untried : List Parameter} {visited : List Ident}
    {answer answer' : Option (List Parameter) × List Ident} :
    FindsFirst next goal untried visited answer → FindsFirst next goal untried visited answer' →
      answer = answer'
  | .nil, .nil => rfl
  | .found h, .found h' => Finds.eq h h'
  | .found h, .none h' _ => absurd (Finds.eq h h') (by simp)
  | .none h _, .found h' => absurd (Finds.eq h h') (by simp)
  | .none h hs, .none h' hs' => by
    have he := (Prod.mk.inj (Finds.eq h h')).2
    rw [← he] at hs'
    exact FindsFirst.eq hs hs'

end

theorem Halts.pop {node : Parameter} {trail : List Frame} {visited : List Ident}
    {answer : Option (List Parameter) × List Ident} (h : Halts next goal ⟨trail, visited⟩ answer) :
    Halts next goal ⟨⟨node, []⟩ :: trail, visited⟩ answer :=
  .searching rfl h

theorem Resumes.close {node child : Parameter} {untried : List Parameter} {trail : List Frame}
    {visited : List Ident} {found : Option (List Parameter)}
    {answer : Option (List Parameter) × List Ident}
    (h : Resumes next goal (⟨node, untried⟩ :: trail) (found.map (child :: ·), visited) answer) :
    Resumes next goal (⟨child, []⟩ :: ⟨node, untried⟩ :: trail) (found, visited) answer := by
  cases found with
  | none =>
    cases h with
    | none h => exact .none h.pop
  | some path =>
    cases h with
    | found =>
      have hnodes : nodes (⟨node, untried⟩ :: trail) ++ child :: path =
          nodes (⟨child, []⟩ :: ⟨node, untried⟩ :: trail) ++ path := by simp
      simp only [hnodes]
      exact .found

mutual

/-- What the recursive search finds from the next reference of a frame is what the steps come to. -/
theorem Finds.halts {child : Parameter} {visited : List Ident}
    {found answer : Option (List Parameter) × List Ident} {node : Parameter}
    {untried : List Parameter} {trail : List Frame} :
    Finds next goal child visited found →
      Resumes next goal (⟨node, untried⟩ :: trail) found answer →
      Halts next goal ⟨⟨node, child :: untried⟩ :: trail, visited⟩ answer
  | .goal hg, .found => by
    refine .ended ?_
    rw [step_child, if_pos hg]
    simp
  | .again hg hv, .none h => by
    refine .searching ?_ h
    rw [step_child, if_neg hg, if_pos hv]
  | .enter hg hv h, hr => by
    refine .searching ?_ (FindsFirst.halts h hr.close)
    rw [step_child, if_neg hg, if_neg hv]

theorem FindsFirst.halts {visited : List Ident}
    {found answer : Option (List Parameter) × List Ident} {node : Parameter}
    {untried : List Parameter} {trail : List Frame} :
    FindsFirst next goal untried visited found →
      Resumes next goal (⟨node, []⟩ :: trail) found answer →
      Halts next goal ⟨⟨node, untried⟩ :: trail, visited⟩ answer
  | .nil, .none h => h
  | .found h, .found => Finds.halts h .found
  | .none h hs, hr => Finds.halts h (.none (FindsFirst.halts hs hr))

end

theorem Halts.eq {s : State} {answer answer' : Option (List Parameter) × List Ident}
    (h : Halts next goal s answer) (h' : Halts next goal s answer') : answer = answer' := by
  induction h with
  | ended h =>
    cases h' with
    | ended h' =>
      rw [h] at h'
      obtain ⟨rfl, rfl⟩ := Progress.ended.inj h'
      rfl
    | searching h' => simp [h] at h'
  | searching h _ ih =>
    cases h' with
    | ended h' => simp [h] at h'
    | searching h' hs' =>
      rw [h] at h'
      obtain rfl := Progress.searching.inj h'
      exact ih hs'

variable {ps : List Parameter}

theorem halts_run (hs : ∀ p, (next p).Sublist ps) (fuel : Nat) {s : State}
    (hu : ∀ f ∈ s.trail, f.untried ⊆ ps) (hf : remaining ps s < fuel) :
    Halts next goal s (run next goal fuel s) := by
  induction fuel generalizing s with
  | zero => omega
  | succ fuel ih =>
    unfold run
    cases hstep : step next goal s with
    | ended found visited => exact .ended hstep
    | searching s' =>
      obtain ⟨hu', hlt⟩ := remaining_step hs hu hstep
      exact .searching hstep (ih hu' (by omega))

theorem remaining_root_lt (hs : ∀ p, (next p).Sublist ps) (root : Parameter)
    (visited : List Ident) :
    remaining ps ⟨[⟨root, next root⟩], root.id :: visited⟩ < enough ps.length := by
  have hnext := (hs root).length_le
  have hle := List.length_filter_le (fun p : Parameter => decide (p.id ∉ root.id :: visited)) ps
  have hmul := Nat.mul_le_mul_right (ps.length + 1) (hle.trans (Nat.le_add_right _ 2))
  simp only [remaining, closing, enough]
  rw [Nat.mul_succ (ps.length + 2) (ps.length + 1)]
  omega

theorem unvisited_le {visited visited' : List Ident} (h : visited ⊆ visited') :
    (ps.filter (·.id ∉ visited')).length ≤ (ps.filter (·.id ∉ visited)).length := by
  refine (List.monotone_filter_right ps fun p hp => ?_).length_le
  simp only [decide_eq_true_eq] at hp ⊢
  exact fun hm => hp (h hm)

/-- The recursive search from any of the candidates comes to an end: with each call one more of the
parameters is visited, and each call goes through finitely many references. -/
theorem exists_findsFirst (goal : Ident) (hs : ∀ p, (next p).Sublist ps) (n : Nat) {visited : List Ident}
    (hn : (ps.filter (·.id ∉ visited)).length ≤ n) {candidates : List Parameter}
    (hc : candidates ⊆ ps) :
    ∃ answer, FindsFirst next goal candidates visited answer ∧ visited ⊆ answer.2 := by
  induction n using Nat.strong_induction_on generalizing visited candidates with
  | _ n ih =>
    induction candidates generalizing visited with
    | nil => exact ⟨_, .nil, List.Subset.refl _⟩
    | cons p candidates ihc =>
      obtain ⟨hp, hc⟩ := List.cons_subset.1 hc
      have hfinds : ∃ answer, Finds next goal p visited answer ∧ visited ⊆ answer.2 := by
        by_cases hg : p.id = goal
        · exact ⟨_, .goal hg, List.Subset.refl _⟩
        by_cases hv : p.id ∈ visited
        · exact ⟨_, .again hg hv, List.Subset.refl _⟩
        have hlt := (length_unvisited_lt hp hv).trans_le hn
        obtain ⟨⟨found, visited'⟩, h, hsub⟩ := ih _ hlt le_rfl (hs p).subset
        exact ⟨_, .enter hg hv h, (List.cons_subset.1 hsub).2⟩
      obtain ⟨⟨found, visited'⟩, h, hsub⟩ := hfinds
      cases found with
      | some path => exact ⟨_, .found h, hsub⟩
      | none =>
        obtain ⟨answer, h', hsub'⟩ := ihc ((unvisited_le hsub).trans hn) hc
        exact ⟨answer, .none h h', List.Subset.trans hsub hsub'⟩

variable (next goal) in
inductive Searches (root : Parameter) (visited : List Ident) :
    Option (List Parameter) × List Ident → Prop
  | goal (hg : root.id = goal) : Searches root visited (some [root], visited)
  | again (hg : root.id ≠ goal) (hv : root.id ∈ visited) : Searches root visited (none, visited)
  | steps {answer : Option (List Parameter) × List Ident} (hg : root.id ≠ goal)
      (hv : root.id ∉ visited)
      (h : Halts next goal ⟨[⟨root, next root⟩], root.id :: visited⟩ answer) :
      Searches root visited answer

variable {root : Parameter} {visited : List Ident}
  {answer answer' : Option (List Parameter) × List Ident}

theorem Searches.eq (h : Searches next goal root visited answer)
    (h' : Searches next goal root visited answer') : answer = answer' := by
  cases h with
  | goal hg =>
    cases h' with
    | goal => rfl
    | again hg' => exact absurd hg hg'
    | steps hg' => exact absurd hg hg'
  | again hg hv =>
    cases h' with
    | goal hg' => exact absurd hg' hg
    | again => rfl
    | steps _ hv' => exact absurd hv hv'
  | steps hg hv h =>
    cases h' with
    | goal hg' => exact absurd hg' hg
    | again _ hv' => exact absurd hv' hv
    | steps _ _ h' => exact h.eq h'

/-- The fuel of the search is never used up. -/
theorem searches_path (goal : Ident) (hs : ∀ p, (next p).Sublist ps) (root : Parameter)
    (visited : List Ident) :
    Searches next goal root visited (path next goal ps.length root visited) := by
  unfold path
  by_cases hg : root.id = goal
  · rw [if_pos hg]
    exact .goal hg
  rw [if_neg hg]
  by_cases hv : root.id ∈ visited
  · rw [if_pos hv]
    exact .again hg hv
  rw [if_neg hv]
  exact .steps hg hv (halts_run hs _ (by simpa using (hs root).subset) (remaining_root_lt hs _ _))

theorem Finds.searches (h : Finds next goal root visited answer) :
    Searches next goal root visited answer := by
  cases h with
  | goal hg => exact .goal hg
  | again hg hv => exact .again hg hv
  | @enter _ _ visited' found hg hv h =>
    refine .steps hg hv (h.halts ?_)
    cases found with
    | none => exact .none (.pop (.ended rfl))
    | some path => exact .found

theorem exists_finds (goal : Ident) (hs : ∀ p, (next p).Sublist ps) (root : Parameter)
    (visited : List Ident) : ∃ answer, Finds next goal root visited answer := by
  by_cases hg : root.id = goal
  · exact ⟨_, .goal hg⟩
  by_cases hv : root.id ∈ visited
  · exact ⟨_, .again hg hv⟩
  obtain ⟨⟨found, visited'⟩, h, -⟩ :=
    exists_findsFirst goal hs _ (le_refl (ps.filter (·.id ∉ root.id :: visited)).length)
      (hs root).subset
  exact ⟨_, .enter hg hv h⟩

theorem finds_path (goal : Ident) (hs : ∀ p, (next p).Sublist ps) (root : Parameter)
    (visited : List Ident) :
    Finds next goal root visited (path next goal ps.length root visited) := by
  obtain ⟨answer, h⟩ := exists_finds goal hs root visited
  rwa [(searches_path goal hs root visited).eq h.searches]

/-- From any root, whatever was visited before, the search with a trail and the recursive one both
end, on the same path or none and with the same parameters visited. -/
theorem path_agrees_with_recursion (d : Dialect) (ps : List Parameter) (target root : Parameter)
    (visited : List Ident) :
    ∃ answer, (∀ other, Searches (dependencies d · ps) target.id root visited other ↔
        other = answer) ∧
      (∀ other, Finds (dependencies d · ps) target.id root visited other ↔ other = answer) ∧
      path (dependencies d · ps) target.id ps.length root visited = answer := by
  have hs (p : Parameter) : (dependencies d p ps).Sublist ps := Reference.of_sublist d ps p.formula
  have hsearch := searches_path target.id hs root visited
  have hfinds := finds_path target.id hs root visited
  refine ⟨_, fun other => ⟨fun h => h.eq hsearch, ?_⟩, fun other => ⟨fun h => h.eq hfinds, ?_⟩, rfl⟩
  · rintro rfl
    exact hsearch
  · rintro rfl
    exact hfinds

end Parametric.Search
