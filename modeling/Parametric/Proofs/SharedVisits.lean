import Parametric.Proofs.CycleCheck
import Parametric.Proofs.RecursiveSearch

/-! # Searches that share what they visited find what searches of their own find

What was visited in vain is closed: all that it references was visited too, and the goal was not. A
search that enters it comes out with nothing, so one that passes over it finds the same path. -/
namespace Parametric

namespace Search

variable {next : Parameter → List Parameter} {goal : Ident}

mutual

theorem Finds.subset {p : Parameter} {visited : List Ident}
    {answer : Option (List Parameter) × List Ident} :
    Finds next goal p visited answer → visited ⊆ answer.2
  | .goal _ => List.Subset.refl _
  | .again _ _ => List.Subset.refl _
  | .enter _ _ h => (List.cons_subset.1 (FindsFirst.subset h)).2

theorem FindsFirst.subset {untried : List Parameter} {visited : List Ident}
    {answer : Option (List Parameter) × List Ident} :
    FindsFirst next goal untried visited answer → visited ⊆ answer.2
  | .nil => List.Subset.refl _
  | .found h => Finds.subset h
  | .none h h' => List.Subset.trans (Finds.subset h) (FindsFirst.subset h')

end

variable {ps : List Parameter} {vain : List Ident}

mutual

/-- From what was visited in vain a search finds nothing and comes to nothing else. -/
theorem Finds.of_vain (hx : Exhausted next goal ps vain) (hs : ∀ p, (next p).Sublist ps)
    {p : Parameter} {visited : List Ident} {answer : Option (List Parameter) × List Ident}
    (hp : p ∈ ps) (hv : p.id ∈ vain) :
    Finds next goal p visited answer →
      answer.1 = none ∧ ∀ id ∈ answer.2, id ∈ visited ∨ id ∈ vain
  | .goal hg => absurd (hg ▸ hv) hx.goal_notMem
  | .again _ _ => ⟨rfl, fun _ => Or.inl⟩
  | .enter _ _ h => by
    have hclosed (q : Parameter) (hq : q ∈ next p) : q ∈ ps ∧ q.id ∈ vain :=
      ⟨(hs p).subset hq, hx.closed p hp hv q hq⟩
    obtain ⟨hnone, hsub⟩ := FindsFirst.of_vain hx hs hclosed h
    refine ⟨by simpa using hnone, fun id hid => ?_⟩
    rcases hsub id hid with hid | hid
    · rcases List.mem_cons.1 hid with rfl | hid
      · exact Or.inr hv
      · exact Or.inl hid
    · exact Or.inr hid

theorem FindsFirst.of_vain (hx : Exhausted next goal ps vain) (hs : ∀ p, (next p).Sublist ps)
    {untried : List Parameter} {visited : List Ident}
    {answer : Option (List Parameter) × List Ident}
    (hu : ∀ q ∈ untried, q ∈ ps ∧ q.id ∈ vain) :
    FindsFirst next goal untried visited answer →
      answer.1 = none ∧ ∀ id ∈ answer.2, id ∈ visited ∨ id ∈ vain
  | .nil => ⟨rfl, fun _ => Or.inl⟩
  | .found h => by
    obtain ⟨hp, hv⟩ := hu _ List.mem_cons_self
    have hnone := (Finds.of_vain hx hs hp hv h).1
    simp at hnone
  | .none h h' => by
    obtain ⟨⟨hp, hv⟩, hu⟩ := List.forall_mem_cons.1 hu
    have hfirst := (Finds.of_vain hx hs hp hv h).2
    obtain ⟨hnone, hrest⟩ := FindsFirst.of_vain hx hs hu h'
    exact ⟨hnone, fun id hid => (hrest id hid).elim (hfirst id) Or.inr⟩

end

/-- Two searches stand alike when one has visited what the other has and what was in vain. -/
def Alike (vain visited visited' : List Ident) : Prop :=
  ∀ id, id ∈ visited' ↔ id ∈ visited ∨ id ∈ vain

theorem Alike.cons {visited visited' : List Ident} (h : Alike vain visited visited') (id : Ident) :
    Alike vain (id :: visited) (id :: visited') := by
  intro a
  rw [List.mem_cons, List.mem_cons, h a, or_assoc]

mutual

theorem Finds.alike (hx : Exhausted next goal ps vain) (hs : ∀ p, (next p).Sublist ps)
    {p : Parameter} {visited visited' : List Ident}
    {answer answer' : Option (List Parameter) × List Ident} (hp : p ∈ ps)
    (ha : Alike vain visited visited') :
    Finds next goal p visited answer → Finds next goal p visited' answer' →
      answer.1 = answer'.1 ∧ Alike vain answer.2 answer'.2
  | .goal hg, h' => by
    cases h' with
    | goal => exact ⟨rfl, ha⟩
    | again hg' => exact absurd hg hg'
    | enter hg' => exact absurd hg hg'
  | .again hg hv, h' => by
    cases h' with
    | goal hg' => exact absurd hg' hg
    | again => exact ⟨rfl, ha⟩
    | enter _ hv' => exact absurd ((ha _).2 (Or.inl hv)) hv'
  | .enter hg hv h, h' => by
    cases h' with
    | goal hg' => exact absurd hg' hg
    | again _ hv' =>
      -- One search enters what the other one passes over, so it was in vain.
      have hvain := ((ha _).1 hv').resolve_left hv
      obtain ⟨hnone, hsub⟩ := Finds.of_vain hx hs hp hvain (.enter hg hv h)
      refine ⟨hnone, fun id => (ha id).trans ⟨?_, ?_⟩⟩
      · rintro (hid | hid)
        · exact Or.inl ((List.cons_subset.1 h.subset).2 hid)
        · exact Or.inr hid
      · rintro (hid | hid)
        · exact hsub id hid
        · exact Or.inr hid
    | enter _ _ h' =>
      obtain ⟨hfound, ha'⟩ := FindsFirst.alike hx hs (hs p).subset (ha.cons p.id) h h'
      exact ⟨congrArg (Option.map (p :: ·)) hfound, ha'⟩

theorem FindsFirst.alike (hx : Exhausted next goal ps vain) (hs : ∀ p, (next p).Sublist ps)
    {untried : List Parameter} {visited visited' : List Ident}
    {answer answer' : Option (List Parameter) × List Ident} (hu : untried ⊆ ps)
    (ha : Alike vain visited visited') :
    FindsFirst next goal untried visited answer → FindsFirst next goal untried visited' answer' →
      answer.1 = answer'.1 ∧ Alike vain answer.2 answer'.2
  | .nil, .nil => ⟨rfl, ha⟩
  | .found h, .found h' => Finds.alike hx hs (hu List.mem_cons_self) ha h h'
  | .found h, .none h' _ => by
    have he := (Finds.alike hx hs (hu List.mem_cons_self) ha h h').1
    simp at he
  | .none h _, .found h' => by
    have he := (Finds.alike hx hs (hu List.mem_cons_self) ha h h').1
    simp at he
  | .none h hr, .none h' hr' => by
    have ha' := (Finds.alike hx hs (hu List.mem_cons_self) ha h h').2
    exact FindsFirst.alike hx hs (List.cons_subset.1 hu).2 ha' hr hr'

end

theorem path_eq_of_exhausted (hp : Searchable next ps) {root : Parameter} (hr : root ∈ ps)
    (hx : Exhausted next goal ps vain) :
    (path next goal ps.length root vain).1 = (path next goal ps.length root []).1 := by
  have halike : Alike vain [] vain := fun id => by simp
  exact (Finds.alike hx hp.sublist hr halike (finds_path goal hp.sublist root [])
    (finds_path goal hp.sublist root vain)).1.symm

end Search

namespace Cycle

/-- With the visited parameters in common the first root that leads to the goal is the same one, and
so is its path. -/
theorem firstPath_share (d : Dialect) (goal : Ident) {ps : List Parameter}
    (hp : Search.Searchable (dependencies d · ps) ps) {roots : List Parameter} (hr : roots ⊆ ps)
    {vain : List Ident} (hx : Search.Exhausted (dependencies d · ps) goal ps vain) :
    firstPath d true goal ps vain roots = firstPath d false goal ps [] roots := by
  induction roots generalizing vain with
  | nil => rfl
  | cons root roots ih =>
    obtain ⟨hroot, hr⟩ := List.cons_subset.1 hr
    have ha := Search.path_answers hp hroot hx
    have he := Search.path_eq_of_exhausted hp hroot hx
    unfold firstPath
    dsimp only
    rw [← he]
    unfold Search.Answers at ha
    cases hfound : (Search.path (dependencies d · ps) goal ps.length root vain).1 with
    | some path => rfl
    | none =>
      rw [hfound] at ha
      exact ih hr ha.2

/-- Whether the searches from the new references share what they visited makes no difference to the
verdict on a formula, on existing cycles either. -/
theorem detect_eq_of_share (d : Dialect) (target : Parameter) (formula : Option Text)
    {ps : List Parameter} (hn : (ps.map (·.id)).Nodup) :
    detect d true target formula ps = detect d false target formula ps := by
  have hp : Search.Searchable (dependencies d · ps) ps :=
    ⟨hn, fun p => Reference.of_sublist d ps p.formula⟩
  have hroots := Reference.of_subset d ps formula
  unfold detect
  rw [firstPath_share d target.id hp hroots Search.exhausted_nil]

def loopBeside : List Parameter :=
  [plain 1 "A" (some "B"), plain 2 "B" (some "A"), plain 3 "C" (some "A + T"), plain 4 "T" none]

theorem detect_eq_of_share_loop_beside :
    (loopBeside.map (·.id)).Nodup ∧
      (detect .standard true (plain 4 "T" none) (some "A + C") loopBeside).path.map (·.id) =
        [.number 3, .number 4] := by
  have hn : (loopBeside.map (·.id)).Nodup := by decide
  have hown : (detect .standard false (plain 4 "T" none) (some "A + C") loopBeside).path.map (·.id) =
      [.number 3, .number 4] := by cbv
  refine ⟨hn, ?_⟩
  rw [detect_eq_of_share .standard (plain 4 "T" none) (some "A + C") hn]
  exact hown

end Cycle

end Parametric
