import Parametric.Proofs.DependencyOrder
import Parametric.Proofs.ReferenceChain

/-! # How a loop is shown, from the audit of all references or from a chain that comes back

The audit hands over each parameter of a loop once, a chain its first one twice, and a message tells
the two apart by their ends. Only a loop of one parameter can be taken for the other form. -/
namespace Parametric

variable {d : Dialect} {s : Snapshot} {p q : Parameter} {qs : List Parameter}

def around : List Parameter → List Parameter
  | [] => []
  | q :: qs => q :: (qs ++ [q])

theorem mem_around : q ∈ around qs ↔ q ∈ qs := by
  cases qs with
  | nil => rfl
  | cons r qs =>
    simp only [around, List.mem_cons, List.mem_append, List.not_mem_nil, or_false]
    tauto

/-- Parameters with names, of which each one references the next, and the last one the first. -/
structure IsRing (d : Dialect) (s : Snapshot) (qs : List Parameter) : Prop where
  ne_nil : qs ≠ []
  mem : ∀ q ∈ qs, q ∈ s.parameters
  nodup : qs.Nodup
  steps : (around qs).IsChain (DependsOn d s.parameters)
  named : ∀ q ∈ qs, some (shownName q.name) = q.name

theorem isRing_iff (hqs : ∀ q ∈ qs, q ∈ s.parameters) : IsRing d s qs ↔
    ((qs.map (·.id) : List Ident) : Cycle Ident) ∈ elementary d s.parameters := by
  cases qs with
  | nil =>
    refine iff_of_false (fun h => h.ne_nil rfl) fun h => ?_
    exact (mem_elementary_iff.1 h).ne_nil rfl
  | cons q qs =>
    have hclosed : (around (q :: qs)).map (·.id) =
        q.id :: (qs.map (·.id) ++ [q.id]) := by simp [around]
    constructor
    · intro h
      rw [mem_elementary_iff, List.map_cons, isElementary_cons_iff]
      refine ⟨h.nodup.map_on fun a ha b hb => Snapshot.eq_of_id_eq (hqs a ha) (hqs b hb), ?_⟩
      rw [← hclosed, List.isChain_map]
      refine h.steps.imp_of_mem_imp fun a b ha _ hab => ?_
      exact (references_iff_dependsOn (hqs a (mem_around.1 ha))).2 ⟨b, hab, rfl⟩
    · intro h
      obtain ⟨hnodup, hsteps⟩ := isElementary_cons_iff.1 (mem_elementary_iff.1 h)
      rw [← hclosed, List.isChain_map] at hsteps
      refine ⟨List.cons_ne_nil q qs, hqs, .of_map _ hnodup, ?_, fun r hr => ?_⟩
      · refine hsteps.imp_of_mem_imp fun a b ha hb hab => ?_
        obtain ⟨r, hr, hid⟩ := (references_iff_dependsOn (hqs a (mem_around.1 ha))).1 hab
        rwa [← Snapshot.eq_of_id_eq hr.mem (hqs b (mem_around.1 hb)) hid]
      · exact some_shownName_of_mem_elementary h (hqs r hr)
          (Cycle.mem_coe_iff.2 (List.mem_map_of_mem hr))

theorem IsRing.isRotated {rs : List Parameter} (h : IsRing d s qs) (hr : rs ~r qs) :
    IsRing d s rs := by
  rw [isRing_iff fun q hq => h.mem q (hr.mem_iff.1 hq), Cycle.coe_eq_coe.2 (hr.map (·.id))]
  exact (isRing_iff h.mem).1 h

theorem IsRing.nodup_shown (h : IsRing d s qs) : (qs.map (shownName ·.name)).Nodup := by
  refine h.nodup.map_on fun q hq r hr heq => ?_
  refine Snapshot.eq_of_name_eq (h.mem q hq) (h.mem r hr) ?_
  rw [← h.named q hq, heq, h.named r hr]

namespace Loop

variable {l : Loop}

def Shows (l : Loop) (qs : List Parameter) : Prop :=
  l.message = "Circular reference detected: " ++ Text.joined " -> " (qs.map (shownName ·.name))

theorem message_eq (l : Loop) :
    l.message = "Circular reference detected: " ++ Text.joined " -> " l.closed := rfl

theorem shows_of_closed (h : l.closed = qs.map (shownName ·.name)) : l.Shows qs := by
  unfold Shows
  rw [message_eq, h]

theorem closed_concat (n : Text) (names : List Text) :
    (⟨n :: (names ++ [n])⟩ : Loop).closed = n :: (names ++ [n]) :=
  if_pos (List.getLast?_concat (l := n :: names))

theorem shows_around (h : l.names = (around qs).map (shownName ·.name)) : l.Shows (around qs) := by
  obtain ⟨names⟩ := l
  obtain rfl : names = _ := h
  refine shows_of_closed ?_
  cases qs with
  | nil => rfl
  | cons q qs => simpa [around] using closed_concat (shownName q.name) (qs.map (shownName ·.name))

theorem closed_of_nodup {n m : Text} {names : List Text} (h : (n :: m :: names).Nodup) :
    (⟨n :: m :: names⟩ : Loop).closed = n :: m :: names ++ [n] := by
  refine if_neg fun hlast => (List.nodup_cons.1 h).1 ?_
  rw [List.getLast?_cons_cons] at hlast
  exact List.mem_of_getLast? hlast

theorem shows_of_open (hq : IsRing d s qs) (h : l.names = qs.map (shownName ·.name)) :
    l.Shows (if qs.length = 1 then qs else around qs) := by
  have hn := hq.nodup_shown
  obtain ⟨names⟩ := l
  obtain rfl : names = _ := h
  refine shows_of_closed ?_
  match qs with
  | [] => rfl
  | [q] => simp [closed]
  | q :: r :: qs => simpa [around] using closed_of_nodup hn

theorem exists_ring (h : IsRing d s qs) (hl : l.names ~r qs.map (shownName ·.name)) :
    ∃ rs, rs ~r qs ∧ IsRing d s rs ∧ l.names = rs.map (shownName ·.name) ∧
      l.Shows (if rs.length = 1 then rs else around rs) := by
  obtain ⟨n, hn⟩ := hl.symm
  rw [← List.map_rotate] at hn
  have hround : qs.rotate n ~r qs := List.IsRotated.symm ⟨n, rfl⟩
  have hring := h.isRotated hround
  exact ⟨qs.rotate n, hround, hring, hn.symm, shows_of_open hring hn.symm⟩

variable {g : Graph} {lib : DirectedGraph.Library}

/-- As the audit hands it over: a listed cycle, from any of its names on. -/
def IsAudited (lib : DirectedGraph.Library) (g : Graph) (l : Loop) : Prop :=
  ∃ c ∈ g.cycles lib, l.names.map some ~r c

theorem isAudited_of_isRing (hl : lib.IsSound) (hg : g.IsBuilt d s.parameters) (h : IsRing d s qs) :
    (⟨qs.map (shownName ·.name)⟩ : Loop).IsAudited lib g := by
  obtain ⟨c, hc, hlisted⟩ := hg.exists_mem_cycles hl h.mem ((isRing_iff h.mem).1 h)
  have hsome : qs.map (some <| shownName ·.name) = qs.map (·.name) := List.map_congr_left h.named
  refine ⟨c, hc, ?_⟩
  rw [List.map_map]
  exact hsome ▸ hlisted.symm

theorem isAudited_of_error (hl : lib.IsSound) (hg : g.IsBuilt d s.parameters)
    (h : g.check lib = .error l ∨ g.order lib = .error l) : l.IsAudited lib g := by
  by_cases hnone : g.cycles lib = []
  · obtain ⟨qs, hqs⟩ := Option.ne_none_iff_exists'.1
      (mt (hg.order?_eq_none_iff hl).1 (not_not.2 hnone))
    rw [Graph.check_eq_ok_iff.2 hnone, Graph.order_eq_ok_iff.2 hqs] at h
    simp at h
  · obtain ⟨found, -, hmem, hcheck, horder⟩ := hg.exists_loop hl hnone
    rw [hcheck, horder] at h
    obtain rfl : found = l := by simpa using h
    exact ⟨_, hmem, .refl _⟩

theorem IsAudited.exists_ring (hl : lib.IsSound) (hg : g.IsBuilt d s.parameters)
    (h : l.IsAudited lib g) : ∃ qs, IsRing d s qs ∧ l.names = qs.map (shownName ·.name) ∧
      l.Shows (if qs.length = 1 then qs else around qs) := by
  obtain ⟨c, hc, hround⟩ := h
  obtain ⟨qs, hqs, he, rfl⟩ := hg.exists_of_mem_cycles hl hc
  have hnames : l.names ~r qs.map (shownName ·.name) := by
    simpa [Function.comp_def, shownName] using hround.map shownName
  obtain ⟨rs, -, hrs⟩ := Loop.exists_ring ((isRing_iff hqs).2 he) hnames
  exact ⟨rs, hrs⟩

end Loop

namespace Chain

variable {ps passed : List Parameter} {again : Parameter}

theorem follow_cons (hp : p.id ∉ ps.map (·.id)) {fuel : Nat} {before : List Parameter}
    (hq : q ∈ ps) (h : follow d ps fuel (p :: before) q = .loops passed again) :
    ∃ rest, passed = p :: rest ∧ again ∈ ps ∧ follow d ps fuel before q = .loops rest again := by
  induction fuel generalizing before q with
  | zero =>
    cases h
    exact ⟨before, rfl, hq, rfl⟩
  | succ fuel ih =>
    have hne : q.id ≠ p.id := ne_of_mem_of_not_mem (List.mem_map_of_mem hq) hp
    rw [follow, List.map_cons] at h
    rw [follow]
    by_cases hm : q.id ∈ before.map (·.id)
    · rw [if_pos (List.mem_cons_of_mem _ hm)] at h
      rw [if_pos hm]
      cases h
      exact ⟨before, rfl, hq, rfl⟩
    · rw [if_neg (List.not_mem_cons_of_ne_of_not_mem hne hm)] at h
      rw [if_neg hm]
      cases hs : single? d ps q.formula with
      | none => simp [hs] at h
      | some r =>
        rw [hs] at h
        exact ih (StepsTo.mem hs) h

/-- A chain from outside that comes back does so as the chain from its second parameter on. -/
theorem exists_course_of_foreign (hp : p.id ∉ ps.map (·.id))
    (h : course d ps p = .loops passed again) :
    ∃ q ∈ ps, ∃ rest, course d ps q = .loops rest again ∧
      Course.loopOf rest again = Course.loopOf passed again := by
  rw [course, follow, if_neg (by simp)] at h
  cases hs : single? d ps p.formula with
  | none => simp [hs] at h
  | some q =>
    rw [hs] at h
    have hq := StepsTo.mem hs
    obtain ⟨rest, rfl, hagain, hfollow⟩ := follow_cons hp hq h
    refine ⟨q, hq, rest, ?_, ?_⟩
    · have hresolves := (resolves_iff_eq_follow (.start hq) (by simp)).2 hfollow.symm
      exact ((resolves_iff_eq_course hq).1 hresolves).symm
    · have hne : p.id ≠ again.id := (ne_of_mem_of_not_mem (List.mem_map_of_mem hagain) hp).symm
      rw [Course.loopOf, Course.loopOf, List.dropWhile_cons_of_pos (by simpa using hne)]

theorem IsRound.mem {first : Parameter} {rest : List Parameter} {l : Loop}
    (h : IsRound d ps p first rest l) : ∀ q ∈ first :: rest, q ∈ ps := by
  intro q hq
  have hq : q ∈ rest ++ [first] := by
    rcases List.mem_cons.1 hq with rfl | hq
    · simp
    · exact List.mem_append_left _ hq
  obtain ⟨r, hr⟩ := exists_stepsTo_of_mem h.steps q hq
  exact hr.mem

/-- What a chain that comes back hands over is a ring, closed already. -/
theorem exists_ring_of_course (hp : p ∈ s.parameters ∨ s.contains p.id = false)
    (h : course d s.parameters p = .loops passed again) :
    ∃ qs, IsRing d s qs ∧ (Course.loopOf passed again).names =
      (around qs).map (shownName ·.name) := by
  obtain ⟨q, hq, rest, hcourse, hloop⟩ : ∃ q ∈ s.parameters, ∃ rest,
      course d s.parameters q = .loops rest again ∧
        Course.loopOf rest again = Course.loopOf passed again := by
    rcases hp with hp | hp
    · exact ⟨p, hp, passed, h, rfl⟩
    · exact exists_course_of_foreign (mt Snapshot.contains_iff.2 (by simp [hp])) h
  obtain ⟨-, more, hround⟩ := isRound_of_loops hq hcourse
  rw [hloop] at hround
  have hnames := congrArg (List.map shownName) hround.names
  exact ⟨again :: more, (isRing_iff hround.mem).2 hround.elementary,
    by simpa [Function.comp_def, shownName, around] using hnames⟩

end Chain

/-- The audit reports listed cycles, and a chain that comes back one of these. A message closes each
of them, up to where it begins in one and the same way, unless the audit reports a parameter that
references itself: its name is then shown once. -/
theorem loops_shown (d : Dialect) {lib : DirectedGraph.Library} (hl : lib.IsSound) (s : Snapshot) :
    (∀ g, Graph.build d s.parameters = .ok g →
      (∀ l, g.check lib = .error l ∨ g.order lib = .error l → l.IsAudited lib g) ∧
      ∀ l : Loop, l.IsAudited lib g → ∃ qs, IsRing d s qs ∧
        l.names = qs.map (shownName ·.name) ∧
        l.Shows (if qs.length = 1 then qs else around qs)) ∧
    ∀ p passed again, p ∈ s.parameters ∨ s.contains p.id = false →
      Chain.course d s.parameters p = .loops passed again →
      ∃ qs, IsRing d s qs ∧ (Chain.Course.loopOf passed again).Shows (around qs) ∧
        (∀ g, Graph.build d s.parameters = .ok g →
          (⟨qs.map (shownName ·.name)⟩ : Loop).IsAudited lib g) ∧
        ∀ l : Loop, l.names ~r qs.map (shownName ·.name) →
          ∃ rs, rs ~r qs ∧ l.Shows (if rs.length = 1 then rs else around rs) := by
  constructor
  · intro g hg
    have hbuilt := Graph.isBuilt_of_build hg
    exact ⟨fun _ => Loop.isAudited_of_error hl hbuilt, fun _ => Loop.IsAudited.exists_ring hl hbuilt⟩
  · intro p passed again hp h
    obtain ⟨qs, hring, hnames⟩ := Chain.exists_ring_of_course hp h
    refine ⟨qs, hring, Loop.shows_around hnames, fun g hg => ?_, fun l hl => ?_⟩
    · exact Loop.isAudited_of_isRing hl (Graph.isBuilt_of_build hg) hring
    · obtain ⟨rs, hrs, -, -, hshows⟩ := Loop.exists_ring hring hl
      exact ⟨rs, hrs, hshows⟩

theorem loops_shown_lasso :
    (∃ g, Graph.build .standard Chain.lasso.parameters = .ok g ∧
      g.check .standard = .error ⟨["A", "B"]⟩) ∧
    (∃ qs, IsRing .standard Chain.lasso qs ∧ qs.length = 2 ∧
      (⟨["A", "B"]⟩ : Loop).Shows (around qs)) ∧
    ∃ qs, IsRing .standard Chain.lasso qs ∧ (⟨["A", "B", "A"]⟩ : Loop).Shows (around qs) := by
  obtain ⟨haudit, hchain⟩ := loops_shown .standard DirectedGraph.Library.isSound_standard Chain.lasso
  obtain ⟨g, hg, -⟩ := Graph.exists_build .standard Chain.lasso.parameters (by decide)
  obtain ⟨haudit, hopen⟩ := haudit g hg
  have hcheck : (Graph.build .standard Chain.lasso.parameters).map (·.check .standard) =
      .ok (.error ⟨["A", "B"]⟩) := by cbv
  rw [hg] at hcheck
  have hcheck := Except.ok.inj hcheck
  obtain ⟨qs, hqs, hnames, hshows⟩ := hopen _ (haudit _ (.inl hcheck))
  have hlength : qs.length = 2 := by simpa using (congrArg List.length hnames).symm
  rw [if_neg (by omega)] at hshows
  have hstart : Cycle.plain 1 "Start" (some "A") ∈ Chain.lasso.parameters := by simp [Chain.lasso]
  have hcourse : Chain.course .standard Chain.lasso.parameters (Cycle.plain 1 "Start" (some "A")) =
      .loops [Cycle.plain 1 "Start" (some "A"), Cycle.plain 2 "A" (some " B "),
        Cycle.plain 3 "B" (some "A")] (Cycle.plain 2 "A" (some " B ")) := by cbv
  obtain ⟨rs, hrs, hshown, -⟩ := hchain _ _ _ (.inl hstart) hcourse
  exact ⟨⟨g, hg, hcheck⟩, ⟨qs, hqs, hlength, hshows⟩, rs, hrs, hshown⟩

/-- `A` references itself. The chain from it shows that, the audit does not. -/
theorem own_reference_shown_open :
    let own : Snapshot := ⟨[Cycle.plain 1 "A" (some "A")], by decide, by decide⟩
    let audited : Loop := ⟨["A"]⟩
    (∃ g, Graph.build .standard own.parameters = .ok g ∧ g.check .standard = .error audited ∧
      g.order .standard = .error audited) ∧
    audited.message = "Circular reference detected: A" ∧
    ∃ passed again, Chain.course .standard own.parameters (Cycle.plain 1 "A" (some "A")) =
        .loops passed again ∧
      (Chain.Course.loopOf passed again).message = "Circular reference detected: A -> A" := by
  intro own audited
  have hcheck : (Graph.build .standard own.parameters).map (·.check .standard) =
      .ok (.error audited) := by cbv
  have horder : (Graph.build .standard own.parameters).map (·.order .standard) =
      .ok (.error audited) := by cbv
  obtain ⟨g, hg, -⟩ := Graph.exists_build .standard own.parameters (by decide)
  rw [hg] at hcheck horder
  exact ⟨⟨g, hg, Except.ok.inj hcheck, Except.ok.inj horder⟩, by decide +kernel,
    [Cycle.plain 1 "A" (some "A")], Cycle.plain 1 "A" (some "A"), by cbv, by decide +kernel⟩

end Parametric
