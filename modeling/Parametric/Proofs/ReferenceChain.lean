import Parametric.Graph.Chain
import Parametric.Proofs.CycleCheck

/-! # Where a chain of formulas that are each one name leads -/
namespace Parametric.Chain

variable (d : Dialect) (ps : List Parameter)

/-- The formula of `p` is the name of `q`. -/
def StepsTo (p q : Parameter) : Prop := single? d ps p.formula = some q

def walk (p : Parameter) : Nat → Option Parameter
  | 0 => some p
  | n + 1 => (walk p n).bind fun q => single? d ps q.formula

def Revisits (p : Parameter) : Prop :=
  ∃ i j q, i < j ∧ walk d ps p i = some q ∧ walk d ps p j = some q

/-- The reasons to stop at a formula: nothing is written, or nothing is referenced, or there is more
in it than one name. Only in the second case it is a constant. -/
inductive Stops (formula : Option Text) : Bool → Prop
  | unwritten (hf : written? formula = none) : Stops formula false
  | constant (hc : isConstant d ps formula = true) : Stops formula true
  | complex (hc : isConstant d ps formula = false) (hs : single? d ps formula = none) :
      Stops formula false

/-- How a chain is followed, with no bound on its steps. -/
inductive Resolves : List Parameter → Parameter → Course → Prop
  | again {passed : List Parameter} {current : Parameter} (h : current.id ∈ passed.map (·.id)) :
      Resolves passed current (.loops passed current)
  | stop {passed : List Parameter} {current : Parameter} {constant : Bool}
      (h : current.id ∉ passed.map (·.id)) (hs : Stops d ps current.formula constant) :
      Resolves passed current (.ends passed current constant)
  | next {passed : List Parameter} {current q : Parameter} {c : Course}
      (h : current.id ∉ passed.map (·.id)) (hs : StepsTo d ps current q)
      (hr : Resolves (passed ++ [current]) q c) : Resolves passed current c

/-- The loop that a walk from `p` comes to, and its names as they are reported. -/
structure IsRound (p first : Parameter) (rest : List Parameter) (l : Loop) : Prop where
  reached : ∃ i, walk d ps p i = some first
  steps : (first :: (rest ++ [first])).IsChain (StepsTo d ps)
  names : l.names.map some = (first :: (rest ++ [first])).map (·.name)
  names_nodup : ((first :: rest).map (·.name)).Nodup
  elementary : (((first :: rest).map (·.id) : List Ident) : Cycle Ident) ∈ elementary d ps

/-- The whole walk from `p`, up to a parameter from which no step leads on. -/
structure IsPathTo (p : Parameter) (passed : List Parameter) (source : Parameter) (constant : Bool) :
    Prop where
  walk_eq : ∀ i, walk d ps p i = (passed ++ [source])[i]?
  ids_nodup : ((passed ++ [source]).map (·.id)).Nodup
  constant_iff : constant = true ↔
    ∃ f, source.formula = some f ∧ f.isBlank = false ∧ Reference.of d ps source.formula = []

/-- A walk from `p` so far; nothing has been passed twice. -/
structure Trail (p : Parameter) (passed : List Parameter) (current : Parameter) : Prop where
  head : (passed ++ [current]).head? = some p
  chain : (passed ++ [current]).IsChain (StepsTo d ps)
  mem : ∀ q ∈ passed ++ [current], q ∈ ps
  nodup : (passed.map (·.id)).Nodup

variable {d ps} {p q current : Parameter} {passed : List Parameter}

theorem StepsTo.mem (h : StepsTo d ps p q) : q ∈ ps := by
  obtain ⟨f, -, hof, -⟩ := single?_eq_some_iff.1 h
  exact Reference.of_subset d ps p.formula (hof ▸ List.mem_singleton_self q)

theorem StepsTo.name (h : StepsTo d ps p q) : q.name = some (shownName q.name) := by
  obtain ⟨f, -, -, hn⟩ := single?_eq_some_iff.1 h
  rw [hn]
  rfl

theorem StepsTo.references (hp : p ∈ ps) (h : StepsTo d ps p q) : References d ps p.id q.id := by
  obtain ⟨f, -, hof, -⟩ := single?_eq_some_iff.1 h
  refine ⟨p, hp, rfl, ?_⟩
  rw [dependencies, hof]
  exact List.mem_singleton_self q.id

theorem isConstant_iff {formula : Option Text} : isConstant d ps formula = true ↔
    ∃ f, formula = some f ∧ f.isBlank = false ∧ Reference.of d ps formula = [] := by
  rw [isConstant, Bool.and_eq_true, Option.isSome_iff_exists, List.isEmpty_iff]
  simp only [written?_eq_some_iff, ← exists_and_right, and_assoc]

theorem stops_iff {formula : Option Text} {constant : Bool} : Stops d ps formula constant ↔
    single? d ps formula = none ∧ constant = isConstant d ps formula := by
  constructor
  · intro h
    cases h with
    | unwritten hf =>
      refine ⟨Option.eq_none_iff_forall_ne_some.2 fun q hq => ?_, by rw [isConstant, hf]; rfl⟩
      obtain ⟨f, hwritten, -⟩ := single?_eq_some_iff.1 hq
      simp [hf] at hwritten
    | constant hc =>
      refine ⟨Option.eq_none_iff_forall_ne_some.2 fun q hq => ?_, hc.symm⟩
      obtain ⟨f, -, -, hnil⟩ := isConstant_iff.1 hc
      obtain ⟨f, -, hof, -⟩ := single?_eq_some_iff.1 hq
      simp [hnil] at hof
    | complex hc hs => exact ⟨hs, hc.symm⟩
  · rintro ⟨hs, rfl⟩
    cases hc : isConstant d ps formula with
    | true => exact .constant hc
    | false => exact .complex hc hs

/-- One round of the loop. -/
theorem resolves_iff {c : Course} : Resolves d ps passed current c ↔
    if current.id ∈ passed.map (·.id) then c = .loops passed current
    else match single? d ps current.formula with
      | some q => Resolves d ps (passed ++ [current]) q c
      | none => c = .ends passed current (isConstant d ps current.formula) := by
  constructor
  · intro hr
    cases hr with
    | again h => rw [if_pos h]
    | stop h hs =>
      obtain ⟨hnone, rfl⟩ := stops_iff.1 hs
      rw [if_neg h, hnone]
    | next h hs hr =>
      rw [if_neg h, hs]
      exact hr
  · intro hr
    by_cases h : current.id ∈ passed.map (·.id)
    · rw [if_pos h] at hr
      exact hr ▸ .again h
    rw [if_neg h] at hr
    cases hs : single? d ps current.formula with
    | some q =>
      rw [hs] at hr
      exact .next h hs hr
    | none =>
      rw [hs] at hr
      exact hr ▸ .stop h (stops_iff.2 ⟨hs, rfl⟩)

theorem walk_eq_getElem? {l : List Parameter} (hp : l.head? = some p)
    (hl : l.IsChain (StepsTo d ps)) {i : Nat} (hi : i < l.length) : walk d ps p i = l[i]? := by
  induction i with
  | zero => rw [walk, ← hp, List.head?_eq_getElem?]
  | succ i ih =>
    rw [walk, ih (by omega), List.getElem?_eq_getElem hi, List.getElem?_eq_getElem]
    exact hl.getElem i hi

namespace Trail

theorem start (hp : p ∈ ps) : Trail d ps p [] p :=
  ⟨rfl, .singleton p, by simpa using hp, List.nodup_nil⟩

theorem nodup_concat (ht : Trail d ps p passed current) (h : current.id ∉ passed.map (·.id)) :
    ((passed ++ [current]).map (·.id)).Nodup := by
  rw [List.map_append]
  exact ht.nodup.append (List.nodup_singleton _) (List.disjoint_singleton.2 h)

theorem next (ht : Trail d ps p passed current) (h : current.id ∉ passed.map (·.id))
    (hs : StepsTo d ps current q) : Trail d ps p (passed ++ [current]) q where
  head := by
    rw [List.head?_append, ht.head]
    rfl
  chain := by
    refine List.isChain_append.2 ⟨ht.chain, .singleton q, fun a ha b hb => ?_⟩
    obtain rfl : current = a := by simpa using ha
    obtain rfl : q = b := by simpa using hb
    exact hs
  mem := by
    intro r hr
    rcases List.mem_append.1 hr with hr | hr
    · exact ht.mem r hr
    · exact List.mem_singleton.1 hr ▸ hs.mem
  nodup := ht.nodup_concat h

theorem length_le (ht : Trail d ps p passed current) : passed.length ≤ ps.length := by
  have hsub : passed ⊆ ps := fun q hq => ht.mem q (List.mem_append_left _ hq)
  exact (ht.nodup.of_map.subperm hsub).length_le

end Trail

/-- As no parameter is passed twice, the bound on the number of steps is never met. -/
theorem resolves_iff_eq_follow {fuel : Nat} (ht : Trail d ps p passed current)
    (hf : ps.length < fuel + passed.length) {c : Course} :
    Resolves d ps passed current c ↔ c = follow d ps fuel passed current := by
  induction fuel generalizing passed current with
  | zero =>
    have hle := ht.length_le
    omega
  | succ fuel ih =>
    rw [resolves_iff, follow]
    by_cases h : current.id ∈ passed.map (·.id)
    · rw [if_pos h, if_pos h]
    rw [if_neg h, if_neg h]
    cases hs : single? d ps current.formula with
    | none => rfl
    | some q =>
      refine ih (ht.next h hs) ?_
      rw [List.length_append, List.length_singleton]
      omega

theorem resolves_iff_eq_course (hp : p ∈ ps) {c : Course} :
    Resolves d ps [] p c ↔ c = course d ps p :=
  resolves_iff_eq_follow (.start hp) (by simp)

variable (d ps) in
/-- The two ways in which a walk from `p` ends. -/
inductive Settled (p : Parameter) : Course → Prop
  | ends {passed : List Parameter} {source : Parameter} (ht : Trail d ps p passed source)
      (h : source.id ∉ passed.map (·.id)) (hs : single? d ps source.formula = none) :
      Settled p (.ends passed source (isConstant d ps source.formula))
  | loops {passed : List Parameter} {again : Parameter} (ht : Trail d ps p passed again)
      (h : again.id ∈ passed.map (·.id)) : Settled p (.loops passed again)

theorem Resolves.settled {c : Course} (hr : Resolves d ps passed current c)
    (ht : Trail d ps p passed current) : Settled d ps p c := by
  induction hr with
  | again h => exact .loops ht h
  | stop h hs =>
    obtain ⟨hnone, rfl⟩ := stops_iff.1 hs
    exact .ends ht h hnone
  | next h hs hr ih => exact ih (ht.next h hs)

theorem Trail.walk (ht : Trail d ps p passed current) {i : Nat} (hi : i ≤ passed.length) :
    Chain.walk d ps p i = (passed ++ [current])[i]? :=
  walk_eq_getElem? ht.head ht.chain (by
    rw [List.length_append, List.length_singleton]
    omega)

/-- Where the last parameter of a trail has been before: the trail leads to a loop and round it. -/
theorem Trail.exists_round (hps : (ps.map (·.id)).Nodup) (ht : Trail d ps p passed current)
    (h : current.id ∈ passed.map (·.id)) : ∃ before rest, passed = before ++ current :: rest ∧
      passed.dropWhile (·.id != current.id) = current :: rest := by
  obtain ⟨q, hq, hid⟩ := List.mem_map.1 h
  have hqc : q = current := List.inj_on_of_nodup_map hps (ht.mem q (List.mem_append_left _ hq))
    (ht.mem current (by simp)) hid
  obtain ⟨before, rest, hpassed⟩ := List.append_of_mem (hqc ▸ hq)
  refine ⟨before, rest, hpassed, ?_⟩
  have hbefore : ∀ r ∈ before, (r.id != current.id) = true := by
    intro r hr
    have hn := ht.nodup
    rw [hpassed, List.map_append, List.map_cons] at hn
    rw [bne_iff_ne]
    exact (List.nodup_append.1 hn).2.2 _ (List.mem_map_of_mem hr) _ List.mem_cons_self
  rw [hpassed, List.dropWhile_append_of_pos hbefore, List.dropWhile_cons_of_neg (by simp)]

theorem exists_stepsTo_of_mem {l : List Parameter} (hl : (p :: l).IsChain (StepsTo d ps)) :
    ∀ q ∈ l, ∃ r, StepsTo d ps r q := by
  induction l generalizing p with
  | nil => simp
  | cons r l ih =>
    obtain ⟨hr, hl⟩ := List.isChain_cons_cons.1 hl
    exact List.forall_mem_cons.2 ⟨⟨p, hr⟩, ih hl⟩

theorem mem_elementary_of_steps {rest : List Parameter}
    (hsteps : (p :: (rest ++ [p])).IsChain (StepsTo d ps))
    (hmem : ∀ q ∈ p :: (rest ++ [p]), q ∈ ps) (hnodup : ((p :: rest).map (·.id)).Nodup) :
    (((p :: rest).map (·.id) : List Ident) : Cycle Ident) ∈ elementary d ps := by
  have hrefs : (p :: (rest ++ [p])).IsChain fun a b => References d ps a.id b.id :=
    hsteps.imp_of_mem_imp fun a b ha _ hab => hab.references (hmem a ha)
  rw [mem_elementary_iff, List.map_cons, isElementary_cons_iff]
  refine ⟨hnodup, ?_⟩
  simpa using (List.isChain_map (R := References d ps) Parameter.id).2 hrefs

theorem Trail.isRound (hids : (ps.map (·.id)).Nodup) (hnames : (ps.map (·.name)).Nodup)
    (ht : Trail d ps p passed current) (h : current.id ∈ passed.map (·.id)) :
    ∃ rest, IsRound d ps p current rest (Course.loopOf passed current) := by
  obtain ⟨before, rest, hpassed, hdrop⟩ := ht.exists_round hids h
  have hsuffix : current :: (rest ++ [current]) <:+ passed ++ [current] :=
    ⟨before, by simp [hpassed]⟩
  have hround : current :: rest <:+ passed := ⟨before, hpassed.symm⟩
  have hsteps := ht.chain.suffix hsuffix
  have hmem : ∀ q ∈ current :: (rest ++ [current]), q ∈ ps :=
    fun q hq => ht.mem q (hsuffix.subset hq)
  have hnodup := ht.nodup.sublist (hround.sublist.map (·.id))
  have hname : ∀ q ∈ rest ++ [current], some (shownName q.name) = q.name := by
    intro q hq
    obtain ⟨r, hr⟩ := exists_stepsTo_of_mem hsteps q hq
    exact hr.name.symm
  refine ⟨rest, ⟨passed.length, by simp [ht.walk le_rfl]⟩, hsteps, ?_, ?_,
    mem_elementary_of_steps hsteps hmem hnodup⟩
  · rw [Course.loopOf, hdrop, List.map_map]
    refine List.map_congr_left (List.forall_mem_cons.2 ⟨hname current (by simp), hname⟩)
  · refine hnodup.of_map.map_on fun q hq r hr => List.inj_on_of_nodup_map hnames ?_ ?_
    · exact ht.mem q (List.mem_append_left _ (hround.subset hq))
    · exact ht.mem r (List.mem_append_left _ (hround.subset hr))

theorem Trail.revisits (hids : (ps.map (·.id)).Nodup) (ht : Trail d ps p passed current)
    (h : current.id ∈ passed.map (·.id)) : Revisits d ps p := by
  obtain ⟨before, rest, hpassed, -⟩ := ht.exists_round hids h
  have hlt : before.length < passed.length := by simp [hpassed]
  refine ⟨before.length, passed.length, current, hlt, ?_, by simp [ht.walk le_rfl]⟩
  rw [ht.walk hlt.le, hpassed]
  simp

theorem walk_eq_none {n i : Nat} (h : walk d ps p n = none) (hi : n ≤ i) : walk d ps p i = none := by
  induction i, hi using Nat.le_induction with
  | base => exact h
  | succ i _ ih => rw [walk, ih, Option.bind_none]

theorem Trail.isPathTo (ht : Trail d ps p passed current) (h : current.id ∉ passed.map (·.id))
    (hs : single? d ps current.formula = none) :
    IsPathTo d ps p passed current (isConstant d ps current.formula) where
  walk_eq := by
    intro i
    rcases le_or_gt i passed.length with hi | hi
    · exact ht.walk hi
    have hstop : Chain.walk d ps p (passed.length + 1) = none := by
      rw [Chain.walk, ht.walk le_rfl]
      simpa using hs
    rw [walk_eq_none hstop hi, List.getElem?_eq_none]
    rw [List.length_append, List.length_singleton]
    exact hi
  ids_nodup := ht.nodup_concat h
  constant_iff := isConstant_iff

theorem IsPathTo.not_revisits {source : Parameter} {constant : Bool}
    (hp : IsPathTo d ps p passed source constant) : ¬ Revisits d ps p := by
  rintro ⟨i, j, q, hij, hi, hj⟩
  rw [hp.walk_eq] at hi hj
  obtain ⟨hlen, -⟩ := List.getElem?_eq_some_iff.1 hi
  exact hij.ne ((List.getElem?_inj hlen hp.ids_nodup.of_map).1 (hi.trans hj.symm))

section Snapshot

variable {s : Snapshot} {again source : Parameter} {constant : Bool}

theorem isRound_of_loops (hp : p ∈ s.parameters) (h : course d s.parameters p = .loops passed again) :
    Revisits d s.parameters p ∧
      ∃ rest, IsRound d s.parameters p again rest (Course.loopOf passed again) := by
  have hsettled := ((resolves_iff_eq_course hp).2 h.symm).settled (.start hp)
  cases hsettled with
  | loops ht hagain =>
    exact ⟨ht.revisits s.ids_nodup hagain, ht.isRound s.ids_nodup s.names_nodup hagain⟩

theorem isPathTo_of_ends (hp : p ∈ s.parameters)
    (h : course d s.parameters p = .ends passed source constant) :
    IsPathTo d s.parameters p passed source constant := by
  have hsettled := ((resolves_iff_eq_course hp).2 h.symm).settled (.start hp)
  cases hsettled with
  | ends ht hnew hs => exact ht.isPathTo hnew hs

theorem loops_iff_revisits (hp : p ∈ s.parameters) :
    (∃ passed again, course d s.parameters p = .loops passed again) ↔ Revisits d s.parameters p := by
  constructor
  · exact fun ⟨_, _, h⟩ => (isRound_of_loops hp h).1
  · intro hr
    cases h : course d s.parameters p with
    | loops passed again => exact ⟨passed, again, rfl⟩
    | ends passed source constant => exact absurd hr (isPathTo_of_ends hp h).not_revisits

theorem not_loops_of_elementary_eq_empty (hp : p ∈ s.parameters)
    (hnone : elementary d s.parameters = ∅) (passed : List Parameter) (again : Parameter) :
    course d s.parameters p ≠ .loops passed again := by
  intro h
  obtain ⟨-, rest, hround⟩ := isRound_of_loops hp h
  exact Set.notMem_empty _ (hnone ▸ hround.elementary)

end Snapshot

theorem IsRound.exists_listed {lib : DirectedGraph.Library} {g : Graph} (hl : lib.IsSound)
    (hg : g.IsBuilt d ps) {first : Parameter} {rest : List Parameter} {l : Loop}
    (h : IsRound d ps p first rest l) :
    ∃ c ∈ lib.cycles g.directed, c ~r (first :: rest).map (·.id) := by
  obtain ⟨c, hc, heq⟩ := (hg.mem_cycles_iff hl).2 h.elementary
  exact ⟨c, hc, Cycle.coe_eq_coe.1 heq⟩

/-- The course of a chain comes to an end by itself. It is a loop exactly when the walk comes back
to a parameter, and then one of the cycles, which a library lists if there is a graph; otherwise it
is the whole walk. -/
theorem course_follows_walk (d : Dialect) (s : Snapshot) {p : Parameter} (hp : p ∈ s.parameters) :
    (∀ c, Resolves d s.parameters [] p c ↔ c = course d s.parameters p) ∧
      ((∃ passed again, course d s.parameters p = .loops passed again) ↔
        Revisits d s.parameters p) ∧
      (∀ passed again, course d s.parameters p = .loops passed again →
        ∃ first rest, IsRound d s.parameters p first rest (Course.loopOf passed again)) ∧
      (∀ passed source constant, course d s.parameters p = .ends passed source constant →
        IsPathTo d s.parameters p passed source constant) ∧
      (elementary d s.parameters = ∅ →
        ∀ passed again, course d s.parameters p ≠ .loops passed again) ∧
      ∀ (lib : DirectedGraph.Library) (g : Graph), lib.IsSound →
        Graph.build d s.parameters = .ok g →
        (∀ first rest l, IsRound d s.parameters p first rest l →
          ∃ c ∈ lib.cycles g.directed, c ~r (first :: rest).map (·.id)) ∧
        (g.cycles lib = [] → ∀ passed again, course d s.parameters p ≠ .loops passed again) := by
  refine ⟨fun c => resolves_iff_eq_course hp, loops_iff_revisits hp, fun passed again h => ?_,
    fun _ _ _ h => isPathTo_of_ends hp h, not_loops_of_elementary_eq_empty hp,
    fun lib g hl hg => ?_⟩
  · obtain ⟨-, rest, hround⟩ := isRound_of_loops hp h
    exact ⟨again, rest, hround⟩
  · have hbuilt := Graph.isBuilt_of_build hg
    refine ⟨fun first rest l h => h.exists_listed hl hbuilt, fun hnone => ?_⟩
    exact not_loops_of_elementary_eq_empty hp ((hbuilt.cycles_eq_nil_iff hl).1 hnone)

def lasso : Snapshot where
  parameters := [Cycle.plain 1 "Start" (some "A"), Cycle.plain 2 "A" (some " B "),
    Cycle.plain 3 "B" (some "A"), Cycle.plain 4 "Copy" (some "Fixed"),
    Cycle.plain 5 "Fixed" (some "20")]
  ids_nodup := by decide
  names_nodup := by decide

theorem course_follows_walk_lasso :
    Cycle.plain 1 "Start" (some "A") ∈ lasso.parameters ∧
      Cycle.plain 4 "Copy" (some "Fixed") ∈ lasso.parameters ∧
      Revisits .standard lasso.parameters (Cycle.plain 1 "Start" (some "A")) ∧
      (∃ g first rest, Graph.build .standard lasso.parameters = .ok g ∧
        IsRound .standard lasso.parameters (Cycle.plain 1 "Start" (some "A")) first rest
          ⟨["A", "B", "A"]⟩ ∧
        ∃ c ∈ DirectedGraph.Library.standard.cycles g.directed, c ~r (first :: rest).map (·.id)) ∧
      IsPathTo .standard lasso.parameters (Cycle.plain 4 "Copy" (some "Fixed"))
        [Cycle.plain 4 "Copy" (some "Fixed")] (Cycle.plain 5 "Fixed" (some "20")) true := by
  have hstart : Cycle.plain 1 "Start" (some "A") ∈ lasso.parameters := by simp [lasso]
  have hcopy : Cycle.plain 4 "Copy" (some "Fixed") ∈ lasso.parameters := by simp [lasso]
  obtain ⟨-, hrevisits, hround, -, -, hlisted⟩ := course_follows_walk .standard lasso hstart
  obtain ⟨-, -, -, hpath, -, -⟩ := course_follows_walk .standard lasso hcopy
  have hloops : course .standard lasso.parameters (Cycle.plain 1 "Start" (some "A")) =
      .loops [Cycle.plain 1 "Start" (some "A"), Cycle.plain 2 "A" (some " B "),
        Cycle.plain 3 "B" (some "A")] (Cycle.plain 2 "A" (some " B ")) := by cbv
  have hends : course .standard lasso.parameters (Cycle.plain 4 "Copy" (some "Fixed")) =
      .ends [Cycle.plain 4 "Copy" (some "Fixed")] (Cycle.plain 5 "Fixed" (some "20")) true := by cbv
  obtain ⟨first, rest, hround⟩ := hround _ _ hloops
  obtain ⟨g, hg, -⟩ := Graph.exists_build .standard lasso.parameters (by decide)
  have hlisted := (hlisted _ g DirectedGraph.Library.isSound_standard hg).1 first rest _ hround
  exact ⟨hstart, hcopy, hrevisits.1 ⟨_, _, hloops⟩, ⟨g, first, rest, hg, hround, hlisted⟩,
    hpath _ _ _ hends⟩

end Parametric.Chain
