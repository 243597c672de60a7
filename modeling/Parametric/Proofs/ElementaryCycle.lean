import Mathlib.Data.List.Cycle
import Mathlib.Logic.Relation
import Parametric.Proofs.Spread

/-! # Elementary cycles, and the search that lists each of them -/
namespace Parametric

/-- A cycle that passes nothing twice. -/
structure IsElementary (r : Ident → Ident → Prop) (c : Cycle Ident) : Prop where
  ne_nil : c ≠ Cycle.nil
  nodup : c.Nodup
  chain : c.Chain r

section IsElementary

variable {r : Ident → Ident → Prop} {a start : Ident} {c : Cycle Ident}

theorem exists_cons_of_mem (h : a ∈ c) :
    ∃ more : List Ident, c = ((a :: more : List Ident) : Cycle Ident) := by
  obtain ⟨l, rfl⟩ := Quotient.exists_rep c
  obtain ⟨before, after, rfl⟩ := List.append_of_mem (Cycle.mem_coe_iff.1 h)
  exact ⟨after ++ before, Cycle.coe_eq_coe.2 (List.isRotated_append)⟩

theorem isElementary_cons_iff {more : List Ident} :
    IsElementary r ((start :: more : List Ident) : Cycle Ident) ↔
      (start :: more).Nodup ∧ (start :: (more ++ [start])).IsChain r := by
  constructor
  · rintro ⟨-, hn, hc⟩
    rw [Cycle.chain_coe_cons] at hc
    exact ⟨Cycle.nodup_coe_iff.1 hn, hc⟩
  · rintro ⟨hn, hc⟩
    refine ⟨by simp, Cycle.nodup_coe_iff.2 hn, ?_⟩
    rwa [Cycle.chain_coe_cons]

theorem IsElementary.transGen (h : IsElementary r c) (ha : a ∈ c) : Relation.TransGen r a a := by
  obtain ⟨more, rfl⟩ := exists_cons_of_mem ha
  obtain ⟨-, hchain⟩ := isElementary_cons_iff.1 h
  obtain ⟨b, rest, hb⟩ := List.exists_cons_of_ne_nil (l := more ++ [a]) (by simp)
  rw [hb] at hchain
  obtain ⟨hab, hchain⟩ := List.isChain_cons_cons.1 hchain
  refine Relation.TransGen.head' hab (List.relationReflTransGen_of_exists_isChain_cons rest hchain ?_)
  simp [← hb]

end IsElementary

namespace DirectedGraph

variable {g : DirectedGraph} {start : Ident} {allowed : List Ident}

/-- The rest of a cycle through `start` that has passed some nodes and stands at `current`. -/
structure Way (g : DirectedGraph) (start : Ident) (allowed passed : List Ident) (current : Ident)
    (more : List Ident) : Prop where
  mem : ∀ b ∈ more, b ∈ allowed ∧ b ∉ current :: passed
  nodup : more.Nodup
  chain : (current :: (more ++ [start])).IsChain g.Joins

theorem way_nil {passed : List Ident} {current : Ident} :
    g.Way start allowed passed current [] ↔ g.Joins current start := by
  constructor
  · intro h
    simpa using h.chain
  · intro h
    exact ⟨by simp, by simp, by simpa using h⟩

theorem way_cons {passed : List Ident} {current t : Ident} {more : List Ident} :
    g.Way start allowed passed current (t :: more) ↔
      (t ∈ allowed ∧ g.Joins current t ∧ t ∉ current :: passed) ∧
        g.Way start allowed (current :: passed) t more := by
  constructor
  · rintro ⟨hm, hn, hc⟩
    obtain ⟨⟨ha, ht⟩, hm⟩ := List.forall_mem_cons.1 hm
    obtain ⟨hnt, hn⟩ := List.nodup_cons.1 hn
    obtain ⟨hr, hc⟩ := List.isChain_cons_cons.1 hc
    refine ⟨⟨ha, hr, ht⟩, fun b hb => ⟨(hm b hb).1, ?_⟩, hn, hc⟩
    exact List.not_mem_cons_of_ne_of_not_mem (ne_of_mem_of_not_mem hb hnt) (hm b hb).2
  · rintro ⟨⟨ha, hr, ht⟩, hm, hn, hc⟩
    refine ⟨List.forall_mem_cons.2 ⟨⟨ha, ht⟩, fun b hb => ⟨(hm b hb).1, ?_⟩⟩,
      List.nodup_cons.2 ⟨fun h => (hm t h).2 List.mem_cons_self, hn⟩,
      List.isChain_cons_cons.2 ⟨hr, hc⟩⟩
    exact fun h => (hm b hb).2 (List.mem_cons_of_mem t h)

theorem mem_extend_iff (fuel : Nat) (passed : List Ident) (current : Ident) (l : List Ident) :
    l ∈ g.extend start allowed fuel passed current ↔
      ∃ more, l = passed.reverse ++ current :: more ∧ more.length < fuel ∧
        g.Way start allowed passed current more := by
  induction fuel generalizing passed current with
  | zero => simp [extend]
  | succ fuel ih =>
    have hclosing : l ∈ (if start ∈ g.next current then [(current :: passed).reverse] else []) ↔
        l = passed.reverse ++ [current] ∧ g.Way start allowed passed current [] := by
      rw [way_nil, ← g.mem_next_iff]
      split <;> simp_all
    have hlonger : l ∈ (allowed.filter fun t => t ∈ g.next current &&
        t ∉ current :: passed).flatMap
          (g.extend start allowed fuel (current :: passed)) ↔
        ∃ t more, l = passed.reverse ++ current :: t :: more ∧ (t :: more).length < fuel + 1 ∧
          g.Way start allowed passed current (t :: more) := by
      simp only [List.mem_flatMap, List.mem_filter, ih, way_cons, g.mem_next_iff,
        Bool.and_eq_true, decide_eq_true_eq, List.reverse_cons, List.append_assoc,
        List.singleton_append, List.length_cons, Nat.add_lt_add_iff_right]
      constructor
      · rintro ⟨t, ht, more, hl, hf, hw⟩
        exact ⟨t, more, hl, hf, ht, hw⟩
      · rintro ⟨t, more, hl, hf, ht, hw⟩
        exact ⟨t, ht, more, hl, hf, hw⟩
    rw [extend, List.mem_append, hclosing, hlonger]
    constructor
    · rintro (⟨hl, hw⟩ | ⟨t, more, hl, hf, hw⟩)
      · exact ⟨[], hl, Nat.succ_pos fuel, hw⟩
      · exact ⟨t :: more, hl, hf, hw⟩
    · rintro ⟨more, hl, hf, hw⟩
      cases more with
      | nil => exact Or.inl ⟨hl, hw⟩
      | cons t more => exact Or.inr ⟨t, more, hl, hf, hw⟩

/-- On the way back to `start` all nodes are among those from which `start` can be reached. -/
theorem transGen_of_isChain {r : Ident → Ident → Prop} {later more : List Ident}
    (hc : (more ++ [start]).IsChain r) (hm : ∀ b ∈ more, b ∈ later) :
    ∀ b ∈ more, Relation.TransGen (fun a b => r b a ∧ b ∈ later) start b := by
  induction more with
  | nil => simp
  | cons t more ih =>
    obtain ⟨ht, hm⟩ := List.forall_mem_cons.1 hm
    have ih := ih hc.tail hm
    refine List.forall_mem_cons.2 ⟨?_, ih⟩
    cases more with
    | nil => exact Relation.TransGen.single ⟨by simpa using hc, ht⟩
    | cons u more =>
      exact (ih u List.mem_cons_self).tail ⟨(List.isChain_cons_cons.1 hc).1, ht⟩

/-- `cyclesThrough` leaves out what does not lead back to the start, and loses no cycle by that. -/
theorem mem_cyclesThrough_iff {later : List Ident} (hids : ∀ b ∈ later, b ∈ g.nodes)
    (l : List Ident) : l ∈ g.cyclesThrough (start :: later) ↔
      ∃ more, l = start :: more ∧ g.Way start later [] start more := by
  have hmem : ∀ a, ∀ b ∈ (g.reverse.next a).filter (· ∈ later), b ∈ g.nodes :=
    fun a b hb => hids b (of_decide_eq_true (List.mem_filter.1 hb).2)
  simp only [cyclesThrough, mem_extend_iff, List.reverse_nil, List.nil_append]
  constructor
  · rintro ⟨more, hl, -, hm, hn, hc⟩
    exact ⟨more, hl, fun b hb => ⟨List.mem_of_mem_filter (hm b hb).1, (hm b hb).2⟩, hn, hc⟩
  · rintro ⟨more, hl, hm, hn, hc⟩
    have hlater : ∀ b ∈ more, b ∈ later := fun b hb => (hm b hb).1
    have hsub : more ⊆ g.nodes := fun b hb => hids b (hlater b hb)
    have hle := (hn.subperm hsub).length_le
    refine ⟨more, hl, by omega, fun b hb => ⟨List.mem_filter.2 ⟨hlater b hb, ?_⟩, (hm b hb).2⟩, hn, hc⟩
    rw [decide_eq_true_eq, mem_spread_iff hmem (Nat.lt_succ_self _)]
    refine Relation.TransGen.mono (fun a c hac => ?_) start b (transGen_of_isChain hc.tail hlater b hb)
    simpa [Leads, mem_next_iff] using hac

/-- A cycle is listed at the first of the given nodes that it passes. -/
theorem mem_cyclesAmong_iff {ids : List Ident} (hids : ∀ b ∈ ids, b ∈ g.nodes) (c : Cycle Ident) :
    (∃ l ∈ g.cyclesAmong ids, (l : Cycle Ident) = c) ↔
      IsElementary g.Joins c ∧ ∀ b ∈ c, b ∈ ids := by
  induction ids with
  | nil =>
    refine ⟨fun h => by simp [cyclesAmong] at h, fun ⟨he, hc⟩ => ?_⟩
    obtain ⟨l, rfl⟩ := Quotient.exists_rep c
    cases l with
    | nil => exact absurd rfl he.ne_nil
    | cons a l => simpa using hc a (Cycle.mem_coe_iff.2 List.mem_cons_self)
  | cons start later ih =>
    have hlater := fun b hb => hids b (List.mem_cons_of_mem start hb)
    simp only [cyclesAmong, List.mem_append, or_and_right, exists_or, ih hlater,
      mem_cyclesThrough_iff hlater]
    constructor
    · rintro (⟨_, ⟨more, rfl, hm, hn, hc⟩, rfl⟩ | ⟨he, hc⟩)
      · refine ⟨isElementary_cons_iff.2 ⟨?_, hc⟩, ?_⟩
        · exact List.nodup_cons.2 ⟨fun h => (hm start h).2 List.mem_cons_self, hn⟩
        · intro b hb
          rcases List.mem_cons.1 (Cycle.mem_coe_iff.1 hb) with rfl | hb
          · exact List.mem_cons_self
          · exact List.mem_cons_of_mem start (hm b hb).1
      · exact ⟨he, fun b hb => List.mem_cons_of_mem start (hc b hb)⟩
    · rintro ⟨he, hc⟩
      by_cases hs : start ∈ c
      · obtain ⟨more, rfl⟩ := exists_cons_of_mem hs
        obtain ⟨hn, hchain⟩ := isElementary_cons_iff.1 he
        obtain ⟨hstart, hn⟩ := List.nodup_cons.1 hn
        refine Or.inl ⟨_, ⟨more, rfl, fun b hb => ?_, hn, hchain⟩, rfl⟩
        have hne : b ≠ start := ne_of_mem_of_not_mem hb hstart
        have hb := hc b (Cycle.mem_coe_iff.2 (List.mem_cons_of_mem start hb))
        exact ⟨(List.mem_cons.1 hb).resolve_left hne, by simpa using hne⟩
      · refine Or.inr ⟨he, fun b hb => ?_⟩
        exact (List.mem_cons.1 (hc b hb)).resolve_left (ne_of_mem_of_not_mem hb hs)

theorem mem_cycles_standard_iff {c : Cycle Ident} :
    (∃ l ∈ Library.standard.cycles g, (l : Cycle Ident) = c) ↔ IsElementary g.Joins c := by
  refine (mem_cyclesAmong_iff (fun b hb => hb) c).trans (and_iff_left_of_imp fun he b hb => ?_)
  obtain ⟨a, hab, -⟩ := Relation.TransGen.head'_iff.1 (he.transGen hb)
  exact hab.mem.1

end DirectedGraph

end Parametric
