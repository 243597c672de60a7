import Parametric.Proofs.ElementaryCycle
import Parametric.Proofs.Generation

/-! # What a library of graph algorithms promises, and one that keeps it -/
namespace Parametric.DirectedGraph

open Relation

/-- The promises of a library. Its lists may begin anywhere on a cycle, and it may choose among the
orders there are. -/
structure Library.IsSound (lib : Library) : Prop where
  mem_cycles_iff : ∀ g c, (∃ l ∈ lib.cycles g, (l : Cycle Ident) = c) ↔ IsElementary g.Joins c
  isTopological : ∀ g l, lib.sorted? g = some l → g.IsTopological l
  sorted?_eq_none_iff : ∀ g, lib.sorted? g = none ↔ ∃ a, TransGen g.Joins a a
  mem_ancestors_iff : ∀ g, ∀ a ∈ g.nodes, ∀ b, b ∈ lib.ancestors g a ↔ TransGen g.Joins b a ∧ b ≠ a
  mem_descendants_iff : ∀ g, ∀ a ∈ g.nodes, ∀ b,
    b ∈ lib.descendants g a ↔ TransGen g.Joins a b ∧ b ≠ a

theorem mem_reach_iff {g : DirectedGraph} {a b : Ident} :
    b ∈ g.reach a ↔ TransGen g.Joins a b ∧ b ≠ a := by
  have hleads : Leads g.next = g.Joins := by
    funext a b
    exact propext g.mem_next_iff
  have hall : ∀ a, ∀ b ∈ g.next a, b ∈ g.nodes := fun a b hb => (g.mem_next_iff.1 hb).mem.2
  rw [reach, List.mem_filter, mem_spread_iff hall (Nat.lt_succ_self _), decide_eq_true_eq, hleads]

theorem Library.isSound_standard : Library.standard.IsSound where
  mem_cycles_iff _ _ := mem_cycles_standard_iff
  isTopological g l h := by
    rcases sorted?_standard_spec (g := g) with ⟨l', hl, ht⟩ | ⟨hnone, -⟩
    · obtain rfl := Option.some.inj (hl.symm.trans h)
      exact ht
    · simp [hnone] at h
  sorted?_eq_none_iff g := by
    rcases sorted?_standard_spec (g := g) with ⟨l, hl, ht⟩ | ⟨hnone, ha⟩
    · exact iff_of_false (by simp [hl]) fun ⟨a, ha⟩ => ht.acyclic a ha
    · exact iff_of_true hnone ha
  mem_ancestors_iff g a _ b := by
    have hswap : g.reverse.Joins = Function.swap g.Joins := by
      funext a b
      exact propext g.joins_reverse
    exact mem_reach_iff.trans (by rw [hswap, transGen_swap])
  mem_descendants_iff _ _ _ _ := mem_reach_iff

end Parametric.DirectedGraph
