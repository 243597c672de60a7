import Mathlib.Data.List.Perm.Subperm
import Mathlib.Logic.Relation
import Parametric.Graph.Library
import Parametric.Proofs.FirstAppearance

/-! # Spreading from a start collects what can be reached from it in one step or more -/
namespace Parametric.DirectedGraph

variable {next : Ident → List Ident} {start : Ident}

def Leads (next : Ident → List Ident) (a b : Ident) : Prop := b ∈ next a

/-- What every round of spreading keeps. Only the newest may lead to something unseen. -/
structure Spreading (next : Ident → List Ident) (start : Ident) (newest seen : List Ident) :
    Prop where
  reached : ∀ b ∈ seen, Relation.TransGen (Leads next) start b
  newest_mem : ∀ a ∈ newest, a = start ∨ a ∈ seen
  closed : ∀ a, a = start ∨ a ∈ seen → a ∈ newest ∨ ∀ b ∈ next a, b ∈ seen
  nodup : seen.Nodup

namespace Spreading

variable {newest seen : List Ident}

theorem initial : Spreading next start [start] [] := ⟨by simp, by simp, by simp, by simp⟩

/-- Those that are found in a round and were not seen before it. -/
def fresh (next : Ident → List Ident) (newest seen : List Ident) : List Ident :=
  (newest.flatMap next).eraseDups.filter (· ∉ seen)

theorem mem_fresh_iff {b : Ident} :
    b ∈ fresh next newest seen ↔ (∃ a ∈ newest, b ∈ next a) ∧ b ∉ seen := by
  simp [fresh, List.mem_eraseDups]

theorem round (h : Spreading next start newest seen) :
    Spreading next start (fresh next newest seen) (seen ++ fresh next newest seen) := by
  refine ⟨?_, fun a ha => Or.inr (List.mem_append_right _ ha), ?_, ?_⟩
  · intro b hb
    rcases List.mem_append.1 hb with hb | hb
    · exact h.reached b hb
    · obtain ⟨⟨a, ha, hab⟩, -⟩ := mem_fresh_iff.1 hb
      rcases h.newest_mem a ha with rfl | ha
      · exact Relation.TransGen.single hab
      · exact (h.reached a ha).tail hab
  · intro a ha
    by_cases hf : a ∈ fresh next newest seen
    · exact Or.inl hf
    have hseen : a = start ∨ a ∈ seen := by
      simpa [hf] using ha
    refine Or.inr fun b hb => ?_
    rcases h.closed a hseen with hn | hc
    · by_cases hs : b ∈ seen
      · exact List.mem_append_left _ hs
      · exact List.mem_append_right _ (mem_fresh_iff.2 ⟨⟨a, hn, hb⟩, hs⟩)
    · exact List.mem_append_left _ (hc b hb)
  · refine List.nodup_append.2 ⟨h.nodup, (nodup_eraseDups _).filter _, ?_⟩
    rintro b hb _ hf rfl
    exact (mem_fresh_iff.1 hf).2 hb

theorem mem_of_transGen (h : Spreading next start newest seen) (hf : fresh next newest seen = [])
    {b : Ident} (hb : Relation.TransGen (Leads next) start b) : b ∈ seen := by
  have hclosed : ∀ a, a = start ∨ a ∈ seen → ∀ b ∈ next a, b ∈ seen := by
    intro a ha b hb
    rcases h.closed a ha with hn | hc
    · by_contra hs
      have hmem := mem_fresh_iff.2 ⟨⟨a, hn, hb⟩, hs⟩
      simp [hf] at hmem
    · exact hc b hb
  induction hb with
  | single hab => exact hclosed start (Or.inl rfl) _ hab
  | tail _ hab ih => exact hclosed _ (Or.inr ih) _ hab

end Spreading

open Spreading

theorem spread_succ (fuel : Nat) (newest seen : List Ident) :
    spread next (fuel + 1) newest seen =
      if fresh next newest seen = [] then seen
      else spread next fuel (fresh next newest seen) (seen ++ fresh next newest seen) := by
  rw [spread, ← fresh]
  cases fresh next newest seen with
  | nil => rfl
  | cons a more => rfl

/-- As each round sees something new, as many rounds as there are identities are enough. -/
theorem mem_spread_of_spreading {all : List Ident} (hall : ∀ a, ∀ b ∈ next a, b ∈ all) (fuel : Nat)
    {newest seen : List Ident} (h : Spreading next start newest seen)
    (hf : all.length < fuel + seen.length) (b : Ident) :
    b ∈ spread next fuel newest seen ↔ Relation.TransGen (Leads next) start b := by
  induction fuel generalizing newest seen with
  | zero =>
    have hsub : seen ⊆ all := by
      intro b hb
      obtain ⟨a, -, hab⟩ := Relation.TransGen.tail'_iff.1 (h.reached b hb)
      exact hall a b hab
    have hle := (h.nodup.subperm hsub).length_le
    omega
  | succ fuel ih =>
    rw [spread_succ]
    by_cases hn : fresh next newest seen = []
    · rw [if_pos hn]
      exact ⟨h.reached b, h.mem_of_transGen hn⟩
    · rw [if_neg hn]
      have hpos := List.length_pos_iff.2 hn
      refine ih h.round ?_
      rw [List.length_append]
      omega

theorem mem_spread_iff {all : List Ident} (hall : ∀ a, ∀ b ∈ next a, b ∈ all) {fuel : Nat}
    (hf : all.length < fuel) (b : Ident) :
    b ∈ spread next fuel [start] [] ↔ Relation.TransGen (Leads next) start b :=
  mem_spread_of_spreading hall fuel .initial hf b

end Parametric.DirectedGraph
