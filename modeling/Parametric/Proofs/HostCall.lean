import Parametric.Proofs.EditStep
import Parametric.Quantity.Value

/-! # How an edit calls the host: at most once, and to no effect unless the host takes the formula -/
namespace Parametric.Guard

variable {g : Guard} {σ : Type} {host : Host σ} {s : σ} {edit : Edit}

def lone : Snapshot where
  parameters := [⟨.number 1, some "A", false, .null, none, false⟩]
  ids_nodup := by simp
  names_nodup := by simp

def setLone (refusal : Option Refusal) (formula : Text) : Attempt Snapshot :=
  (⟨.standard, false, .table⟩ : Guard).run (Snapshot.host refusal) lone
    (.set ⟨.number 1, some "A", false, .null, none, false⟩ (some formula)) lone.parameters

end Parametric.Guard
