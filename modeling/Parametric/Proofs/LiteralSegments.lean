import Parametric.Proofs.Edge
import Parametric.Proofs.Literal

/-! # What is left of a formula without its string literals

The quotes of a formula cut it into code and the insides of literals, in turn. Stripping keeps the
code, with a blank between each two pieces of it, and keeps a literal that is not closed. -/
namespace Parametric

namespace Formula

def alternate {α : Type} : List α → List α
  | [] => []
  | [a] => [a]
  | a :: _ :: rest => a :: alternate rest

theorem getElem?_alternate {α : Type} (xs : List α) (i : Nat) :
    (alternate xs)[i]? = xs[2 * i]? := by
  fun_induction alternate xs generalizing i with
  | case1 => simp
  | case2 a => cases i <;> simp
  | case3 a b rest ih =>
    cases i with
    | zero => rfl
    | succ i => simpa [Nat.mul_succ] using ih i

theorem alternate_subset {α : Type} (xs : List α) : alternate xs ⊆ xs := by
  intro a ha
  obtain ⟨i, hi⟩ := List.mem_iff_getElem?.1 ha
  rw [getElem?_alternate] at hi
  exact List.mem_of_getElem? hi

/-- With an even number of segments the last one is in a literal that is not closed. -/
def openLiteral (segments : List Text) : Text :=
  if segments.length % 2 = 1 then [] else literalQuote :: segments.getLast?.getD []

/-! ## Stripping from one quote to the next -/

section Quotes

variable {s : Text} (hs : literalQuote ∉ s)

include hs

theorem stripFrom_code (rest : Text) :
    stripFrom none (s ++ literalQuote :: rest) = s ++ stripFrom (some []) rest := by
  induction s with
  | nil => simp [stripFrom]
  | cons c s ih =>
    obtain ⟨hc, hs⟩ := List.ne_and_not_mem_of_not_mem_cons hs
    simp [stripFrom, Ne.symm hc, ih hs]

theorem stripFrom_closed (held rest : Text) :
    stripFrom (some held) (s ++ literalQuote :: rest) = ' ' :: stripFrom none rest := by
  induction s generalizing held with
  | nil => simp [stripFrom]
  | cons c s ih =>
    obtain ⟨hc, hs⟩ := List.ne_and_not_mem_of_not_mem_cons hs
    simp [stripFrom, Ne.symm hc, ih hs]

theorem stripFrom_unclosed (held : Text) :
    stripFrom (some held) s = literalQuote :: (held.reverse ++ s) := by
  induction s generalizing held with
  | nil => simp [stripFrom]
  | cons c s ih =>
    obtain ⟨hc, hs⟩ := List.ne_and_not_mem_of_not_mem_cons hs
    simp [stripFrom, Ne.symm hc, ih hs]

end Quotes

theorem stripLiterals_of_count_le_one {formula : Text} (h : formula.count literalQuote ≤ 1) :
    stripLiterals formula = formula := by
  by_cases hq : literalQuote ∈ formula
  · obtain ⟨code, held, rfl⟩ := List.append_of_mem hq
    rw [List.count_append, List.count_cons_self] at h
    have hcode : literalQuote ∉ code := List.count_eq_zero.1 (by omega)
    have hheld : literalQuote ∉ held := List.count_eq_zero.1 (by omega)
    rw [stripLiterals, stripFrom_code hcode, stripFrom_unclosed hheld]
    rfl
  · exact stripFrom_of_notMem hq

/-- The segments are code and insides of literals in turn, so stripping takes two of them at a time. -/
theorem stripLiterals_joined {segments : List Text} (hne : segments ≠ [])
    (hq : ∀ s ∈ segments, literalQuote ∉ s) :
    stripLiterals (Text.joined [literalQuote] segments) =
      Text.joined [' '] (alternate segments) ++ openLiteral segments := by
  induction segments using alternate.induct with
  | case1 => exact absurd rfl hne
  | case2 s =>
    have hs := hq s List.mem_cons_self
    simp [Text.joined, alternate, openLiteral, stripLiterals, stripFrom_of_notMem hs]
  | case3 s held rest ih =>
    obtain ⟨hs, hq⟩ := List.forall_mem_cons.1 hq
    obtain ⟨hheld, hq⟩ := List.forall_mem_cons.1 hq
    cases rest with
    | nil =>
      simp [Text.joined, alternate, openLiteral, stripLiterals, List.intercalate_cons_cons,
        stripFrom_code hs, stripFrom_unclosed hheld]
    | cons t rest =>
      have hrest := ih (List.cons_ne_nil t rest) hq
      have hcode : alternate (t :: rest) ≠ [] := by cases rest <;> simp [alternate]
      have hopen : openLiteral (s :: held :: t :: rest) = openLiteral (t :: rest) := by
        have hlength : (s :: held :: t :: rest).length % 2 = (t :: rest).length % 2 :=
          Nat.add_mod_right (t :: rest).length 2
        rw [openLiteral, openLiteral, hlength, List.getLast?_cons_cons, List.getLast?_cons_cons]
      rw [alternate, hopen]
      simp only [stripLiterals, Text.joined, List.intercalate_cons_cons,
        List.intercalate_cons_of_ne_nil hcode, List.append_assoc, List.singleton_append,
        stripFrom_code hs, stripFrom_closed hheld] at hrest ⊢
      rw [hrest]
      rfl

theorem notMem_joined {c : Char} {sep : Text} (hsep : c ∉ sep) {ts : List Text}
    (h : ∀ t ∈ ts, c ∉ t) : c ∉ Text.joined sep ts := by
  induction ts with
  | nil => exact List.not_mem_nil
  | cons t ts ih =>
    obtain ⟨ht, h⟩ := List.forall_mem_cons.1 h
    cases ts with
    | nil => rwa [Text.joined, List.intercalate_singleton]
    | cons u us =>
      rw [Text.joined, List.intercalate_cons_cons, List.mem_append, List.mem_append, not_or, not_or]
      exact ⟨⟨ht, hsep⟩, ih h⟩

theorem count_openLiteral_le_one {segments : List Text} (hq : ∀ s ∈ segments, literalQuote ∉ s) :
    (openLiteral segments).count literalQuote ≤ 1 := by
  unfold openLiteral
  split
  · exact Nat.zero_le 1
  · cases hlast : segments.getLast? with
    | none => exact Nat.le_refl 1
    | some s =>
      have hs := List.count_eq_zero.2 (hq s (List.mem_of_getLast? hlast))
      rw [Option.getD_some, List.count_cons_self, hs]

/-- The quotes of a formula cut it into segments. Stripping leaves every other one of them, with a
blank in between, and where their number is even also the last one with the quote before it. So
there is one quote at most in what is left, and nothing to strip from it. -/
theorem stripLiterals_eq_segments (formula : Text) :
    let segments := formula.cutBy (· = literalQuote)
    (Text.joined [literalQuote] segments = formula ∧ ∀ s ∈ segments, literalQuote ∉ s) ∧
      (∃ code : List Text, (∀ i, code[i]? = segments[2 * i]?) ∧
        stripLiterals formula = Text.joined [' '] code ++
          if segments.length % 2 = 1 then [] else literalQuote :: segments.getLast?.getD []) ∧
      (stripLiterals formula).count literalQuote ≤ 1 ∧
      stripLiterals (stripLiterals formula) = stripLiterals formula := by
  intro segments
  have hcut : segments = formula.splitOn literalQuote := Text.cutBy_eq_splitOnP _ formula
  have hjoined : Text.joined [literalQuote] segments = formula :=
    hcut ▸ List.intercalate_splitOn literalQuote
  have hne : segments ≠ [] := hcut ▸ List.splitOnP_ne_nil _ formula
  have hq : ∀ s ∈ segments, literalQuote ∉ s := fun s hs =>
    Text.notMem_of_mem_cutBy (decide_eq_true rfl) hs
  have hstripped := stripLiterals_joined hne hq
  rw [hjoined] at hstripped
  have hcount : (stripLiterals formula).count literalQuote ≤ 1 := by
    have hcode : literalQuote ∉ Text.joined [' '] (alternate segments) :=
      notMem_joined (by decide) fun s hs => hq s (alternate_subset segments hs)
    rw [hstripped, List.count_append, List.count_eq_zero.2 hcode, Nat.zero_add]
    exact count_openLiteral_le_one hq
  exact ⟨⟨hjoined, hq⟩, ⟨_, getElem?_alternate segments, hstripped⟩, hcount,
    stripLiterals_of_count_le_one hcount⟩

example : stripLiterals "a\"x\"\"\"b\"c" = "a  b\"c" := by decide

end Formula

end Parametric
