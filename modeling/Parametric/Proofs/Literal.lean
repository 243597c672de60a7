import Mathlib.Data.List.Permutation
import Parametric.Formula.Token
import Parametric.Proofs.Mention
import Parametric.Proofs.SharedStretch

/-! # References in a formula and in what is left of it without its string literals

A literal becomes one blank, and a blank delimits names where the quotes did not. So names beside
a literal, or spread over one, are found in the stripped formula only. Between literals both texts
are the same, and from a literal on the difference goes as far as names are found side by side. -/
namespace Parametric

namespace Formula

/-- A formula is made of literals and of the characters outside of them. -/
inductive Part
  | code (c : Char)
  | literal (held : Text)

namespace Part

def written : Part → Text
  | code c => [c]
  | literal held => literalQuote :: held ++ [literalQuote]

/-- What stands for it once literals are stripped. -/
def remnant : Part → Char
  | code c => c
  | literal _ => ' '

def IsLiteral (parts : List Part) (i : Nat) : Prop := ∃ held, parts[i]? = some (literal held)

/-- Where the part of the given number begins in the text that the parts make up. -/
def start (parts : List Part) (i : Nat) : Nat := ((parts.take i).flatMap written).length

end Part

def partsFrom : Option Text → Text → List Part
  | none, [] => []
  | some held, [] => (literalQuote :: held.reverse).map .code
  | none, c :: rest =>
    if c = literalQuote then partsFrom (some []) rest else .code c :: partsFrom none rest
  | some held, c :: rest =>
    if c = literalQuote then .literal held.reverse :: partsFrom none rest
    else partsFrom (some (c :: held)) rest

def parts (formula : Text) : List Part := partsFrom none formula

theorem flatMap_written_map_code (text : Text) : (text.map Part.code).flatMap Part.written = text := by
  induction text with
  | nil => rfl
  | cons c text ih => rw [List.map_cons, List.flatMap_cons, ih, Part.written, List.singleton_append]

theorem map_remnant_map_code (text : Text) : (text.map Part.code).map Part.remnant = text := by
  rw [List.map_map]
  exact List.map_id text

theorem flatMap_written_partsFrom (formula : Text) :
    (partsFrom none formula).flatMap Part.written = formula ∧
      ∀ held : Text, (partsFrom (some held) formula).flatMap Part.written =
        literalQuote :: held.reverse ++ formula := by
  induction formula with
  | nil => exact ⟨rfl, fun held => by rw [partsFrom, flatMap_written_map_code, List.append_nil]⟩
  | cons c rest ih =>
    obtain ⟨hout, hin⟩ := ih
    by_cases hc : c = literalQuote
    · subst hc
      simp [partsFrom, hin, hout, Part.written]
    · simp [partsFrom, hc, hin, hout, Part.written]

theorem flatMap_written_parts (formula : Text) : (parts formula).flatMap Part.written = formula :=
  (flatMap_written_partsFrom formula).1

theorem map_remnant_partsFrom (formula : Text) (open_ : Option Text) :
    (partsFrom open_ formula).map Part.remnant = stripFrom open_ formula := by
  induction formula generalizing open_ with
  | nil =>
    cases open_ with
    | none => rfl
    | some held => rw [partsFrom, map_remnant_map_code, stripFrom]
  | cons c rest ih =>
    by_cases hc : c = literalQuote <;> cases open_ <;>
      simp [partsFrom, stripFrom, hc, ih, Part.remnant]

theorem map_remnant_parts (formula : Text) :
    (parts formula).map Part.remnant = stripLiterals formula :=
  map_remnant_partsFrom formula none

namespace Part

variable {parts : List Part} {c : Char} {i l r : Nat}

theorem exists_code (h : ¬ IsLiteral parts i) (hi : i < parts.length) :
    ∃ c, parts[i]? = some (code c) := by
  rw [List.getElem?_eq_getElem hi]
  cases hp : parts[i] with
  | code c => exact ⟨c, rfl⟩
  | literal held => exact absurd ⟨held, by rw [List.getElem?_eq_getElem hi, hp]⟩ h

theorem start_succ (h : parts[i]? = some (code c)) : start parts (i + 1) = start parts i + 1 := by
  rw [start, start, List.take_add_one, h, List.flatMap_append, List.length_append]
  rfl

theorem getElem?_start (h : parts[i]? = some (code c)) :
    (parts.flatMap written)[start parts i]? = some c := by
  obtain ⟨hi, he⟩ := List.getElem?_eq_some_iff.1 h
  have hsplit : parts.flatMap written =
      (parts.take i).flatMap written ++ c :: (parts.drop (i + 1)).flatMap written := by
    conv_lhs => rw [← List.take_append_drop i parts, List.drop_eq_getElem_cons hi, he]
    rw [List.flatMap_append, List.flatMap_cons]
    rfl
  rw [hsplit, start, List.getElem?_append_right (Nat.le_refl _), Nat.sub_self]
  rfl

theorem start_length : start parts parts.length = (parts.flatMap written).length := by
  rw [start, List.take_length]

theorem start_add (h : ∀ i, l ≤ i → i < r → ∃ c, parts[i]? = some (code c)) (k : Nat)
    (hk : l + k ≤ r) : start parts (l + k) = start parts l + k := by
  induction k with
  | zero => rfl
  | succ k ih =>
    obtain ⟨c, hc⟩ := h (l + k) (Nat.le_add_right l k) hk
    rw [← Nat.add_assoc, start_succ hc, ih (Nat.le_of_succ_le hk)]
    rfl

/-- Characters between literals are a stretch that the written text shares with the stripped one. -/
theorem shares (h : ∀ i, l ≤ i → i < r → ∃ c, parts[i]? = some (code c)) (hlr : l ≤ r)
    (hleft : ∀ k, l = k + 1 → ∃ c, parts[k]? = some (code c))
    (hright : r = parts.length ∨ ∃ c, parts[r]? = some (code c)) :
    Shares (parts.map remnant) (parts.flatMap written) l (start parts l) (r - l) where
  left := by
    cases l with
    | zero => rfl
    | succ k =>
      obtain ⟨c, hc⟩ := hleft k rfl
      rw [start_succ hc, before, before, getElem?_start hc, List.getElem?_map, hc]
      rfl
  same k hk := by
    have hsame {i : Nat} (hi : ∃ c, parts[i]? = some (code c)) :
        (parts.map remnant)[i]? = (parts.flatMap written)[start parts i]? := by
      obtain ⟨c, hc⟩ := hi
      rw [getElem?_start hc, List.getElem?_map, hc]
      rfl
    rw [← start_add h k (by omega)]
    rcases Nat.lt_or_eq_of_le (show l + k ≤ r by omega) with hlt | rfl
    · exact hsame (h (l + k) (Nat.le_add_right l k) hlt)
    · rcases hright with hend | hcode
      · rw [hend, start_length, List.getElem?_eq_none (by simp), List.getElem?_eq_none (Nat.le_refl _)]
      · exact hsame hcode

end Part

section Reach

variable {P Q : Nat → Prop}

/-- Going down from `a` one comes to a place that is not `Q` before one comes to any that is `P`. -/
theorem exists_gap_below {a : Nat} (h : ∀ b < a, P b → ∃ i, b < i ∧ i < a ∧ ¬ Q i) :
    ∃ l ≤ a, (∀ i, l ≤ i → i < a → ¬ P i) ∧ ∀ k, l = k + 1 → ¬ P k ∧ ¬ Q k := by
  induction a with
  | zero => exact ⟨0, Nat.le_refl 0, fun i _ hi => absurd hi (Nat.not_lt_zero i), fun k hk => nomatch hk⟩
  | succ a ih =>
    have hP : ¬ P a := fun ha => by
      obtain ⟨i, hlow, hhigh, -⟩ := h a a.lt_succ_self ha
      omega
    by_cases hQ : Q a
    · have hsmall : ∀ b < a, P b → ∃ i, b < i ∧ i < a ∧ ¬ Q i := fun b hb hPb => by
        obtain ⟨i, hlow, hhigh, hi⟩ := h b (Nat.lt_succ_of_lt hb) hPb
        have hne : i ≠ a := fun he => hi (he ▸ hQ)
        exact ⟨i, hlow, by omega, hi⟩
      obtain ⟨l, hl, hfree, hend⟩ := ih hsmall
      refine ⟨l, Nat.le_succ_of_le hl, fun i hi hia => ?_, hend⟩
      rcases Nat.lt_succ_iff_lt_or_eq.1 hia with hlt | rfl
      · exact hfree i hi hlt
      · exact hP
    · refine ⟨a + 1, Nat.le_refl _, fun i hi hia => absurd hia (Nat.not_lt.2 hi), fun k hk => ?_⟩
      obtain rfl := Nat.succ.inj hk
      exact ⟨hP, hQ⟩

theorem exists_gap_above {a e : Nat} (hae : a ≤ e)
    (h : ∀ b, a ≤ b → b < e → P b → ∃ i, a ≤ i ∧ i < b ∧ ¬ Q i) :
    ∃ r, a ≤ r ∧ r ≤ e ∧ (∀ i, a ≤ i → i < r → ¬ P i) ∧ (r = e ∨ r < e ∧ ¬ P r ∧ ¬ Q r) := by
  induction hd : e - a generalizing a with
  | zero => exact ⟨a, Nat.le_refl a, hae, fun i hi hia => absurd hia (Nat.not_lt.2 hi), Or.inl (by omega)⟩
  | succ n ih =>
    have hP : ¬ P a := fun ha => by
      obtain ⟨i, hlow, hhigh, -⟩ := h a (Nat.le_refl a) (by omega) ha
      omega
    by_cases hQ : Q a
    · have hsmall : ∀ b, a + 1 ≤ b → b < e → P b → ∃ i, a + 1 ≤ i ∧ i < b ∧ ¬ Q i :=
        fun b hab hb hPb => by
          obtain ⟨i, hlow, hhigh, hi⟩ := h b (by omega) hb hPb
          have hne : i ≠ a := fun he => hi (he ▸ hQ)
          exact ⟨i, by omega, hhigh, hi⟩
      obtain ⟨r, har, hre, hfree, hend⟩ := ih (by omega) hsmall (by omega)
      refine ⟨r, by omega, hre, fun i hi hir => ?_, hend⟩
      rcases Nat.lt_or_eq_of_le hi with hlt | rfl
      · exact hfree i hlt hir
      · exact hP
    · exact ⟨a, Nat.le_refl a, hae, fun i hi hia => absurd hia (Nat.not_lt.2 hi),
        Or.inr ⟨by omega, hP, hQ⟩⟩

end Reach

theorem lt_length_of_covers {d : Dialect} {names : List Text} {text : Text} {s : Span} {i : Nat}
    (hs : s ∈ foundSpans d names text) (hc : s.Covers i) : i < text.length := by
  induction names generalizing text with
  | nil => cases hs
  | cons n names ih =>
    rcases List.mem_append.1 hs with hs | hs
    · obtain ⟨c, -, hget⟩ := exists_of_covers hs hc
      exact (List.getElem?_eq_some_iff.1 hget).1
    · simpa using ih hs

theorem stripFrom_of_notMem {formula : Text} (h : literalQuote ∉ formula) :
    stripFrom none formula = formula := by
  induction formula with
  | nil => rfl
  | cons c rest ih =>
    obtain ⟨hc, hrest⟩ := List.ne_and_not_mem_of_not_mem_cons h
    simp [stripFrom, Ne.symm hc, ih hrest]

theorem isBlank_of_isBlank_stripLiterals {formula : Text} (h : formula.isBlank = true) :
    (stripLiterals formula).isBlank = true := by
  have hq : literalQuote ∉ formula := fun hm => by
    have := List.all_eq_true.1 h _ hm
    revert this
    decide
  rwa [stripLiterals, stripFrom_of_notMem hq]

end Formula

namespace Reference

open Formula

/-- Names of at least the given length are found over the place of a part, in the stripped formula
or in the formula as it is written. -/
def Taken (d : Dialect) (ps : List Parameter) (formula : Text) (size i : Nat) : Prop :=
  (∃ sp ∈ spans d ps (stripLiterals formula), size ≤ sp.name.length ∧ sp.Covers i) ∨
    ∃ sp ∈ spans d ps formula, size ≤ sp.name.length ∧ sp.Covers (Part.start (parts formula) i)

/-- From a span of the stripped formula one gets to the blank of a literal over places only that
names as long are found over; the blank may also stand in the span. -/
def AtLiteral (d : Dialect) (ps : List Parameter) (formula : Text) (sp : Span) : Prop :=
  ∃ b, Part.IsLiteral (parts formula) b ∧
    ∀ i, (b < i ∧ i < sp.start) ∨ (sp.stop ≤ i ∧ i < b) → Taken d ps formula sp.name.length i

/-- A span away from literals stands on a stretch between literals that both texts share and over
whose ends no name as long is found. -/
theorem exists_stretch {d : Dialect} {ps : List Parameter} {formula : Text} {sp : Span}
    (hstop : sp.stop ≤ (parts formula).length) (h : ¬ AtLiteral d ps formula sp) :
    ∃ l r, l ≤ sp.start ∧ sp.stop ≤ r ∧
      Shares (stripLiterals formula) formula l (Part.start (parts formula) l) (r - l) ∧
      Part.start (parts formula) r = Part.start (parts formula) l + (r - l) ∧
      (∀ k, l = k + 1 → ¬ Taken d ps formula sp.name.length k ∧
        Part.start (parts formula) l = Part.start (parts formula) k + 1) ∧
      (r = (parts formula).length ∨ ¬ Taken d ps formula sp.name.length r) := by
  have hlen : sp.start ≤ sp.stop := Nat.le_add_right _ _
  have hfar : ∀ b, Part.IsLiteral (parts formula) b → ∃ i,
      ((b < i ∧ i < sp.start) ∨ (sp.stop ≤ i ∧ i < b)) ∧
        ¬ Taken d ps formula sp.name.length i := by
    simpa only [AtLiteral, not_exists, not_and, not_forall, exists_prop] using h
  -- on either side of the span, to the nearest place over which no name as long is found
  obtain ⟨l, hl, hbelow, hleft⟩ := exists_gap_below (P := Part.IsLiteral (parts formula))
    (Q := Taken d ps formula sp.name.length) (a := sp.start) fun b hb hlit => by
      obtain ⟨i, hi, hfree⟩ := hfar b hlit
      exact ⟨i, by omega, by omega, hfree⟩
  obtain ⟨r, hr, hre, habove, hright⟩ := exists_gap_above (P := Part.IsLiteral (parts formula))
    (Q := Taken d ps formula sp.name.length) hstop fun b hab hb hlit => by
      obtain ⟨i, hi, hfree⟩ := hfar b hlit
      exact ⟨i, by omega, by omega, hfree⟩
  have hcode : ∀ i, l ≤ i → i < r → ∃ c, (parts formula)[i]? = some (.code c) := by
    intro i hi hir
    refine Part.exists_code (fun hlit => ?_) (by omega)
    rcases Nat.lt_or_ge i sp.start with hlow | hlow
    · exact hbelow i hi hlow hlit
    rcases Nat.lt_or_ge i sp.stop with hmid | hhigh
    · obtain ⟨j, hj, -⟩ := hfar i hlit
      omega
    · exact habove i hhigh hir hlit
  have hfirst : ∀ k, l = k + 1 → ∃ c, (parts formula)[k]? = some (.code c) := fun k hk =>
    Part.exists_code (hleft k hk).1 (by omega)
  have hlast : r = (parts formula).length ∨ ∃ c, (parts formula)[r]? = some (.code c) :=
    hright.imp_right fun hr => Part.exists_code hr.2.1 hr.1
  have hshares := Part.shares hcode (by omega) hfirst hlast
  rw [map_remnant_parts, flatMap_written_parts] at hshares
  refine ⟨l, r, hl, hr, hshares, ?_, fun k hk => ?_, hright.imp_right fun hr => hr.2.2⟩
  · rw [← Part.start_add hcode (r - l) (by omega), Nat.add_sub_cancel' (by omega)]
  · obtain ⟨c, hc⟩ := hfirst k hk
    exact ⟨(hleft k hk).2, by rw [hk, Part.start_succ hc]⟩

/-- What names as long as that of a span away from literals are found at in the stripped formula,
they are found at in the formula as it is written. -/
theorem exists_found_of_not_atLiteral {d : Dialect} {ps : List Parameter} {formula : Text} {sp : Span}
    {large small : List Text} (hsplit : soughtNames ps = large ++ small)
    (hlarge : ∀ n ∈ large, sp.name.length ≤ n.length)
    (hsp : sp ∈ foundSpans d large (stripLiterals formula)) (h : ¬ AtLiteral d ps formula sp) :
    ∃ t ∈ spans d ps formula, t.name = sp.name := by
  have hspans (text : Text) : ∀ t ∈ foundSpans d large text,
      t ∈ spans d ps text ∧ sp.name.length ≤ t.name.length := fun t ht => by
    refine ⟨?_, hlarge _ (mem_of_mem_foundSpans ht).1⟩
    rw [spans, hsplit, foundSpans_append]
    exact List.mem_append_left _ ht
  have hpos := List.length_pos_iff.2 (mem_of_mem_foundSpans hsp).2
  have hparts : (stripLiterals formula).length = (parts formula).length := by
    rw [← map_remnant_parts, List.length_map]
  have hstop : sp.stop ≤ (parts formula).length := by
    have hlast : sp.Covers (sp.stop - 1) := by
      simp only [Span.Covers, Span.stop]
      omega
    have := lt_length_of_covers hsp hlast
    omega
  obtain ⟨l, r, hl, hr, hshares, hend, hleft, hright⟩ := exists_stretch hstop h
  have hstart : sp.start < sp.stop := Nat.lt_add_of_pos_right hpos
  have hspares : Spares (foundSpans d large (stripLiterals formula)) l (r - l) := by
    refine ⟨fun t ht k hk hc => (hleft k hk).1 (Or.inl ⟨t, (hspans _ t ht).1, (hspans _ t ht).2, hc⟩),
      fun t ht hc => ?_⟩
    rw [Nat.add_sub_cancel' (by omega)] at hc
    rcases hright with heq | hfree
    · have := lt_length_of_covers ht hc
      omega
    · exact hfree (Or.inl ⟨t, (hspans _ t ht).1, (hspans _ t ht).2, hc⟩)
  have hspares' : Spares (foundSpans d large formula) (Part.start (parts formula) l) (r - l) := by
    constructor
    · intro t ht k hk hc
      cases l with
      | zero => exact absurd hk (by simp [Part.start])
      | succ j =>
        obtain ⟨hfree, hj⟩ := hleft j rfl
        obtain rfl : k = Part.start (parts formula) j := by omega
        exact hfree (Or.inr ⟨t, (hspans _ t ht).1, (hspans _ t ht).2, hc⟩)
    · intro t ht hc
      rw [← hend] at hc
      rcases hright with heq | hfree
      · have := lt_length_of_covers ht hc
        rw [heq, Part.start_length, flatMap_written_parts] at this
        exact Nat.lt_irrefl _ this
      · exact hfree (Or.inr ⟨t, (hspans _ t ht).1, (hspans _ t ht).2, hc⟩)
  have hmatch := hshares.foundSpans_match large hspares hspares'
  have hsp' : (⟨l + (sp.start - l), sp.name⟩ : Span) ∈ foundSpans d large (stripLiterals formula) := by
    rwa [Nat.add_sub_cancel' hl]
  exact ⟨_, (hspans _ _ ((hmatch _ (by omega) sp.name).1 hsp')).1, rfl⟩

/-- What the stripped formula references the formula references as well, unless each place where
the name is found in the stripped one is at a literal. -/
theorem mem_of_stripLiterals (d : Dialect) (s : Snapshot) (formula : Text) (p : Parameter)
    (h : p ∈ Reference.of d s.parameters (some (stripLiterals formula))) :
    p ∈ Reference.of d s.parameters (some formula) ∨
      ∀ sp ∈ spans d s.parameters (stripLiterals formula), p.name = some sp.name →
        AtLiteral d s.parameters formula sp := by
  have hs := not_isBlank_of_mem h
  have hf : formula.isBlank = false := by
    by_contra hb
    have := isBlank_of_isBlank_stripLiterals (Bool.of_not_eq_false hb)
    simp [hs] at this
  by_contra hno
  simp only [not_or, not_forall] at hno
  obtain ⟨hraw, sp, hsp, hname, hfar⟩ := hno
  -- shorter names are looked for later and blank nothing that counts for `p`
  obtain ⟨large, small, hsplit, hlarge, hsmall⟩ := exists_append_of_pairwise List.length
    (longestFirst_pairwise List.length ((names s.parameters).filter (! ·.isEmpty))) sp.name.length
  have hfound : sp ∈ foundSpans d large (stripLiterals formula) := by
    rw [spans, show soughtNames s.parameters = large ++ small from hsplit, foundSpans_append] at hsp
    refine (List.mem_append.1 hsp).resolve_right fun hlate => ?_
    exact Nat.lt_irrefl _ (hsmall _ (mem_of_mem_foundSpans hlate).1)
  obtain ⟨t, ht, htname⟩ := exists_found_of_not_atLiteral hsplit hlarge hfound hfar
  rw [mem_of_iff d s hs] at h
  exact hraw ((mem_of_iff d s hf p).2 ⟨h.1, t, ht, htname ▸ hname⟩)

def besideLiteral : Snapshot where
  parameters := [⟨.number 1, some "Width", false, .null, none, false⟩,
    ⟨.number 2, some "A", false, .null, none, false⟩]
  ids_nodup := by decide
  names_nodup := by decide

theorem mem_of_stripLiterals_beside :
    (∃ p ∈ Reference.of .standard besideLiteral.parameters (some (stripLiterals "\"x\"Width + A")),
      p.name = some "A") ∧
    ∀ p ∈ besideLiteral.parameters,
      p ∈ Reference.of .standard besideLiteral.parameters (some "\"x\"Width + A") ∨
        ∀ sp ∈ spans .standard besideLiteral.parameters (stripLiterals "\"x\"Width + A"),
          p.name = some sp.name →
            AtLiteral .standard besideLiteral.parameters "\"x\"Width + A" sp := by
  have h : Reference.of .standard besideLiteral.parameters
      (some (stripLiterals "\"x\"Width + A")) = besideLiteral.parameters := by cbv
  constructor
  · rw [h]
    exact ⟨_, List.mem_cons_of_mem _ List.mem_cons_self, rfl⟩
  · intro p hp
    rw [← h] at hp
    exact mem_of_stripLiterals .standard besideLiteral "\"x\"Width + A" p hp

def oneName (name : Text) : Snapshot where
  parameters := [⟨.number 1, some name, false, .null, none, false⟩]
  ids_nodup := List.nodup_singleton _
  names_nodup := List.nodup_singleton _

def literalName : Snapshot where
  parameters := [⟨.number 1, some "A", false, .null, none, false⟩,
    ⟨.number 2, some "\"x\"+A", false, .null, none, false⟩]
  ids_nodup := by decide
  names_nodup := by decide

/-- Three formulas without unknown names whose references are others once literals are stripped: a
name stands beside a literal, a name is spread over one, and a name has one in it. -/
theorem references_lost_at_literals :
    (invalid .standard (oneName "A").parameters (some "\"x\"A") = [] ∧
      (Reference.of .standard (oneName "A").parameters
        (some (stripLiterals "\"x\"A"))).map (·.id) = [.number 1] ∧
      (Reference.of .standard (oneName "A").parameters (some "\"x\"A")).map (·.id) = []) ∧
    (invalid .standard (oneName "A   B").parameters (some "A \"x\" B") = [] ∧
      (Reference.of .standard (oneName "A   B").parameters
        (some (stripLiterals "A \"x\" B"))).map (·.id) = [.number 1] ∧
      (Reference.of .standard (oneName "A   B").parameters
        (some "A \"x\" B")).map (·.id) = []) ∧
    invalid .standard literalName.parameters (some "\"x\"+A") = [] ∧
      (Reference.of .standard literalName.parameters
        (some (stripLiterals "\"x\"+A"))).map (·.id) = [.number 1] ∧
      (Reference.of .standard literalName.parameters
        (some "\"x\"+A")).map (·.id) = [.number 2] := by
  refine ⟨⟨?_, ?_, ?_⟩, ⟨?_, ?_, ?_⟩, ?_, ?_, ?_⟩
  all_goals cbv

end Reference

end Parametric
