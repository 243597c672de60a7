import Mathlib.Data.List.Permutation
import Parametric.Proofs.LongestMatch
import Parametric.Proofs.Mention
import Parametric.Proofs.ReferenceRelation
import Parametric.Reference

/-! # Dependents against dependencies

The dependents of a parameter are looked for in two ways at once: its name has to stand delimited in
the formula as written, and to be found once longer names are blanked. A name that begins or ends in
a boundary character or a blank can be found beside a longer one without standing delimited. -/
namespace Parametric

namespace Formula

variable {d : Dialect} {name text : Text} {names : List Text} {spans : List Span} {i : Nat}

def Span.Adjoins (s t : Span) : Prop := s.start ≤ t.stop ∧ t.start ≤ s.stop

theorem Span.Meets.adjoins {s t : Span} (h : s.Meets t) : s.Adjoins t := by
  obtain ⟨i, hs, ht⟩ := h
  simp only [Covers, Adjoins] at *
  omega

theorem delimitedAt_blanked_iff_of_not_adjoins (h : ∀ s ∈ spans, ¬ s.Adjoins ⟨i, name⟩) :
    DelimitedAt d name (blanked spans text) i ↔ DelimitedAt d name text i := by
  have ho : name <+: (blanked spans text).drop i ↔ name <+: text.drop i :=
    occurs_blanked_iff fun s hs hm => h s hs hm.adjoins
  have hl : before none (blanked spans text) i = before none text i := by
    cases i with
    | zero => rfl
    | succ k =>
      refine getElem?_blanked_of_not_covered (fun s hs hc => h s hs ?_) text
      simp only [Span.Covers, Span.Adjoins, Span.stop] at *
      omega
  have hr : (blanked spans text)[i + name.length]? = text[i + name.length]? := by
    refine getElem?_blanked_of_not_covered (fun s hs hc => h s hs ?_) text
    simp only [Span.Covers, Span.Adjoins, Span.stop] at *
    omega
  constructor
  · intro hd
    exact ⟨ho.1 hd.occurs, hl ▸ hd.left, hr ▸ hd.right⟩
  · intro hd
    exact ⟨ho.2 hd.occurs, hl ▸ hd.left, hr ▸ hd.right⟩

/-- A solid name keeps apart from longer names, whatever those begin and end in. -/
theorem Solid.not_adjoins (hs : Solid d name) (hn : name ≠ [])
    (hlong : ∀ s ∈ foundSpans d names text, name.length ≤ s.name.length)
    (ho : name <+: (blanked (foundSpans d names text) text).drop i) :
    ∀ s ∈ foundSpans d names text, ¬ s.Adjoins ⟨i, name⟩ := by
  intro s hmem hadj
  have hapart := not_meets_of_occurs hs.tight hn hlong ho
  have ht := (occurs_blanked_iff hapart).1 ho
  have hl := List.length_pos_iff.2 hn
  have hfree (k : Nat) (hk : i ≤ k ∧ k < i + name.length) :
      ∀ t ∈ foundSpans d names text, ¬ t.Covers k :=
    fun t hm hc => hapart t hm ⟨k, hc, hk⟩
  have hside : s.stop = i ∨ s.start = i + name.length := by
    have hm := hapart s hmem
    rw [Span.meets_iff (mem_of_mem_foundSpans hmem).2 hn] at hm
    simp only [Span.Adjoins, Span.stop] at hadj hm ⊢
    omega
  rcases hside with hstop | hstart
  · have hd := delimits_stop hmem (hstop ▸ hfree i ⟨Nat.le_refl i, by omega⟩)
    rw [hstop, hs.not_delimits_first hn ht] at hd
    exact Bool.false_ne_true hd
  · have hlast : s.start = i + name.length - 1 + 1 := by omega
    have hd := delimits_before_start hmem hlast (hfree _ (by omega))
    obtain ⟨c, hc, -, hb⟩ := hs.edged.final hn ht
    rw [hc, delimits, hb] at hd
    exact Bool.false_ne_true hd

/-- A name that is found and does not stand delimited in the text as written is found beside a name
that was blanked before it. -/
theorem exists_adjoins_of_found {later : List Text} (hn : name ∉ names) (hl : name ∉ later)
    (hlong : ∀ m ∈ names, name.length ≤ m.length)
    (hf : ∃ s ∈ foundSpans d (names ++ name :: later) text, s.name = name)
    (hd : ∀ i, ¬ DelimitedAt d name text i) :
    ¬ Solid d name ∧ ∃ s ∈ foundSpans d (names ++ name :: later) text, s.name = name ∧
      ∃ t ∈ foundSpans d (names ++ name :: later) text, t.name ≠ name ∧
        name.length ≤ t.name.length ∧ t.Adjoins s := by
  rw [foundSpans_append, foundSpans] at hf ⊢
  have hm : maskedSpans d name (blanked (foundSpans d names text) text) ≠ [] := by
    obtain ⟨s, hs, rfl⟩ := hf
    rcases List.mem_append.1 hs with hs | hs
    · exact absurd (mem_of_mem_foundSpans hs).1 hn
    rcases List.mem_append.1 hs with hs | hs
    · exact List.ne_nil_of_mem hs
    · exact absurd (mem_of_mem_foundSpans hs).1 hl
  obtain ⟨s, hs, hdel⟩ := exists_delimited_of_maskedSpans hm
  obtain ⟨hname, hne, -⟩ := mem_maskedSpans hs
  have hat : s = ⟨s.start, name⟩ := by
    rw [← hname]
  have hadj : ∃ t ∈ foundSpans d names text, t.Adjoins s := by
    by_contra hno
    refine hd s.start ((delimitedAt_blanked_iff_of_not_adjoins fun t ht hadj => hno ⟨t, ht, ?_⟩).1 hdel)
    rwa [hat]
  obtain ⟨t, ht, hadj⟩ := hadj
  have htname := (mem_of_mem_foundSpans ht).1
  have hlong' : ∀ t ∈ foundSpans d names text, name.length ≤ t.name.length :=
    fun t ht => hlong _ (mem_of_mem_foundSpans ht).1
  refine ⟨fun hsolid => hsolid.not_adjoins hne hlong' hdel.occurs t ht (hat ▸ hadj), s,
    List.mem_append_right _ (List.mem_append_left _ hs), hname, t, List.mem_append_left _ ht,
    fun he => hn (he ▸ htname), hlong _ htname, hadj⟩

end Formula

open Formula

variable (d : Dialect)

/-- The name of `p` stands nowhere delimited in the formula of `q`. It is only found there beside a
name at least as long, and begins or ends in a boundary character or a blank. -/
def IsCrowded (ps : List Parameter) (p q : Parameter) : Prop :=
  ∃ n f, p.name = some n ∧ q.formula = some f ∧ (∀ i, ¬ DelimitedAt d n f i) ∧ ¬ Solid d n ∧
    ∃ s ∈ Reference.spans d ps f, s.name = n ∧
      ∃ t ∈ Reference.spans d ps f, t.name ≠ n ∧ n.length ≤ t.name.length ∧ t.Adjoins s

variable {d} {s : Snapshot} {p q : Parameter}

theorem Reference.includes_iff (hp : p ∈ s.parameters) (formula : Option Text) :
    includes d s.parameters formula p = true ↔ p ∈ Reference.of d s.parameters formula := by
  simp only [includes, List.any_eq_true, decide_eq_true_eq]
  constructor
  · rintro ⟨r, hr, hid⟩
    have hrs := Reference.of_subset d s.parameters formula hr
    exact Snapshot.eq_of_id_eq hrs hp hid ▸ hr
  · intro h
    exact ⟨p, h, rfl⟩

theorem Reference.exists_sought {n : Text} (hn : n ∈ soughtNames s.parameters) :
    ∃ longer later, soughtNames s.parameters = longer ++ n :: later ∧ n ∉ longer ∧ n ∉ later ∧
      ∀ m ∈ longer, n.length ≤ m.length := by
  obtain ⟨longer, later, he⟩ := List.append_of_mem hn
  have hnodup := soughtNames_nodup s
  have hsort := longestFirst_pairwise List.length ((names s.parameters).filter (! ·.isEmpty))
  rw [← soughtNames, he, List.pairwise_append] at hsort
  rw [he, List.nodup_middle, List.nodup_cons, List.mem_append, not_or] at hnodup
  exact ⟨longer, later, he, hnodup.1.1, hnodup.1.2, fun m hm => hsort.2.2 m hm n List.mem_cons_self⟩

theorem isNamedIn_iff_not_isCrowded (h : p ∈ dependencies d q s.parameters) :
    Reference.isNamedIn d p q.formula = true ↔ ¬ IsCrowded d s.parameters p q := by
  obtain ⟨f, n, hf, hn, hfound⟩ := Reference.exists_found_of_mem h
  rw [Reference.isNamedIn_iff]
  constructor
  · rintro ⟨n', f', hn', hf', -, i, hi⟩ ⟨m, g, hm, hg, hnone, -⟩
    obtain rfl := Option.some.inj (hn'.symm.trans hm)
    obtain rfl := Option.some.inj (hf'.symm.trans hg)
    exact hnone i hi
  · intro hfree
    obtain ⟨sp, hsp, rfl⟩ := hfound
    obtain ⟨hsought, hne⟩ := mem_of_mem_foundSpans hsp
    refine ⟨sp.name, f, hn, hf, hne, ?_⟩
    by_contra hnone
    rw [not_exists] at hnone
    obtain ⟨longer, later, he, hlonger, hlater, hlong⟩ := Reference.exists_sought hsought
    rw [Reference.spans, he] at hsp
    obtain ⟨hsolid, hadj⟩ := exists_adjoins_of_found hlonger hlater hlong ⟨sp, hsp, rfl⟩ hnone
    rw [← he] at hadj
    exact hfree ⟨sp.name, f, hn, hf, hnone, hsolid, hadj⟩

/-- Navigation is the same in both directions for a name with characters of its own at both ends. -/
theorem mem_dependents_iff_of_solid (hp : p ∈ s.parameters)
    (hsolid : ∀ n, p.name = some n → Solid d n) :
    q ∈ dependents d p s.parameters ↔
      q ∈ s.parameters ∧ q.isBuiltIn = false ∧ p ∈ dependencies d q s.parameters := by
  simp only [dependents, List.mem_filter, Bool.and_eq_true, Bool.not_eq_true', and_assoc,
    Reference.includes_iff hp]
  refine and_congr_right fun _ => and_congr_right fun _ => and_iff_right_of_imp fun h => ?_
  rw [isNamedIn_iff_not_isCrowded h]
  rintro ⟨n, -, hn, -, -, hcrowded, -⟩
  exact hcrowded (hsolid n hn)

open Classical in
/-- The dependents of a parameter are those with it among their dependencies, in the order of the
snapshot, save where its name is crowded. -/
theorem dependents_eq_filter_dependencies (d : Dialect) (s : Snapshot) {p : Parameter}
    (hp : p ∈ s.parameters) :
    dependents d p s.parameters = s.parameters.filter fun q =>
      q.isBuiltIn = false ∧ p ∈ dependencies d q s.parameters ∧ ¬ IsCrowded d s.parameters p q := by
  refine List.filter_congr fun q _ => ?_
  rw [Bool.eq_iff_iff, Bool.and_eq_true, Bool.and_eq_true, decide_eq_true_eq,
    Reference.includes_iff hp, Bool.not_eq_true', and_assoc]
  refine and_congr_right fun _ => ?_
  rw [and_comm]
  exact and_congr_right fun h => isNamedIn_iff_not_isCrowded h

def signed : Snapshot where
  parameters := [⟨.number 1, some "Width", false, .null, none, false⟩,
    ⟨.number 2, some "-A", false, .null, none, false⟩,
    ⟨.number 3, some "T", false, .null, some "Width-A", false⟩]
  ids_nodup := by decide
  names_nodup := by decide

open Classical in
theorem dependents_eq_filter_dependencies_signed :
    ∃ p ∈ signed.parameters, p.name = some "Width" ∧
      dependents Dialect.standard p signed.parameters = signed.parameters.filter fun q =>
        q.isBuiltIn = false ∧ p ∈ dependencies Dialect.standard q signed.parameters ∧
          ¬ IsCrowded Dialect.standard signed.parameters p q := by
  have hp : (⟨.number 1, some "Width", false, .null, none, false⟩ : Parameter) ∈
      signed.parameters := List.mem_cons_self
  exact ⟨_, hp, rfl, dependents_eq_filter_dependencies Dialect.standard signed hp⟩

theorem dependents_signed_eq_nil :
    ∃ p ∈ signed.parameters, ∃ q ∈ signed.parameters, q.isBuiltIn = false ∧
      p ∈ dependencies Dialect.standard q signed.parameters ∧
        dependents Dialect.standard p signed.parameters = [] := by
  refine ⟨⟨.number 2, some "-A", false, .null, none, false⟩, by simp [signed],
    ⟨.number 3, some "T", false, .null, some "Width-A", false⟩, by simp [signed], rfl, ?_, ?_⟩
  · have h : dependencies Dialect.standard
        ⟨.number 3, some "T", false, .null, some "Width-A", false⟩ signed.parameters =
        signed.parameters.take 2 := by cbv
    rw [h]
    simp [signed]
  · cbv

end Parametric
