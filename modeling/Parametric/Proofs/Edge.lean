import Mathlib.Data.List.DropRight
import Mathlib.Data.List.Infix
import Parametric.Text.Basic

/-! # The ends of a text: what it can be a piece of, and what trimming and cutting leave -/
namespace Parametric

/-- The first and the last character, where there are any, are of one kind. -/
structure Edged (kind : Char → Prop) (t : Text) : Prop where
  head : ∀ c ∈ t.head?, kind c
  last : ∀ c ∈ t.getLast?, kind c

-- one character at most is looked at on either side, never all characters there are
instance (kind : Char → Prop) [DecidablePred kind] (t : Text) : Decidable (Edged kind t) :=
  let first := Option.decidableForallMem (p := kind) t.head?
  let final := Option.decidableForallMem (p := kind) t.getLast?
  @decidable_of_iff _ _ ⟨fun h => ⟨h.1, h.2⟩, fun h => ⟨h.head, h.last⟩⟩
    (@instDecidableAnd _ _ first final)

variable {kind : Char → Prop} {name text : Text} {i : Nat}

theorem Edged.reverse (h : Edged kind name) : Edged kind name.reverse := by
  constructor
  · rw [List.head?_reverse]
    exact h.last
  · rw [List.getLast?_reverse]
    exact h.head

/-! ## Pieces of a text -/

theorem occurs_iff : name <+: text.drop i ↔
    ∀ k (hk : k < name.length), text[i + k]? = some name[k] := by
  simp [List.prefix_iff_getElem?, List.getElem?_drop]

theorem infix_of_occurs (h : name <+: text.drop i) : name <:+: text :=
  h.isInfix.trans (List.drop_suffix i text).isInfix

theorem exists_occurs (h : name <:+: text) : ∃ i, name <+: text.drop i := by
  obtain ⟨front, back, rfl⟩ := h
  refine ⟨front.length, ?_⟩
  rw [List.append_assoc, List.drop_left]
  exact List.prefix_append name back

theorem Edged.first (h : Edged kind name) (hn : name ≠ []) (ho : name <+: text.drop i) :
    ∃ c, text[i]? = some c ∧ kind c := by
  have hl := List.length_pos_iff.2 hn
  refine ⟨name[0], by simpa using occurs_iff.1 ho 0 hl, h.head _ ?_⟩
  simp [List.head?_eq_getElem?, hl]

theorem Edged.final (h : Edged kind name) (hn : name ≠ []) (ho : name <+: text.drop i) :
    ∃ c, text[i + name.length - 1]? = some c ∧ kind c := by
  have hl := List.length_pos_iff.2 hn
  have hlast : name.length - 1 < name.length := by omega
  have hc := occurs_iff.1 ho (name.length - 1) hlast
  rw [← Nat.add_sub_assoc hl] at hc
  refine ⟨_, hc, h.last _ ?_⟩
  simp [List.getLast?_eq_getElem?, hlast]

/-- What does not begin with a character of the front stands behind it. -/
theorem Edged.infix_of_append (h : Edged kind name) (hn : name ≠ []) {front : Text}
    (hf : ∀ c ∈ front, ¬ kind c) (hi : name <:+: front ++ text) : name <:+: text := by
  induction front with
  | nil => exact hi
  | cons c front ih =>
    obtain ⟨hc, hf⟩ := List.forall_mem_cons.1 hf
    rcases List.infix_cons_iff.1 hi with hp | hi
    · obtain ⟨a, name, rfl⟩ := List.exists_cons_of_ne_nil hn
      have hac : a = c := (List.cons_prefix_cons.1 hp).1
      exact absurd (h.head a rfl) (hac ▸ hc)
    · exact ih hf hi

theorem Edged.infix_of_append_right (h : Edged kind name) (hn : name ≠ []) {back : Text}
    (hb : ∀ c ∈ back, ¬ kind c) (hi : name <:+: text ++ back) : name <:+: text := by
  rw [← List.reverse_infix, List.reverse_append] at hi
  refine List.reverse_infix.1 (h.reverse.infix_of_append ?_ ?_ hi)
  · simpa using hn
  · simpa using hb

/-! ## Trimming -/

namespace Text

variable {p : Char → Bool} {t : Text}

theorem trimBy_eq_rdropWhile (p : Char → Bool) (t : Text) :
    t.trimBy p = (t.dropWhile p).rdropWhile p := rfl

/-- Around the trimmed text there are only characters of those that are taken off. -/
theorem exists_append_trimBy (p : Char → Bool) (t : Text) :
    t = t.takeWhile p ++ (t.trimBy p ++ (t.dropWhile p).rtakeWhile p) := by
  rw [trimBy_eq_rdropWhile, List.rdropWhile_append_rtakeWhile, List.takeWhile_append_dropWhile]

theorem trimBy_infix (p : Char → Bool) (t : Text) : t.trimBy p <:+: t :=
  ⟨t.takeWhile p, (t.dropWhile p).rtakeWhile p, by
    rw [List.append_assoc]
    exact (exists_append_trimBy p t).symm⟩

theorem edged_trimBy (p : Char → Bool) (t : Text) : Edged (p · = false) (t.trimBy p) := by
  rw [trimBy_eq_rdropWhile]
  constructor
  · intro c hc
    have hfirst : c ∈ (t.dropWhile p).head? := by
      rw [← List.rdropWhile_append_rtakeWhile (p := p) (l := t.dropWhile p), List.head?_append,
        Option.mem_def.1 hc]
      rfl
    have hno := List.head?_dropWhile_not p t
    rw [Option.mem_def.1 hfirst] at hno
    exact hno
  · intro c hc
    obtain ⟨hne, rfl⟩ := List.mem_getLast?_eq_getLast hc
    exact Bool.eq_false_iff.2 (List.rdropWhile_last_not p _ hne)

theorem mem_rtakeWhile_of_dropWhile {c : Char} (h : c ∈ (t.dropWhile p).rtakeWhile p) :
    c ∈ t.rtakeWhile p := by
  rw [List.rtakeWhile, List.mem_reverse] at h ⊢
  rw [← List.takeWhile_append_dropWhile (p := p) (l := t), List.reverse_append,
    List.takeWhile_append]
  split
  · exact List.mem_append_left _ (List.takeWhile_subset p h)
  · exact h

/-! ## Cutting -/

theorem cutBy_eq_splitOnP (p : Char → Bool) (t : Text) : t.cutBy p = t.splitOnP p := by
  induction t with
  | nil => rfl
  | cons c t ih =>
    rw [cutBy, List.splitOnP_cons_eq_if_modifyHead, ih]
    obtain ⟨piece, pieces, he⟩ := List.exists_cons_of_ne_nil (List.splitOnP_ne_nil p t)
    rw [he]
    rfl

theorem notMem_of_mem_cutBy {c : Char} (hc : p c = true) {t s : Text} (hs : s ∈ t.cutBy p) :
    c ∉ s := by
  fun_induction cutBy p t generalizing s with
  | case1 =>
    rw [List.mem_singleton.1 hs]
    exact List.not_mem_nil
  | case2 a t ha ih =>
    rcases List.mem_cons.1 hs with rfl | hs
    · exact List.not_mem_nil
    · exact ih hs
  | case3 a t ha he ih =>
    obtain rfl := List.mem_singleton.1 hs
    intro hm
    obtain rfl := List.mem_singleton.1 hm
    exact ha hc
  | case4 a t ha piece pieces he ih =>
    rw [he] at ih
    rcases List.mem_cons.1 hs with rfl | hs
    · refine List.not_mem_cons_of_ne_of_not_mem ?_ (ih List.mem_cons_self)
      rintro rfl
      exact ha hc
    · exact ih (List.mem_cons_of_mem _ hs)

end Text

end Parametric
