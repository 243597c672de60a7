import Mathlib.Data.List.TakeWhile
import Parametric.Formula.Token
import Parametric.Proofs.FirstAppearance
import Parametric.Proofs.LongestMatch
import Parametric.Proofs.MaskingOrder
import Parametric.Proofs.Mention

/-! # Names of one word are tokens

Where the blank is a boundary, a text is words between boundaries. A name without a boundary in it is
found where a word is this name, and masking it takes that word away and leaves the others. -/
namespace Parametric

namespace Formula

/-- A text with no boundary in it. -/
def Unbroken (d : Dialect) (text : Text) : Prop := ∀ c ∈ text, d.isBoundary c = false

-- over the characters of the text, never over all characters there are
instance (d : Dialect) (text : Text) : Decidable (Unbroken d text) :=
  List.decidableBAll (fun c => d.isBoundary c = false) text

variable {d : Dialect} {name w t : Text}

/-- Every text is one word, or a word and a boundary before some other text. -/
@[elab_as_elim]
theorem words_induction {motive : Text → Prop} (word : ∀ w, Unbroken d w → motive w)
    (more : ∀ w b rest, Unbroken d w → d.isBoundary b = true → motive rest →
      motive (w ++ b :: rest)) (text : Text) : motive text := by
  -- the word read so far stands before the text and grows until there is a boundary
  suffices h : ∀ w, Unbroken d w → motive (w ++ text) from h [] (by simp [Unbroken])
  induction text with
  | nil =>
    intro w hw
    rw [List.append_nil]
    exact word w hw
  | cons c text ih =>
    intro w hw
    by_cases hc : d.isBoundary c = true
    · exact more w c text hw hc (ih [] (by simp [Unbroken]))
    · have hw' : Unbroken d (w ++ [c]) :=
        List.forall_mem_append.2 ⟨hw, by simpa using hc⟩
      rw [List.append_cons]
      exact ih _ hw'

/-! ## Tokens -/

theorem cutBy_append_cons {p : Char → Bool} {b : Char} (hb : p b = true) (text rest : Text) :
    Text.cutBy p (text ++ b :: rest) = text.cutBy p ++ rest.cutBy p := by
  simp only [Text.cutBy_eq_splitOnP]
  exact List.splitOnP_append_cons text rest hb

theorem cutBy_unbroken (hw : Unbroken d w) : w.cutBy d.isBoundary = [w] := by
  rw [Text.cutBy_eq_splitOnP]
  exact List.splitOnP_eq_singleton hw

theorem tokens_append_cons {b : Char} (hb : d.isBoundary b = true) (text rest : Text) :
    tokens d (text ++ b :: rest) = tokens d text ++ tokens d rest := by
  rw [tokens, cutBy_append_cons hb, List.map_append, List.filter_append]
  rfl

@[simp] theorem tokens_nil : tokens d [] = [] := rfl

theorem tokens_cons {b : Char} (hb : d.isBoundary b = true) (rest : Text) :
    tokens d (b :: rest) = tokens d rest :=
  tokens_append_cons hb [] rest

theorem ne_nil_of_mem_tokens {text : Text} (h : t ∈ tokens d text) : t ≠ [] := by
  simpa using (List.mem_filter.1 h).2

/-! ## Masking -/

/-- All of the left neighbour that counts is whether it delimits. -/
theorem maskFrom_congr {left left' : Option Char} (h : delimits d left = delimits d left')
    (text : Text) : maskFrom d name 0 left text = maskFrom d name 0 left' text := by
  cases text with
  | nil => rfl
  | cons c rest =>
    unfold maskFrom opensWith
    rw [h]

theorem opensWith_of_delimits (hn : name ≠ []) (hu : Unbroken d name)
    (ht : delimits d t.head? = true) (left : Option Char) : opensWith d name left t = false := by
  obtain ⟨a, name, rfl⟩ := List.exists_cons_of_ne_nil hn
  have ha : d.isBoundary a = false := hu a List.mem_cons_self
  cases t with
  | nil => rfl
  | cons b rest =>
    have hb : d.isBoundary b = true := ht
    have hab : a ≠ b := by
      rintro rfl
      simp [ha] at hb
    simp [opensWith, hab]

theorem maskFrom_of_delimits (hn : name ≠ []) (hu : Unbroken d name)
    (ht : delimits d t.head? = true) (left : Option Char) :
    maskFrom d name 0 left t = maskFrom d name 0 none t := by
  cases t with
  | nil => rfl
  | cons b rest => simp only [maskFrom, opensWith_of_delimits hn hu ht]

theorem maskFrom_boundary {b : Char} (hb : d.isBoundary b = true) {left : Option Char} {rest : Text}
    (hno : opensWith d name left (b :: rest) = false) :
    maskFrom d name 0 left (b :: rest) = b :: maskFrom d name 0 none rest := by
  have hb' : delimits d (some b) = delimits d none := hb
  rw [maskFrom, hno, if_neg Bool.false_ne_true, maskFrom_congr hb']

theorem maskFrom_break (hn : name ≠ []) (hu : Unbroken d name) {b : Char}
    (hb : d.isBoundary b = true) (rest : Text) :
    maskFrom d name 0 none (b :: rest) = b :: mask d name rest := by
  have ht : delimits d (b :: rest).head? = true := hb
  rw [maskFrom_boundary hb (opensWith_of_delimits hn hu ht none), mask]
  simp [hn]

theorem takeWhile_word (hw : Unbroken d w) (ht : delimits d t.head? = true) :
    (w ++ t).takeWhile (! d.isBoundary ·) = w := by
  have hstop : t.takeWhile (! d.isBoundary ·) = [] := by
    cases t with
    | nil => rfl
    | cons b rest =>
      have hb : d.isBoundary b = true := ht
      simp [hb]
  rw [List.takeWhile_append_of_pos (fun c hc => by simp [hw c hc]), hstop, List.append_nil]

theorem opensWith_word (hu : Unbroken d name) (hw : Unbroken d w) (ht : delimits d t.head? = true)
    (left : Option Char) :
    opensWith d name left (w ++ t) = true ↔ w = name ∧ delimits d left = true := by
  constructor
  · intro h
    -- the name and `w` both reach up to the first boundary of the same text
    obtain ⟨⟨s, hs⟩, hl, hr⟩ := (opensWith_iff d name left (w ++ t)).1 h
    rw [← hs, ← List.head?_drop, List.drop_left] at hr
    have hword := takeWhile_word hw ht
    rw [← hs, takeWhile_word hu hr] at hword
    exact ⟨hword.symm, hl⟩
  · rintro ⟨rfl, hl⟩
    rw [opensWith_iff, ← List.head?_drop, List.drop_left]
    exact ⟨List.prefix_append w t, hl, ht⟩

theorem maskFrom_inside (hn : name ≠ []) (hu : Unbroken d name) (hw : Unbroken d w)
    (ht : delimits d t.head? = true) {c : Char} (hc : d.isBoundary c = false) :
    maskFrom d name 0 (some c) (w ++ t) = w ++ maskFrom d name 0 none t := by
  induction w generalizing c with
  | nil => exact maskFrom_of_delimits hn hu ht _
  | cons e w ih =>
    have hno : opensWith d name (some c) (e :: (w ++ t)) = false := by
      simp [opensWith, delimits, hc]
    obtain ⟨he, hw⟩ := List.forall_mem_cons.1 hw
    rw [List.cons_append, maskFrom, hno, if_neg Bool.false_ne_true, ih hw he]
    rfl

theorem maskFrom_word (hn : name ≠ []) (hu : Unbroken d name) (hw : Unbroken d w)
    (ht : delimits d t.head? = true) :
    maskFrom d name 0 none (w ++ t) =
      (if w = name then List.replicate name.length ' ' else w) ++ maskFrom d name 0 none t := by
  have hopens := opensWith_word hu hw ht none
  cases w with
  | nil => rw [if_neg hn.symm, List.nil_append, List.nil_append]
  | cons c w =>
    rw [List.cons_append] at hopens ⊢
    by_cases he : c :: w = name
    · have hyes := hopens.2 ⟨he, rfl⟩
      subst he
      rw [maskFrom, if_pos hyes, if_pos rfl, List.length_cons, Nat.add_sub_cancel, maskFrom_skip,
        maskFrom_of_delimits hn hu ht, List.replicate_succ, List.cons_append]
    · obtain ⟨hc, hw⟩ := List.forall_mem_cons.1 hw
      rw [maskFrom, if_neg fun h => he (hopens.1 h).1, if_neg he, maskFrom_inside hn hu hw ht hc]
      rfl

theorem mask_word (hn : name ≠ []) (hu : Unbroken d name) (hw : Unbroken d w) :
    mask d name w = if w = name then List.replicate name.length ' ' else w := by
  have h := maskFrom_word (t := []) hn hu hw rfl
  simpa [mask, hn, maskFrom] using h

theorem mask_append_cons (hn : name ≠ []) (hu : Unbroken d name) (hw : Unbroken d w) {b : Char}
    (hb : d.isBoundary b = true) (rest : Text) :
    mask d name (w ++ b :: rest) = mask d name w ++ b :: mask d name rest := by
  have ht : delimits d (b :: rest).head? = true := hb
  rw [mask_word hn hu hw, ← maskFrom_break hn hu hb, ← maskFrom_word hn hu hw ht, mask]
  simp [hn]

/-! ## Tokens of a masked text -/

section Blank

variable (hd : d.isBoundary ' ' = true)

include hd

theorem trimBy_unbroken (hw : Unbroken d w) : Text.trimBy (· = ' ') w = w := by
  have hne : ∀ c ∈ w, ¬ (decide (c = ' ')) = true := by
    intro c hc he
    have hb := hw c hc
    rw [of_decide_eq_true he, hd] at hb
    exact Bool.false_ne_true hb.symm
  have hfront : w.dropWhile (· = ' ') = w :=
    List.dropWhile_eq_self_iff.2 fun hl => hne _ (List.getElem_mem hl)
  have hback : w.reverse.dropWhile (· = ' ') = w.reverse :=
    List.dropWhile_eq_self_iff.2 fun hl => hne _ (List.mem_reverse.1 (List.getElem_mem hl))
  rw [Text.trimBy, hfront, hback, List.reverse_reverse]

theorem tokens_unbroken (hw : Unbroken d w) (hn : w ≠ []) : tokens d w = [w] := by
  simp [tokens, cutBy_unbroken hw, trimBy_unbroken hd hw, hn]

theorem tokens_blanks (k : Nat) : tokens d (List.replicate k ' ') = [] := by
  induction k with
  | zero => rfl
  | succ k ih => rw [List.replicate_succ, tokens_cons hd, ih]

theorem tokens_mask_word (hn : name ≠ []) (hu : Unbroken d name) (hw : Unbroken d w) :
    tokens d (mask d name w) = (tokens d w).filter (· ≠ name) := by
  rw [mask_word hn hu hw]
  by_cases he : w = name
  · subst he
    rw [if_pos rfl, tokens_blanks hd, tokens_unbroken hd hw hn]
    simp
  · rw [if_neg he]
    by_cases hnil : w = []
    · rw [hnil, tokens_nil, List.filter_nil]
    · rw [tokens_unbroken hd hw hnil]
      simp [he]

/-- Masking a name of one word takes this word out of the tokens. -/
theorem tokens_mask (hn : name ≠ []) (hu : Unbroken d name) (text : Text) :
    tokens d (mask d name text) = (tokens d text).filter (· ≠ name) := by
  induction text using words_induction (d := d) with
  | word w hw => exact tokens_mask_word hd hn hu hw
  | more w b rest hw hb ih =>
    rw [mask_append_cons hn hu hw hb, tokens_append_cons hb, tokens_append_cons hb,
      List.filter_append, ih, tokens_mask_word hd hn hu hw]

theorem mask_of_notMem_tokens (hn : name ≠ []) (hu : Unbroken d name) {text : Text}
    (h : name ∉ tokens d text) : mask d name text = text := by
  have hword : ∀ w, Unbroken d w → name ∉ tokens d w → mask d name w = w := by
    intro w hw h
    rw [mask_word hn hu hw, if_neg]
    rintro rfl
    simp [tokens_unbroken hd hw hn] at h
  induction text using words_induction (d := d) with
  | word w hw => exact hword w hw h
  | more w b rest hw hb ih =>
    rw [tokens_append_cons hb, List.mem_append, not_or] at h
    rw [mask_append_cons hn hu hw hb, hword w hw h.1, ih h.2]

theorem mentions_iff_mem_tokens (hu : Unbroken d name) (text : Text) :
    mentions d name text = true ↔ name ∈ tokens d text := by
  by_cases hn : name = []
  · subst hn
    exact iff_of_false (by simp [mentions]) fun h => ne_nil_of_mem_tokens h rfl
  · obtain ⟨c, hc⟩ := List.exists_mem_of_ne_nil name hn
    have hb : c ≠ ' ' := by
      rintro rfl
      simp [hu _ hc] at hd
    have hmask : mentions d name text = true ↔ mask d name text ≠ text :=
      (mask_ne_iff.trans (and_iff_left ⟨c, hc, hb⟩)).symm
    rw [hmask]
    constructor
    · intro h
      by_contra hno
      exact h (mask_of_notMem_tokens hd hn hu hno)
    · intro h he
      rw [← he, tokens_mask hd hn hu] at h
      simp at h

theorem tokens_foldl_mask {names : List Text} (hn : ∀ n ∈ names, n ≠ [] ∧ Unbroken d n)
    (text : Text) : tokens d (names.foldl (fun t n => mask d n t) text) =
      (tokens d text).filter (· ∉ names) := by
  induction names generalizing text with
  | nil => simp
  | cons n names ih =>
    obtain ⟨⟨hne, hu⟩, hn⟩ := List.forall_mem_cons.1 hn
    rw [List.foldl_cons, ih hn, tokens_mask hd hne hu, List.filter_filter]
    refine List.filter_congr fun t _ => ?_
    rw [← Bool.decide_and, decide_eq_decide, List.mem_cons, not_or, and_comm]

/-- Masking names of one word, in whatever order and however often, takes these words out. -/
theorem tokens_maskAll {names : List Text} (hu : ∀ n ∈ names, Unbroken d n) (text : Text) :
    tokens d (maskAll d names text) = (tokens d text).filter (· ∉ names) := by
  have hsought : ∀ n ∈ longestFirst List.length (names.filter (! ·.isEmpty)),
      n ≠ [] ∧ Unbroken d n := by
    intro n hn
    obtain ⟨hn, hne⟩ := List.mem_filter.1 ((mem_longestFirst _).1 hn)
    exact ⟨by simpa using hne, hu n hn⟩
  rw [maskAll, tokens_foldl_mask hd hsought]
  refine List.filter_congr fun t ht => ?_
  have hne := ne_nil_of_mem_tokens ht
  simp [mem_longestFirst, hne]

/-- The tokens that name no parameter are the candidates that are no name and begin with no digit. -/
theorem invalidTokens_eq {names : List Text} (hu : ∀ n ∈ names, Unbroken d n) {f : Text}
    (hf : f.isBlank = false) : invalidTokens d (some f) names =
      (candidates d (some f)).filter fun t => t ∉ names ∧ startsWithDigit t = false := by
  simp only [invalidTokens, unknownTokens, candidates, written?_eq_some_iff.2 ⟨rfl, hf⟩]
  -- one side drops repetitions after all filters and the other one between them
  rw [tokens_maskAll hd hu, filter_eraseDups, List.filter_filter, List.filter_filter]
  refine congrArg List.eraseDups (List.filter_congr fun t ht => ?_)
  have hne := ne_nil_of_mem_tokens ht
  rw [Bool.eq_iff_iff]
  simp [mayBeName, hne, and_assoc, and_comm, and_left_comm]

end Blank

end Formula

namespace Reference

open Formula

variable {d : Dialect}

theorem exists_of_mem_names_sooner {us vs : List Parameter} {p : Parameter} {n : Text}
    (h : n ∈ names (sooner us p vs)) : ∃ q ∈ us ++ vs, q.name = some n := by
  obtain ⟨q, hq, hn⟩ := List.mem_filterMap.1 h
  rw [sooner, List.mem_append] at hq
  exact ⟨q, List.mem_append.2 (hq.imp List.mem_of_mem_filter List.mem_of_mem_filter), hn⟩

/-- No name is looked for twice, so the sooner ones leave a token of this name where it is. -/
theorem mem_of_iff_mem_tokens (hd : d.isBoundary ' ' = true) (s : Snapshot)
    (hu : ∀ p ∈ s.parameters, ∀ n, p.name = some n → Unbroken d n) {f : Text}
    (hf : f.isBlank = false) {p : Parameter} (hp : p ∈ s.parameters) :
    p ∈ Reference.of d s.parameters (some f) ↔ ∃ n ∈ tokens d f, p.name = some n := by
  have hids := s.ids_nodup
  have hnames := s.names_nodup
  obtain ⟨us, vs, he⟩ := List.append_of_mem hp
  rw [he] at hids hnames hu ⊢
  rw [List.map_append, List.map_cons, List.nodup_middle, List.nodup_cons, ← List.map_append]
    at hnames
  have hsooner : ∀ m ∈ names (sooner us p vs), Unbroken d m ∧ p.name ≠ some m := by
    intro m hm
    obtain ⟨q, hq, hqm⟩ := exists_of_mem_names_sooner hm
    have hmem : q ∈ us ++ p :: vs :=
      List.mem_append.2 ((List.mem_append.1 hq).imp_right (List.mem_cons_of_mem p))
    exact ⟨hu q hmem m hqm, fun hpm => hnames.1 (List.mem_map.2 ⟨q, hq, hqm.trans hpm.symm⟩)⟩
  have hleft : ∀ n, p.name = some n →
      (mentions d n (maskAll d (names (sooner us p vs)) f) = true ↔ n ∈ tokens d f) := by
    intro n hn
    rw [mentions_iff_mem_tokens hd (hu p (by simp) n hn),
      tokens_maskAll hd fun m hm => (hsooner m hm).1, List.mem_filter, decide_eq_true_eq,
      and_iff_left fun hm => (hsooner n hm).2 hn]
  rw [mem_of_iff_mentions d hids hf]
  constructor
  · rintro ⟨n, hn, hm⟩
    exact ⟨n, (hleft n hn).1 hm, hn⟩
  · rintro ⟨n, ht, hn⟩
    exact ⟨n, hn, (hleft n hn).2 ht⟩

theorem of_eq_filter_tokens (hd : d.isBoundary ' ' = true) (s : Snapshot)
    (hu : ∀ p ∈ s.parameters, ∀ n, p.name = some n → Unbroken d n) {f : Text}
    (hf : f.isBlank = false) : Reference.of d s.parameters (some f) =
      s.parameters.filter fun p => ∃ n ∈ tokens d f, p.name = some n := by
  have hof : Reference.of d s.parameters (some f) =
      s.parameters.filter fun p => p.id ∈ (sweep d s.parameters f).found := by
    rw [Reference.of, written?_some hf]
    rfl
  have hmem : ∀ p ∈ s.parameters, p.id ∈ (sweep d s.parameters f).found ↔
      ∃ n ∈ tokens d f, p.name = some n := by
    intro p hp
    rw [← mem_of_iff_mem_tokens hd s hu hf hp, hof]
    simp [hp]
  rw [hof]
  exact List.filter_congr fun p hp => decide_eq_decide.2 (hmem p hp)

/-- Where the blank is a boundary and names have no boundary in them, a formula that is not blank
references the parameters whose names are among its tokens. Its invalid tokens for given names are
the candidates that are none of these names and do not begin with a digit. -/
theorem single_words_are_tokens (d : Dialect) (hd : d.isBoundary ' ' = true) {f : Text}
    (hf : f.isBlank = false) :
    (∀ s : Snapshot, (∀ p ∈ s.parameters, ∀ n, p.name = some n → Unbroken d n) →
      Reference.of d s.parameters (some f) =
        s.parameters.filter fun p => ∃ n ∈ tokens d f, p.name = some n) ∧
    ∀ names : List Text, (∀ n ∈ names, Unbroken d n) →
      invalidTokens d (some f) names =
        (candidates d (some f)).filter fun t => t ∉ names ∧ startsWithDigit t = false :=
  ⟨fun s hu => of_eq_filter_tokens hd s hu hf, fun _ hu => invalidTokens_eq hd hu hf⟩

def singleWords : Snapshot where
  parameters := [called 1 (some "W"), called 2 (some "Width"), called 3 (some "12"),
    called 4 (some "sin"), called 5 none]
  ids_nodup := by decide
  names_nodup := by decide

theorem single_words_are_tokens_beside_literal :
    Dialect.standard.isBoundary ' ' = true ∧
      Text.isBlank "Width*12+sin(Widths)-\"W\"+0'" = false ∧
      (Reference.of .standard singleWords.parameters (some "Width*12+sin(Widths)-\"W\"+0'")).map
        (·.id) = [.number 2, .number 3, .number 4] ∧
      invalidTokens .standard (some "Width*12+sin(Widths)-\"W\"+0'") ["W", "12", "Width", "W"] =
        ["Widths"] := by
  have hd : Dialect.standard.isBoundary ' ' = true := by decide
  have hf : Text.isBlank "Width*12+sin(Widths)-\"W\"+0'" = false := by decide
  obtain ⟨hof, hinvalid⟩ := single_words_are_tokens .standard hd hf
  refine ⟨hd, hf, ?_, ?_⟩
  · rw [hof singleWords (by decide)]
    decide +kernel
  · rw [hinvalid _ (by decide)]
    decide +kernel

end Reference

end Parametric
