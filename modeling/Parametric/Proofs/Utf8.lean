import Parametric.Text.Utf8

/-! # Reading UTF-8 gives the text that the bytes encode, up to where they encode none -/
namespace Parametric.Utf8

def encode (t : Text) : List UInt8 := t.flatMap String.utf8EncodeChar

/-- The bytes begin with a number that a character has, in its shortest form. -/
inductive Leads (rest : List UInt8) : List UInt8 → Nat → Prop
  | one {a : UInt8} (ha : a.toNat < 128) : Leads rest (a :: rest) a.toNat
  | two {a b : UInt8} {n : Nat} (ha : 194 ≤ a.toNat ∧ a.toNat ≤ 223) (hb : isTail b = true)
      (hn : (a.toNat - 192) * 64 + tailBits b = n) : Leads rest (a :: b :: rest) n
  | three {a b c : UInt8} {n : Nat} (ha : 224 ≤ a.toNat ∧ a.toNat ≤ 239) (hb : isTail b = true)
      (hc : isTail c = true) (hn : (a.toNat - 224) * 4096 + (tailBits b * 64 + tailBits c) = n)
      (hl : 2048 ≤ n) (hv : n < 55296 ∨ 57344 ≤ n) : Leads rest (a :: b :: c :: rest) n
  | four {a b c d : UInt8} {n : Nat} (ha : 240 ≤ a.toNat) (hb : isTail b = true)
      (hc : isTail c = true) (hd : isTail d = true)
      (hn : (a.toNat - 240) * 262144 + (tailBits b * 64 + tailBits c) * 64 + tailBits d = n)
      (hl : 65536 ≤ n) (hu : n < 1114112) : Leads rest (a :: b :: c :: d :: rest) n

theorem isTail_iff {b : UInt8} : isTail b = true ↔ 128 ≤ b.toNat ∧ b.toNat ≤ 191 := by
  simp [isTail, UInt8.le_iff_toNat_le]

theorem toNat_ofNat {n : Nat} (h : n < 256) : (UInt8.ofNat n).toNat = n :=
  UInt8.toNat_ofNat'.trans (Nat.mod_eq_of_lt h)

theorem ofNat_eq {n : Nat} (b : UInt8) (h : n = b.toNat) : UInt8.ofNat n = b := by
  rw [h, UInt8.ofNat_toNat]

variable {bs rest : List UInt8} {n : Nat}

theorem Leads.decode_eq (h : Leads rest bs n) : decode bs = (decode rest).push (Char.ofNat n) := by
  cases h with
  | one ha =>
    rename_i a
    have h1 : a < 0x80 := UInt8.lt_iff_toNat_lt.2 ha
    rw [decode.eq_def]
    simp only [h1, if_true]
  | two ha hb hn =>
    rename_i a b
    subst hn
    have h1 : ¬ a < 0x80 := by simp [UInt8.lt_iff_toNat_lt]; omega
    have h2 : (0xC2 ≤ a && a ≤ 0xDF) = true := by simp [UInt8.le_iff_toNat_le, ha]
    rw [decode.eq_def]
    simp only [if_neg h1, hb, Bool.not_true, Bool.false_eq_true, if_false, h2, if_true]
  | three ha hb hc hn hl hv =>
    rename_i a b c
    subst hn
    have h1 : ¬ a < 0x80 := by simp [UInt8.lt_iff_toNat_lt]; omega
    have h2 : (0xC2 ≤ a && a ≤ 0xDF) = false := by simp [UInt8.le_iff_toNat_le]; omega
    have h3 : (0xE0 ≤ a && a ≤ 0xEF) = true := by simp [UInt8.le_iff_toNat_le, ha]
    rw [decode.eq_def]
    simp only [if_neg h1, hb, hc, Bool.not_true, Bool.false_eq_true, if_false, h2, h3, if_true]
    rw [if_neg]
    simp only [Bool.or_eq_true, Bool.and_eq_true, decide_eq_true_eq]
    omega
  | four ha hb hc hd hn hl hu =>
    rename_i a b c d
    subst hn
    have h1 : ¬ a < 0x80 := by simp [UInt8.lt_iff_toNat_lt]; omega
    have h2 : (0xC2 ≤ a && a ≤ 0xDF) = false := by simp [UInt8.le_iff_toNat_le]; omega
    have h3 : (0xE0 ≤ a && a ≤ 0xEF) = false := by simp [UInt8.le_iff_toNat_le]; omega
    have h4 : ¬ a < 0xF0 := by simp [UInt8.lt_iff_toNat_lt]; omega
    rw [decode.eq_def]
    simp only [if_neg h1, hb, hc, hd, Bool.not_true, Bool.false_eq_true, if_false, h2, h3]
    rw [if_neg]
    simp only [Bool.or_eq_true, decide_eq_true_eq, h4, Bool.false_eq_true, false_or]
    omega

theorem Leads.eq_encodeChar (h : Leads rest bs n) :
    bs = String.utf8EncodeChar (Char.ofNat n) ++ rest := by
  have hval (hv : n < 55296 ∨ 57343 < n ∧ n < 1114112) : (Char.ofNat n).val.toNat = n := by
    rw [Char.ofNat, dif_pos hv]
    rfl
  unfold String.utf8EncodeChar
  cases h with
  | one ha =>
    rename_i a
    rw [hval (by omega)]
    dsimp only
    rw [if_pos (by omega), ofNat_eq a rfl]
    rfl
  | two ha hb hn =>
    rename_i a b
    rw [isTail_iff] at hb
    unfold tailBits at hn
    rw [hval (by omega)]
    dsimp only
    rw [if_neg (by omega), if_pos (by omega), ofNat_eq a (by omega), ofNat_eq b (by omega)]
    rfl
  | three ha hb hc hn hl hv =>
    rename_i a b c
    rw [isTail_iff] at hb hc
    unfold tailBits at hn
    rw [hval (by omega)]
    dsimp only
    rw [if_neg (by omega), if_neg (by omega), if_pos (by omega), ofNat_eq a (by omega),
      ofNat_eq b (by omega), ofNat_eq c (by omega)]
    rfl
  | four ha hb hc hd hn hl hu =>
    rename_i a b c d
    rw [isTail_iff] at hb hc hd
    unfold tailBits at hn
    rw [hval (by omega)]
    dsimp only
    rw [if_neg (by omega), if_neg (by omega), if_neg (by omega), ofNat_eq a (by omega),
      ofNat_eq b (by omega), ofNat_eq c (by omega), ofNat_eq d (by omega)]
    rfl

theorem leads_encodeChar (c : Char) (rest : List UInt8) :
    Leads rest (String.utf8EncodeChar c ++ rest) c.toNat := by
  have hv : c.val.toNat < 55296 ∨ 57343 < c.val.toNat ∧ c.val.toNat < 1114112 := c.valid
  have htail (m : Nat) : isTail (UInt8.ofNat (m % 64 + 128)) = true ∧
      tailBits (UInt8.ofNat (m % 64 + 128)) = m % 64 := by
    have h := toNat_ofNat (show m % 64 + 128 < 256 by omega)
    exact ⟨isTail_iff.2 (by omega), by unfold tailBits; omega⟩
  unfold String.utf8EncodeChar Char.toNat
  generalize c.val.toNat = v at hv ⊢
  dsimp only
  split
  case isTrue h1 =>
    have ha := toNat_ofNat (show v < 256 by omega)
    have hone : Leads rest (UInt8.ofNat v :: rest) (UInt8.ofNat v).toNat := .one (by omega)
    rwa [ha] at hone
  split
  case isTrue h1 h2 =>
    have ha := toNat_ofNat (show v / 64 % 32 + 192 < 256 by omega)
    refine .two (by omega) (htail _).1 ?_
    rw [(htail _).2]
    omega
  split
  case isTrue h1 h2 h3 =>
    have ha := toNat_ofNat (show v / 4096 % 16 + 224 < 256 by omega)
    refine .three (by omega) (htail _).1 (htail _).1 ?_ (by omega) (by omega)
    rw [(htail _).2, (htail _).2]
    omega
  case isFalse h1 h2 h3 =>
    have ha := toNat_ofNat (show v / 262144 % 8 + 240 < 256 by omega)
    refine .four (by omega) (htail _).1 (htail _).1 (htail _).1 ?_ (by omega) (by omega)
    rw [(htail _).2, (htail _).2, (htail _).2]
    omega

theorem exists_leads_of_decode (bs : List UInt8) :
    bs = [] ∨ decode bs = ⟨[], true⟩ ∨ ∃ rest n, Leads rest bs n := by
  fun_cases decode bs with
  | case1 => exact Or.inl rfl
  | case2 a rest ha => exact Or.inr (Or.inr ⟨_, _, .one (UInt8.lt_iff_toNat_lt.1 ha)⟩)
  | case4 a h1 b rest hb ha =>
    simp only [Bool.and_eq_true, decide_eq_true_eq, UInt8.le_iff_toNat_le] at ha
    exact Or.inr (Or.inr ⟨_, _, .two ha (by simpa using hb) rfl⟩)
  | case7 a h1 b hb h2 c rest hc m ha n hn =>
    simp only [Bool.and_eq_true, decide_eq_true_eq, UInt8.le_iff_toNat_le] at ha
    simp only [Bool.or_eq_true, Bool.and_eq_true, decide_eq_true_eq] at hn
    exact Or.inr (Or.inr ⟨_, n, .three ha (by simpa using hb) (by simpa using hc) rfl
      (by omega) (by omega)⟩)
  | case9 a h1 b hb h2 c hc m h3 d rest n hn =>
    simp only [Bool.or_eq_true, decide_eq_true_eq, Bool.not_eq_true', UInt8.lt_iff_toNat_lt, not_or,
      Bool.not_eq_false] at hn
    obtain ⟨⟨⟨hd, ha⟩, hl⟩, hu⟩ := hn
    exact Or.inr (Or.inr ⟨_, n, .four (Nat.le_of_not_lt ha) (by simpa using hb) (by simpa using hc) hd
      rfl (by omega) (by omega)⟩)
  | _ => exact Or.inr (Or.inl rfl)

theorem decode_encode_append (t : Text) (rest : List UInt8) :
    decode (encode t ++ rest) = ⟨t ++ (decode rest).text, (decode rest).isBroken⟩ := by
  induction t with
  | nil => rfl
  | cons c t ih =>
    rw [encode, List.flatMap_cons, List.append_assoc, (leads_encodeChar c _).decode_eq, ← encode, ih,
      Char.ofNat_toNat]
    rfl

theorem decode_encode (t : Text) : decode (encode t) = ⟨t, false⟩ := by
  have h := decode_encode_append t []
  simpa [decode] using h

/-- The text is what the bytes encode up to where they break off. -/
theorem exists_eq_encode_append (bs : List UInt8) :
    ∃ rest, bs = encode (decode bs).text ++ rest ∧ decode rest = ⟨[], (decode bs).isBroken⟩ := by
  generalize ht : (decode bs).text = t
  induction t generalizing bs with
  | nil => exact ⟨bs, rfl, by rw [← ht]⟩
  | cons c t ih =>
    rcases exists_leads_of_decode bs with rfl | hbroken | ⟨rest, n, hl⟩
    · simp [decode] at ht
    · simp [hbroken] at ht
    · rw [hl.decode_eq] at ht ⊢
      obtain ⟨rfl, htail⟩ := List.cons.inj ht
      obtain ⟨more, hmore, hd⟩ := ih rest htail
      refine ⟨more, ?_, hd⟩
      rw [hl.eq_encodeChar, encode, List.flatMap_cons, List.append_assoc, ← encode, ← hmore]

/-- A stream is broken exactly if its bytes as a whole encode no text. -/
theorem isBroken_iff {bs : List UInt8} : (decode bs).isBroken = true ↔ ∀ t, bs ≠ encode t := by
  constructor
  · rintro h t rfl
    simp [decode_encode] at h
  · intro h
    rw [← Bool.not_eq_false]
    intro hno
    obtain ⟨rest, he, hd⟩ := exists_eq_encode_append bs
    rw [hno] at hd
    have hnil : rest = [] := by
      rcases exists_leads_of_decode rest with hnil | hbroken | ⟨_, _, hl⟩
      · exact hnil
      · simp [hbroken] at hd
      · simp [hl.decode_eq, TextStream.push] at hd
    exact h _ (by rwa [hnil, List.append_nil] at he)

end Parametric.Utf8
