import Mathlib.Data.List.TakeDrop
import Parametric.Proofs.Validator

/-! # Dialects from mappings: what is wrong with the fields, and what the dialect is otherwise

The faults of a mapping are exactly the fields that its schema forbids. A mapping without a fault
always gives a dialect, unless it asks for one of its own without boundary characters. -/
namespace Parametric

namespace Dialect

/-! ### Items of lists -/

def BeginsName (c : Char) : Prop := ('a' ≤ c ∧ c ≤ 'z') ∨ ('A' ≤ c ∧ c ≤ 'Z') ∨ c = '_'

def ContinuesName (c : Char) : Prop := BeginsName c ∨ ('0' ≤ c ∧ c ≤ '9')

def IsWord : Text → Prop
  | c :: rest => BeginsName c ∧ ∀ x ∈ rest, ContinuesName x
  | [] => False

/-- The name of a function is a word; a line feed may stand at its end. -/
def IsName (t : Text) : Prop := IsWord t ∨ ∃ word, IsWord word ∧ t = word ++ ['\n']

theorem beginsName_iff {c : Char} : (c.isAlpha || c == '_') = true ↔ BeginsName c := by
  have hupper : c.isUpper = true ↔ 'A' ≤ c ∧ c ≤ 'Z' := decide_eq_true_iff
  have hlower : c.isLower = true ↔ 'a' ≤ c ∧ c ≤ 'z' :=
    Bool.and_eq_true_iff.trans (and_congr decide_eq_true_iff decide_eq_true_iff)
  have halpha : c.isAlpha = true ↔ c.isUpper = true ∨ c.isLower = true := Bool.or_eq_true_iff
  rw [Bool.or_eq_true, halpha, hupper, hlower, beq_iff_eq, BeginsName,
    or_comm (a := 'A' ≤ c ∧ c ≤ 'Z'), or_assoc]

theorem continuesName_iff {c : Char} :
    (c.isAlphanum || c == '_') = true ↔ ContinuesName c := by
  have hdigit : c.isDigit = true ↔ '0' ≤ c ∧ c ≤ '9' := by
    simp only [Char.isDigit, Bool.and_eq_true, decide_eq_true_eq, Char.le_def, ge_iff_le]
  rw [ContinuesName, ← beginsName_iff, Char.isAlphanum, Bool.or_right_comm, Bool.or_eq_true, hdigit]

/-- A line feed is in no word, so none is lost when one at the end is left out. -/
theorem IsWord.getLast?_ne {t : Text} (h : IsWord t) : t.getLast? ≠ some '\n' := by
  have hfeed : ¬ ContinuesName '\n' := by
    rw [← continuesName_iff]
    decide
  intro hlast
  have hmem := List.mem_of_getLast? hlast
  cases t with
  | nil => exact h
  | cons c rest =>
    obtain ⟨hc, hrest⟩ := h
    rcases List.mem_cons.1 hmem with rfl | hmem
    · exact hfeed (Or.inl hc)
    · exact hfeed (hrest _ hmem)

theorem isFunctionName_iff {t : Text} : isFunctionName t = true ↔ IsName t := by
  have hword (body : Text) : (match body with
      | c :: rest => (c.isAlpha || c == '_') && rest.all fun c => c.isAlphanum || c == '_'
      | [] => false) = true ↔ IsWord body := by
    cases body with
    | nil => simp [IsWord]
    | cons c rest =>
      rw [Bool.and_eq_true, List.all_eq_true, beginsName_iff]
      exact and_congr_right fun _ => forall₂_congr fun x _ => continuesName_iff
  refine (hword _).trans ?_
  by_cases hlast : t.getLast? = some '\n'
  · obtain ⟨body, rfl⟩ := List.getLast?_eq_some_iff.1 hlast
    rw [if_pos hlast, List.dropLast_concat]
    constructor
    · exact fun h => Or.inr ⟨body, h, rfl⟩
    · rintro (h | ⟨word, h, he⟩)
      · exact absurd hlast h.getLast?_ne
      · rwa [List.append_cancel_right he]
  · rw [if_neg hlast]
    constructor
    · exact Or.inl
    · rintro (h | ⟨word, h, rfl⟩)
      · exact h
      · simp at hlast

/-- A boundary character is one character, and not the quote. -/
def IsBoundaryItem (x : Datum) : Prop := ∃ c, x = .text [c] ∧ c ≠ literalQuote

def IsNameItem (x : Datum) : Prop := ∃ t, x = .text t ∧ IsName t

theorem boundaryItems_complaints_eq_nil_iff {x : Datum} :
    boundaryItems.complaints x = [] ↔ IsBoundaryItem x := by
  cases x with
  | text t =>
    have hvalid : boundaryItems.complaints (.text t) = singleCharRule (.text t) := by
      simp [ItemRules.complaints, boundaryItems, Kind.admits]
    rw [hvalid]
    simp only [singleCharRule, IsBoundaryItem, Datum.text.injEq]
    constructor
    · intro h
      split at h
      · simp at h
      rename_i hl
      split at h
      · simp at h
      rename_i hq
      obtain ⟨c, rfl⟩ := List.length_eq_one_iff.1 (by simpa using hl)
      exact ⟨c, rfl, by simpa using hq⟩
    · rintro ⟨c, rfl, hc⟩
      simp [hc]
  | _ => simp [ItemRules.complaints, boundaryItems, Kind.admits, IsBoundaryItem]

theorem functionItems_complaints_eq_nil_iff {x : Datum} :
    functionItems.complaints x = [] ↔ IsNameItem x := by
  cases x with
  | text t =>
    simp only [IsNameItem, Datum.text.injEq, exists_eq_left']
    rw [← isFunctionName_iff]
    cases t with
    | nil => simp [ItemRules.complaints, functionItems, Kind.admits, functionNameRule, isFunctionName]
    | cons c rest =>
      simp [ItemRules.complaints, functionItems, Kind.admits, functionNameRule, Datum.isVacant]
  | _ => simp [ItemRules.complaints, functionItems, Kind.admits, IsNameItem]

/-- The positions in the list of items with a fault are those of the items that a complaint is about,
in order. -/
theorem mem_itemFaults {complaints : Datum → List Text} {xs : List Datum} {i : Nat}
    {cs : List Text} : (i, cs) ∈ itemFaults complaints xs ↔
      ∃ x, xs[i]? = some x ∧ complaints x = cs ∧ cs ≠ [] := by
  simp only [itemFaults, List.mem_filter, List.mem_map, Prod.exists, Prod.mk.injEq,
    List.mem_zipIdx_iff_getElem?, Bool.not_eq_true', List.isEmpty_eq_false_iff]
  constructor
  · rintro ⟨⟨x, _, hx, rfl, rfl⟩, hne⟩
    exact ⟨x, hx, rfl, hne⟩
  · rintro ⟨x, hx, rfl, hne⟩
    exact ⟨⟨x, i, hx, rfl, rfl⟩, hne⟩

theorem itemFaults_pairwise (complaints : Datum → List Text) (xs : List Datum) :
    ((itemFaults complaints xs).map (·.1)).Pairwise (· < ·) := by
  have hsub : (itemFaults complaints xs).Sublist
      (xs.zipIdx.map fun p => (p.2, complaints p.1)) := List.filter_sublist
  have hmap : (xs.zipIdx.map fun p => (p.2, complaints p.1)).map (·.1) = List.range xs.length := by
    rw [List.map_map]
    exact (List.zipIdx_map_snd 0 xs).trans List.range_eq_range'.symm
  have hrange : List.Pairwise (· < ·) (List.range xs.length) := List.pairwise_lt_range
  rw [← hmap] at hrange
  exact hrange.sublist (hsub.map _)

theorem itemFaults_eq_nil_iff {complaints : Datum → List Text} {xs : List Datum} :
    itemFaults complaints xs = [] ↔ ∀ x ∈ xs, complaints x = [] := by
  rw [List.eq_nil_iff_forall_not_mem]
  constructor
  · intro h x hx
    obtain ⟨i, hi⟩ := List.mem_iff_getElem?.1 hx
    by_cases hnil : complaints x = []
    · exact hnil
    · exact absurd (mem_itemFaults.2 ⟨x, hi, rfl, hnil⟩) (h (i, complaints x))
  · rintro h ⟨i, cs⟩ hm
    obtain ⟨x, hx, rfl, hne⟩ := mem_itemFaults.1 hm
    exact hne (h x (List.mem_of_getElem? hx))

/-! ### Fields -/

theorem listRules_filled (rules : ItemRules) (value : Datum) :
    (listRules rules).filled value = value := by
  cases value <;> rfl

theorem listRules_fault?_of_items {rules : ItemRules} {value : Datum} {xs : List Datum}
    (h : value.items? = some xs) : (listRules rules).fault? value =
      if itemFaults rules.complaints xs = [] then none
      else some (.items (itemFaults rules.complaints xs)) := by
  have hnull : value ≠ .null := by
    rintro rfl
    simp [Datum.items?] at h
  unfold FieldRules.fault?
  split
  case h_1 => exact absurd rfl hnull
  case h_2 =>
    simp only [listRules, Kind.admits, h, Option.isSome_some, if_true]
    split <;> simp_all

theorem listRules_fault?_eq_none_iff {rules : ItemRules} {value : Datum} :
    (listRules rules).fault? value = none ↔
      ∃ xs, value.items? = some xs ∧ ∀ x ∈ xs, rules.complaints x = [] := by
  cases h : value.items? with
  | none => cases value <;> simp_all [FieldRules.fault?, listRules, Kind.admits]
  | some xs => simp [listRules_fault?_of_items h, ← itemFaults_eq_nil_iff]

theorem extendRules_fault?_eq_none_iff {value : Datum} :
    extendRules.fault? (extendRules.filled value) = none ↔ value = .null ∨ ∃ b, value = .bool b := by
  cases value <;> simp [FieldRules.fault?, FieldRules.filled, extendRules, Kind.admits]

theorem rules?_text (key : Text) : schema.rules? (.text key) =
    if key = extendField then some extendRules
    else if key = reservedField then some (listRules functionItems)
    else if key = boundaryField then some (listRules boundaryItems)
    else none := by
  have hsame (name : Text) : (Datum.text key).same (.text name) = decide (key = name) := by
    rw [Bool.eq_iff_iff, Datum.same_text_iff, Datum.text.injEq, decide_eq_true_iff]
  simp only [Schema.rules?, schema, List.find?_cons, List.find?_nil, hsame]
  split_ifs <;> simp_all

def fieldFault? (key value : Datum) : Option FieldFault :=
  schema.fault? key (schema.filled key value)

theorem fieldFault?_text (key : Text) (value : Datum) : fieldFault? (.text key) value =
    if key = extendField then extendRules.fault? (extendRules.filled value)
    else if key = reservedField then (listRules functionItems).fault? value
    else if key = boundaryField then (listRules boundaryItems).fault? value
    else some (.whole [unknownMessage]) := by
  rw [fieldFault?, Schema.fault?, Schema.filled, rules?_text]
  split_ifs <;> simp only [listRules_filled]

/-! ### All fields of a mapping -/

def wrongFields (fields : List (Datum × Datum)) : Faults := schema.faults fields

theorem missing_eq (fields : List (Datum × Datum)) : schema.missing fields =
    if (Datum.field? fields extendField).isSome then [] else [(.text extendField, .bool true)] := by
  simp only [Schema.missing, schema, List.filterMap_cons, List.filterMap_nil, extendRules, listRules]
  split <;> simp_all

theorem wrongFields_eq (fields : List (Datum × Datum)) :
    wrongFields fields = fields.filterMap fun (k, v) => (fieldFault? k v).map (k, ·) := by
  have hnone : (schema.missing fields).filterMap
      (fun (k, v) => (schema.fault? k v).map (k, ·)) = [] := by
    rw [missing_eq]
    split
    · rfl
    · rfl
  rw [wrongFields, Schema.faults, Schema.normalized, List.filterMap_append, hnone, List.append_nil,
    List.filterMap_map]
  rfl

theorem mem_wrongFields {fields : List (Datum × Datum)} {k : Datum} {f : FieldFault} :
    (k, f) ∈ wrongFields fields ↔ ∃ v, (k, v) ∈ fields ∧ fieldFault? k v = some f := by
  simp only [wrongFields_eq, List.mem_filterMap, Option.map_eq_some_iff, Prod.mk.injEq, Prod.exists]
  constructor
  · rintro ⟨_, v, hm, f, hf, rfl, rfl⟩
    exact ⟨v, hm, hf⟩
  · rintro ⟨v, hm, hf⟩
    exact ⟨k, v, hm, f, hf, rfl, rfl⟩

theorem wrongFields_keys_sublist (fields : List (Datum × Datum)) :
    ((wrongFields fields).map (·.1)).Sublist (fields.map (·.1)) := by
  rw [wrongFields_eq]
  induction fields with
  | nil => exact List.nil_sublist _
  | cons e fields ih =>
    obtain ⟨k, v⟩ := e
    cases hf : fieldFault? k v with
    | none =>
      simp only [List.filterMap_cons, hf, Option.map_none]
      exact ih.cons k
    | some f =>
      simp only [List.filterMap_cons, hf, Option.map_some]
      exact ih.cons_cons k

/-! ### Dialects of faultless mappings -/

theorem exists_ofTexts {boundary : List Text} (reserved : List Text)
    (hb : ∀ t ∈ boundary, ∃ c, t = [c] ∧ c ≠ literalQuote) :
    ∃ d, ofTexts reserved boundary = .ok d ∧ (∀ t, d.isBoundaryText t = true ↔ t ∈ boundary) ∧
      ∀ t, d.isReserved t = true ↔ ∃ f ∈ reserved, f.lower = t.lower := by
  have hs : (boundary.filter (·.length != 1)).isEmpty := by
    rw [List.isEmpty_iff, List.filter_eq_nil_iff]
    intro t ht
    obtain ⟨c, rfl, -⟩ := hb t ht
    simp
  have hq : [literalQuote] ∉ boundary := by
    intro hm
    obtain ⟨c, he, hc⟩ := hb _ hm
    exact hc (List.singleton_inj.1 he).symm
  have hflat (c : Char) : c ∈ boundary.flatten.eraseDups ↔ [c] ∈ boundary := by
    rw [List.mem_eraseDups, List.mem_flatten]
    constructor
    · rintro ⟨t, ht, hc⟩
      obtain ⟨x, rfl, -⟩ := hb t ht
      rwa [List.mem_singleton.1 hc]
    · exact fun hm => ⟨[c], hm, List.mem_singleton_self c⟩
  refine ⟨_, by rw [ofTexts, dif_pos hs, dif_neg hq], fun t => ?_, fun t => ?_⟩
  · constructor
    · intro ht
      unfold isBoundaryText at ht
      split at ht
      · exact (hflat _).1 (of_decide_eq_true ht)
      · simp at ht
    · intro hm
      obtain ⟨c, rfl, -⟩ := hb t hm
      exact decide_eq_true ((hflat c).2 hm)
  · simp only [isReserved, decide_eq_true_eq, List.mem_map, List.mem_eraseDups]

theorem mem_boundaryTexts {d : Dialect} {t : Text} :
    t ∈ d.boundaryTexts ↔ ∃ c ∈ d.boundary, t = [c] := by
  simp only [boundaryTexts, List.mem_map, eq_comm]

/-- With boundary texts of that kind a request is always met: by what it names alone, or by that
together with the standard dialect. -/
theorem Request.exists_dialect (r : Request)
    (hb : ∀ t ∈ r.boundary, ∃ c, t = [c] ∧ c ≠ literalQuote) :
    ∃ d, r.dialect = .ok d ∧
      (∀ t, d.isBoundaryText t = true ↔ t ∈ r.boundary ∨
        r.extends_ = true ∧ ∃ c ∈ standardBoundary, t = [c]) ∧
      ∀ t, d.isReserved t = true ↔ (∃ f ∈ r.reserved, f.lower = t.lower) ∨
        r.extends_ = true ∧ ∃ f ∈ standardReserved, f.lower = t.lower := by
  unfold Request.dialect
  cases r.extends_ with
  | false =>
    rw [if_neg Bool.false_ne_true]
    simpa using exists_ofTexts r.reserved hb
  | true =>
    rw [if_pos rfl]
    have hall : ∀ t ∈ standard.boundaryTexts ++ r.boundary, ∃ c, t = [c] ∧ c ≠ literalQuote := by
      refine List.forall_mem_append.2 ⟨fun t ht => ?_, hb⟩
      obtain ⟨c, hc, rfl⟩ := mem_boundaryTexts.1 ht
      exact ⟨c, rfl, ne_of_mem_of_not_mem hc standard.quote_notMem⟩
    obtain ⟨d, hd, hboundary, hreserved⟩ :=
      exists_ofTexts (standard.reserved ++ r.reserved) hall
    refine ⟨d, hd, fun t => ?_, fun t => ?_⟩
    · rw [hboundary, List.mem_append, mem_boundaryTexts, or_comm]
      simp only [standard, true_and]
    · rw [hreserved]
      simp only [standard, List.mem_append, or_and_right, exists_or, true_and]
      exact or_comm

theorem field?_mem {fields : List (Datum × Datum)} {name : Text} {value : Datum}
    (h : Datum.field? fields name = some value) : (.text name, value) ∈ fields := by
  obtain ⟨⟨k, v⟩, hf, rfl⟩ := Option.map_eq_some_iff.1 h
  have hk := List.find?_some hf
  have hm := List.mem_of_find?_eq_some hf
  obtain rfl := Datum.same_text_iff.1 hk
  exact List.mem_reverse.1 hm

theorem mem_textsOf {value : Option Datum} {t : Text} :
    t ∈ textsOf value ↔ ∃ v xs, value = some v ∧ Datum.items? v = some xs ∧ .text t ∈ xs := by
  unfold textsOf
  rw [List.mem_filterMap]
  constructor
  · rintro ⟨x, hx, he⟩
    split at he
    · obtain rfl := Option.some.inj he
      cases hv : value.bind Datum.items? with
      | none => simp [hv] at hx
      | some xs =>
        obtain ⟨v, rfl, hxs⟩ := Option.bind_eq_some_iff.1 hv
        rw [hv] at hx
        exact ⟨v, xs, rfl, hxs, hx⟩
    · simp at he
  · rintro ⟨v, xs, rfl, hxs, hx⟩
    exact ⟨.text t, by rwa [Option.bind_some, hxs], rfl⟩

theorem fieldFault?_eq_none {fields : List (Datum × Datum)} (h : wrongFields fields = [])
    {k value : Datum} (hm : (k, value) ∈ fields) : fieldFault? k value = none := by
  rw [Option.eq_none_iff_forall_not_mem]
  intro f hf
  have hwrong := mem_wrongFields.2 ⟨value, hm, hf⟩
  simp [h] at hwrong

/-- What the fields of a mapping ask for when none of them is wrong. -/
def requestOf (fields : List (Datum × Datum)) : Request where
  extends_ := match Datum.field? fields extendField with
    | some (.bool b) => b
    | _ => true
  reserved := textsOf (Datum.field? fields reservedField)
  boundary := textsOf (Datum.field? fields boundaryField)

theorem boundary_of_faultless {fields : List (Datum × Datum)} (h : wrongFields fields = []) :
    ∀ t ∈ (requestOf fields).boundary, ∃ c, t = [c] ∧ c ≠ literalQuote := by
  intro t ht
  obtain ⟨value, xs, hvalue, hxs, hx⟩ := mem_textsOf.1 ht
  have hnone : (listRules boundaryItems).fault? value = none := by
    have hfield : fieldFault? (.text boundaryField) value =
        (listRules boundaryItems).fault? value := by
      rw [fieldFault?_text, if_neg (by decide), if_neg (by decide), if_pos rfl]
    rw [← hfield]
    exact fieldFault?_eq_none h (field?_mem hvalue)
  obtain ⟨ys, hys, hall⟩ := listRules_fault?_eq_none_iff.1 hnone
  obtain rfl := Option.some.inj (hxs.symm.trans hys)
  obtain ⟨c, hc, hne⟩ := boundaryItems_complaints_eq_nil_iff.1 (hall _ hx)
  exact ⟨c, Datum.text.inj hc, hne⟩

/-! ### What comes of a mapping -/

theorem field?_append (xs ys : List (Datum × Datum)) (name : Text) :
    Datum.field? (xs ++ ys) name = (Datum.field? ys name).or (Datum.field? xs name) := by
  rw [Datum.field?, List.reverse_append, List.find?_append, Option.map_or]
  rfl

theorem field?_filled (fields : List (Datum × Datum)) (name : Text) :
    Datum.field? (fields.map fun (k, v) => (k, schema.filled k v)) name =
      (Datum.field? fields name).map (schema.filled (.text name)) := by
  rw [Datum.field?, Datum.field?, ← List.map_reverse, List.find?_map, Option.map_map, Option.map_map]
  refine Option.map_congr fun e he => ?_
  have hsame : e.1.same (.text name) = true := by simpa using List.find?_some he
  simp [Datum.same_text_iff.1 hsame]

/-- In a validated document a field has the value that is given for it, or the default. -/
theorem field?_normalized (fields : List (Datum × Datum)) (name : Text) :
    Datum.field? (schema.normalized fields) name =
      match Datum.field? fields name with
      | some value => some (schema.filled (.text name) value)
      | none => if name = extendField then some (.bool true) else none := by
  rw [Schema.normalized, field?_append, field?_filled, missing_eq]
  have hdefault : Datum.field? [(.text extendField, .bool true)] name =
      if extendField = name then some (.bool true) else none := by
    by_cases h : extendField = name <;> simp [Datum.field?, Datum.same_text_iff, h]
  by_cases hname : name = extendField
  · subst hname
    cases h : Datum.field? fields extendField with
    | none => simpa [h] using hdefault
    | some value => simp [Datum.field?]
  · have hno : Datum.field? (if (Datum.field? fields extendField).isSome then []
        else [(.text extendField, .bool true)]) name = none := by
      split
      · rfl
      · rw [hdefault, if_neg (Ne.symm hname)]
    rw [hno, Option.none_or, if_neg hname]
    cases Datum.field? fields name <;> rfl

theorem filled_of_ne {name : Text} (h : name ≠ extendField) (value : Datum) :
    schema.filled (.text name) value = value := by
  rw [Schema.filled, rules?_text, if_neg h]
  split_ifs <;> simp only [listRules_filled]

theorem requestOf?_eq {v : Validator} (hv : v.IsSound) {fields : List (Datum × Datum)} {r : Validation}
    (hr : v.validate schema fields = .ok r) (h : wrongFields fields = []) :
    requestOf? r.document = some (requestOf fields) := by
  have hfield := hv.field?_document _ _ _ hr
  have hlist {name : Text} (hne : name ≠ extendField) :
      Datum.field? r.document name = Datum.field? fields name := by
    rw [hfield, field?_normalized, if_neg hne]
    cases Datum.field? fields name with
    | none => rfl
    | some value => simp only [filled_of_ne hne]
  have hextend : ∃ value, Datum.field? r.document extendField = some value ∧
      value.isTruthy = (requestOf fields).extends_ := by
    rw [hfield, field?_normalized, requestOf]
    cases hgiven : Datum.field? fields extendField with
    | none => exact ⟨_, rfl, rfl⟩
    | some value =>
      refine ⟨_, rfl, ?_⟩
      have hnone := fieldFault?_eq_none h (field?_mem hgiven)
      rw [fieldFault?_text, if_pos rfl, extendRules_fault?_eq_none_iff] at hnone
      rw [Schema.filled, rules?_text, if_pos rfl]
      rcases hnone with rfl | ⟨b, rfl⟩ <;> rfl
  obtain ⟨value, hvalue, htruth⟩ := hextend
  rw [requestOf?, hvalue, hlist (by decide), hlist (by decide), Option.map_some, htruth]
  rfl

/-- What a mapping is refused for: its wrong fields, or else the boundary characters it does without. -/
def offences (fields : List (Datum × Datum)) : Faults :=
  if wrongFields fields = [] then [(.text boundaryField, .whole [requiredMessage])]
  else wrongFields fields

/-- A dialect that is to have nothing of the standard one needs boundary characters of its own. -/
def Request.LacksBoundary (r : Request) : Prop := r.extends_ = false ∧ r.boundary = []

/-- The ends of reading a mapping. -/
inductive ComesTo (v : Validator) (fields : List (Datum × Datum)) (source : Option Text) :
    Except Obstacle Dialect → Prop
  | raised {e : Raised} (he : v.validate schema fields = .error e) :
      ComesTo v fields source (.error (.raised e))
  | refused {errors : List (Datum × Datum)} (hp : errors.Perm (offences fields).toData)
      (hb : wrongFields fields = [] → (requestOf fields).LacksBoundary) :
      ComesTo v fields source (.error (.failure (.schema errors source)))
  | taken {d : Dialect} (hw : wrongFields fields = []) (hb : ¬ (requestOf fields).LacksBoundary)
      (hd : (requestOf fields).dialect = .ok d) : ComesTo v fields source (.ok d)

theorem comesTo_ofFields {v : Validator} (hv : v.IsSound) (fields : List (Datum × Datum))
    (source : Option Text) : ComesTo v fields source (ofFields v fields source) := by
  unfold ofFields
  split
  case h_1 e he => exact .raised he
  case h_2 e es document he =>
    have hp := hv.errors_perm _ _ _ he
    have hne : wrongFields fields ≠ [] := by
      intro hnil
      rw [← wrongFields, hnil] at hp
      exact List.cons_ne_nil e es hp.eq_nil
    refine .refused ?_ fun h => absurd h hne
    rwa [offences, if_neg hne]
  case h_3 document he =>
    have hw : wrongFields fields = [] :=
      List.map_eq_nil_iff.1 (hv.errors_perm _ _ _ he).symm.eq_nil
    have hlacks : (!(requestOf fields).extends_ && (requestOf fields).boundary.isEmpty) = true ↔
        (requestOf fields).LacksBoundary := by
      simp [Request.LacksBoundary]
    rw [requestOf?_eq hv he hw]
    dsimp only
    split
    case isTrue hb =>
      refine .refused ?_ fun _ => hlacks.1 hb
      rw [offences, if_pos hw]
      rfl
    case isFalse hb =>
      obtain ⟨d, hd, -⟩ := (requestOf fields).exists_dialect (boundary_of_faultless hw)
      rw [hd]
      exact .taken hw (fun h => hb (hlacks.2 h)) hd

/-- Texts that a validator can compare leave it nothing to raise. -/
theorem ofFields_ne_raised {v : Validator} (hv : v.IsSound) {fields : List (Datum × Datum)}
    (ht : ∀ e ∈ fields, ∃ t, e.1 = .text t) (source : Option Text) (e : Raised) :
    ofFields v fields source ≠ .error (.raised e) := by
  intro h
  have hc := comesTo_ofFields hv fields source
  rw [h] at hc
  obtain ⟨r, hr⟩ := hv.exists_validation schema fields ht
  cases hc with
  | raised he => simp [hr] at he

end Dialect

end Parametric
