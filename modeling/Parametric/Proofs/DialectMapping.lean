import Mathlib.Data.List.Nodup
import Parametric.Proofs.DialectFields

/-! # What the dialect of a JSON mapping is, or why there is none -/
namespace Parametric

inductive Datum.IsJson : Datum → Prop
  | null : IsJson .null
  | bool (b : Bool) : IsJson (.bool b)
  | int (n : Int) : IsJson (.int n)
  | float (x : Float) : IsJson (.float x)
  | text (t : Text) : IsJson (.text t)
  | list {items : List Datum} (h : ∀ x ∈ items, IsJson x) : IsJson (.list items)
  | map {fields : List (Datum × Datum)} (hk : ∀ f ∈ fields, ∃ t, f.1 = .text t)
      (hv : ∀ f ∈ fields, IsJson f.2) : IsJson (.map fields)

namespace Dialect

/-- Texts, each given once, with values that JSON has. -/
structure Mapping where
  entries : List (Text × Datum)
  keys_nodup : (entries.map (·.1)).Nodup
  isJson : ∀ e ∈ entries, e.2.IsJson

def itemRules (key : Text) : ItemRules := if key = reservedField then functionItems else boundaryItems

def listFields : List Text := [reservedField, boundaryField]

/-- An item that the list of a field may not have. -/
inductive Offends : Text → Datum → Prop
  | name {x : Datum} (h : ¬ IsNameItem x) : Offends reservedField x
  | boundary {x : Datum} (h : ¬ IsBoundaryItem x) : Offends boundaryField x

/-- What is told of a value that a field may not have. Only the null of `extend_defaults` stands for
something. -/
inductive Tells (key : Text) : Datum → Datum → Prop
  | unknown {value : Datum} (hk : key ∉ extendField :: listFields) :
      Tells key value (FieldFault.messages [unknownMessage])
  | null (hk : key ∈ listFields) : Tells key .null (FieldFault.messages [nullMessage])
  | notBool {value : Datum} (hk : key = extendField) (hn : value ≠ .null)
      (hb : ∀ b, value ≠ .bool b) : Tells key value (FieldFault.messages [Kind.boolean.message])
  | notList {value : Datum} (hk : key ∈ listFields) (hn : value ≠ .null)
      (hl : ∀ xs, value ≠ .list xs) : Tells key value (FieldFault.messages [Kind.list.message])
  /-- Of a list the items that offend are told, by their positions. -/
  | items {xs : List Datum} {faults : List (Nat × List Text)} (hk : key ∈ listFields)
      (hne : faults ≠ []) (hsorted : (faults.map (·.1)).Pairwise (· < ·))
      (hfaults : ∀ i ts, (i, ts) ∈ faults ↔
        ∃ x, xs[i]? = some x ∧ Offends key x ∧ (itemRules key).complaints x = ts) :
      Tells key (.list xs) (FieldFault.items faults).toDatum

def IsWrong (key : Text) (value : Datum) : Prop := ∃ told, Tells key value told

namespace Mapping

variable (m : Mapping)

def fields : List (Datum × Datum) := m.entries.map fun e => (.text e.1, e.2)

def Lists (key : Text) (x : Datum) : Prop := ∃ xs, (key, .list xs) ∈ m.entries ∧ x ∈ xs

/-- The mapping asks for a dialect that has nothing of the standard one. -/
def StandsAlone : Prop := (extendField, .bool false) ∈ m.entries

def LacksBoundary : Prop :=
  (∀ value, (boundaryField, value) ∉ m.entries) ∨ (boundaryField, .list []) ∈ m.entries

/-- Errors that tell of each wrong field once, and of no other. -/
structure IsErrorTree (errors : List (Datum × Datum)) : Prop where
  mem_iff : ∀ k told, (k, told) ∈ errors ↔
    ∃ key value, k = .text key ∧ (key, value) ∈ m.entries ∧ Tells key value told
  nodup : (errors.map (·.1)).Nodup

/-- A dialect that has what the mapping lists, and all of the standard one unless it stands alone. -/
structure Describes (d : Dialect) : Prop where
  boundary : ∀ t, d.isBoundaryText t = true ↔
    m.Lists boundaryField (.text t) ∨ ¬ m.StandsAlone ∧ ∃ c ∈ standardBoundary, t = [c]
  reserved : ∀ t, d.isReserved t = true ↔
    (∃ f, m.Lists reservedField (.text f) ∧ f.lower = t.lower) ∨
      ¬ m.StandsAlone ∧ ∃ f ∈ standardReserved, f.lower = t.lower

/-- What a mapping comes to. Without a wrong field it can still lack the boundary characters of a
dialect of its own, and there is nothing else that it can fail for. -/
inductive Yields (source : Option Text) : Except Obstacle Dialect → Prop
  | wrong {errors : List (Datum × Datum)} (hne : errors ≠ []) (he : m.IsErrorTree errors) :
      Yields source (.error (.failure (.schema errors source)))
  | noBoundary (hw : ∀ e ∈ m.entries, ¬ IsWrong e.1 e.2) (ha : m.StandsAlone)
      (hb : m.LacksBoundary) : Yields source (.error (.failure
        (.schema [(.text boundaryField, FieldFault.messages [requiredMessage])] source)))
  | dialect (hw : ∀ e ∈ m.entries, ¬ IsWrong e.1 e.2) (h : ¬ (m.StandsAlone ∧ m.LacksBoundary))
      {d : Dialect} (hd : m.Describes d) : Yields source (.ok d)

end Mapping

theorem items?_eq_some_iff {value : Datum} (h : value.IsJson) {xs : List Datum} :
    value.items? = some xs ↔ value = .list xs := by
  cases h <;> simp [Datum.items?]

theorem mem_listFields {key : Text} :
    key ∈ listFields ↔ key = reservedField ∨ key = boundaryField := by
  simp [listFields]

theorem complaints_ne_nil_iff {key : Text} (hk : key ∈ listFields) {x : Datum} :
    (itemRules key).complaints x ≠ [] ↔ Offends key x := by
  have hne : boundaryField ≠ reservedField := by decide
  rcases mem_listFields.1 hk with rfl | rfl
  · rw [itemRules, if_pos rfl, ne_eq, functionItems_complaints_eq_nil_iff]
    constructor
    · exact .name
    · intro h
      cases h with
      | name h => exact h
  · rw [itemRules, if_neg hne, ne_eq, boundaryItems_complaints_eq_nil_iff]
    constructor
    · exact .boundary
    · intro h
      cases h with
      | boundary h => exact h

theorem extendField_notMem : extendField ∉ listFields := by decide

theorem fieldFault?_of_mem {key : Text} (hk : key ∈ listFields) (value : Datum) :
    fieldFault? (.text key) value = (listRules (itemRules key)).fault? value := by
  have hextend : key ≠ extendField := ne_of_mem_of_not_mem hk extendField_notMem
  have hne : boundaryField ≠ reservedField := by decide
  rw [fieldFault?_text, if_neg hextend, itemRules]
  rcases mem_listFields.1 hk with rfl | rfl
  · simp only [if_true]
  · simp only [if_neg hne, if_true]

theorem fieldFault?_extend (value : Datum) :
    fieldFault? (.text extendField) value = extendRules.fault? (extendRules.filled value) := by
  rw [fieldFault?_text, if_pos rfl]

theorem fieldFault?_unknown {key : Text} (hk : key ∉ extendField :: listFields) (value : Datum) :
    fieldFault? (.text key) value = some (.whole [unknownMessage]) := by
  simp only [List.mem_cons, mem_listFields, not_or] at hk
  rw [fieldFault?_text, if_neg hk.1, if_neg hk.2.1, if_neg hk.2.2]

theorem mem_itemFaults_iff {key : Text} (hk : key ∈ listFields) {xs : List Datum} {i : Nat}
    {ts : List Text} : (i, ts) ∈ itemFaults (itemRules key).complaints xs ↔
      ∃ x, xs[i]? = some x ∧ Offends key x ∧ (itemRules key).complaints x = ts := by
  rw [mem_itemFaults]
  refine exists_congr fun x => and_congr_right fun _ => ?_
  rw [← complaints_ne_nil_iff hk]
  constructor
  · rintro ⟨rfl, hne⟩
    exact ⟨hne, rfl⟩
  · rintro ⟨hne, rfl⟩
    exact ⟨rfl, hne⟩

/-- Positions that ascend leave one order for the faults at them. -/
theorem eq_itemFaults {key : Text} (hk : key ∈ listFields) {xs : List Datum}
    {faults : List (Nat × List Text)} (hsorted : (faults.map (·.1)).Pairwise (· < ·))
    (hfaults : ∀ i ts, (i, ts) ∈ faults ↔
      ∃ x, xs[i]? = some x ∧ Offends key x ∧ (itemRules key).complaints x = ts) :
    faults = itemFaults (itemRules key).complaints xs := by
  have hpairwise {l : List (Nat × List Text)} (h : (l.map (·.1)).Pairwise (· < ·)) :
      l.Pairwise fun a b => a.1 < b.1 := List.pairwise_map.1 h
  have hnodup {l : List (Nat × List Text)} (h : (l.map (·.1)).Pairwise (· < ·)) : l.Nodup :=
    .of_map _ (h.imp Nat.ne_of_lt)
  have hother := itemFaults_pairwise (itemRules key).complaints xs
  have hperm : faults.Perm (itemFaults (itemRules key).complaints xs) :=
    (List.perm_ext_iff_of_nodup (hnodup hsorted) (hnodup hother)).2 fun ⟨i, ts⟩ =>
      (hfaults i ts).trans (mem_itemFaults_iff hk).symm
  exact hperm.eq_of_pairwise (fun a b _ _ hab hba => absurd hab (Nat.lt_asymm hba)) (hpairwise hsorted)
    (hpairwise hother)

theorem fieldFault?_notList {key : Text} (hk : key ∈ listFields) {value : Datum} (hj : value.IsJson)
    (hn : value ≠ .null) (hl : ∀ xs, value ≠ .list xs) :
    fieldFault? (.text key) value = some (.whole [Kind.list.message]) := by
  have hnone : value.items? = none := by
    rw [Option.eq_none_iff_forall_not_mem]
    exact fun xs hxs => hl xs ((items?_eq_some_iff hj).1 hxs)
  rw [fieldFault?_of_mem hk]
  cases value with
  | null => exact absurd rfl hn
  | _ => simp_all [FieldRules.fault?, listRules, Kind.admits]

theorem fieldFault?_notBool {value : Datum} (hn : value ≠ .null) (hb : ∀ b, value ≠ .bool b) :
    fieldFault? (.text extendField) value = some (.whole [Kind.boolean.message]) := by
  rw [fieldFault?_extend]
  cases value with
  | null => exact absurd rfl hn
  | bool b => exact absurd rfl (hb b)
  | _ => rfl

theorem tells_of_fieldFault? {key : Text} {value : Datum} (hj : value.IsJson) {f : FieldFault}
    (hf : fieldFault? (.text key) value = some f) : Tells key value f.toDatum := by
  by_cases hk : key ∈ listFields
  · by_cases hl : ∃ xs, value = .list xs
    · obtain ⟨xs, rfl⟩ := hl
      rw [fieldFault?_of_mem hk, listRules_fault?_of_items rfl] at hf
      split at hf
      · simp at hf
      · rename_i hne
        obtain rfl := Option.some.inj hf
        exact .items hk hne (itemFaults_pairwise _ _) fun i ts => mem_itemFaults_iff hk
    by_cases hn : value = .null
    · subst hn
      rw [fieldFault?_of_mem hk] at hf
      obtain rfl := Option.some.inj hf
      exact .null hk
    · rw [fieldFault?_notList hk hj hn (not_exists.1 hl)] at hf
      obtain rfl := Option.some.inj hf
      exact .notList hk hn (not_exists.1 hl)
  by_cases he : key = extendField
  · by_cases hright : value = .null ∨ ∃ b, value = .bool b
    · rw [he, fieldFault?_extend, extendRules_fault?_eq_none_iff.2 hright] at hf
      simp at hf
    · rw [not_or, not_exists] at hright
      rw [he, fieldFault?_notBool hright.1 hright.2] at hf
      obtain rfl := Option.some.inj hf
      exact .notBool he hright.1 hright.2
  · have hu : key ∉ extendField :: listFields := List.not_mem_cons_of_ne_of_not_mem he hk
    rw [fieldFault?_unknown hu] at hf
    obtain rfl := Option.some.inj hf
    exact .unknown hu

theorem exists_of_tells {key : Text} {value told : Datum} (hj : value.IsJson)
    (h : Tells key value told) : ∃ f, fieldFault? (.text key) value = some f ∧ f.toDatum = told := by
  cases h with
  | unknown hk => exact ⟨_, fieldFault?_unknown hk value, rfl⟩
  | null hk => exact ⟨_, fieldFault?_of_mem hk .null, rfl⟩
  | notBool hk hn hb => exact ⟨_, hk ▸ fieldFault?_notBool hn hb, rfl⟩
  | notList hk hn hl => exact ⟨_, fieldFault?_notList hk hj hn hl, rfl⟩
  | items hk hne hsorted hfaults =>
    obtain rfl := eq_itemFaults hk hsorted hfaults
    refine ⟨_, ?_, rfl⟩
    rw [fieldFault?_of_mem hk, listRules_fault?_of_items rfl, if_neg hne]

namespace Mapping

variable {m : Mapping}

theorem mem_fields {k value : Datum} :
    (k, value) ∈ m.fields ↔ ∃ key, k = .text key ∧ (key, value) ∈ m.entries := by
  simp only [fields, List.mem_map, Prod.mk.injEq, Prod.exists]
  constructor
  · rintro ⟨key, _, hm, rfl, rfl⟩
    exact ⟨key, rfl, hm⟩
  · rintro ⟨key, rfl, hm⟩
    exact ⟨key, value, hm, rfl, rfl⟩

theorem eq_of_mem {key : Text} {v w : Datum} (hv : (key, v) ∈ m.entries)
    (hw : (key, w) ∈ m.entries) : v = w :=
  congrArg Prod.snd (List.inj_on_of_nodup_map m.keys_nodup hv hw rfl)

theorem fields_keys_nodup (m : Mapping) : (m.fields.map (·.1)).Nodup := by
  have hinj : Function.Injective Datum.text := fun _ _ h => Datum.text.inj h
  have hn := List.Nodup.map hinj m.keys_nodup
  rw [List.map_map] at hn
  rwa [fields, List.map_map]

/-- The errors of a validator, in whatever order, are the error tree of a mapping. -/
theorem isErrorTree {errors : List (Datum × Datum)}
    (hp : errors.Perm (wrongFields m.fields).toData) : m.IsErrorTree errors := by
  constructor
  case mem_iff =>
    intro k told
    rw [hp.mem_iff, Faults.toData, List.mem_map]
    constructor
    · rintro ⟨⟨k, f⟩, hf, he⟩
      obtain ⟨rfl, rfl⟩ := Prod.mk.inj he
      obtain ⟨value, hm, hf⟩ := mem_wrongFields.1 hf
      obtain ⟨key, rfl, hentry⟩ := mem_fields.1 hm
      exact ⟨key, value, rfl, hentry, tells_of_fieldFault? (m.isJson _ hentry) hf⟩
    · rintro ⟨key, value, rfl, hm, h⟩
      obtain ⟨f, hf, rfl⟩ := exists_of_tells (m.isJson _ hm) h
      exact ⟨(.text key, f), mem_wrongFields.2 ⟨value, mem_fields.2 ⟨key, rfl, hm⟩, hf⟩, rfl⟩
  case nodup =>
    have hkeys : (wrongFields m.fields).toData.map (·.1) = (wrongFields m.fields).map (·.1) := by
      rw [Faults.toData, List.map_map]
      rfl
    rw [(hp.map (·.1)).nodup_iff, hkeys]
    exact (fields_keys_nodup m).sublist (wrongFields_keys_sublist _)

/-! ### Mappings without a fault -/

theorem wrongFields_eq_nil_iff : wrongFields m.fields = [] ↔ ∀ e ∈ m.entries, ¬ IsWrong e.1 e.2 := by
  constructor
  · rintro h ⟨key, value⟩ hm ⟨told, ht⟩
    obtain ⟨f, hf, -⟩ := exists_of_tells (m.isJson _ hm) ht
    have hno := fieldFault?_eq_none h (mem_fields.2 ⟨key, rfl, hm⟩)
    simp [hno] at hf
  · intro h
    refine List.eq_nil_iff_forall_not_mem.2 fun ⟨k, f⟩ hf => ?_
    obtain ⟨value, hm, hf⟩ := mem_wrongFields.1 hf
    obtain ⟨key, rfl, hentry⟩ := mem_fields.1 hm
    exact h _ hentry ⟨_, tells_of_fieldFault? (m.isJson _ hentry) hf⟩

theorem field?_eq_some_iff {key : Text} {value : Datum} :
    Datum.field? m.fields key = some value ↔ (key, value) ∈ m.entries := by
  constructor
  · intro h
    obtain ⟨key', he, hm⟩ := mem_fields.1 (field?_mem h)
    rwa [Datum.text.inj he]
  · intro hm
    have hf := mem_fields.2 ⟨key, rfl, hm⟩
    cases h : Datum.field? m.fields key with
    | none =>
      rw [Datum.field?, Option.map_eq_none_iff, List.find?_eq_none] at h
      exact absurd (Datum.same_text_iff.2 rfl) (h _ (List.mem_reverse.2 hf))
    | some value' =>
      obtain ⟨key', he, hm'⟩ := mem_fields.1 (field?_mem h)
      obtain rfl := Datum.text.inj he
      rw [eq_of_mem hm hm']

theorem mem_textsOf_iff {key t : Text} :
    t ∈ textsOf (Datum.field? m.fields key) ↔ m.Lists key (.text t) := by
  rw [mem_textsOf]
  constructor
  · rintro ⟨value, xs, hv, hxs, hx⟩
    have hm := field?_eq_some_iff.1 hv
    obtain rfl := (items?_eq_some_iff (m.isJson _ hm)).1 hxs
    exact ⟨xs, hm, hx⟩
  · rintro ⟨xs, hm, hx⟩
    exact ⟨.list xs, xs, field?_eq_some_iff.2 hm, rfl, hx⟩

theorem extends_eq_false_iff : (requestOf m.fields).extends_ = false ↔ m.StandsAlone := by
  unfold requestOf StandsAlone
  rw [← field?_eq_some_iff]
  dsimp only
  split <;> simp_all

/-- Without a fault every boundary item counts, so that only a missing or empty list has none. -/
theorem boundary_eq_nil_iff (h : wrongFields m.fields = []) :
    (requestOf m.fields).boundary = [] ↔ m.LacksBoundary := by
  rw [List.eq_nil_iff_forall_not_mem]
  constructor
  · intro hnone
    by_cases hb : ∃ value, (boundaryField, value) ∈ m.entries
    · obtain ⟨value, hm⟩ := hb
      have hk : boundaryField ∈ listFields := mem_listFields.2 (Or.inr rfl)
      have hno := fieldFault?_eq_none h (mem_fields.2 ⟨_, rfl, hm⟩)
      rw [fieldFault?_of_mem hk, listRules_fault?_eq_none_iff] at hno
      obtain ⟨xs, hxs, hvalid⟩ := hno
      obtain rfl := (items?_eq_some_iff (m.isJson _ hm)).1 hxs
      cases xs with
      | nil => exact Or.inr hm
      | cons x xs =>
        have hx : (itemRules boundaryField).complaints x = [] := hvalid x List.mem_cons_self
        rw [itemRules, if_neg (by decide), boundaryItems_complaints_eq_nil_iff] at hx
        obtain ⟨c, rfl, -⟩ := hx
        exact absurd (mem_textsOf_iff.2 ⟨_, hm, List.mem_cons_self⟩) (hnone [c])
    · exact Or.inl (not_exists.1 hb)
  · intro hlacks t ht
    obtain ⟨xs, hm, hx⟩ := mem_textsOf_iff.1 ht
    rcases hlacks with hnone | hempty
    · exact hnone _ hm
    · obtain rfl := Datum.list.inj (eq_of_mem hm hempty)
      simp at hx

theorem lacksBoundary_iff (h : wrongFields m.fields = []) :
    (requestOf m.fields).LacksBoundary ↔ m.StandsAlone ∧ m.LacksBoundary :=
  and_congr extends_eq_false_iff (boundary_eq_nil_iff h)

theorem describes_of_dialect (h : wrongFields m.fields = []) {d : Dialect}
    (hd : (requestOf m.fields).dialect = .ok d) : m.Describes d := by
  have hextends : (requestOf m.fields).extends_ = true ↔ ¬ m.StandsAlone := by
    rw [← extends_eq_false_iff, Bool.not_eq_false]
  obtain ⟨d', hd', hboundary, hreserved⟩ := Request.exists_dialect _ (boundary_of_faultless h)
  obtain rfl := Except.ok.inj (hd'.symm.trans hd)
  constructor
  · intro t
    rw [hboundary, hextends]
    exact or_congr_left mem_textsOf_iff
  · intro t
    rw [hreserved, hextends]
    exact or_congr_left (exists_congr fun f => and_congr_left fun _ => mem_textsOf_iff)

end Mapping

/-- A mapping of texts to JSON values is refused with errors that tell exactly what is wrong with its
fields. It gives a dialect if nothing is, and if there are boundary characters, of its own or of the
standard dialect; otherwise it is refused for these alone. -/
theorem ofFields_of_mapping {v : Validator} (hv : v.IsSound) (m : Mapping) (source : Option Text) :
    m.Yields source (ofFields v m.fields source) := by
  have hkeys : ∀ e ∈ m.fields, ∃ t, e.1 = .text t := fun e he => by
    obtain ⟨key, hk, -⟩ := Mapping.mem_fields.1 he
    exact ⟨key, hk⟩
  have hne := ofFields_ne_raised hv hkeys source
  have hc := comesTo_ofFields hv m.fields source
  generalize ofFields v m.fields source = result at hne hc
  cases hc with
  | raised => exact absurd rfl (hne _)
  | refused hp hb =>
    rw [offences] at hp
    split at hp
    case isTrue hw =>
      obtain ⟨ha, hlacks⟩ := (Mapping.lacksBoundary_iff hw).1 (hb hw)
      obtain rfl := List.perm_singleton.1 hp
      exact .noBoundary (Mapping.wrongFields_eq_nil_iff.1 hw) ha hlacks
    case isFalse hw =>
      refine .wrong ?_ (Mapping.isErrorTree hp)
      rintro rfl
      exact hw (List.map_eq_nil_iff.1 hp.symm.eq_nil)
  | taken hw hb hd =>
    exact .dialect (Mapping.wrongFields_eq_nil_iff.1 hw)
      (mt (Mapping.lacksBoundary_iff hw).2 hb) (Mapping.describes_of_dialect hw hd)

def offending : Mapping where
  entries := [(boundaryField, .list [.text ";", .text "::"]), (reservedField, .list [.int 1]),
    ("x", .null)]
  keys_nodup := by decide
  isJson := by
    simp only [List.forall_mem_cons]
    refine ⟨.list ?_, .list ?_, .null, by simp⟩
    · exact List.forall_mem_cons.2 ⟨.text _, List.forall_mem_singleton.2 (.text _)⟩
    · exact List.forall_mem_singleton.2 (.int 1)

theorem ofFields_of_mapping_offending : Validator.standard.IsSound ∧ ∃ errors,
    ofFields .standard offending.fields none = .error (.failure (.schema errors none)) ∧
      offending.IsErrorTree errors := by
  have hv := Validator.isSound_standard
  have hwrong : IsWrong "x" .null := ⟨_, .unknown (by decide)⟩
  have hno : ¬ ∀ e ∈ offending.entries, ¬ IsWrong e.1 e.2 := fun h =>
    h _ (List.mem_of_getLast? rfl) hwrong
  have h := ofFields_of_mapping hv offending none
  generalize ofFields .standard offending.fields none = result at h
  cases h with
  | wrong _ he => exact ⟨hv, _, rfl, he⟩
  | noBoundary hw => exact absurd hw hno
  | dialect hw => exact absurd hw hno

end Dialect

end Parametric
