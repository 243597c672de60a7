import Parametric.Proofs.DialectFields

/-! # Which texts a mapping may give as the name of a function

A word is a letter or a low line with letters, low lines and digits after it. What is taken are the
words, and each of them with a line feed at its end too. -/
namespace Parametric

theorem Datum.field?_singleton (key name : Text) (value : Datum) :
    field? [(.text key, value)] name = if key = name then some value else none := by
  by_cases h : key = name <;> simp [field?, same_text_iff, h]

namespace Dialect

def naming (t : Text) : List (Datum × Datum) := [(.text reservedField, .list [.text t])]

theorem fieldFault?_naming (t : Text) : fieldFault? (.text reservedField) (.list [.text t]) =
    if isFunctionName t then none
    else some (.items [(0, functionItems.complaints (.text t))]) := by
  have hnil : functionItems.complaints (.text t) = [] ↔ isFunctionName t = true := by
    rw [functionItems_complaints_eq_nil_iff, isFunctionName_iff, IsNameItem]
    simp
  rw [fieldFault?_text, if_neg (by decide), if_pos rfl, listRules_fault?_of_items rfl]
  by_cases h : isFunctionName t = true
  · simp [itemFaults, hnil, h]
  · simp [itemFaults, hnil, h]

theorem wrongFields_naming (t : Text) : wrongFields (naming t) =
    if isFunctionName t then []
    else [(.text reservedField, .items [(0, functionItems.complaints (.text t))])] := by
  simp only [wrongFields_eq, naming, List.filterMap_cons, List.filterMap_nil, fieldFault?_naming]
  split <;> simp_all

theorem requestOf_naming (t : Text) : requestOf (naming t) = ⟨true, [t], []⟩ := by
  have hextend : Datum.field? (naming t) extendField = none := by
    rw [naming, Datum.field?_singleton, if_neg (by decide)]
  have hreserved : Datum.field? (naming t) reservedField = some (.list [.text t]) := by
    rw [naming, Datum.field?_singleton, if_pos rfl]
  have hboundary : Datum.field? (naming t) boundaryField = none := by
    rw [naming, Datum.field?_singleton, if_neg (by decide)]
  rw [requestOf, hextend, hreserved, hboundary]
  rfl

def namingErrors (t : Text) : List (Datum × Datum) :=
  [(.text reservedField, .list [.map
    [(.int 0, FieldFault.messages (functionItems.complaints (.text t)))]])]

variable {v : Validator}

theorem ofFields_naming (hv : v.IsSound) (t : Text) (source : Option Text) :
    (isFunctionName t = true ∧ ∃ d, ofFields v (naming t) source = .ok d ∧
        ∀ x, d.isReserved x = true ↔ x.lower = t.lower ∨ standard.isReserved x = true) ∨
      isFunctionName t = false ∧
        ofFields v (naming t) source = .error (.failure (.schema (namingErrors t) source)) := by
  have hwrong := wrongFields_naming t
  have hkeys : ∀ e ∈ naming t, ∃ t, e.1 = .text t := fun e he =>
    ⟨reservedField, congrArg Prod.fst (List.mem_singleton.1 he)⟩
  have hne := ofFields_ne_raised hv hkeys source
  have h := comesTo_ofFields hv (naming t) source
  generalize ofFields v (naming t) source = result at h hne
  cases ht : isFunctionName t with
  | true =>
    rw [ht, if_pos rfl] at hwrong
    refine Or.inl ⟨rfl, ?_⟩
    cases h with
    | raised => exact absurd rfl (hne _)
    | refused _ hb => simpa [Request.LacksBoundary, requestOf_naming] using hb hwrong
    | @taken d _ _ hd =>
      obtain ⟨d', hd', -, hreserved⟩ := (requestOf (naming t)).exists_dialect
        (boundary_of_faultless hwrong)
      obtain rfl := Except.ok.inj (hd.symm.trans hd')
      refine ⟨d, rfl, fun x => ?_⟩
      rw [hreserved, requestOf_naming]
      simp [isReserved, standard, eq_comm]
  | false =>
    rw [ht, if_neg Bool.false_ne_true] at hwrong
    refine Or.inr ⟨rfl, ?_⟩
    cases h with
    | raised => exact absurd rfl (hne _)
    | refused hp =>
      rw [offences, if_neg (by simp [hwrong]), hwrong] at hp
      rw [List.perm_singleton.1 hp]
      rfl
    | taken hw => simp [hwrong] at hw

/-- A text is taken as a name exactly if it is a word, or a word and a line feed. The dialect then
has it besides the standard functions. For any other text there is a failure that tells of it. -/
theorem naming_taken_iff (hv : v.IsSound) (t : Text) (source : Option Text) :
    ((∃ d, ofFields v (naming t) source = .ok d) ↔
        IsWord t ∨ ∃ word, IsWord word ∧ t = word ++ ['\n']) ∧
      ((∃ d, ofFields v (naming t) source = .ok d ∧
          ∀ x, d.isReserved x = true ↔ x.lower = t.lower ∨ standard.isReserved x = true) ∨
        ofFields v (naming t) source = .error (.failure (.schema (namingErrors t) source))) := by
  have hname : isFunctionName t = true ↔ IsWord t ∨ ∃ word, IsWord word ∧ t = word ++ ['\n'] :=
    isFunctionName_iff
  rw [← hname]
  rcases ofFields_naming hv t source with ⟨ht, d, hd, hreserved⟩ | ⟨ht, he⟩
  · exact ⟨⟨fun _ => ht, fun _ => ⟨d, hd⟩⟩, Or.inl ⟨d, hd, hreserved⟩⟩
  · refine ⟨⟨fun ⟨d, hd⟩ => ?_, fun h => by simp [ht] at h⟩, Or.inr he⟩
    simp [he] at hd

theorem naming_taken_iff_digit : Validator.standard.IsSound ∧
    ofFields .standard (naming "2x") none = .error (.failure (.schema (namingErrors "2x") none)) := by
  have hv := Validator.isSound_standard
  have hno : ¬ IsName "2x" := by
    rw [← isFunctionName_iff]
    decide
  obtain ⟨htaken, ⟨d, hd, -⟩ | he⟩ := naming_taken_iff hv "2x" none
  · exact absurd (htaken.1 ⟨d, hd⟩) hno
  · exact ⟨hv, he⟩

/-- A line feed is no letter, low line or digit, and yet it is let through at the end of a name. -/
theorem naming_word_feed_taken :
    ¬ IsWord "lerp\n" ∧ ∃ d, ofFields .standard (naming "lerp\n") none = .ok d := by
  refine ⟨fun h => h.getLast?_ne rfl, ?_⟩
  rcases ofFields_naming Validator.isSound_standard "lerp\n" none with ⟨-, d, hd, -⟩ | ⟨ht, -⟩
  · exact ⟨d, hd⟩
  · exact absurd ht (by decide)

end Dialect

end Parametric
