import Parametric.Proofs.DialectFields
import Parametric.Proofs.Utf8

/-! # How loading a dialect file can fail

What a host expects are failures that carry the path. Exceptions that no handler takes pass them by. -/
namespace Parametric.Dialect

/-- The promises of a loader: those of its validator, and that a text that breaks off has no value. -/
structure Loader.IsSound (l : Loader) : Prop where
  validator : l.validator.IsSound
  broken : ∀ s : TextStream, s.isBroken = true → ∀ value, l.read s ≠ .ok value

theorem Loader.isSound_standard : Loader.standard.IsSound where
  validator := Validator.isSound_standard
  broken s hs value h := by
    have hread : Loader.standard.read s = .error undecodable := by
      simp only [standard, standardRead, hs, if_true]
    simp [hread] at h

/-- A failure of one of the kinds that a host expects, with the path of the file. -/
inductive IsExpected (path : Text) : Failure → Prop
  | file (details : Text) : IsExpected path (.file details (some path))
  | schema (errors : List (Datum × Datum)) : IsExpected path (.schema errors (some path))

def handledClasses : List Text := ["FileNotFoundError", "OSError", "YAMLError"]

/-- What passes the failures by, and whether it was raised in reading or in validating. -/
inductive Escapes (l : Loader) : FileContent → Raised → Prop
  | read {bs : List UInt8} {e : Raised} (h : l.read (Utf8.decode bs) = .error e)
      (hc : e.isOneOf handledClasses = false) : Escapes l (.bytes bs) e
  | validate {bs : List UInt8} {fields : List (Datum × Datum)} {e : Raised}
      (h : l.read (Utf8.decode bs) = .ok (.map fields))
      (he : l.validator.validate schema fields = .error e) : Escapes l (.bytes bs) e

/-- Handlers give a failure with the path, or let an exception of no class of theirs pass. -/
theorem handled_spec (path : Text) (e : Raised) :
    (∃ f, handled path e = .failure f ∧ IsExpected path f ∧ e.isOneOf handledClasses = true) ∨
      handled path e = .raised e ∧ e.isOneOf handledClasses = false := by
  have hclasses : e.isOneOf handledClasses =
      (e.isOneOf ["FileNotFoundError"] || (e.isOneOf ["OSError"] || e.isOneOf ["YAMLError"])) := by
    rw [handledClasses, Raised.isOneOf_cons, Raised.isOneOf_cons]
  rw [hclasses, handled]
  split
  case isTrue h => exact Or.inl ⟨_, rfl, .file _, by rw [h, Bool.true_or]⟩
  case isFalse hfile =>
    split
    case isTrue h => exact Or.inl ⟨_, rfl, .file _, by rw [h, Bool.true_or, Bool.or_true]⟩
    case isFalse hos =>
      split
      case isTrue h => exact Or.inl ⟨_, rfl, .file _, by rw [h, Bool.or_true, Bool.or_true]⟩
      case isFalse hyaml =>
        refine Or.inr ⟨rfl, ?_⟩
        rw [Bool.eq_false_iff.2 hfile, Bool.eq_false_iff.2 hos, Bool.eq_false_iff.2 hyaml]
        rfl

theorem handled_eq_raised_iff {path : Text} {e e' : Raised} :
    handled path e = .raised e' ↔ e = e' ∧ e.isOneOf handledClasses = false := by
  rcases handled_spec path e with ⟨f, hf, -, hc⟩ | ⟨hr, hc⟩
  · simp [hf, hc]
  · simp [hr, hc]

section
variable {l : Loader} {content : FileContent} {path : Text}

theorem isOneOf_of_stream_eq_error {e : Raised} (h : content.stream path = .error e) :
    e.isOneOf handledClasses = true := by
  cases content with
  | missing =>
    obtain rfl := Except.error.inj h
    rfl
  | directory =>
    obtain rfl := Except.error.inj h
    rfl
  | bytes bs => cases h

def Loader.valueAt (l : Loader) (content : FileContent) (path : Text) : Except Raised Datum :=
  (content.stream path).bind l.read

theorem valueAt_bytes {bs : List UInt8} :
    l.valueAt (.bytes bs) path = l.read (Utf8.decode bs) := rfl

theorem exists_bytes_of_unhandled {e : Raised} (h : l.valueAt content path = .error e)
    (hc : e.isOneOf handledClasses = false) :
    ∃ bs, content = .bytes bs ∧ l.read (Utf8.decode bs) = .error e := by
  unfold Loader.valueAt at h
  cases hs : content.stream path with
  | error e' =>
    rw [hs] at h
    obtain rfl := Except.error.inj h
    simp [isOneOf_of_stream_eq_error hs] at hc
  | ok s =>
    cases content with
    | missing => cases hs
    | directory => cases hs
    | bytes bs => exact ⟨bs, rfl, h⟩

theorem load_eq_match (l : Loader) (content : FileContent) (path : Text) :
    l.load content path = match l.fields content path with
      | .ok fields => ofFields l.validator fields (some path)
      | .error o => .error o := by
  rw [Loader.load]
  cases l.fields content path <;> rfl

theorem load_of_valueAt_error {e : Raised} (h : l.valueAt content path = .error e) :
    l.load content path = .error (handled path e) := by
  unfold Loader.valueAt at h
  rw [load_eq_match, Loader.fields, h]

theorem load_of_valueAt_map {fields : List (Datum × Datum)}
    (h : l.valueAt content path = .ok (.map fields)) :
    l.load content path = ofFields l.validator fields (some path) := by
  unfold Loader.valueAt at h
  rw [load_eq_match, Loader.fields, h]

/-- The ends of loading a file. -/
inductive LoadsTo (l : Loader) (content : FileContent) (path : Text) :
    Except Obstacle Dialect → Prop
  | unread {e : Raised} (h : l.valueAt content path = .error e) :
      LoadsTo l content path (.error (handled path e))
  | unmapped (details : Text) : LoadsTo l content path (.error (.failure (.file details (some path))))
  | empty : LoadsTo l content path (ofFields l.validator [] (some path))
  | mapping {fields : List (Datum × Datum)} (h : l.valueAt content path = .ok (.map fields)) :
      LoadsTo l content path (ofFields l.validator fields (some path))

theorem loadsTo_load (l : Loader) (content : FileContent) (path : Text) :
    LoadsTo l content path (l.load content path) := by
  cases h : l.valueAt content path with
  | error e =>
    rw [load_of_valueAt_error h]
    exact .unread h
  | ok value =>
    cases value with
    | map fields =>
      rw [load_of_valueAt_map h]
      exact .mapping h
    | null =>
      unfold Loader.valueAt at h
      rw [load_eq_match, Loader.fields, h]
      exact .empty
    | _ =>
      unfold Loader.valueAt at h
      rw [load_eq_match, Loader.fields, h]
      exact .unmapped _

theorem ofFields_ends {v : Validator} (hv : v.IsSound) (fields : List (Datum × Datum)) (path : Text) :
    (∃ d, ofFields v fields (some path) = .ok d) ∨
      (∃ f, ofFields v fields (some path) = .error (.failure f) ∧ IsExpected path f) ∨
      ∃ e, ofFields v fields (some path) = .error (.raised e) ∧ v.validate schema fields = .error e := by
  have h := comesTo_ofFields hv fields (some path)
  generalize ofFields v fields (some path) = result at h ⊢
  cases h with
  | raised he => exact Or.inr (Or.inr ⟨_, rfl, he⟩)
  | refused => exact Or.inr (Or.inl ⟨_, rfl, .schema _⟩)
  | taken => exact Or.inl ⟨_, rfl⟩

theorem load_ends (hl : l.IsSound) (content : FileContent) (path : Text) :
    (∃ d, l.load content path = .ok d) ∨
      (∃ f, l.load content path = .error (.failure f) ∧ IsExpected path f) ∨
      ∃ e, l.load content path = .error (.raised e) ∧ Escapes l content e := by
  have h := loadsTo_load l content path
  generalize l.load content path = result at h ⊢
  cases h with
  | unread h =>
    rcases handled_spec path _ with ⟨f, hf, hx, -⟩ | ⟨hr, hc⟩
    · exact Or.inr (Or.inl ⟨f, by rw [hf], hx⟩)
    · obtain ⟨bs, rfl, hread⟩ := exists_bytes_of_unhandled h hc
      exact Or.inr (Or.inr ⟨_, by rw [hr], .read hread hc⟩)
  | unmapped => exact Or.inr (Or.inl ⟨_, rfl, .file _⟩)
  | empty =>
    obtain ⟨r, hr⟩ := hl.validator.exists_validation schema [] (List.forall_mem_nil _)
    refine (ofFields_ends hl.validator [] path).imp_right fun h => h.imp_right ?_
    rintro ⟨e, -, he⟩
    simp [hr] at he
  | mapping h =>
    refine (ofFields_ends hl.validator _ path).imp_right fun h => h.imp_right ?_
    rintro ⟨e, hraised, he⟩
    refine ⟨e, hraised, ?_⟩
    cases content with
    | missing => cases h
    | directory => cases h
    | bytes bs => exact .validate h he

theorem load_eq_raised_of_escapes {e : Raised} (h : Escapes l content e) (path : Text) :
    l.load content path = .error (.raised e) := by
  cases h with
  | read h hc => rw [load_of_valueAt_error (valueAt_bytes.trans h), handled_eq_raised_iff.2 ⟨rfl, hc⟩]
  | validate h he => rw [load_of_valueAt_map (valueAt_bytes.trans h), ofFields, he]

/-- Whatever stands at a path, loading gives a dialect, or a failure that a host expects, or lets an
exception out. It lets one out exactly if reading the bytes of a file raises it and no handler takes
it, or validating the mapping in them does. Bytes that encode no text are not read, and what is
raised for them is no failure either unless a handler takes it. -/
theorem load_ok_or_expected (hl : l.IsSound) (content : FileContent) (path : Text) :
    ((∃ d, l.load content path = .ok d) ∨
      (∃ f, l.load content path = .error (.failure f) ∧ IsExpected path f) ∨
      ∃ e, l.load content path = .error (.raised e)) ∧
    (∀ e, l.load content path = .error (.raised e) ↔ Escapes l content e) ∧
    ∀ bs, content = .bytes bs → (∀ t, bs ≠ Utf8.encode t) →
      ∃ e, l.read (Utf8.decode bs) = .error e ∧ l.load content path = .error (handled path e) := by
  have hends := load_ends hl content path
  refine ⟨hends.imp_right fun h => h.imp_right fun ⟨e, he, _⟩ => ⟨e, he⟩, fun e => ⟨fun he => ?_,
    fun he => load_eq_raised_of_escapes he path⟩, ?_⟩
  · rcases hends with ⟨d, hd⟩ | ⟨f, hf, -⟩ | ⟨e', he', hescapes⟩
    · simp [hd] at he
    · simp [hf] at he
    · rw [he'] at he
      cases he
      exact hescapes
  · rintro bs rfl hbs
    have hnone := hl.broken _ (Utf8.isBroken_iff.2 hbs)
    cases hread : l.read (Utf8.decode bs) with
    | ok value => exact absurd hread (hnone value)
    | error e => exact ⟨e, rfl, load_of_valueAt_error (valueAt_bytes.trans hread)⟩

end

theorem load_ok_or_expected_undecodable :
    Loader.standard.IsSound ∧
      Loader.standard.load (.bytes [0xFF]) "dialect.yaml" = .error (.raised Loader.undecodable) :=
  have h := load_ok_or_expected Loader.isSound_standard (.bytes [0xFF]) "dialect.yaml"
  ⟨Loader.isSound_standard, (h.2.1 Loader.undecodable).2 (.read rfl rfl)⟩

/-- The byte 255 begins no character, so that a file of it ends in a way that no host expects. -/
theorem load_undecodable_not_expected :
    ¬ ((∃ d, Loader.standard.load (.bytes [0xFF]) "dialect.yaml" = .ok d) ∨
      ∃ f, Loader.standard.load (.bytes [0xFF]) "dialect.yaml" = .error (.failure f) ∧
        IsExpected "dialect.yaml" f) := by
  have h : Loader.standard.load (.bytes [0xFF]) "dialect.yaml" = .error (.raised Loader.undecodable) :=
    rfl
  rw [h]
  rintro (⟨d, hd⟩ | ⟨f, hf, -⟩)
  · cases hd
  · cases hf

end Parametric.Dialect
