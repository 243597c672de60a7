import Mathlib.Data.List.Basic
import Mathlib.Data.Option.Basic
import Parametric.Edit.Rejection
import Parametric.Proofs.FirstAppearance

/-! # Messages as templates with their slots filled

The text of a template has the names of slots between braces. A message comes of it in one pass, in
which texts that are filled in are not looked at, whatever braces they have. -/
namespace Parametric

namespace Issue

def isBrace (c : Char) : Bool := c == '\x7b' || c == '\x7d'

def isSlotChar (c : Char) : Bool := c.isAlpha || c == '_'

/-- One pass over the text of a template. A name between braces gives way to its value, and any other
character stays. -/
inductive Expands (value : Text → Text → Prop) : Text → Text → Prop
  | nil : Expands value [] []
  | char {c : Char} {t u : Text} (hc : isBrace c = false) (h : Expands value t u) :
      Expands value (c :: t) (c :: u)
  | slot {name v t u : Text} (hn : ∀ c ∈ name, isSlotChar c = true) (hv : value name v)
      (h : Expands value t u) : Expands value ('\x7b' :: (name ++ '\x7d' :: t)) (v ++ u)

theorem Expands.words {value : Text → Text → Prop} {w t u : Text}
    (hw : ∀ c ∈ w, isBrace c = false) (h : Expands value t u) :
    Expands value (w ++ t) (w ++ u) := by
  induction w with
  | nil => exact h
  | cons c w ih =>
    obtain ⟨hc, hw⟩ := List.forall_mem_cons.1 hw
    exact .char hc (ih hw)

/-- Where each slot has one value only one text comes of a template. -/
theorem Expands.unique {value : Text → Text → Prop} {t u u' : Text}
    (hvalue : ∀ {name v w}, value name v → value name w → v = w) (h : Expands value t u)
    (h' : Expands value t u') : u = u' := by
  induction h generalizing u' with
  | nil =>
    cases h'
    rfl
  | char hc h ih =>
    cases h' with
    | char _ h' => rw [ih h']
    | slot => exact absurd hc (by decide)
  | @slot name v t u hn hv h ih =>
    generalize ht : '\x7b' :: (name ++ '\x7d' :: t) = s at h'
    cases h' with
    | nil => exact absurd ht (List.cons_ne_nil _ _)
    | char hc =>
      obtain ⟨rfl, -⟩ := List.cons.inj ht
      exact absurd hc (by decide)
    | slot hn' hv' h' =>
      -- both names end at the first closing brace
      have closing {name : Text} (hn : ∀ c ∈ name, isSlotChar c = true) :
          ∀ c ∈ name, ¬ c = '\x7d' := by
        rintro c hc rfl
        exact absurd (hn _ hc) (by decide)
      obtain ⟨rfl, -, rfl⟩ :=
        eq_of_append_cons_eq (closing hn) rfl (closing hn') rfl (List.cons.inj ht).2
      rw [hvalue hv hv', ih h']

/-- Words without braces and slots with proper names, as templates are made of. -/
def Piece.isPlain : Piece → Bool
  | words t => t.all (! isBrace ·)
  | slot name => name.all isSlotChar

theorem isPlain_template (i : Issue) : i.template.all Piece.isPlain = true := by
  cases i <;> decide +kernel

/-- The names of the values that a message of an issue is given. -/
def keys : Issue → List Text
  | unknown | unknownUnitSuffix | literalWithUnit => ["target", "names", "suffixes", "formula"]
  | instanceFromType => ["target", "names"]
  | typeMismatch => ["target", "source", "source_type", "target_type"]
  | noSourceFormula => ["target", "source"]
  | wouldCreateCycle => ["target", "direct_reference", "path"]
  | hostRejected | hostRejectedSuspicious => ["target", "message", "tokens"]

theorem mem_keys_of_slot {i : Issue} {name : Text} (h : .slot name ∈ i.template) : name ∈ i.keys := by
  have hall : i.template.all (fun | .slot n => decide (n ∈ i.keys) | .words _ => true) = true := by
    cases i <;> decide +kernel
  simpa using List.all_eq_true.1 hall _ h

theorem exists_value_of_mem_keys {args : Arguments} {name : Text} (h : name ∈ args.map (·.1)) :
    ∃ d, value? args name = some d ∧ (name, d) ∈ args := by
  cases hfind : args.find? (fun a => a.1 = name) with
  | none => exact absurd h (find?_key_eq_none_iff.1 hfind)
  | some a =>
    obtain rfl : a.1 = name := by simpa using List.find?_some hfind
    exact ⟨a.2, by rw [value?, hfind, Option.map_some], List.mem_of_find?_eq_some hfind⟩

/-- With a value for every slot a template is filled, and that is one pass over its text. -/
theorem exists_fill {value : Text → Text → Prop} {args : Arguments} {ps : List Piece}
    (hp : ps.all Piece.isPlain = true)
    (hv : ∀ name, Piece.slot name ∈ ps → ∃ d, value? args name = some d ∧ value name d.plain) :
    ∃ t, fill args ps = .ok t ∧ Expands value (ps.flatMap Piece.shown) t := by
  induction ps with
  | nil => exact ⟨[], rfl, .nil⟩
  | cons p ps ih =>
    rw [List.all_cons, Bool.and_eq_true] at hp
    obtain ⟨t, ht, hexpands⟩ := ih hp.2 fun name hm => hv name (List.mem_cons_of_mem _ hm)
    cases p with
    | words w =>
      refine ⟨w ++ t, by simp [fill, ht, Except.map], ?_⟩
      have hw : ∀ c ∈ w, isBrace c = false := by simpa [Piece.isPlain] using hp.1
      exact .words hw hexpands
    | slot name =>
      obtain ⟨d, hd, hvalue⟩ := hv name List.mem_cons_self
      refine ⟨d.plain ++ t, by simp [fill, hd, ht, Except.map], ?_⟩
      have hn : ∀ c ∈ name, isSlotChar c = true := List.all_eq_true.1 hp.1
      have h := Expands.slot hn hvalue hexpands
      simpa [Piece.shown] using h

end Issue

namespace Rejection

/-- What stands in a message for the fields of a rejection, by the names of slots. Texts stand as they
are, names of a list in quotes with commas in between, and a path as its names with arrows. -/
inductive Shows : Rejection → Text → Text → Prop
  | target (r : Rejection) : Shows r "target" (shownName r.target)
  | names {t names suffixes isValue formula} :
      Shows (.unknownReference t names suffixes isValue formula) "names"
        (Text.joined ", " (names.map fun n => "'" ++ n ++ "'"))
  | suffixes {t names suffixes isValue formula} :
      Shows (.unknownReference t names suffixes isValue formula) "suffixes"
        (Text.joined ", " (suffixes.map fun n => "'" ++ n ++ "'"))
  | formula {t names suffixes isValue formula} :
      Shows (.unknownReference t names suffixes isValue formula) "formula" (shownName formula)
  | instanceNames {t names} : Shows (.instanceReference t names) "names"
      (Text.joined ", " (names.map fun n => "'" ++ shownName n ++ "'"))
  | source {t source a b} : Shows (.typeMismatch t source a b) "source" (shownName source)
  | sourceType {t source a b} : Shows (.typeMismatch t source a b) "source_type" a.plain
  | targetType {t source a b} : Shows (.typeMismatch t source a b) "target_type" b.plain
  | emptySource {t source} : Shows (.emptySource t source) "source" (shownName source)
  | direct {t v p} (h : v.direct = some p) : Shows (.cycle t v) "direct_reference" (shownName p.name)
  | noDirect {t v} (h : v.direct = none) : Shows (.cycle t v) "direct_reference" []
  | path {t v names} (h : v.wouldCycle = true) (hn : v.path.map (·.name) = names.map some) :
      Shows (.cycle t v) "path" (Text.joined " -> " names)
  | noPath {t v} (h : v.wouldCycle = false) : Shows (.cycle t v) "path" []
  | host {t host suspicious} : Shows (.refused t host suspicious) "message" host
  | suspicious {t host suspicious} : Shows (.refused t host suspicious) "tokens"
      (Text.joined ", " (suspicious.map fun n => "'" ++ n ++ "'"))

theorem Shows.unique {r : Rejection} {slot a b : Text} (h : r.Shows slot a) (h' : r.Shows slot b) :
    a = b := by
  generalize hs : slot = s at h'
  -- slots of one rejection have different names, and but for a path the text is a given one
  cases h with
  | path h hn =>
    cases h' with
    | path _ hn' => rw [List.map_injective_iff.2 (Option.some_injective _) (hn.symm.trans hn')]
    | noPath h' => simp [h] at h'
    | _ => simp at hs
  | _ => cases h' <;> simp_all

def isShowable : Rejection → Bool
  | cycle _ v => v.isShowable
  | _ => true

theorem keys_arguments (r : Rejection) : r.arguments.map (·.1) = r.issue.keys := by
  cases r with
  | unknownReference t names suffixes isValue formula =>
    simp only [issue]
    split
    · rfl
    · split <;> rfl
  | refused t host suspicious =>
    simp only [issue]
    split <;> rfl
  | _ => rfl

@[simp] theorem plain_ofText? (t : Option Text) : (Datum.ofText? t).plain = shownName t := by
  cases t <;> rfl

theorem shows_direct (t : Option Text) (v : Cycle.Verdict) :
    Shows (.cycle t v) "direct_reference" (directName v) := by
  unfold directName
  split
  case h_1 p hp => exact .direct hp
  case h_2 hp => exact .noDirect hp

theorem shows_path (t : Option Text) {v : Cycle.Verdict} (hv : v.isShowable = true) :
    Shows (.cycle t v) "path" v.pathText := by
  unfold Cycle.Verdict.pathText
  cases hc : v.wouldCycle with
  | false => exact .noPath hc
  | true =>
    refine .path hc ?_
    have hnames : ∀ n ∈ v.pathNames, n.isSome = true := by
      simpa [Cycle.Verdict.isShowable, hc] using hv
    rw [List.map_map]
    refine (List.map_id v.pathNames).symm.trans (List.map_congr_left fun n hn => ?_)
    obtain ⟨name, rfl⟩ := Option.isSome_iff_exists.1 (hnames n hn)
    rfl

theorem shows_of_mem_arguments {r : Rejection} (hr : r.isShowable = true) {name : Text} {d : Datum}
    (h : (name, d) ∈ r.arguments) : r.Shows name d.plain := by
  have target : r.Shows "target" (Datum.ofText? r.target).plain := plain_ofText? r.target ▸ .target r
  cases r <;> simp only [arguments, List.mem_cons, List.not_mem_nil, or_false, Prod.mk.injEq] at h
  case unknownReference =>
    rcases h with ⟨rfl, rfl⟩ | ⟨rfl, rfl⟩ | ⟨rfl, rfl⟩ | ⟨rfl, rfl⟩
    · exact target
    · exact .names
    · exact .suffixes
    · rw [plain_ofText?]
      exact .formula
  case instanceReference t names =>
    rcases h with ⟨rfl, rfl⟩ | ⟨rfl, rfl⟩
    · exact target
    · rw [quotedNames, List.map_map]
      exact .instanceNames
  case typeMismatch =>
    rcases h with ⟨rfl, rfl⟩ | ⟨rfl, rfl⟩ | ⟨rfl, rfl⟩ | ⟨rfl, rfl⟩
    · exact target
    · rw [plain_ofText?]
      exact .source
    · exact .sourceType
    · exact .targetType
  case emptySource =>
    rcases h with ⟨rfl, rfl⟩ | ⟨rfl, rfl⟩
    · exact target
    · rw [plain_ofText?]
      exact .emptySource
  case cycle t v =>
    rcases h with ⟨rfl, rfl⟩ | ⟨rfl, rfl⟩ | ⟨rfl, rfl⟩
    · exact target
    · exact shows_direct t v
    · exact shows_path t hr
  case refused =>
    rcases h with ⟨rfl, rfl⟩ | ⟨rfl, rfl⟩ | ⟨rfl, rfl⟩
    · exact target
    · exact .host
    · exact .suspicious

/-- For every slot of its template a rejection has a value, and the message is the one text that comes
of the template when each slot gives way to the field it is named for. -/
theorem message_fills_template (r : Rejection) (hr : r.isShowable = true) :
    r.issue.entries r.arguments = [] ∧
      Issue.fill r.arguments r.issue.template = .ok r.message ∧
      ∀ t, Issue.Expands r.Shows r.issue.templateText t ↔ t = r.message := by
  have hvalues : ∀ name, .slot name ∈ r.issue.template →
      ∃ d, Issue.value? r.arguments name = some d ∧ r.Shows name d.plain := by
    intro name hname
    have hkey : name ∈ r.arguments.map (·.1) := r.keys_arguments ▸ Issue.mem_keys_of_slot hname
    obtain ⟨d, hd, hmem⟩ := Issue.exists_value_of_mem_keys hkey
    exact ⟨d, hd, shows_of_mem_arguments hr hmem⟩
  obtain ⟨t, ht, hexpands⟩ := Issue.exists_fill (Issue.isPlain_template r.issue) hvalues
  have hmessage : r.message = t := by rw [message, Issue.message, ht]
  rw [hmessage]
  refine ⟨by rw [Issue.entries, ht], ht, fun u => ⟨fun hu => ?_, ?_⟩⟩
  · exact hu.unique (fun h h' => h.unique h') hexpands
  · rintro rfl
    exact hexpands

def braced : Rejection :=
  let p : Parameter := ⟨.number 1, some "\x7btarget\x7d", false, .null, none, false⟩
  let q : Parameter := ⟨.number 2, some "\x7bpath\x7d", false, .null, none, false⟩
  .cycle q.name ⟨true, some p, [p, q]⟩

theorem message_fills_template_braced :
    braced.isShowable = true ∧
      Issue.Expands braced.Shows braced.issue.templateText
        ("Cannot set formula on parameter '\x7bpath\x7d'. '\x7btarget\x7d' already depends on " ++
          "'\x7bpath\x7d': \x7btarget\x7d -> \x7bpath\x7d.") := by
  have hr : braced.isShowable = true := by decide
  obtain ⟨-, -, hexpands⟩ := message_fills_template braced hr
  exact ⟨hr, (hexpands _).2 (by decide +kernel)⟩

end Rejection

end Parametric
