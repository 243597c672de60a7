import Parametric.Proofs.DialectFields

/-! # Reports on mappings that give no dialect

What a mapping is refused for is reported line by line if the keys of the wrong fields can be put in
order. Keys of several ranks have no order, and then there is no report at all. -/
namespace Parametric

namespace Text

def HasLine (t start : Text) : Prop :=
  ∃ before after, t = before ++ start ++ after ∧ (before = [] ∨ before.getLast? = some '\n')

theorem joined_cons_cons (sep x y : Text) (ys : List Text) :
    joined sep (x :: y :: ys) = x ++ sep ++ joined sep (y :: ys) :=
  List.intercalate_cons_cons

theorem hasLine_joined {ts : List Text} {t start : Text} (ht : t ∈ ts) (hs : start <+: t) :
    (joined "\n" ts).HasLine start := by
  induction ts with
  | nil => simp at ht
  | cons x xs ih =>
    rcases List.mem_cons.1 ht with rfl | ht
    · obtain ⟨rest, rfl⟩ := hs
      cases xs with
      | nil => exact ⟨[], rest, by simp [joined], Or.inl rfl⟩
      | cons y ys =>
        refine ⟨[], rest ++ "\n" ++ joined "\n" (y :: ys), ?_, Or.inl rfl⟩
        simp only [joined_cons_cons, List.nil_append, List.append_assoc]
    · obtain ⟨y, ys, rfl⟩ := List.exists_cons_of_ne_nil (List.ne_nil_of_mem ht)
      obtain ⟨before, after, he, hb⟩ := ih ht
      refine ⟨x ++ "\n" ++ before, after, ?_, Or.inr ?_⟩
      · simp only [joined_cons_cons, he, List.append_assoc]
      · rcases hb with rfl | hb
        · simp
        · rw [List.getLast?_append, hb, Option.some_or]

theorem linesFrom_append_of_unbroken {w : Text} (hw : ∀ c ∈ w, isLineEnd c = false)
    (line rest : Text) : linesFrom line (w ++ rest) = linesFrom (w.reverse ++ line) rest := by
  induction w generalizing line with
  | nil => rfl
  | cons c w ih =>
    obtain ⟨hc, hw⟩ := List.forall_mem_cons.1 hw
    have hr : c ≠ '\r' := by
      rintro rfl
      simp [isLineEnd] at hc
    rw [List.cons_append, linesFrom, hc, if_neg Bool.false_ne_true, ih hw]
    · simp
    · rintro _ rfl
      exact absurd rfl hr

theorem exists_linesFrom_eq_cons {line : Text} (hl : line ≠ []) (rest : Text) :
    ∃ more ls, linesFrom line rest = (line.reverse ++ more) :: ls := by
  fun_induction linesFrom line rest with
  | case1 line h => exact absurd (List.isEmpty_iff.1 h) hl
  | case2 line h => exact ⟨[], [], by simp⟩
  | case3 line rest => exact ⟨[], _, by rw [List.append_nil]⟩
  | case4 line c rest hno hc => exact ⟨[], _, by rw [List.append_nil]⟩
  | case5 line c rest hno hc ih =>
    obtain ⟨more, ls, he⟩ := ih (List.cons_ne_nil c line)
    exact ⟨c :: more, ls, by simp [he]⟩

theorem linesFrom_suffix (line before t : Text) :
    linesFrom [] t <:+ linesFrom line (before ++ '\n' :: t) := by
  have hfeed (line : Text) : linesFrom line ('\n' :: t) = line.reverse :: linesFrom [] t := by
    rw [linesFrom, if_pos (by decide)]
    simp
  fun_induction linesFrom line before with
  | case1 line => exact hfeed line ▸ List.suffix_cons _ _
  | case2 line => exact hfeed line ▸ List.suffix_cons _ _
  | case3 line rest ih =>
    rw [List.cons_append, List.cons_append, linesFrom]
    exact ih.trans (List.suffix_cons _ _)
  | case4 line c rest hno hc ih =>
    cases rest with
    | nil =>
      -- a carriage return and the feed after it are one end
      by_cases hr : c = '\r'
      · subst hr
        rw [List.singleton_append, linesFrom]
        exact List.suffix_cons _ _
      · rw [List.singleton_append, linesFrom.eq_3 _ _ _ (by simp [hr]), if_pos hc, hfeed]
        exact (List.suffix_cons _ _).trans (List.suffix_cons _ _)
    | cons x rest =>
      rw [List.cons_append, linesFrom.eq_3 _ _ _ (by simpa using hno), if_pos hc]
      exact ih.trans (List.suffix_cons _ _)
  | case5 line c rest hno hc ih =>
    have hr : c ≠ '\r' := by
      rintro rfl
      exact hc (by decide)
    rw [List.cons_append, linesFrom.eq_3 _ _ _ (by simp [hr]), if_neg hc]
    exact ih

theorem exists_mem_lines {t start : Text} (h : t.HasLine start) (hne : start ≠ [])
    (hs : ∀ c ∈ start, isLineEnd c = false) : ∃ l ∈ t.lines, start <+: l := by
  obtain ⟨before, after, rfl, hb⟩ := h
  have hfirst : ∃ l ∈ linesFrom [] (start ++ after), start <+: l := by
    obtain ⟨more, ls, he⟩ := exists_linesFrom_eq_cons (List.reverse_ne_nil_iff.2 hne) after
    rw [linesFrom_append_of_unbroken hs, List.append_nil, he, List.reverse_reverse]
    exact ⟨_, List.mem_cons_self, List.prefix_append start more⟩
  rcases hb with rfl | hb
  · exact hfirst
  · obtain ⟨b, rfl⟩ := List.getLast?_eq_some_iff.1 hb
    obtain ⟨l, hl, hp⟩ := hfirst
    have hm := (linesFrom_suffix [] b (start ++ after)).subset hl
    exact ⟨l, by simpa [lines] using hm, hp⟩

end Text

/-- A line of the details stands in the rendered report too, moved in by two blanks. -/
theorem Report.hasLine_render {r : Report} {start : Text} (h : r.details.HasLine start)
    (hne : start ≠ []) (hs : ∀ c ∈ start, isLineEnd c = false) :
    r.render.HasLine ("  " ++ start) := by
  obtain ⟨l, hl, hp⟩ := Text.exists_mem_lines h hne hs
  have hm : "  " ++ l ∈ headed "\nDetails:" r.details :=
    List.mem_cons_of_mem _ (List.mem_map_of_mem hl)
  rw [render]
  refine Text.hasLine_joined ?_ ((List.prefix_append_right_inj _).2 hp)
  simp only [List.mem_append]
  exact Or.inl (Or.inl (Or.inr hm))

namespace Dialect

/-- Keys that can be put in order: at most one, or all of one rank. -/
def HaveOrder (keys : List Datum) : Prop := keys.length ≤ 1 ∨ ∃ r, ∀ k ∈ keys, k.rank? = some r

theorem HaveOrder.perm_iff {keys keys' : List Datum} (h : keys.Perm keys') :
    HaveOrder keys ↔ HaveOrder keys' := by
  simp only [HaveOrder, h.length_eq, h.mem_iff]

section Order

variable {e f : Datum × Datum} {errors rest sorted : List (Datum × Datum)} {r : Datum.Rank}

theorem before?_of_rank? {a b : Datum} (ha : a.rank? = some r) (hb : b.rank? = some r) :
    ∃ x, a.before? b = some x := by
  rw [Datum.before?, ha, hb, if_pos rfl]
  exact ⟨_, rfl⟩

theorem rank?_of_before? {a b : Datum} {x : Bool} (h : a.before? b = some x) :
    ∃ r, a.rank? = some r ∧ b.rank? = some r := by
  unfold Datum.before? at h
  split at h
  case isTrue heq =>
    obtain ⟨r, hr, -⟩ := Option.map_eq_some_iff.1 h
    exact ⟨r, hr, heq ▸ hr⟩
  case isFalse => simp at h

theorem insertItem_perm (h : Failure.insertItem e rest = some sorted) : sorted.Perm (e :: rest) := by
  induction rest generalizing sorted with
  | nil => exact .of_eq (Option.some.inj h).symm
  | cons f rest ih =>
    obtain ⟨isBefore, -, h⟩ := Option.bind_eq_some_iff.1 h
    cases isBefore with
    | true => exact .of_eq (Option.some.inj h).symm
    | false =>
      obtain ⟨later, hlater, h⟩ := Option.bind_eq_some_iff.1 h
      obtain rfl := Option.some.inj h
      exact ((ih hlater).cons f).trans (.swap e f rest)

theorem exists_insertItem (he : e.1.rank? = some r) (h : ∀ f ∈ rest, f.1.rank? = some r) :
    ∃ sorted, Failure.insertItem e rest = some sorted := by
  induction rest with
  | nil => exact ⟨_, rfl⟩
  | cons f rest ih =>
    obtain ⟨hf, h⟩ := List.forall_mem_cons.1 h
    obtain ⟨isBefore, hb⟩ := before?_of_rank? he hf
    obtain ⟨later, hlater⟩ := ih h
    rw [Failure.insertItem, hb, hlater]
    cases isBefore with
    | true => exact ⟨_, rfl⟩
    | false => exact ⟨_, rfl⟩

theorem rank?_of_insertItem (h : Failure.insertItem e (f :: rest) = some sorted) :
    ∃ r, e.1.rank? = some r ∧ f.1.rank? = some r := by
  obtain ⟨isBefore, hb, -⟩ := Option.bind_eq_some_iff.1 h
  exact rank?_of_before? hb

theorem foldlM_insertItem_perm {found : List (Datum × Datum)}
    (h : errors.foldlM (fun found e => Failure.insertItem e found) found = some sorted) :
    sorted.Perm (errors ++ found) := by
  induction errors generalizing found with
  | nil => exact .of_eq (Option.some.inj h).symm
  | cons e errors ih =>
    obtain ⟨found', hfound, h⟩ := Option.bind_eq_some_iff.1 h
    exact (ih h).trans (((insertItem_perm hfound).append_left errors).trans List.perm_middle)

theorem exists_foldlM_insertItem {found : List (Datum × Datum)}
    (h : ∀ e ∈ errors, e.1.rank? = some r) (hf : ∀ f ∈ found, f.1.rank? = some r) :
    ∃ sorted, errors.foldlM (fun found e => Failure.insertItem e found) found = some sorted := by
  induction errors generalizing found with
  | nil => exact ⟨found, rfl⟩
  | cons e errors ih =>
    obtain ⟨he, h⟩ := List.forall_mem_cons.1 h
    obtain ⟨found', hfound⟩ := exists_insertItem he hf
    rw [List.foldlM_cons, hfound]
    refine ih h fun f hm => ?_
    rcases List.mem_cons.1 ((insertItem_perm hfound).mem_iff.1 hm) with rfl | hm
    · exact he
    · exact hf f hm

/-- Where there is something already, nothing of another rank can be added. -/
theorem rank?_of_foldlM {found : List (Datum × Datum)}
    (h : errors.foldlM (fun found e => Failure.insertItem e found) (f :: found) = some sorted)
    (hf : ∀ g ∈ found, g.1.rank? = f.1.rank?) :
    ∀ e ∈ errors, ∃ r, e.1.rank? = some r ∧ f.1.rank? = some r := by
  induction errors generalizing f found with
  | nil => simp
  | cons e errors ih =>
    obtain ⟨found', hfound, h⟩ := Option.bind_eq_some_iff.1 h
    obtain ⟨r, he, hr⟩ := rank?_of_insertItem hfound
    have hrank : ∀ g ∈ found', g.1.rank? = some r := by
      intro g hg
      rcases List.mem_cons.1 ((insertItem_perm hfound).mem_iff.1 hg) with rfl | hg
      · exact he
      rcases List.mem_cons.1 hg with rfl | hg
      · exact hr
      · rw [hf g hg, hr]
    refine List.forall_mem_cons.2 ⟨⟨r, he, hr⟩, fun e' he' => ?_⟩
    cases found' with
    | nil => simpa using (insertItem_perm hfound).length_eq
    | cons g found' =>
      obtain ⟨hg, hrest⟩ := List.forall_mem_cons.1 hrank
      obtain ⟨r', he', hg'⟩ := ih h (fun g' hg' => (hrest g' hg').trans hg.symm) e' he'
      obtain rfl := Option.some.inj (hg'.symm.trans hg)
      exact ⟨_, he', hr⟩

theorem sortItems_perm (h : Failure.sortItems errors = some sorted) : sorted.Perm errors := by
  have hp := foldlM_insertItem_perm h
  rwa [List.append_nil] at hp

/-- Fields are put in order exactly if their keys have one. -/
theorem exists_sortItems_iff :
    (∃ sorted, Failure.sortItems errors = some sorted) ↔ HaveOrder (errors.map (·.1)) := by
  constructor
  · rintro ⟨sorted, h⟩
    cases errors with
    | nil => exact Or.inl (by simp)
    | cons e errors =>
      cases errors with
      | nil => exact Or.inl (by simp)
      | cons f errors =>
        have hfirst := rank?_of_foldlM h (List.forall_mem_nil _)
        obtain ⟨r, hf, he⟩ := hfirst f List.mem_cons_self
        refine Or.inr ⟨r, List.forall_mem_map.2 (List.forall_mem_cons.2 ⟨he, fun g hg => ?_⟩)⟩
        obtain ⟨r', hg, he'⟩ := hfirst g hg
        rwa [← Option.some.inj (he'.symm.trans he)]
  · rintro (hl | ⟨r, h⟩)
    · rw [List.length_map] at hl
      match errors with
      | [] => exact ⟨[], rfl⟩
      | [e] => exact ⟨[e], rfl⟩
      | _ :: _ :: _ => simp at hl
    · exact exists_foldlM_insertItem (List.forall_mem_map.1 h) (by simp)

end Order

/-- A report with one line for each field that a mapping is refused for. -/
structure TellsOfAll (fields : List (Datum × Datum)) (r : Report) : Prop where
  lines : ∃ told : List (Datum × Datum), told.Perm (offences fields).toData ∧
    r.details = Text.joined "\n" (told.map Failure.lineOf)
  begins : ∀ f ∈ offences fields, r.details.HasLine (f.1.plain ++ ":")
  shows : ∀ f ∈ offences fields, (∀ c ∈ f.1.plain, isLineEnd c = false) →
    r.render.HasLine ("  " ++ f.1.plain ++ ":")

theorem tellsOfAll_of_perm {fields told : List (Datum × Datum)} {r : Report}
    (hp : told.Perm (offences fields).toData)
    (hr : r.details = Text.joined "\n" (told.map Failure.lineOf)) : TellsOfAll fields r := by
  have hbegins : ∀ f ∈ offences fields, r.details.HasLine (f.1.plain ++ ":") := by
    intro f hf
    have hm : (f.1, f.2.toDatum) ∈ told := hp.mem_iff.2 (List.mem_map_of_mem hf)
    rw [hr]
    refine Text.hasLine_joined (List.mem_map_of_mem hm) ?_
    exact ⟨" " ++ f.2.toDatum.plain, by simp [Failure.lineOf]⟩
  refine ⟨⟨told, hp, hr⟩, hbegins, fun f hf hline => ?_⟩
  rw [List.append_assoc]
  refine Report.hasLine_render (hbegins f hf) (by simp) ?_
  exact List.forall_mem_append.2 ⟨hline, by simp [isLineEnd]⟩

/-- A mapping that no dialect comes of is refused with a failure, unless a validator raises something
itself. The failure has a report exactly if the keys of the wrong fields are one key, or all of one
rank, and the report has a line for each of them that begins with the key. -/
theorem failures_reported {v : Validator} (hv : v.IsSound) (fields : List (Datum × Datum))
    (source : Option Text) :
    (wrongFields fields = [] ∧ ∃ d, ofFields v fields source = .ok d) ∨
      (∃ e, v.validate schema fields = .error e ∧ ofFields v fields source = .error (.raised e)) ∨
      ∃ failure, ofFields v fields source = .error (.failure failure) ∧
        ((HaveOrder ((offences fields).map (·.1)) ∧
            ∃ r, failure.report? = some r ∧ TellsOfAll fields r) ∨
          ¬ HaveOrder ((offences fields).map (·.1)) ∧ failure.report? = none) := by
  have h := comesTo_ofFields hv fields source
  generalize ofFields v fields source = result at h
  cases h with
  | taken hw _ _ => exact Or.inl ⟨hw, _, rfl⟩
  | raised he => exact Or.inr (Or.inl ⟨_, he, rfl⟩)
  | @refused errors hp _ =>
    refine Or.inr (Or.inr ⟨_, rfl, ?_⟩)
    have hkeys : (offences fields).toData.map (·.1) = (offences fields).map (·.1) := by
      rw [Faults.toData, List.map_map]
      rfl
    rw [← hkeys, ← HaveOrder.perm_iff (hp.map (·.1)), ← exists_sortItems_iff, Failure.report?]
    cases hs : Failure.sortItems errors with
    | none => exact Or.inr ⟨by simp, rfl⟩
    | some sorted =>
      exact Or.inl ⟨⟨sorted, rfl⟩, _, rfl, tellsOfAll_of_perm ((sortItems_perm hs).trans hp) rfl⟩

theorem failures_reported_dates : Validator.standard.IsSound ∧ ∃ failure r,
    ofFields .standard [(.date 2024 1 2, .null), (.date 2024 1 1, .null)] none =
      .error (.failure failure) ∧ failure.report? = some r ∧
    r.render.HasLine ("  " ++ (Datum.date 2024 1 1).plain ++ ":") := by
  have hv := Validator.isSound_standard
  have hoffences : offences [(.date 2024 1 2, .null), (.date 2024 1 1, .null)] =
      [(.date 2024 1 2, .whole [unknownMessage]), (.date 2024 1 1, .whole [unknownMessage])] := rfl
  have hline : ((Datum.date 2024 1 1).plain.all (! isLineEnd ·)) = true := rfl
  obtain ⟨hw, -⟩ | ⟨e, he, -⟩ | ⟨failure, he, ⟨-, r, hr, ht⟩ | ⟨hno, -⟩⟩ :=
    failures_reported hv [(.date 2024 1 2, .null), (.date 2024 1 1, .null)] none
  · cases hw
  · cases he
  · refine ⟨hv, failure, r, he, hr, ht.shows (.date 2024 1 1, .whole [unknownMessage]) ?_ ?_⟩
    · simp [hoffences]
    · exact fun c hc => by simpa using List.all_eq_true.1 hline c hc
  · rw [hoffences] at hno
    exact absurd (Or.inr ⟨.date, by simp [Datum.rank?]⟩) hno

/-- A number and a text among the keys of two unknown fields are enough to leave a refused mapping
without a report. -/
theorem mixed_keys_unreported : ∃ failure,
    ofFields .standard [(.int 1, .text "x"), (.text "a", .text "y")] (some "dialect.yaml") =
      .error (.failure failure) ∧ failure.report? = none :=
  ⟨_, rfl, rfl⟩

end Dialect

end Parametric
