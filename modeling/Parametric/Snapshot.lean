import Parametric.Parameter

/-! # Snapshots: ordered parameters without a repeated identity or name -/
namespace Parametric

inductive Duplicate
  | id (id : Ident) (name : Option Text)
  | name (name : Option Text)

namespace Duplicate

def message : Duplicate → Text
  | id i n => "Duplicate parameter id " ++ i.quoted ++ " ('" ++ shownName n ++ "')."
  | name n => "Duplicate parameter name '" ++ shownName n ++ "'."

/-- The first parameter that repeats an identity or else a name of those before it. -/
def after? (seen : List Parameter) : List Parameter → Option Duplicate
  | [] => none
  | p :: rest =>
    if p.id ∈ seen.map (·.id) then some (id p.id p.name)
    else if p.name ∈ seen.map (·.name) then some (name p.name)
    else after? (p :: seen) rest

theorem after?_eq_none_iff (seen rest : List Parameter) :
    after? seen rest = none ↔
      ((rest.map (·.id)).Nodup ∧ ∀ p ∈ rest, p.id ∉ seen.map (·.id)) ∧
        (rest.map (·.name)).Nodup ∧ ∀ p ∈ rest, p.name ∉ seen.map (·.name) := by
  induction rest generalizing seen with
  | nil => simp [after?]
  | cons p rest ih =>
    unfold after?
    split
    · rename_i hi
      exact ⟨fun h => by simp at h, fun h => absurd hi (h.1.2 p List.mem_cons_self)⟩
    split
    · rename_i hn
      exact ⟨fun h => by simp at h, fun h => absurd hn (h.2.2 p List.mem_cons_self)⟩
    rw [ih]
    simp only [List.map_cons, List.nodup_cons, List.mem_cons, List.mem_map, forall_eq_or_imp]
    grind

end Duplicate

structure Snapshot where
  parameters : List Parameter
  ids_nodup : (parameters.map (·.id)).Nodup
  names_nodup : (parameters.map (·.name)).Nodup

namespace Snapshot

def ofList (ps : List Parameter) : Except Duplicate Snapshot :=
  match h : Duplicate.after? [] ps with
  | some d => .error d
  | none => .ok ⟨ps, ((Duplicate.after?_eq_none_iff [] ps).1 h).1.1,
      ((Duplicate.after?_eq_none_iff [] ps).1 h).2.1⟩

theorem ofList_isOk_iff (ps : List Parameter) :
    (ofList ps).isOk ↔ (ps.map (·.id)).Nodup ∧ (ps.map (·.name)).Nodup := by
  have hn := Duplicate.after?_eq_none_iff [] ps
  simp only [List.map_nil, List.not_mem_nil, not_false_eq_true, implies_true, and_true] at hn
  rw [← hn]
  unfold ofList
  split <;> simp_all [Except.isOk, Except.toBool]

def names (s : Snapshot) : List (Option Text) := s.parameters.map (·.name)

def contains (s : Snapshot) (id : Ident) : Bool := s.parameters.any (·.id = id)

theorem contains_iff {s : Snapshot} {id : Ident} :
    s.contains id = true ↔ id ∈ s.parameters.map (·.id) := by
  simp [contains]

theorem contains_of_mem {s : Snapshot} {p : Parameter} (hp : p ∈ s.parameters) :
    s.contains p.id = true :=
  contains_iff.2 (List.mem_map_of_mem hp)

def byId? (s : Snapshot) (id : Ident) : Option Parameter := s.parameters.find? (·.id = id)

def byName? (s : Snapshot) (name : Option Text) : Option Parameter :=
  s.parameters.find? (·.name = name)

def shown (s : Snapshot) : Text :=
  "ParameterSet(" ++ (Datum.list (s.names.map .ofText?)).quoted ++ ")"

/-- One parameter's formula replaced; a blank formula clears it. -/
def replaced (id : Ident) (formula : Option Text) (p : Parameter) : Parameter :=
  if p.id = id then { p with formula := written? formula } else p

@[simp] theorem replaced_id (id : Ident) (f : Option Text) (p : Parameter) :
    (replaced id f p).id = p.id := by
  unfold replaced
  split <;> rfl

@[simp] theorem replaced_name (id : Ident) (f : Option Text) (p : Parameter) :
    (replaced id f p).name = p.name := by
  unfold replaced
  split <;> rfl

@[simp] theorem replaced_isInstance (id : Ident) (f : Option Text) (p : Parameter) :
    (replaced id f p).isInstance = p.isInstance := by
  unfold replaced
  split <;> rfl

theorem replaced_formula (id : Ident) (f : Option Text) (p : Parameter) :
    (replaced id f p).formula = if p.id = id then written? f else p.formula := by
  unfold replaced
  split <;> rfl

def replace (s : Snapshot) (id : Ident) (formula : Option Text) : Snapshot where
  parameters := s.parameters.map (replaced id formula)
  ids_nodup := by
    have h := s.ids_nodup
    simpa [List.map_map, Function.comp_def] using h
  names_nodup := by
    have h := s.names_nodup
    simpa [List.map_map, Function.comp_def] using h

/-- The snapshot with another formula on the parameter of the given one's identity. -/
def withFormula? (s : Snapshot) (p : Parameter) (formula : Option Text) : Option Snapshot :=
  if s.contains p.id then some (s.replace p.id formula) else none

def foreignMessage (p : Parameter) : Text :=
  "Parameter '" ++ shownName p.name ++ "' is not part of this snapshot."

end Snapshot

end Parametric
