import Parametric.Snapshot

/-! # One formula replaced: what stays as it was, and what a second replacement does -/
namespace Parametric

def Parameter.bare (p : Parameter) : Parameter := { p with formula := none }

namespace Snapshot

theorem bare_replaced (id : Ident) (f : Option Text) (p : Parameter) :
    (replaced id f p).bare = p.bare := by
  unfold replaced
  split <;> rfl

theorem replaced_replaced (id : Ident) (f f' : Option Text) (p : Parameter) :
    replaced id f' (replaced id f p) = replaced id f' p := by
  by_cases hp : p.id = id
  · simp [replaced, hp]
  · simp [replaced, hp]

theorem replaced_comm {id id' : Ident} (hne : id ≠ id') (f f' : Option Text) (p : Parameter) :
    replaced id' f' (replaced id f p) = replaced id f (replaced id' f' p) := by
  by_cases hp : p.id = id
  · simp [replaced, hp, hne]
  · by_cases hp' : p.id = id'
    · simp [replaced, hp', hne.symm]
    · simp [replaced, hp, hp']

variable (s : Snapshot)

theorem replace_replace (id : Ident) (f f' : Option Text) :
    (s.replace id f).replace id f' = s.replace id f' := by
  simp [replace, Function.comp_def, replaced_replaced]

theorem replace_comm {id id' : Ident} (hne : id ≠ id') (f f' : Option Text) :
    (s.replace id f).replace id' f' = (s.replace id' f').replace id f := by
  simp [replace, Function.comp_def, replaced_comm hne]

theorem contains_replace (id other : Ident) (f : Option Text) :
    (s.replace id f).contains other = s.contains other := by
  simp [contains, replace, List.any_map, Function.comp_def]

theorem bare_parameters_replace (id : Ident) (f : Option Text) :
    (s.replace id f).parameters.map Parameter.bare = s.parameters.map Parameter.bare := by
  simp [replace, Function.comp_def, bare_replaced]

end Snapshot

end Parametric
