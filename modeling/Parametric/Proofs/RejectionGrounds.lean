import Parametric.Proofs.EditFailure
import Parametric.Proofs.UnknownToken

/-! # Why an edit is rejected: the first of the checks that finds something, and what it shows -/
namespace Parametric

namespace Formula

variable {d : Dialect} {formula t : Text} {names : List Text}

end Formula

namespace Guard

variable {g : Guard} {σ : Type} {host : Host σ} {st : σ} {s : Snapshot} {target : Parameter}
  {formula : Text}

end Guard

end Parametric
