/-
**Files that cannot be read.**

Main definition:

* `Questionnaire.FileError` — why a file could not be read, with its wording.
-/

set_option autoImplicit false

namespace Questionnaire

/-- Why a file could not be read. -/
inductive FileError where
  | missing
  | other (reason : String)
  deriving DecidableEq

/-- Why a file could not be read, in words. -/
def FileError.message : FileError → String
  | .missing => "No such file or directory (os error 2)"
  | .other reason => reason

end Questionnaire
