/-!
# Framework labels

The recommendation service knows frameworks by labels of its own.  A framework detected on a model
is given by its package name and mapped to the label (`Framework.label`); a name without a label
stands for itself.  A label given by the caller is taken as it is and wins over the detected one
(`Framework.resolve`).
-/

namespace RightSizing

/-- a text that is not empty; the empty one counts as not given -/
def nonBlank? (s : Option String) : Option String := s.filter (· ≠ "")

namespace Framework

/-- detected names and the labels of the service -/
def labels : List (String × String) :=
  [("xgboost", "XGBOOST"),
   ("sklearn", "SAGEMAKER-SCIKIT-LEARN"),
   ("pytorch", "PYTORCH"),
   ("tensorflow", "TENSORFLOW"),
   ("mxnet", "MXNET")]

def label (detected : String) : String := (labels.lookup detected).getD detected

def resolve (explicit detected : Option String) : Option String :=
  match nonBlank? explicit with
  | some framework => some framework
  | none => (nonBlank? detected).map label

theorem resolve_explicit {framework : String} (h : framework ≠ "") (detected : Option String) :
    resolve (some framework) detected = some framework := by
  simp [resolve, nonBlank?, Option.filter, h]

end Framework

end RightSizing
