import RightSizing.Record.DecodeError
import RightSizing.Settings.Error

/-!
# Failures

Why a call of the library did not give a result.  The first six are misuse by the caller and will
happen again if the call is repeated as it is (`Failure.isUsage`); the others come from outside.

A failure of the service is a `Complaint`: a root text, wrapped in any number of contexts.  It is
handed on untouched, so its text is the outermost one, and each cause is the text below.  The cause
of a failure is given as a complaint too (`Failure.cause?`).
-/

namespace RightSizing

/-- what the service or a session factory has to say when it fails -/
inductive Complaint where
  | root (text : String)
  | context (text : String) (cause : Complaint)
deriving DecidableEq, Repr

namespace Complaint

def message : Complaint → String
  | root text => text
  | context text _ => text

def cause? : Complaint → Option Complaint
  | root _ => none
  | context _ cause => some cause

/-- all texts, the outermost first -/
def texts : Complaint → List String
  | root text => [text]
  | context text cause => text :: cause.texts

/-- a root text wrapped in contexts, the innermost first -/
def wrap (rootText : String) (contexts : List String) : Complaint :=
  contexts.foldl (fun inner text => context text inner) (root rootText)

theorem texts_context (text : String) (cause : Complaint) :
    (context text cause).texts = text :: cause.texts := rfl

end Complaint

inductive Failure where
  | notRegistered
  | missingInstanceTypes
  | acceleratorNotSupported
  | noRecommendations
  | missingDeployTarget
  | sessionUnavailable
  | malformedResults (error : DecodeError)
  | settings (error : SettingsError)
  | session (complaint : Complaint)
deriving DecidableEq, Repr

namespace Failure

/-- misuse by the caller -/
def isUsage : Failure → Bool
  | notRegistered | missingInstanceTypes | acceleratorNotSupported
  | noRecommendations | missingDeployTarget | sessionUnavailable => true
  | malformedResults _ | settings _ | session _ => false

def message : Failure → String
  | notRegistered => "right_size() is currently only supported with a registered model"
  | missingInstanceTypes => "instance_types must be defined as a hyperparameter_range"
  | acceleratorNotSupported => "accelerator_type is not compatible with right_size()"
  | noRecommendations => "recommendation job returned no inference recommendations"
  | missingDeployTarget =>
    "Must specify instance type and instance count unless using serverless inference"
  | sessionUnavailable => "no recommender session or session factory configured for model"
  | malformedResults error => "malformed recommendation job results: " ++ error.message
  | settings error => "configuration error: " ++ error.message
  | session complaint => complaint.message

/-- what stands behind the failure: the error of a reader, or what is below the outermost text of a
complaint.  Misuse has no cause -/
def cause? : Failure → Option Complaint
  | malformedResults error => some (.root error.message)
  | settings error => some (.root error.message)
  | session complaint => complaint.cause?
  | _ => none

end Failure

end RightSizing
