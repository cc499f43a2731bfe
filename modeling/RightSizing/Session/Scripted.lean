import RightSizing.Session.Service

/-!
# Scripted services

A service that answers from lists: the call with a given number of its kind gets the answer with
that number, and the last answer goes on for ever.  It serves to rehearse a run without a remote
service.
-/

namespace RightSizing

/-- the answer to a submitted document -/
inductive SubmitReply where
  | named (jobName : String)
  /-- the name in the document, or a made-up one -/
  | asRequested
  | refused (complaint : Complaint)
deriving DecidableEq, Repr

/-- the answers of one session -/
structure SessionScript where
  submits : List SubmitReply
  waits : List (Except Complaint JobResults)

namespace SessionScript

/-- the item with a number, or the last one behind the end -/
def item? (items : List α) (number : Nat) : Option α := items[min number (items.length - 1)]?

/-- the name of a job that nobody named -/
def generatedName : String := "generated-job-name"

def SubmitReply.answer (document : JobDocument) : SubmitReply → Except Complaint String
  | .named jobName => .ok jobName
  | .asRequested => .ok (document.jobName.getD generatedName)
  | .refused complaint => .error complaint

/-- what a script without any answer says -/
def silence : Complaint := .root "no answer"

end SessionScript

open SessionScript

/-- the calls to create a job among some calls -/
def isCreate {σ φ : Type} : Call σ φ → Bool
  | .create _ _ _ => true
  | _ => false

/-- the service of named sessions; factories are numbered -/
def Service.scripted (sessions : List (String × SessionScript))
    (factories : List (List (Except Complaint String))) : Service String Nat where
  build f past := ((factories[f]?.bind (item? · past.length))).getD (.error silence)
  create s past document :=
    match (sessions.lookup s).bind fun script => item? script.submits (past.countP isCreate) with
    | some reply => SubmitReply.answer document reply
    | none => .error silence
  wait s past _ _ :=
    ((sessions.lookup s).bind fun script =>
      item? script.waits (past.countP (!isCreate ·))).getD (.error silence)

end RightSizing
