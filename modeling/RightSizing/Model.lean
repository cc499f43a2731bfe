import RightSizing.Text.Outline

/-!
# Models

A `Model` is what a caller wants to right-size and deploy: where its artifacts come from, what is
known of its framework, and how to reach the recommendation service.  The session and the factory
that builds one on first use are names (`σ`, `φ`); what they answer is not part of the model.

`Model.outline` is the text form for logs.  It shows every field but the session and the factory, of
which only the presence of a session is told.
-/

namespace RightSizing

inductive ModelReference where
  /-- a container image and model data, not registered anywhere -/
  | artifact (imageUri : String) (modelData : Option String)
  /-- a version in a model registry -/
  | registered (packageArn : String)
deriving DecidableEq, Repr

structure Model (σ φ : Type) where
  role : String
  reference : ModelReference
  framework : Option String
  frameworkVersion : Option String
  session : Option σ
  factory : Option φ
deriving DecidableEq, Repr

namespace Model

variable {σ φ : Type}

def ofReference (role : String) (reference : ModelReference) : Model σ φ :=
  ⟨role, reference, none, none, none, none⟩

def ofArtifact (role imageUri : String) (modelData : Option String) : Model σ φ :=
  ofReference role (.artifact imageUri modelData)

def ofPackage (role packageArn : String) : Model σ φ := ofReference role (.registered packageArn)

def withFramework (m : Model σ φ) (framework : String) : Model σ φ :=
  { m with framework := some framework }

def withFrameworkVersion (m : Model σ φ) (version : String) : Model σ φ :=
  { m with frameworkVersion := some version }

def withSession (m : Model σ φ) (session : σ) : Model σ φ := { m with session := some session }

def withFactory (m : Model σ φ) (factory : φ) : Model σ φ := { m with factory := some factory }

/-- the name of the registered version -/
def packageArn? (m : Model σ φ) : Option String :=
  match m.reference with
  | .registered arn => some arn
  | .artifact _ _ => none

def isRegistered (m : Model σ φ) : Bool := m.packageArn?.isSome

def hasSession (m : Model σ φ) : Bool := m.session.isSome

end Model

/-! ## As text -/

def ModelReference.outline : ModelReference → Text.Outline
  | .artifact imageUri modelData =>
    .record "Artifact".toList
      [("image_uri".toList, .ofString imageUri), ("model_data".toList, .ofOption modelData)]
  | .registered arn =>
    .record "Registered".toList [("model_package_arn".toList, .ofString arn)]

namespace Model

variable {σ φ : Type}

def outline (m : Model σ φ) : Text.Outline :=
  .record "Model".toList
    [("role".toList, .ofString m.role),
     ("reference".toList, m.reference.outline),
     ("framework".toList, .ofOption m.framework),
     ("framework_version".toList, .ofOption m.frameworkVersion),
     ("has_session".toList, .ofBool m.hasSession)]

/-- on one line -/
def compactText (m : Model σ φ) : String := String.ofList m.outline.compact

/-- with each field on a line of its own -/
def spreadText (m : Model σ φ) : String := String.ofList (m.outline.spread 0)

end Model

end RightSizing
