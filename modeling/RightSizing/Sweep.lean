import RightSizing.Number.Text

/-!
# Sweeps: parameters with candidate values

A `Sweep` names parameters and lists the candidate values of each, as texts.  It is a map that keeps
the order in which names were first set: setting a name again replaces its candidates and leaves it
in its place (`Sweep.insert`).

The parameter `Sweep.instanceTypesName` lists the instance types to test and has to have candidates
(`Sweep.instanceTypes?`); every other one is set in the environment of each of these instances
(`Sweep.environment`).
-/

namespace RightSizing

/-- a candidate value, before it becomes a text -/
inductive Candidate where
  | text (s : String)
  | flag (b : Bool)
  | whole (n : Int)
  | real (x : Binary64)
deriving DecidableEq, Repr

def Candidate.render : Candidate → String
  | text s => s
  | flag b => if b then "true" else "false"
  | whole n => intText n
  | real x => x.plainText

/-- the candidate values of one parameter -/
structure Candidates where
  values : List String
deriving DecidableEq, Repr, Inhabited

namespace Candidates

def ofList (values : List Candidate) : Candidates := ⟨values.map Candidate.render⟩

def isEmpty (c : Candidates) : Bool := c.values.isEmpty

end Candidates

structure Sweep where
  entries : List (String × Candidates)
deriving DecidableEq, Repr

namespace Sweep

/-- the parameter that lists instance types -/
def instanceTypesName : String := "instance_types"

def empty : Sweep := ⟨[]⟩

def find? (s : Sweep) (name : String) : Option Candidates := s.entries.lookup name

/-- replaces the candidates of a name in its place, or adds the name at the end -/
def set (name : String) (c : Candidates) : List (String × Candidates) → List (String × Candidates)
  | [] => [(name, c)]
  | (other, old) :: rest =>
    if other = name then (other, c) :: rest else (other, old) :: set name c rest

def insert (s : Sweep) (name : String) (c : Candidates) : Sweep := ⟨set name c s.entries⟩

/-- the sweep of a sequence of insertions -/
def ofList (insertions : List (String × Candidates)) : Sweep :=
  insertions.foldl (fun s (name, c) => s.insert name c) empty

def length (s : Sweep) : Nat := s.entries.length

def isEmpty (s : Sweep) : Bool := s.entries.isEmpty

/-- the instance types, if there are any -/
def instanceTypes? (s : Sweep) : Option Candidates :=
  (s.find? instanceTypesName).filter (!·.isEmpty)

/-- all other parameters, in order -/
def environment (s : Sweep) : List (String × Candidates) :=
  s.entries.filter (·.1 ≠ instanceTypesName)

theorem ofList_append_singleton (insertions : List (String × Candidates)) (name : String)
    (c : Candidates) : ofList (insertions ++ [(name, c)]) = (ofList insertions).insert name c := by
  simp [ofList, List.foldl_append]

theorem set_nil (name : String) (c : Candidates) : set name c [] = [(name, c)] := rfl

theorem set_cons (name other : String) (c old : Candidates) (rest : List (String × Candidates)) :
    set name c ((other, old) :: rest) =
      if other = name then (other, c) :: rest else (other, old) :: set name c rest := rfl

end Sweep

end RightSizing
