import RightSizing.Session.Scripted

/-!
# Reading a trace

The calls and the notes of a trace, one effect at a time, and what the notes amount to for an
observer: events, moves of counters and observed waits.

* `Call.succeeded`, `isWait`       what a call was and how it went
* `Event.isFailed`, `Event.isCompleted`   the two events that close a job
-/

namespace RightSizing

section
variable {σ φ : Type}

@[simp] theorem callsOf_nil : callsOf ([] : List (Effect σ φ)) = [] := rfl
@[simp] theorem callsOf_call (c : Call σ φ) (trace : List (Effect σ φ)) :
    callsOf (.call c :: trace) = c :: callsOf trace := rfl
@[simp] theorem callsOf_note (n : Note) (trace : List (Effect σ φ)) :
    callsOf (.note n :: trace) = callsOf trace := rfl

@[simp] theorem notesOf_nil : notesOf ([] : List (Effect σ φ)) = [] := rfl
@[simp] theorem notesOf_call (c : Call σ φ) (trace : List (Effect σ φ)) :
    notesOf (.call c :: trace) = notesOf trace := rfl
@[simp] theorem notesOf_note (n : Note) (trace : List (Effect σ φ)) :
    notesOf (.note n :: trace) = n :: notesOf trace := rfl

def isWait : Call σ φ → Bool
  | .wait _ _ _ _ => true
  | _ => false

/-- a session was built -/
def isBuilt : Call σ φ → Bool
  | .build _ answer => answer.isOk
  | _ => false

/-- the party gave what it was asked for -/
def Call.succeeded : Call σ φ → Bool
  | .build _ answer => answer.isOk
  | .create _ _ answer => answer.isOk
  | .wait _ _ _ answer => answer.isOk

end

@[simp] theorem eventsOf_nil : eventsOf [] = [] := rfl
@[simp] theorem eventsOf_event (e : Event) (notes : List Note) :
    eventsOf (.event e :: notes) = e :: eventsOf notes := rfl
@[simp] theorem eventsOf_count (counter : Counter) (amount : UInt64) (notes : List Note) :
    eventsOf (.count counter amount :: notes) = eventsOf notes := rfl
@[simp] theorem eventsOf_observeWait (seconds : Binary64) (notes : List Note) :
    eventsOf (.observeWait seconds :: notes) = eventsOf notes := rfl

@[simp] theorem waitsOf_nil : waitsOf [] = [] := rfl
@[simp] theorem waitsOf_event (e : Event) (notes : List Note) :
    waitsOf (.event e :: notes) = waitsOf notes := rfl
@[simp] theorem waitsOf_count (counter : Counter) (amount : UInt64) (notes : List Note) :
    waitsOf (.count counter amount :: notes) = waitsOf notes := rfl
@[simp] theorem waitsOf_observeWait (seconds : Binary64) (notes : List Note) :
    waitsOf (.observeWait seconds :: notes) = seconds :: waitsOf notes := rfl

/-- an event moves no counter -/
@[simp] theorem moved_event (counter : Counter) (e : Event) (notes : List Note) :
    moved counter (.event e :: notes) = moved counter notes := UInt64.zero_add _
@[simp] theorem moved_count (counter c : Counter) (amount : UInt64) (notes : List Note) :
    moved counter (.count c amount :: notes) =
      (if c = counter then amount else 0) + moved counter notes := rfl
@[simp] theorem moved_observeWait (counter : Counter) (seconds : Binary64) (notes : List Note) :
    moved counter (.observeWait seconds :: notes) = moved counter notes := UInt64.zero_add _

def Event.isFailed : Event → Bool
  | .failed _ _ _ => true
  | _ => false

def Event.isCompleted : Event → Bool
  | .completed _ _ _ _ => true
  | _ => false

end RightSizing
