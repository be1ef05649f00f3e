import Stencil.Proofs.Cache.Shared

namespace Stencil

/-- How far a request has come that has a handle on a slot. -/
inductive Stage (τ : Type) where
  | holding
  | waiting
  | compiling (run : Nat)
  | failing (failure : Failure)
  | leaving (result : Except Failure (Product τ))

namespace Stage

variable {τ : Type}

def compiles : Stage τ → Bool
  | compiling _ => true
  | _ => false

/-- Whether the name of the request must still lead to the slot: not so after a failure, when the
slot has been released. -/
def attached : Stage τ → Bool
  | leaving (.error _) => false
  | _ => true

end Stage

inductive Phase (τ : Type) where
  | idle
  | absent (name : String)
  | visiting (name : String) (slot : Nat) (stage : Stage τ)

structure Caller (τ : Type) where
  phase : Phase τ
  requests : List String

namespace Caller

variable {τ : Type}

def isIdle (c : Caller τ) : Bool :=
  match c.phase with
  | .idle => true
  | _ => false

def holds (k : Nat) (c : Caller τ) : Bool :=
  match c.phase with
  | .visiting _ j _ => j == k
  | _ => false

def claims (k : Nat) (c : Caller τ) : Bool :=
  match c.phase with
  | .visiting _ j stage => j == k && stage.attached
  | _ => false

def compilesIn (k : Nat) (c : Caller τ) : Bool :=
  match c.phase with
  | .visiting _ j stage => j == k && stage.compiles
  | _ => false

/-- Whether a run of the caller's compile function for a name is in progress. -/
def compiles (name : String) (c : Caller τ) : Bool :=
  match c.phase with
  | .visiting other _ stage => other == name && stage.compiles
  | _ => false

variable {name : String} {j k : Nat} {stage : Stage τ} {requests : List String}

@[simp] theorem holds_idle : holds j (⟨.idle, requests⟩ : Caller τ) = false := rfl

@[simp] theorem holds_absent : holds j (⟨.absent name, requests⟩ : Caller τ) = false := rfl

@[simp] theorem holds_visiting : holds j ⟨.visiting name k stage, requests⟩ = (k == j) := rfl

@[simp] theorem claims_visiting :
    claims j ⟨.visiting name k stage, requests⟩ = (k == j && stage.attached) := rfl

@[simp] theorem compilesIn_idle : compilesIn j (⟨.idle, requests⟩ : Caller τ) = false := rfl

@[simp] theorem compilesIn_absent : compilesIn j (⟨.absent name, requests⟩ : Caller τ) = false :=
  rfl

@[simp] theorem compilesIn_visiting :
    compilesIn j ⟨.visiting name k stage, requests⟩ = (k == j && stage.compiles) := rfl

end Caller

inductive Happening (τ : Type) where
  | started (name : String) (run : Nat)
  | succeeded (name : String) (product : Product τ)
  | failed (name : String) (failure : Failure)
  /-- A caller that has failed releases its slot, while so many others have handles on it. -/
  | released (name : String) (others : Nat)
  | returned (name : String) (result : Except Failure (Product τ))

namespace Happening

variable {τ : Type}

def begins (run : Nat) : Happening τ → Bool
  | started _ other => other == run
  | _ => false

def succeeds (name : String) : Happening τ → Bool
  | succeeded other _ => other == name
  | _ => false

def others? (name : String) : Happening τ → Option Nat
  | released other others => if other = name then some others else none
  | _ => none

def lastOthers? (name : String) (history : List (Happening τ)) : Option Nat :=
  history.findSome? (·.others? name)

end Happening

/-- Callers who use one cache at the same time. Each request is a number of steps, between which
other callers take theirs; a schedule says who is next. The latest happening stands first. -/
structure Crowd (τ : Type) where
  shared : Shared τ
  callers : List (Caller τ)
  history : List (Happening τ)

/-- One step of one caller. -/
inductive Move (τ : Type) where
  | go (caller : Nat)
  | finish (caller : Nat) (outcome : Except Failure τ)

def Move.caller {τ : Type} : Move τ → Nat
  | go i | finish i _ => i

namespace Crowd

variable {τ : Type}

/-- Callers who share a new cache, each with the names that it is going to request. -/
def start (programs : List (List String)) : Crowd τ :=
  ⟨Shared.empty, programs.map fun names => ⟨.idle, names⟩, []⟩

def holders (m : Crowd τ) (k : Nat) : Nat :=
  m.callers.countP (·.holds k)

def claimants (m : Crowd τ) (k : Nat) : Nat :=
  m.callers.countP (·.claims k)

def compilers (m : Crowd τ) (k : Nat) : Nat :=
  m.callers.countP (·.compilesIn k)

/-- Whether no request is in progress. -/
def Quiet (m : Crowd τ) : Prop :=
  ∀ caller ∈ m.callers, caller.isIdle

def turn (m : Crowd τ) (i : Nat) (shared : Shared τ) (caller : Caller τ)
    (events : List (Happening τ)) : Crowd τ :=
  ⟨shared, m.callers.set i caller, events ++ m.history⟩

/-- The next step of a request that has a handle on a slot. A caller that has read an empty slot
waits while another one is in it. -/
def proceed (m : Crowd τ) (name : String) (k : Nat) :
    Stage τ → Option (Shared τ × Phase τ × List (Happening τ))
  | .holding =>
    match (m.shared.slots k).content with
    | some product => some (m.shared.countHit, .visiting name k (.leaving (.ok product)), [])
    | none => some (m.shared, .visiting name k .waiting, [])
  | .waiting =>
    match (m.shared.slots k).content with
    | some product => some (m.shared.countHit, .visiting name k (.leaving (.ok product)), [])
    | none =>
      let run := m.shared.misses + 1
      if (m.shared.slots k).busy then none
      else some (m.shared.enter k, .visiting name k (.compiling run), [.started name run])
  | .compiling _ => none
  | .failing failure =>
    some (m.shared.release name k, .visiting name k (.leaving (.error failure)),
      [.released name (m.holders k - 1)])
  | .leaving result => some (m.shared.drop k, .idle, [.returned name result])

def conclude (m : Crowd τ) (name : String) (k : Nat) (outcome : Except Failure τ) :
    Stage τ → Option (Shared τ × Phase τ × List (Happening τ))
  | .compiling run =>
    match outcome with
    | .ok template =>
      let product := ⟨run, template⟩
      some (m.shared.fill k product, .visiting name k (.leaving (.ok product)),
        [.succeeded name product])
    | .error failure =>
      some (m.shared.vacate k, .visiting name k (.failing failure), [.failed name failure])
  | _ => none

def go (m : Crowd τ) (i : Nat) : Caller τ → Option (Crowd τ)
  | ⟨.idle, []⟩ => none
  | ⟨.idle, name :: rest⟩ =>
    match m.shared.find? name with
    | some k => some (m.turn i (m.shared.hold k) ⟨.visiting name k .holding, rest⟩ [])
    | none => some (m.turn i m.shared ⟨.absent name, rest⟩ [])
  | ⟨.absent name, rest⟩ =>
    let (shared, k) := m.shared.findOrAdd name
    some (m.turn i shared ⟨.visiting name k .holding, rest⟩ [])
  | ⟨.visiting name k stage, rest⟩ =>
    (m.proceed name k stage).map fun (shared, phase, events) =>
      m.turn i shared ⟨phase, rest⟩ events

def finish (m : Crowd τ) (i : Nat) (outcome : Except Failure τ) : Caller τ → Option (Crowd τ)
  | ⟨.visiting name k stage, rest⟩ =>
    (m.conclude name k outcome stage).map fun (shared, phase, events) =>
      m.turn i shared ⟨phase, rest⟩ events
  | _ => none

def step (m : Crowd τ) : Move τ → Option (Crowd τ)
  | .go i => m.callers[i]?.bind (m.go i)
  | .finish i outcome => m.callers[i]?.bind (m.finish i outcome)

/-- All steps of a schedule, if each can be taken when it comes. -/
def run (m : Crowd τ) : List (Move τ) → Option (Crowd τ)
  | [] => some m
  | move :: schedule => (m.step move).bind (run · schedule)

end Crowd

end Stencil
