import Mathlib.Data.Finmap
import Stencil.Cache

namespace Stencil

/-- What a program does is given by the answers it gets, and by a state of its own that its
compile functions share. -/
inductive Script (τ σ : Type) where
  | finish (result : Except Failure τ)
  | request (name : String) (compile : Script τ σ) (next : Except Failure τ → Script τ σ)
  | contains (name : String) (next : Bool → Script τ σ)
  | length (next : Nat → Script τ σ)
  | isEmpty (next : Bool → Script τ σ)
  | consult (next : σ → Script τ σ)
  | change (step : σ → σ) (next : Script τ σ)

inductive Answer (τ : Type) where
  | compiling (name : String)
  | requested (name : String) (result : Except Failure τ)
  | contained (name : String) (holds : Bool)
  | counted (entries : Nat)
  | emptiness (holds : Bool)

/-- The state of a program, and the answers it got, the latest first. -/
structure Notes (τ σ : Type) where
  state : σ
  answers : List (Answer τ)

variable {τ σ ρ α : Type}

namespace Notes

def add (n : Notes τ σ) (a : Answer τ) : Notes τ σ :=
  { n with answers := a :: n.answers }

def change (n : Notes τ σ) (step : σ → σ) : Notes τ σ :=
  { n with state := step n.state }

end Notes

def noting (name : String) (step : ρ × Notes τ σ → α) : ρ × Notes τ σ → α :=
  fun (r, n) => step (r, n.add (.compiling name))

/-- A finite map that has no slots, and in which nothing is in progress. -/
abbrev Memo (τ : Type) := Finmap fun _ : String => τ

def Memo.request (name : String) (compile : Memo τ × ρ → Except Failure τ × Memo τ × ρ) :
    Memo τ × ρ → Except Failure τ × Memo τ × ρ
  | (memo, r) =>
    match memo.lookup name with
    | some template => (.ok template, memo, r)
    | none =>
      match compile (memo, r) with
      | (.ok template, memo, r) => (.ok template, memo.insert name template, r)
      | (.error failure, memo, r) => (.error failure, memo, r)

namespace Script

def run : Script τ σ → Traced (Cache τ × Notes τ σ) (Except Failure τ)
  | finish result => pure result
  | request name compile next => do
    let result ← Cache.request name (noting name compile.run)
    Traced.modify fun (c, n) => (c, n.add (.requested name result))
    (next result).run
  | contains name next => do
    let (c, n) ← Traced.get
    Traced.modify fun _ => (c, n.add (.contained name (c.contains name)))
    (next (c.contains name)).run
  | length next => do
    let (c, n) ← Traced.get
    Traced.modify fun _ => (c, n.add (.counted c.length))
    (next c.length).run
  | isEmpty next => do
    let (c, n) ← Traced.get
    Traced.modify fun _ => (c, n.add (.emptiness c.isEmpty))
    (next c.isEmpty).run
  | consult next => do
    let (_, n) ← Traced.get
    (next n.state).run
  | change step next => do
    Traced.modify fun (c, n) => (c, n.change step)
    next.run

def denote : Script τ σ → Memo τ × Notes τ σ → Except Failure τ × Memo τ × Notes τ σ
  | finish result, (memo, n) => (result, memo, n)
  | request name compile next, (memo, n) =>
    let (result, memo, n) := Memo.request name (noting name compile.denote) (memo, n)
    (next result).denote (memo, n.add (.requested name result))
  | contains name next, (memo, n) =>
    let holds := decide (name ∈ memo)
    (next holds).denote (memo, n.add (.contained name holds))
  | length next, (memo, n) =>
    (next memo.keys.card).denote (memo, n.add (.counted memo.keys.card))
  | isEmpty next, (memo, n) =>
    let holds := decide (memo.keys = ∅)
    (next holds).denote (memo, n.add (.emptiness holds))
  | consult next, (memo, n) => (next n.state).denote (memo, n)
  | change step next, (memo, n) => next.denote (memo, n.change step)

/-- In a run on a memo, no name is requested while its compile function runs; it runs for the
given names to begin with. -/
def Avoids : Script τ σ → List String → Memo τ × Notes τ σ → Prop
  | finish _, _, _ => True
  | request name compile next, names, (memo, n) =>
    name ∉ names ∧
      (memo.lookup name = none → noting name (compile.Avoids (name :: names)) (memo, n)) ∧
      let (result, memo, n) := Memo.request name (noting name compile.denote) (memo, n)
      (next result).Avoids names (memo, n.add (.requested name result))
  | contains name next, names, (memo, n) =>
    let holds := decide (name ∈ memo)
    (next holds).Avoids names (memo, n.add (.contained name holds))
  | length next, names, (memo, n) =>
    (next memo.keys.card).Avoids names (memo, n.add (.counted memo.keys.card))
  | isEmpty next, names, (memo, n) =>
    let holds := decide (memo.keys = ∅)
    (next holds).Avoids names (memo, n.add (.emptiness holds))
  | consult next, names, (memo, n) => (next n.state).Avoids names (memo, n)
  | change step next, names, (memo, n) => next.Avoids names (memo, n.change step)

end Script

end Stencil
