import Stencil.Table
import Stencil.Trace

namespace Stencil

/-- A name has a slot from the moment its template is first asked for. The slot is filled when the
template has been compiled, and removed when that fails. -/
structure Cache (τ : Type) where
  slots : List (String × Option τ)
  hits : Nat
  misses : Nat
  compilations : Nat
  failures : Nat

structure Stats where
  entries : Nat
  hits : Nat
  misses : Nat
  compilations : Nat
  failures : Nat
  deriving DecidableEq, Repr

namespace Stats

/-- The part of the requests that were answered from the cache; none of none is 0. -/
def hitRate (s : Stats) : Float :=
  if s.hits + s.misses = 0 then 0
  else (UInt64.ofNat s.hits).toFloat / (UInt64.ofNat (s.hits + s.misses)).toFloat

def describe (s : Stats) : String :=
  "CacheStats \x7b entries: " ++ toString s.entries ++ ", hits: " ++ toString s.hits ++
    ", misses: " ++ toString s.misses ++ ", compilations: " ++ toString s.compilations ++
    ", failures: " ++ toString s.failures ++ " \x7d"

end Stats

namespace Cache

variable {τ σ : Type}

def empty : Cache τ := ⟨[], 0, 0, 0, 0⟩

def get? (c : Cache τ) (name : String) : Option τ :=
  (Table.get? name c.slots).join

def contains (c : Cache τ) (name : String) : Bool :=
  (c.get? name).isSome

def length (c : Cache τ) : Nat :=
  c.slots.countP fun slot => slot.2.isSome

def isEmpty (c : Cache τ) : Bool :=
  c.length == 0

def stats (c : Cache τ) : Stats :=
  ⟨c.length, c.hits, c.misses, c.compilations, c.failures⟩

def describe (c : Cache τ) : String :=
  "TemplateCache \x7b stats: " ++ c.stats.describe ++ ", .. \x7d"

def countHit (c : Cache τ) : Cache τ :=
  { c with hits := c.hits + 1 }

def reserve (c : Cache τ) (name : String) : Cache τ :=
  { c with
    slots := if (Table.get? name c.slots).isSome then c.slots else Table.insert name none c.slots
    misses := c.misses + 1 }

def fill (c : Cache τ) (name : String) (template : τ) : Cache τ :=
  { c with
    slots := Table.insert name (some template) c.slots
    compilations := c.compilations + 1 }

def release (c : Cache τ) (name : String) : Cache τ :=
  { c with
    slots := if c.contains name then c.slots else Table.erase name c.slots
    failures := c.failures + 1 }

/-- The template of a name, compiled by `compile` if the cache does not have it. -/
def request (name : String) (compile : Traced (Cache τ × σ) (Except Failure τ)) :
    Traced (Cache τ × σ) (Except Failure τ) := do
  match (← Traced.get).1.get? name with
  | some template => do
    Traced.modify fun (c, s) => (c.countHit, s)
    Traced.emit (.lookup name true)
    pure (.ok template)
  | none => do
    Traced.modify fun (c, s) => (c.reserve name, s)
    Traced.emit (.lookup name false)
    match ← compile with
    | .ok template => do
      Traced.modify fun (c, s) => (c.fill name template, s)
      pure (.ok template)
    | .error failure => do
      Traced.modify fun (c, s) => (c.release name, s)
      Traced.emit (.notCompiled name failure.kind)
      pure (.error failure)

end Cache

end Stencil
