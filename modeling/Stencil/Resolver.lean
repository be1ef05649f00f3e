import Stencil.Cache
import Stencil.Template.Compiled

namespace Stencil

open Template (Compiled)

/-- A compiled template and the number of the compilation that it comes from. -/
structure Edition where
  serial : Nat
  template : Compiled

/-- What templates are made from. -/
structure Workshop (ω : Type) where
  supply : ω
  reads : Nat
  parses : Nat

structure Depot (ω : Type) where
  caches : List (Cache Edition)
  workshop : Workshop ω

/-- Resolvers that were made from one another share a cache; one that is made new has its own. -/
structure Resolver (ω : Type) where
  cache : Nat
  engine : Engine
  read : String → ω → Except File.Error (Option String) × ω

variable {ω : Type}

namespace Depot

def new (supply : ω) : Depot ω := ⟨[], ⟨supply, 0, 0⟩⟩

def resolver (engine : Engine) (read : String → ω → Except File.Error (Option String) × ω)
    (d : Depot ω) : Resolver ω × Depot ω :=
  (⟨d.caches.length, engine, read⟩, { d with caches := d.caches ++ [Cache.empty] })

def cacheOf (d : Depot ω) (r : Resolver ω) : Cache Edition :=
  d.caches[r.cache]?.getD Cache.empty

def onCache {α : Type} (index : Nat) (step : Traced (Cache Edition × Workshop ω) α) :
    Traced (Depot ω) α := fun d =>
  let ((a, cache, workshop), signals) := step (d.caches[index]?.getD Cache.empty, d.workshop)
  ((a, ⟨d.caches.set index cache, workshop⟩), signals)

end Depot

namespace Resolver

def fetch (r : Resolver ω) (name : String) :
    Traced (Workshop ω) (Except File.Error (Option String)) := fun w =>
  let (answer, supply) := r.read name w.supply
  ((answer, { w with supply, reads := w.reads + 1 }), [])

def parse (r : Resolver ω) (name source : String) :
    Traced (Workshop ω) (Except Failure Edition) := fun w =>
  (((r.engine.compile name source).map fun template => ⟨w.parses, template⟩,
    { w with parses := w.parses + 1 }), [])

def compile (r : Resolver ω) (name : String) :
    Traced (Workshop ω) (Except Failure Edition) := do
  match ← r.fetch name with
  | .error e => pure (.error (.unreadable name e))
  | .ok none => pure (.error (.absent name))
  | .ok (some source) =>
    match ← r.parse name source with
    | .error failure => pure (.error failure)
    | .ok edition => do
      Traced.emit (.compiled name source.utf8ByteSize)
      pure (.ok edition)

/-- The template of a name, compiled when it is first asked for. -/
def resolve (r : Resolver ω) (name : String) : Traced (Depot ω) (Except Failure Edition) :=
  Depot.onCache r.cache (Cache.request name (Traced.onSecond (r.compile name)))

def clone (r : Resolver ω) : Resolver ω := r

end Resolver

def Depot.describe (d : Depot ω) (r : Resolver ω) : String :=
  "TemplateResolver \x7b cache: " ++ (d.cacheOf r).describe ++ ", .. \x7d"

end Stencil
