import Stencil.Json.Printer

namespace Stencil

open Json (Value)

structure Context where
  entries : List (String × Value)
  ascending : Table.Ascending entries

namespace Context

def empty : Context := ⟨[], List.Pairwise.nil⟩

def insert (c : Context) (name : String) (v : Value) : Context :=
  ⟨Table.insert name v c.entries, c.ascending.insert name v⟩

/-- Later pairs win. -/
def ofPairs (pairs : List (String × Value)) : Context :=
  pairs.foldl (fun c pair => c.insert pair.1 pair.2) empty

def get? (c : Context) (name : String) : Option Value :=
  Table.get? name c.entries

def contains (c : Context) (name : String) : Bool :=
  Table.contains name c.entries

def length (c : Context) : Nat :=
  c.entries.length

def isEmpty (c : Context) : Bool :=
  c.entries.isEmpty

def value (c : Context) : Value :=
  .object c.entries

def same (c d : Context) : Bool :=
  c.value.same d.value

def print (c : Context) : String :=
  c.value.print

end Context

end Stencil
