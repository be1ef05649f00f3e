import Stencil.Proofs.Cache.Request
import Stencil.Proofs.Cache.Script
import Stencil.Proofs.Trace

namespace Stencil

variable {τ σ : Type}

open Shared (Opens)

theorem Script.run_request {name : String} {compile : Script τ σ}
    (next : Except Failure τ → Script τ σ) {c after : Cache τ} {n noted : Notes τ σ}
    {result : Except Failure τ} {signals : List Signal}
    (answered : Cache.request name (noting name compile.run) (c, n) =
      ((result, after, noted), signals)) :
    ((request name compile next).run (c, n)).1 =
      ((next result).run (after, noted.add (.requested name result))).1 := by
  simp only [run]
  rw [Traced.bind_eq answered, Traced.modify_bind]

/-- A compile function that runs, in a slot, and what is done with the answer to its request. -/
structure Pending (τ σ : Type) where
  name : String
  slot : Nat
  run : Nat
  next : Except Failure τ → Script τ σ

inductive Deed where
  | asked (name : String)
  | compiled (name : String)
  | failed (name : String)

namespace Deed

def begins : Deed → Bool
  | asked _ => true
  | compiled _ | failed _ => false

def compiled? : Deed → Option String
  | compiled name => some name
  | asked _ | failed _ => none

end Deed

/-- The program, or the compile function that stands first among those that run, is about to do
something. The latest deed stands first. -/
structure Moment (τ σ : Type) where
  script : Script τ σ
  pending : List (Pending τ σ)
  shared : Shared τ
  notes : Notes τ σ
  deeds : List Deed

namespace Moment

def start (script : Script τ σ) (state : σ) : Moment τ σ :=
  ⟨script, [], Shared.empty, ⟨state, []⟩, []⟩

def begun (m : Moment τ σ) : Nat :=
  m.deeds.countP Deed.begins

def compiled (m : Moment τ σ) : List String :=
  m.deeds.filterMap Deed.compiled?

def names (m : Moment τ σ) : List String :=
  m.pending.map (·.name)

def inside (m : Moment τ σ) : List (String × Nat) :=
  m.pending.map fun p => (p.name, p.slot)

/-- A request begins: it is answered, or its compile function runs. It waits for ever if another
one is in the slot. -/
def request (m : Moment τ σ) (name : String) (compile : Script τ σ)
    (next : Except Failure τ → Script τ σ) : Option (Moment τ σ) :=
  let (s, k) := m.shared.findOrAdd name
  match (s.slots k).content with
  | some product => some
    { m with
      script := next (.ok product.template)
      shared := s.countHit.drop k
      notes := m.notes.add (.requested name (.ok product.template))
      deeds := .asked name :: m.deeds }
  | none =>
    if (s.slots k).busy then none
    else some
      ⟨compile, ⟨name, k, s.misses + 1, next⟩ :: m.pending, s.enter k,
        m.notes.add (.compiling name), .asked name :: m.deeds⟩

def finish (m : Moment τ σ) (p : Pending τ σ) (rest : List (Pending τ σ)) :
    Except Failure τ → Moment τ σ
  | .ok template =>
    ⟨p.next (.ok template), rest, (m.shared.fill p.slot ⟨p.run, template⟩).drop p.slot,
      m.notes.add (.requested p.name (.ok template)), .compiled p.name :: m.deeds⟩
  | .error failure =>
    ⟨p.next (.error failure), rest,
      ((m.shared.vacate p.slot).release p.name p.slot).drop p.slot,
      m.notes.add (.requested p.name (.error failure)), .failed p.name :: m.deeds⟩

def tell (m : Moment τ σ) (answer : Answer τ) (script : Script τ σ) : Moment τ σ :=
  { m with script, notes := m.notes.add answer }

def step (m : Moment τ σ) : Option (Moment τ σ) :=
  match m.script with
  | .finish result =>
    match m.pending with
    | [] => none
    | p :: rest => some (m.finish p rest result)
  | .request name compile next => m.request name compile next
  | .contains name next =>
    some (m.tell (.contained name (m.shared.contains name)) (next (m.shared.contains name)))
  | .length next => some (m.tell (.counted m.shared.length) (next m.shared.length))
  | .isEmpty next => some (m.tell (.emptiness m.shared.isEmpty) (next m.shared.isEmpty))
  | .consult next => some { m with script := next m.notes.state }
  | .change change next => some { m with script := next, notes := m.notes.change change }

/-- The moment so many steps later, if the run goes on so long. -/
def after : Nat → Moment τ σ → Option (Moment τ σ)
  | 0, m => some m
  | n + 1, m => m.step.bind (after n)

/-- How compile functions that run come to an end one after the other, and then the program, when
the innermost has ended. -/
def resume : List (Pending τ σ) → Except Failure τ × Cache τ × Notes τ σ →
    Except Failure τ × Cache τ × Notes τ σ
  | [], ended => ended
  | p :: rest, (result, c, n) =>
    let c := match result with
      | .ok template => c.fill p.name template
      | .error _ => c.release p.name
    resume rest ((p.next result).run (c, n.add (.requested p.name result))).1

def outcome (m : Moment τ σ) : Except Failure τ × Cache τ × Notes τ σ :=
  resume m.pending (m.script.run (m.shared.cache, m.notes)).1

inductive Move (m later : Moment τ σ) : Prop where
  | told : later.pending = m.pending → later.shared = m.shared → later.deeds = m.deeds →
      Move m later
  | hit {name} : (m.shared.cache.get? name).isSome → later.pending = m.pending →
      later.shared.cache = m.shared.cache.countHit → later.deeds = .asked name :: m.deeds →
      Move m later
  | entered {p} : p.name ∉ m.names → m.shared.cache.get? p.name = none →
      later.pending = p :: m.pending → later.shared.cache = m.shared.cache.reserve p.name →
      later.deeds = .asked p.name :: m.deeds → Move m later
  | filled {p template} : m.pending = p :: later.pending →
      later.shared.cache = m.shared.cache.fill p.name template →
      later.deeds = .compiled p.name :: m.deeds → Move m later
  | released {p} : m.pending = p :: later.pending →
      later.shared.cache = m.shared.cache.release p.name →
      later.deeds = .failed p.name :: m.deeds → Move m later

structure Advance (m later : Moment τ σ) : Prop where
  settled : later.shared.Settled later.inside
  outcome : later.outcome = m.outcome
  move : Move m later

variable {m later : Moment τ σ}

theorem mem_names {name : String} (member : name ∈ m.names) : ∃ k, (name, k) ∈ m.inside := by
  obtain ⟨p, inside, rfl⟩ := List.mem_map.mp member
  exact ⟨p.slot, List.mem_map.mpr ⟨p, inside, rfl⟩⟩

theorem mem_names_of_inside {name : String} {k : Nat} (member : (name, k) ∈ m.inside) :
    name ∈ m.names := by
  obtain ⟨p, inside, same⟩ := List.mem_map.mp member
  cases same
  exact List.mem_map.mpr ⟨p, inside, rfl⟩

section Request

variable {name : String} {compile : Script τ σ} {next : Except Failure τ → Script τ σ}

theorem advance_hit (settled : m.shared.Settled m.inside)
    (script : m.script = .request name compile next) {product : Product τ}
    (filled : m.shared.get? name = some product) :
    Advance m
      { m with
        script := next (.ok product.template)
        shared := m.shared.countHit
        notes := m.notes.add (.requested name (.ok product.template))
        deeds := .asked name :: m.deeds } := by
  have found : m.shared.cache.get? name = some product.template := by
    rw [Shared.get?_cache, filled, Option.map_some]
  refine ⟨⟨settled.toTidy.of_same rfl rfl, settled.within, settled.without⟩, ?_, ?_⟩
  · have answered : Cache.request name (noting name compile.run) (m.shared.cache, m.notes) =
        ((.ok product.template, m.shared.cache.countHit, m.notes),
          [.event (.lookup name true)]) := Cache.request_hit found
    simp only [outcome, script, Script.run_request next answered]
    rfl
  · exact .hit (by rw [found, Option.isSome_some]) rfl rfl rfl

theorem advance_entered (settled : m.shared.Settled m.inside)
    (script : m.script = .request name compile next) {opened : Shared τ} {k run : Nat}
    (absent : m.shared.get? name = none) (free : name ∉ m.names)
    (opens : Opens m.shared opened name k) :
    Advance m
      ⟨compile, ⟨name, k, run, next⟩ :: m.pending, opened, m.notes.add (.compiling name),
        .asked name :: m.deeds⟩ := by
  have outside (j : Nat) : (name, j) ∉ m.inside := fun member => free (mem_names_of_inside member)
  have vacant : m.shared.cache.get? name = none := by
    rw [Shared.get?_cache, absent, Option.map_none]
  have reserved : opened.cache = m.shared.cache.reserve name :=
    opens.cache_eq settled.ascending absent
  refine ⟨settled.opened outside opens, ?_, .entered free vacant rfl reserved rfl⟩
  -- The compile function runs as before; what comes after it is what is pending now.
  rcases ran : compile.run (m.shared.cache.reserve name, m.notes.add (.compiling name))
    with ⟨⟨result, c, n⟩, signals⟩
  have inner : noting name compile.run (m.shared.cache.reserve name, m.notes) =
      ((result, c, n), signals) := ran
  cases result with
  | ok template =>
    have outer := Script.run_request next (Cache.request_filled vacant inner)
    simp only [outcome, resume, script, reserved, ran, outer]
  | error failure =>
    have outer := Script.run_request next (Cache.request_released vacant inner)
    simp only [outcome, resume, script, reserved, ran, outer]

theorem advance_request (settled : m.shared.Settled m.inside)
    (script : m.script = .request name compile next)
    (requested : m.request name compile next = some later) : Advance m later := by
  cases leads : m.shared.find? name with
  | none =>
    have free : name ∉ m.names := fun member => by
      obtain ⟨k, inside⟩ := mem_names member
      rw [(settled.within inside).1] at leads
      cases leads
    have absent : m.shared.get? name = none := by rw [Shared.get?, leads, Option.bind_none]
    have new : ((m.shared.add name).slots m.shared.next) = ⟨none, false, 2⟩ := by
      simp [Shared.add, Shared.update]
    simp only [request, Shared.findOrAdd, leads, new, Bool.false_eq_true, ite_false,
      Option.some.injEq] at requested
    subst requested
    exact advance_entered settled script absent free (Opens.of_absent settled)
  | some k =>
    have content : ((m.shared.hold k).slots k).content = m.shared.get? name := by
      rw [Shared.hold_content, Shared.get?_of_find? leads]
    simp only [request, Shared.findOrAdd, leads, content] at requested
    cases filled : m.shared.get? name with
    | some product =>
      have same : (m.shared.hold k).countHit.drop k = m.shared.countHit :=
        congrArg Shared.countHit (m.shared.drop_hold k)
      simp only [filled, same, Option.some.injEq] at requested
      subst requested
      exact advance_hit settled script filled
    | none =>
      simp only [filled, Shared.hold_busy] at requested
      cases busy : (m.shared.slots k).busy with
      | true => simp [busy] at requested
      | false =>
        -- Whoever is in a slot keeps it busy, so nobody is in this one.
        have free : name ∉ m.names := fun member => by
          obtain ⟨j, inside⟩ := mem_names member
          obtain ⟨leadsToo, _, occupied, _⟩ := settled.within inside
          rw [leads, Option.some.injEq] at leadsToo
          rw [← leadsToo, busy] at occupied
          cases occupied
        have outside (j : Nat) : (name, j) ∉ m.inside := fun member =>
          free (mem_names_of_inside member)
        have vacant : (m.shared.slots k).content = none := by
          rw [← Shared.get?_of_find? leads, filled]
        simp only [busy, Bool.false_eq_true, ite_false, Option.some.injEq] at requested
        subst requested
        exact advance_entered settled script filled free
          (Opens.of_found settled outside leads vacant)

end Request

theorem advance_finish (settled : m.shared.Settled m.inside) (apart : m.names.Nodup)
    {result : Except Failure τ} (script : m.script = .finish result) {p : Pending τ σ}
    {rest : List (Pending τ σ)} (pending : m.pending = p :: rest) :
    Advance m (m.finish p rest result) := by
  have inside : m.inside = (p.name, p.slot) :: rest.map fun p => (p.name, p.slot) := by
    rw [Moment.inside, pending, List.map_cons]
  have free (k : Nat) : (p.name, k) ∉ rest.map fun p => (p.name, p.slot) := fun member => by
    obtain ⟨q, among, same⟩ := List.mem_map.mp member
    rw [names, pending, List.map_cons, List.nodup_cons] at apart
    exact apart.1 (List.mem_map.mpr ⟨q, among, congrArg Prod.fst same⟩)
  rw [inside] at settled
  cases result with
  | ok template =>
    have cache := settled.cache_filled ⟨p.run, template⟩
    refine ⟨settled.filled free _, ?_, .filled pending cache rfl⟩
    simp only [outcome, finish, script, pending, cache]
    rfl
  | error failure =>
    refine ⟨settled.failed free, ?_, .released pending settled.cache_failed rfl⟩
    simp only [outcome, finish, script, pending, settled.cache_failed]
    rfl

theorem step_advance (settled : m.shared.Settled m.inside) (apart : m.names.Nodup)
    (stepped : m.step = some later) : Advance m later := by
  cases script : m.script with
  | finish result =>
    cases pending : m.pending <;> simp only [step, script, pending, reduceCtorEq,
      Option.some.injEq] at stepped
    subst stepped
    exact advance_finish settled apart script pending
  | request name compile next =>
    simp only [step, script] at stepped
    exact advance_request settled script stepped
  | contains name next =>
    simp only [step, script, Option.some.injEq] at stepped
    subst stepped
    refine ⟨settled, ?_, .told rfl rfl rfl⟩
    simp only [outcome, tell, script, Script.run]
    rw [Traced.get_bind, Traced.modify_bind, Shared.contains_cache]
  | length next =>
    simp only [step, script, Option.some.injEq] at stepped
    subst stepped
    refine ⟨settled, ?_, .told rfl rfl rfl⟩
    simp only [outcome, tell, script, Script.run]
    rw [Traced.get_bind, Traced.modify_bind, Shared.length_cache]
  | isEmpty next =>
    simp only [step, script, Option.some.injEq] at stepped
    subst stepped
    refine ⟨settled, ?_, .told rfl rfl rfl⟩
    simp only [outcome, tell, script, Script.run]
    rw [Traced.get_bind, Traced.modify_bind, Shared.isEmpty_cache]
  | consult next =>
    simp only [step, script, Option.some.injEq] at stepped
    subst stepped
    refine ⟨settled, ?_, .told rfl rfl rfl⟩
    simp only [outcome, script, Script.run]
    rw [Traced.get_bind]
  | change change next =>
    simp only [step, script, Option.some.injEq] at stepped
    subst stepped
    refine ⟨settled, ?_, .told rfl rfl rfl⟩
    simp only [outcome, script, Script.run]
    rw [Traced.modify_bind]

end Moment

end Stencil
