import Stencil.Proofs.Task.Course

namespace Stencil

open Json (Value)

def slowBound : Nat := 250

structure Shown where
  level : Level
  message : String
  fields : List (String × Value)

/-- How an event is shown; how a compilation is shown depends on how long it took. -/
def Event.shown (elapsed : Nat) : Event → Shown
  | .compiled template size =>
    let took := [("template", .string template), ("elapsed_ms", .ofNat elapsed)]
    if slowBound < elapsed then
      ⟨.warn, "slow template compilation",
        took ++ [("threshold_ms", .ofNat slowBound), ("source_len", .ofNat size)]⟩
    else ⟨.debug, "template compiled", took ++ [("source_len", .ofNat size)]⟩
  | e => ⟨e.level, e.message, e.fields⟩

inductive Mark where
  | hit
  | miss
  | compilation
  | failure
  deriving DecidableEq

/-- What is counted with an event, by what is shown of it. -/
def Shown.mark? (s : Shown) : Option Mark :=
  if s.message = "template cache lookup" then
    match (s.fields.lookup "lookup").bind Value.string? with
    | some "hit" => some .hit
    | some "miss" => some .miss
    | _ => none
  else if s.message = "template compiled" ∨ s.message = "slow template compilation" then
    some .compilation
  else if s.message = "template compilation failed; nothing cached" then some .failure
  else none

namespace Signal

def shown (pace : Nat → Nat) : List Signal → List Shown
  | [] => []
  | .event e :: signals => e.shown (pace 0) :: shown (fun n => pace (n + 1)) signals
  | _ :: signals => shown (fun n => pace (n + 1)) signals

def mark? : Signal → Option Mark
  | .event (.lookup _ true) => some .hit
  | .event (.lookup _ false) => some .miss
  | .event (.compiled _ _) => some .compilation
  | .event (.notCompiled _ _) => some .failure
  | _ => none

theorem mark_shown (e : Event) (elapsed : Nat) : (e.shown elapsed).mark? = mark? (.event e) := by
  cases e with
  | lookup template hit => cases hit <;> rfl
  | compiled template size =>
    by_cases slow : slowBound < elapsed
    · rw [Event.shown, if_pos slow]; rfl
    · rw [Event.shown, if_neg slow]; rfl
  | notCompiled | notRequired | generating | generated | failed | configured | installed => rfl

theorem marks_shown (pace : Nat → Nat) (signals : List Signal) :
    (shown pace signals).filterMap Shown.mark? = signals.filterMap mark? := by
  induction signals generalizing pace with
  | nil => rfl
  | cons s signals ih =>
    cases s with
    | event e => rw [shown, List.filterMap_cons, List.filterMap_cons, mark_shown, ih]
    | opened | recorded | closed => exact ih _

theorem marks_idle {signals : List Signal} (idle : ∀ s ∈ signals, ¬s.Seeks) :
    signals.filterMap mark? = [] := by
  refine List.filterMap_eq_nil_iff.mpr fun s member => ?_
  have silent := idle s member
  cases s with
  | opened | recorded | closed => rfl
  | event e =>
    cases e with
    | lookup | compiled | notCompiled => exact absurd trivial silent
    | notRequired | generating | generated | failed | configured | installed => rfl

end Signal

variable {ρ π ω : Type}

/-- A name that a resolver is asked for, and the depot at that time. -/
structure Request (ω : Type) where
  depot : Depot ω
  name : String

namespace Request

def answer (r : Resolver ω) (q : Request ω) : Except Failure Edition :=
  (r.resolve q.name q.depot).1.1

def source (r : Resolver ω) (q : Request ω) : Except File.Error (Option String) :=
  (r.read q.name q.depot.workshop.supply).1

/-- Signals tell of requests, in their order and without a gap: of each that it was answered from
the cache, or that it was not, and then at once what came of that. -/
inductive Tell (r : Resolver ω) : List (Request ω) → List Signal → Prop where
  | nil : Tell r [] []
  | other {s requests signals} : ¬s.Seeks → Tell r requests signals → Tell r requests (s :: signals)
  | hit {q edition requests signals} : answer r q = .ok edition → Tell r requests signals →
      Tell r (q :: requests) (.event (.lookup q.name true) :: signals)
  | compiled {q edition text requests signals} : answer r q = .ok edition →
      source r q = .ok (some text) → Tell r requests signals →
      Tell r (q :: requests)
        (.event (.lookup q.name false) :: .event (.compiled q.name text.utf8ByteSize) :: signals)
  | failed {q failure requests signals} : answer r q = .error failure → Tell r requests signals →
      Tell r (q :: requests)
        (.event (.lookup q.name false) :: .event (.notCompiled q.name failure.kind) :: signals)

variable {r : Resolver ω}

theorem Tell.append {requests others : List (Request ω)} {signals later : List Signal}
    (tell : Tell r requests signals) (tellToo : Tell r others later) :
    Tell r (requests ++ others) (signals ++ later) := by
  induction tell with
  | nil => exact tellToo
  | other idle _ ih => exact .other idle ih
  | hit answered _ ih => exact .hit answered ih
  | compiled answered read _ ih => exact .compiled answered read ih
  | failed answered _ ih => exact .failed answered ih

theorem tell_idle {signals : List Signal} (idle : ∀ s ∈ signals, ¬s.Seeks) :
    Tell r [] signals := by
  induction signals with
  | nil => exact .nil
  | cons s signals ih =>
    have others := ih fun s member => idle s (List.mem_cons_of_mem _ member)
    exact .other (idle s List.mem_cons_self) others

theorem tell_resolve (r : Resolver ω) (d : Depot ω) (name : String) :
    Tell r [⟨d, name⟩] (r.resolve name d).2 := by
  have tells := Resolver.resolve_tells r d name
  rcases resolved : r.resolve name d with ⟨⟨result, after⟩, signals⟩
  have answered : answer r ⟨d, name⟩ = result := by rw [answer, resolved]
  rw [resolved] at tells
  cases tells with
  | kept found => exact .hit answered .nil
  | filled absent compiled read => exact .compiled answered read .nil
  | released absent compiled => exact .failed answered .nil

end Request

structure Balanced (c : Cache Edition) (marks : List Mark) : Prop where
  hits : marks.count .hit = c.hits
  misses : marks.count .miss = c.misses
  compilations : marks.count .compilation = c.compilations
  failures : marks.count .failure = c.failures

theorem Balanced.tells {r : Resolver ω} {d after : Depot ω} {marks : List Mark} {name : String}
    {result : Except Failure Edition} {signals : List Signal} (within : r.Within d)
    (balanced : Balanced (d.cacheOf r) marks) (tells : r.Tells d name result after signals) :
    Balanced (after.cacheOf r) (marks ++ signals.filterMap Signal.mark?) := by
  obtain ⟨hits, misses, compilations, failures⟩ := balanced
  cases tells with
  | kept found =>
    rw [Resolver.cacheOf_put within.own]
    constructor <;> simp [Signal.mark?, Cache.countHit, *]
  | filled absent compiled read =>
    rw [Resolver.cacheOf_put within.own]
    constructor <;> simp [Signal.mark?, Cache.reserve, Cache.fill, *]
  | released absent compiled =>
    rw [Resolver.cacheOf_put within.own]
    constructor <;> simp [Signal.mark?, Cache.reserve, Cache.release, *]

inductive Asking (r : Resolver ω) (d : Depot ω) :
    Option String → Depot ω → List Signal → Prop where
  | none {signals} : (∀ s ∈ signals, ¬s.Seeks) → Asking r d none d signals
  | some {name result after front sought back} :
      r.resolve name d = ((result, after), sought) →
      (∀ s ∈ front, ¬s.Seeks) → (∀ s ∈ back, ¬s.Seeks) →
      Asking r d (some name) after (front ++ sought ++ back)

namespace Asking

variable {r : Resolver ω} {d after : Depot ω} {asked : Option String} {signals : List Signal}

theorem of_resolve (r : Resolver ω) (d : Depot ω) (name : String) :
    Asking r d (Option.some name) (r.resolve name d).1.2 (r.resolve name d).2 := by
  have sought : (r.resolve name d).2 = [] ++ (r.resolve name d).2 ++ [] := by
    rw [List.nil_append, List.append_nil]
  rw [sought]
  exact .some rfl nofun nofun

theorem framed (asking : Asking r d asked after signals) {first last : Signal}
    (idle : ¬first.Seeks) (idleToo : ¬last.Seeks) :
    Asking r d asked after (first :: (signals ++ [last])) := by
  cases asking with
  | none silent =>
    refine .none (List.forall_mem_cons.mpr ⟨idle, List.forall_mem_append.mpr ⟨silent, ?_⟩⟩)
    exact List.forall_mem_singleton.mpr idleToo
  | some resolved before behind =>
    rw [List.append_assoc, ← List.cons_append, ← List.cons_append]
    exact .some resolved (List.forall_mem_cons.mpr ⟨idle, before⟩)
      (List.forall_mem_append.mpr ⟨behind, List.forall_mem_singleton.mpr idleToo⟩)

theorem tell (asking : Asking r d asked after signals) :
    Request.Tell r (asked.toList.map (⟨d, ·⟩)) signals := by
  cases asking with
  | none silent => exact Request.tell_idle silent
  | @some name _ _ _ _ _ resolved before behind =>
    have told := Request.tell_resolve r d name
    rw [resolved] at told
    have whole := ((Request.tell_idle before).append told).append (Request.tell_idle behind)
    rwa [List.append_nil] at whole

theorem within (asking : Asking r d asked after signals) (within : r.Within d) :
    r.Within after := by
  cases asking with
  | none => exact within
  | @some name _ _ _ _ _ resolved =>
    have resolves := Resolver.resolve_resolves r d name
    rw [resolved] at resolves
    exact resolves.within within

theorem balanced (asking : Asking r d asked after signals) (within : r.Within d)
    {marks : List Mark} (balanced : Balanced (d.cacheOf r) marks) :
    Balanced (after.cacheOf r) (marks ++ signals.filterMap Signal.mark?) := by
  cases asking with
  | none silent => rwa [Signal.marks_idle silent, List.append_nil]
  | @some name _ _ _ _ _ resolved before behind =>
    have tells := Resolver.resolve_tells r d name
    rw [resolved] at tells
    rw [List.filterMap_append, List.filterMap_append, Signal.marks_idle before,
      Signal.marks_idle behind, List.nil_append, List.append_nil]
    exact balanced.tells within tells

end Asking

theorem Task.Goes.asking {t : Task ρ π ω} {name : String} {d after : Depot ω}
    {asked : Option String} {result : Except Failure (Option Artifact)} {inside : List Signal}
    (goes : t.Goes name d asked result after inside) :
    Asking t.resolver d asked after inside := by
  cases goes with
  | skipped | unnamed => exact .none (by simp [Signal.Seeks])
  | unresolved resolved | unrendered resolved | complete resolved =>
    exact .some resolved (by simp [Signal.Seeks]) (by simp [Signal.Seeks])

inductive Use (ρ π : Type) where
  | resolve (name : String)
  | execute (purpose : Purpose ρ π) (initiator annotated : Subject) (round : ρ)

namespace Use

def asks (r : Resolver ω) : Use ρ π → π → Option String
  | resolve name, _ => some name
  | execute purpose initiator annotated round, p =>
    (⟨purpose, initiator, annotated, r⟩ : Task ρ π ω).asks round p

def run (r : Resolver ω) : Use ρ π → Traced (Depot ω × π) Unit
  | resolve name => do
    let _ ← Traced.onFirst (r.resolve name)
    pure ()
  | execute purpose initiator annotated round => do
    let _ ← (⟨purpose, initiator, annotated, r⟩ : Task ρ π ω).execute round
    pure ()

def runAll (r : Resolver ω) : List (Use ρ π) → Traced (Depot ω × π) Unit
  | [] => pure ()
  | use :: uses => do
    use.run r
    runAll r uses

def requests (r : Resolver ω) : List (Use ρ π) → Depot ω × π → List (Request ω)
  | [], _ => []
  | use :: uses, s => (use.asks r s.2).toList.map (⟨s.1, ·⟩) ++ requests r uses (use.run r s).1.2

theorem run_asking (r : Resolver ω) (use : Use ρ π) (d : Depot ω) (p : π) :
    Asking r d (use.asks r p) (use.run r (d, p)).1.2.1 (use.run r (d, p)).2 := by
  cases use with
  | resolve name =>
    simp only [run, Traced.bind_apply, Traced.onFirst_apply, Traced.pure_apply, List.append_nil]
    exact .of_resolve r d name
  | execute purpose initiator annotated round =>
    simp only [run, Traced.bind_apply, Traced.pure_apply, List.append_nil, Task.execute_frame,
      Task.execute_perform]
    have asking := (Task.perform_goes ⟨purpose, initiator, annotated, r⟩ round d p).asking
    exact asking.framed (fun seeks => seeks) fun seeks => seeks

theorem runAll_tell (r : Resolver ω) (uses : List (Use ρ π)) (s : Depot ω × π) :
    Request.Tell r (requests r uses s) (runAll r uses s).2 := by
  induction uses generalizing s with
  | nil => exact .nil
  | cons use uses ih => exact (run_asking r use s.1 s.2).tell.append (ih _)

theorem runAll_balanced {r : Resolver ω} (uses : List (Use ρ π)) {s : Depot ω × π}
    {marks : List Mark} (within : r.Within s.1) (balanced : Balanced (s.1.cacheOf r) marks) :
    Balanced ((runAll r uses s).1.2.1.cacheOf r)
      (marks ++ (runAll r uses s).2.filterMap Signal.mark?) := by
  induction uses generalizing s marks with
  | nil => rwa [runAll, Traced.pure_apply, List.filterMap_nil, List.append_nil]
  | cons use uses ih =>
    have asking := run_asking r use s.1 s.2
    have others := ih (asking.within within) (asking.balanced within balanced)
    rwa [runAll, Traced.bind_apply, List.filterMap_append, ← List.append_assoc]

/-- However a new resolver is used, and however long each compilation takes: what is shown has as
many hits, misses, compilations and failures as the cache has counted, and what is told is what has
come of each request, one after the other. -/
theorem told_counted (d : Depot ω) (engine : Engine)
    (read : String → ω → Except File.Error (Option String) × ω) (uses : List (Use ρ π)) (p : π)
    (pace : Nat → Nat) :
    let (r, fresh) := d.resolver engine read
    let ((_, after, _), signals) := runAll r uses (fresh, p)
    let marks := (Signal.shown pace signals).filterMap Shown.mark?
    let stats := (after.cacheOf r).stats
    marks.count .hit = stats.hits ∧ marks.count .miss = stats.misses ∧
      marks.count .compilation = stats.compilations ∧ marks.count .failure = stats.failures ∧
      Request.Tell r (requests r uses (fresh, p)) signals := by
  have within := Resolver.within_new d engine read
  have start : Balanced ((d.resolver engine read).2.cacheOf (d.resolver engine read).1) [] := by
    rw [Resolver.cacheOf_new]
    exact ⟨rfl, rfl, rfl, rfl⟩
  have balanced := runAll_balanced uses (s := ((d.resolver engine read).2, p)) within start
  dsimp only
  rw [Signal.marks_shown]
  exact ⟨balanced.hits, balanced.misses, balanced.compilations, balanced.failures,
    runAll_tell _ uses _⟩

end Use

end Stencil
