import Stencil.Proofs.Cache.Content
import Stencil.Proofs.Store
import Stencil.Proofs.Trace
import Stencil.Resolver

namespace Stencil

open Template (Compiled)

variable {ω : Type}

def Engine.make (e : Engine) (answer : String → Except File.Error (Option String))
    (name : String) : Except Failure Compiled :=
  match answer name with
  | .error cause => .error (.unreadable name cause)
  | .ok none => .error (.absent name)
  | .ok (some source) => e.compile name source

namespace Resolver

/-- What becomes of a supply from which names are read. -/
def readAll (r : Resolver ω) (names : List String) (supply : ω) : ω :=
  names.foldl (fun supply name => (r.read name supply).2) supply

/-- Whatever has been read before, names are answered alike. -/
def Steady (r : Resolver ω) (supply : ω) (answer : String → Except File.Error (Option String)) :
    Prop :=
  ∀ before name, (r.read name (r.readAll before supply)).1 = answer name

theorem Steady.of_constant {r : Resolver ω} {supply : ω}
    (constant : ∀ name, (r.read name supply).2 = supply) :
    r.Steady supply fun name => (r.read name supply).1 := by
  have unchanged (before : List String) : r.readAll before supply = supply := by
    induction before with
    | nil => rfl
    | cons name rest ih =>
      unfold readAll at ih ⊢
      rw [List.foldl_cons, constant, ih]
  intro before name
  rw [unchanged]

theorem steady_library {r : Resolver Library} {l : Library} (reads : r.read = Library.read)
    (firm : l.store.Firm) : r.Steady l fun name => (l.store.read l.files name).1 := by
  have constant : ∀ name, (r.read name l).2 = l := by
    rw [reads]
    exact Library.read_firm firm
  have steady := Steady.of_constant constant
  rwa [reads] at steady

def resolveAll (r : Resolver ω) (names : List String) (d : Depot ω) : Depot ω :=
  names.foldl (fun d name => (r.resolve name d).1.2) d

variable {r : Resolver ω} {answer : String → Except File.Error (Option String)} {name : String}

inductive Compiles (r : Resolver ω) (name : String) (w : Workshop ω) :
    Except Failure Edition → Workshop ω → List Signal → Prop where
  | unreadable {cause} : (r.read name w.supply).1 = .error cause →
      Compiles r name w (.error (.unreadable name cause))
        ⟨(r.read name w.supply).2, w.reads + 1, w.parses⟩ []
  | absent : (r.read name w.supply).1 = .ok none →
      Compiles r name w (.error (.absent name))
        ⟨(r.read name w.supply).2, w.reads + 1, w.parses⟩ []
  | defective {source failure} : (r.read name w.supply).1 = .ok (some source) →
      r.engine.compile name source = .error failure →
      Compiles r name w (.error failure)
        ⟨(r.read name w.supply).2, w.reads + 1, w.parses + 1⟩ []
  | made {source template} : (r.read name w.supply).1 = .ok (some source) →
      r.engine.compile name source = .ok template →
      Compiles r name w (.ok ⟨w.parses, template⟩)
        ⟨(r.read name w.supply).2, w.reads + 1, w.parses + 1⟩
        [.event (.compiled name source.utf8ByteSize)]

theorem compile_compiles (r : Resolver ω) (name : String) (w : Workshop ω) :
    Compiles r name w (r.compile name w).1.1 (r.compile name w).1.2 (r.compile name w).2 := by
  have fetched : r.fetch name w =
      (((r.read name w.supply).1, ⟨(r.read name w.supply).2, w.reads + 1, w.parses⟩), []) := rfl
  unfold compile
  rw [Traced.bind_eq fetched]
  cases answered : (r.read name w.supply).1 with
  | error cause => exact .unreadable answered
  | ok found =>
    cases found with
    | none => exact .absent answered
    | some source =>
      dsimp only
      cases made : r.engine.compile name source with
      | error failure =>
        have parsed (w : Workshop ω) : r.parse name source w =
            ((.error failure, ⟨w.supply, w.reads, w.parses + 1⟩), []) := by
          simp only [parse, made, Except.map]
        rw [Traced.bind_eq (parsed _)]
        exact .defective answered made
      | ok template =>
        have parsed (w : Workshop ω) : r.parse name source w =
            ((.ok ⟨w.parses, template⟩, ⟨w.supply, w.reads, w.parses + 1⟩), []) := by
          simp only [parse, made, Except.map]
        rw [Traced.bind_eq (parsed _)]
        exact .made answered made

theorem compile_made {w : Workshop ω} (answers : (r.read name w.supply).1 = answer name) :
    ∃ result after signals, r.compile name w = ((result, after), signals) ∧
      result.map (·.template) = r.engine.make answer name ∧
      after.supply = (r.read name w.supply).2 := by
  have compiles := compile_compiles r name w
  rcases compiled : r.compile name w with ⟨⟨result, after⟩, signals⟩
  rw [compiled] at compiles
  refine ⟨result, after, signals, rfl, ?_⟩
  unfold Engine.make
  rw [← answers]
  cases compiles with
  | unreadable answered | absent answered =>
    rw [answered]
    exact ⟨rfl, rfl⟩
  | defective answered made | made answered made =>
    rw [answered]
    exact ⟨made.symm, rfl⟩

theorem onCache_eq {α : Type} {d : Depot ω} {step : Traced (Cache Edition × Workshop ω) α} {a : α}
    {cache : Cache Edition} {workshop : Workshop ω} {signals : List Signal}
    (done : step (d.cacheOf r, d.workshop) = ((a, cache, workshop), signals)) :
    Depot.onCache r.cache step d = ((a, ⟨d.caches.set r.cache cache, workshop⟩), signals) := by
  unfold Depot.cacheOf at done
  simp only [Depot.onCache, done]

/-- What the resolver keeps is what it would make, and only it has read the supply. -/
structure Faithful (r : Resolver ω) (supply : ω)
    (answer : String → Except File.Error (Option String)) (d : Depot ω) : Prop where
  own : r.cache < d.caches.length
  ascending : Table.Ascending (d.cacheOf r).slots
  reached : ∃ before, d.workshop.supply = r.readAll before supply
  made {name edition} : (d.cacheOf r).get? name = some edition →
    r.engine.make answer name = .ok edition.template

theorem cacheOf_new (d : Depot ω) (engine : Engine)
    (read : String → ω → Except File.Error (Option String) × ω) :
    (d.resolver engine read).2.cacheOf (d.resolver engine read).1 = Cache.empty := by
  simp [Depot.resolver, Depot.cacheOf]

theorem faithful_new (d : Depot ω) (engine : Engine)
    (read : String → ω → Except File.Error (Option String) × ω) :
    (d.resolver engine read).1.Faithful d.workshop.supply answer (d.resolver engine read).2 := by
  refine ⟨?_, ?_, ⟨[], rfl⟩, ?_⟩
  · simp [Depot.resolver]
  · rw [cacheOf_new]
    exact List.Pairwise.nil
  · intro name edition kept
    rw [cacheOf_new] at kept
    cases kept

variable {supply : ω} {d : Depot ω}

theorem Faithful.store (faithful : r.Faithful supply answer d) {cache : Cache Edition}
    {workshop : Workshop ω} (ascending : Table.Ascending cache.slots)
    (reached : ∃ before, workshop.supply = r.readAll before supply)
    (made : ∀ name edition, cache.get? name = some edition →
      r.engine.make answer name = .ok edition.template) :
    r.Faithful supply answer ⟨d.caches.set r.cache cache, workshop⟩ := by
  have same : (⟨d.caches.set r.cache cache, workshop⟩ : Depot ω).cacheOf r = cache := by
    simp [Depot.cacheOf, faithful.own]
  refine ⟨?_, ?_, reached, ?_⟩
  · rw [List.length_set]
    exact faithful.own
  · rw [same]
    exact ascending
  · rw [same]
    exact made _ _

theorem Faithful.resolve (faithful : r.Faithful supply answer d) (steady : r.Steady supply answer)
    (name : String) :
    ∃ result after signals, r.resolve name d = ((result, after), signals) ∧
      result.map (·.template) = r.engine.make answer name ∧ r.Faithful supply answer after := by
  cases kept : (d.cacheOf r).get? name with
  | some edition =>
    refine ⟨_, _, _, onCache_eq (Cache.request_hit kept), (faithful.made kept).symm, ?_⟩
    exact faithful.store faithful.ascending faithful.reached fun _ _ => faithful.made
  | none =>
    obtain ⟨before, reached⟩ := faithful.reached
    have answers : (r.read name d.workshop.supply).1 = answer name := by
      rw [reached]
      exact steady before name
    obtain ⟨result, workshop, signals, compiled, made, read⟩ := compile_made answers
    have onCache := Traced.onSecond_eq compiled ((d.cacheOf r).reserve name)
    have further : ∃ before, workshop.supply = r.readAll before supply := by
      refine ⟨before ++ [name], ?_⟩
      unfold readAll
      rw [List.foldl_append, read, reached]
      rfl
    have ascending : Table.Ascending ((d.cacheOf r).reserve name).slots :=
      Cache.ascending_reserve faithful.ascending
    cases result with
    | ok edition =>
      refine ⟨_, _, _, onCache_eq (Cache.request_filled kept onCache), made, ?_⟩
      refine faithful.store (Cache.ascending_fill ascending edition) further ?_
      intro query other found
      rw [Cache.get?_fill, Cache.get?_reserve] at found
      split at found
      · rename_i same
        cases found
        rw [same, ← made]
        rfl
      · exact faithful.made found
    | error failure =>
      refine ⟨_, _, _, onCache_eq (Cache.request_released kept onCache), made, ?_⟩
      refine faithful.store (Cache.ascending_release ascending) further ?_
      intro query other found
      rw [Cache.get?_release ascending, Cache.get?_reserve] at found
      exact faithful.made found

theorem Faithful.resolveAll (faithful : r.Faithful supply answer d)
    (steady : r.Steady supply answer) (names : List String) :
    r.Faithful supply answer (r.resolveAll names d) := by
  induction names generalizing d with
  | nil => exact faithful
  | cons name rest ih =>
    obtain ⟨result, after, signals, resolved, _, kept⟩ := faithful.resolve steady name
    have next := ih kept
    unfold Resolver.resolveAll at next ⊢
    rw [List.foldl_cons, resolved]
    exact next

/-- Whatever has been resolved before, resolving a name and rendering its template comes to the
same as reading, compiling and rendering it anew. -/
theorem render_resolved (d : Depot ω) (engine : Engine)
    (read : String → ω → Except File.Error (Option String) × ω)
    (steady : (d.resolver engine read).1.Steady d.workshop.supply answer) (before : List String)
    (name : String) (context : Context) :
    (((d.resolver engine read).1.resolve name
        ((d.resolver engine read).1.resolveAll before (d.resolver engine read).2)).1.1.bind
      fun edition => edition.template.render context) =
      match answer name with
      | .error cause => .error (.unreadable name cause)
      | .ok none => .error (.absent name)
      | .ok (some source) => (engine.compile name source).bind (·.render context) := by
  have faithful : Faithful _ d.workshop.supply answer _ :=
    (faithful_new d engine read).resolveAll steady before
  obtain ⟨result, after, signals, resolved, made, _⟩ := faithful.resolve steady name
  rw [resolved]
  have rendered : (result.bind fun edition => edition.template.render context) =
      (engine.make answer name).bind (·.render context) := by
    have same : (d.resolver engine read).1.engine = engine := rfl
    rw [same] at made
    rw [← made]
    cases result <;> rfl
  refine rendered.trans ?_
  unfold Engine.make
  cases answer name with
  | error cause => rfl
  | ok found => cases found <;> rfl

def samples : Library :=
  ⟨.embedded [("a", "text"), ("b", "\x7b\x7b")], .fresh []⟩

theorem render_resolved_sample :
    let r := ((Depot.new samples).resolver ⟨false⟩ Library.read).1
    let d := ((Depot.new samples).resolver ⟨false⟩ Library.read).2
    r.Steady samples (fun name => (samples.store.read samples.files name).1) ∧
      ((r.resolve "a" (r.resolveAll ["b", "a", "c"] d)).1.1.bind fun edition =>
        edition.template.render .empty) = .ok "text" := by
  have steady : ((Depot.new samples).resolver ⟨false⟩ Library.read).1.Steady samples _ :=
    steady_library rfl trivial
  exact ⟨steady, render_resolved (Depot.new samples) ⟨false⟩ Library.read steady
    ["b", "a", "c"] "a" .empty⟩

end Resolver

end Stencil
