import Stencil.Proofs.Cache.Size
import Stencil.Proofs.Resolver.Transparency

namespace Stencil.Resolver

variable {ω : Type} {r : Resolver ω} {d : Depot ω} {name : String}

structure Within (r : Resolver ω) (d : Depot ω) : Prop where
  own : r.cache < d.caches.length
  ascending : Table.Ascending (d.cacheOf r).slots

theorem within_new (d : Depot ω) (engine : Engine)
    (read : String → ω → Except File.Error (Option String) × ω) :
    (d.resolver engine read).1.Within (d.resolver engine read).2 := by
  refine ⟨by simp [Depot.resolver], ?_⟩
  rw [cacheOf_new]
  exact List.Pairwise.nil

def put (r : Resolver ω) (d : Depot ω) (cache : Cache Edition) (workshop : Workshop ω) : Depot ω :=
  ⟨d.caches.set r.cache cache, workshop⟩

variable {cache : Cache Edition} {workshop : Workshop ω}

theorem cacheOf_put (own : r.cache < d.caches.length) :
    (r.put d cache workshop).cacheOf r = cache := by
  simp [Depot.cacheOf, put, own]

theorem Within.put (within : r.Within d) (ascending : Table.Ascending cache.slots) :
    r.Within (r.put d cache workshop) := by
  refine ⟨?_, ?_⟩
  · rw [Resolver.put, List.length_set]
    exact within.own
  · rw [cacheOf_put within.own]
    exact ascending

/-- The three ways in which a name can be resolved, with the depot after it and what is told. -/
inductive Tells (r : Resolver ω) (d : Depot ω) (name : String) :
    Except Failure Edition → Depot ω → List Signal → Prop where
  | kept {edition} : (d.cacheOf r).get? name = some edition →
      Tells r d name (.ok edition) (r.put d (d.cacheOf r).countHit d.workshop)
        [.event (.lookup name true)]
  | filled {source edition workshop} : (d.cacheOf r).get? name = none →
      (r.compile name d.workshop).1 = (.ok edition, workshop) →
      (r.read name d.workshop.supply).1 = .ok (some source) →
      Tells r d name (.ok edition)
        (r.put d (((d.cacheOf r).reserve name).fill name edition) workshop)
        [.event (.lookup name false), .event (.compiled name source.utf8ByteSize)]
  | released {failure workshop} : (d.cacheOf r).get? name = none →
      (r.compile name d.workshop).1 = (.error failure, workshop) →
      Tells r d name (.error failure)
        (r.put d (((d.cacheOf r).reserve name).release name) workshop)
        [.event (.lookup name false), .event (.notCompiled name failure.kind)]

theorem resolve_tells (r : Resolver ω) (d : Depot ω) (name : String) :
    Tells r d name (r.resolve name d).1.1 (r.resolve name d).1.2 (r.resolve name d).2 := by
  cases found : (d.cacheOf r).get? name with
  | some edition =>
    have resolved : r.resolve name d = ((_, r.put d _ _), _) :=
      onCache_eq (Cache.request_hit found)
    rw [resolved]
    exact .kept found
  | none =>
    have compiles := compile_compiles r name d.workshop
    rcases compiled : r.compile name d.workshop with ⟨⟨result, workshop⟩, signals⟩
    rw [compiled] at compiles
    have onCache := Traced.onSecond_eq compiled ((d.cacheOf r).reserve name)
    cases compiles with
    | made answered =>
      have resolved : r.resolve name d = ((_, r.put d _ _), _) :=
        onCache_eq (Cache.request_filled found onCache)
      rw [resolved]
      exact .filled found (congrArg Prod.fst compiled) answered
    | unreadable | absent | defective =>
      have resolved : r.resolve name d = ((_, r.put d _ _), _) :=
        onCache_eq (Cache.request_released found onCache)
      rw [resolved]
      exact .released found (congrArg Prod.fst compiled)

inductive Resolves (r : Resolver ω) (d : Depot ω) (name : String) :
    Except Failure Edition → Depot ω → Prop where
  | kept {edition} : (d.cacheOf r).get? name = some edition →
      Resolves r d name (.ok edition) (r.put d (d.cacheOf r).countHit d.workshop)
  | filled {edition workshop} : (d.cacheOf r).get? name = none →
      (r.compile name d.workshop).1 = (.ok edition, workshop) →
      Resolves r d name (.ok edition)
        (r.put d (((d.cacheOf r).reserve name).fill name edition) workshop)
  | released {failure workshop} : (d.cacheOf r).get? name = none →
      (r.compile name d.workshop).1 = (.error failure, workshop) →
      Resolves r d name (.error failure)
        (r.put d (((d.cacheOf r).reserve name).release name) workshop)

theorem resolve_resolves (r : Resolver ω) (d : Depot ω) (name : String) :
    Resolves r d name (r.resolve name d).1.1 (r.resolve name d).1.2 := by
  have tells := resolve_tells r d name
  generalize r.resolve name d = outcome at tells
  obtain ⟨⟨result, after⟩, signals⟩ := outcome
  cases tells with
  | kept found => exact .kept found
  | filled absent compiled answered => exact .filled absent compiled
  | released absent compiled => exact .released absent compiled

variable {result : Except Failure Edition} {after : Depot ω}

theorem Resolves.within (resolves : Resolves r d name result after) (within : r.Within d) :
    r.Within after := by
  have reserved : Table.Ascending ((d.cacheOf r).reserve name).slots :=
    Cache.ascending_reserve within.ascending
  cases resolves with
  | kept found => exact within.put within.ascending
  | filled absent compiled => exact within.put (Cache.ascending_fill reserved _)
  | released absent compiled => exact within.put (Cache.ascending_release reserved)

theorem Resolves.get? (resolves : Resolves r d name result after) (within : r.Within d)
    (query : String) :
    (after.cacheOf r).get? query =
      if query = name then result.toOption else (d.cacheOf r).get? query := by
  have reserved : Table.Ascending ((d.cacheOf r).reserve name).slots :=
    Cache.ascending_reserve within.ascending
  cases resolves with
  | kept found =>
    rw [cacheOf_put within.own]
    split
    · rename_i same
      rw [same]
      exact found
    · rfl
  | filled absent compiled =>
    rw [cacheOf_put within.own, Cache.get?_fill, Cache.get?_reserve]
    rfl
  | released absent compiled =>
    rw [cacheOf_put within.own, Cache.get?_release reserved, Cache.get?_reserve]
    split
    · rename_i same
      rw [same]
      exact absent
    · rfl

theorem Resolves.of_kept (resolves : Resolves r d name result after) {edition : Edition}
    (found : (d.cacheOf r).get? name = some edition) :
    result = .ok edition ∧ after.workshop = d.workshop := by
  cases resolves with
  | kept foundToo =>
    rw [found] at foundToo
    cases foundToo
    exact ⟨rfl, rfl⟩
  | filled absent | released absent =>
    rw [found] at absent
    cases absent

theorem Resolves.of_absent (resolves : Resolves r d name result after)
    (absent : (d.cacheOf r).get? name = none) :
    result.map (·.template) =
        r.engine.make (fun query => (r.read query d.workshop.supply).1) name ∧
      after.workshop.supply = (r.read name d.workshop.supply).2 := by
  let answer := fun query => (r.read query d.workshop.supply).1
  have answers : (r.read name d.workshop.supply).1 = answer name := rfl
  obtain ⟨made, workshop, signals, compiled, same, read⟩ := compile_made answers
  cases resolves with
  | kept found =>
    rw [absent] at found
    cases found
  | filled _ compiledToo | released _ compiledToo =>
    rw [compiled] at compiledToo
    cases compiledToo
    exact ⟨same, read⟩

end Stencil.Resolver
