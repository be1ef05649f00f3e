import Stencil.Proofs.Resolver.Tally
import Stencil.Proofs.Task.Execute

namespace Stencil

open Template (Compiled)

variable {ρ π ω : Type}

/-- The answers of a purpose depend on what it is asked, and not on its state. -/
structure Purpose.Pure (u : Purpose ρ π) : Prop where
  analyze (round annotated p q) : (u.analyze round annotated p).1 = (u.analyze round annotated q).1
  artifactName (annotated p q) : (u.artifactName annotated p).1 = (u.artifactName annotated q).1
  context (initiator annotated p q) :
    (u.context initiator annotated p).1 = (u.context initiator annotated q).1

namespace Task

def requests (t : Task ρ π ω) (round : ρ) (p : π) : Option String :=
  if (t.purpose.analyze round t.annotated p).1 = false then none
  else if (t.purpose.artifactName t.annotated p).1 = "" then none
  else some t.purpose.template

def verdict (t : Task ρ π ω) (round : ρ) (p : π) (found : String → Except Failure Compiled) :
    Except Failure (Option Artifact) :=
  if (t.purpose.analyze round t.annotated p).1 = false then .ok none
  else
    let name := (t.purpose.artifactName t.annotated p).1
    if name = "" then .error (.unnamed t.purpose.name)
    else draw name (t.purpose.context t.initiator t.annotated p).1 (found t.purpose.template)

def executeAll : List (Task ρ π ω × ρ) → Depot ω × π →
    List (Except Failure (Option Artifact)) × Depot ω × π
  | [], s => ([], s)
  | (t, round) :: rest, s =>
    let (result, s) := (t.execute round s).1
    let (results, s) := executeAll rest s
    (result :: results, s)

variable {t : Task ρ π ω} {round : ρ} {d after : Depot ω} {p : π}
  {answer : String → Except File.Error (Option String)}
  {found : String → Except Failure Compiled}

theorem execute_offers (pure : t.purpose.Pure) (offers : t.resolver.Offers answer found d)
    (round : ρ) (p q : π) :
    ∃ after q', (t.execute round (d, q)).1 = (t.verdict round p found, after, q') ∧
      t.resolver.Offers answer found after ∧
      t.resolver.tally after = (t.requests round p).elim (t.resolver.tally d)
        ((t.resolver.tally d).request fun query => (found query).isOk) := by
  unfold verdict requests
  -- The purpose answers in states that earlier tasks have left; the verdict speaks of `p`.
  rcases wanted : t.purpose.analyze round t.annotated q with ⟨wants, q'⟩
  have wantedToo := pure.analyze round t.annotated p q
  rw [wanted] at wantedToo
  rw [wantedToo]
  cases wants with
  | false => exact ⟨d, q', execute_skipped wanted, offers, rfl⟩
  | true =>
    rcases named : t.purpose.artifactName t.annotated q' with ⟨name, q''⟩
    have namedToo := pure.artifactName t.annotated p q'
    rw [named] at namedToo
    rw [namedToo, pure.context t.initiator t.annotated p q'']
    by_cases nameless : name = ""
    · subst nameless
      exact ⟨d, q'', execute_unnamed wanted named, offers, rfl⟩
    · rcases resolved : (t.resolver.resolve t.purpose.template d).1 with ⟨result, after⟩
      obtain ⟨r, executed⟩ := execute_named wanted named nameless resolved
      have resolves := Resolver.resolve_resolves t.resolver d t.purpose.template
      rw [resolved] at resolves
      rw [offers.result_eq resolves] at executed
      simp only [Bool.true_eq_false, if_false, if_neg nameless]
      exact ⟨after, r, executed, offers.resolves resolves, offers.tally_resolves resolves⟩

variable {r : Resolver ω}

theorem executeAll_offers {pairs : List (Task ρ π ω × ρ)}
    (pure : ∀ pair ∈ pairs, pair.1.purpose.Pure) (shared : ∀ pair ∈ pairs, pair.1.resolver = r)
    (offers : r.Offers answer found d) (p q : π) :
    ∃ after q', executeAll pairs (d, q) =
        (pairs.map fun pair => pair.1.verdict pair.2 p found, after, q') ∧
      r.tally after = (pairs.filterMap fun pair => pair.1.requests pair.2 p).foldl
        (Tally.request fun query => (found query).isOk) (r.tally d) := by
  induction pairs generalizing d q with
  | nil => exact ⟨d, q, rfl, rfl⟩
  | cons pair rest ih =>
    obtain ⟨t, round⟩ := pair
    obtain rfl := shared (t, round) List.mem_cons_self
    have pureRest : ∀ pair ∈ rest, pair.1.purpose.Pure :=
      fun pair among => pure pair (List.mem_cons_of_mem _ among)
    have sharedRest : ∀ pair ∈ rest, pair.1.resolver = t.resolver :=
      fun pair among => shared pair (List.mem_cons_of_mem _ among)
    obtain ⟨d', q', executed, offers', tallied⟩ :=
      execute_offers (pure (t, round) List.mem_cons_self) offers round p q
    obtain ⟨after, q'', others, talliedToo⟩ := ih pureRest sharedRest offers' q'
    refine ⟨after, q'', ?_, ?_⟩
    · simp only [executeAll, executed, others, List.map_cons]
    · rw [talliedToo, tallied, List.filterMap_cons]
      cases t.requests round p <;> rfl

/-- Tasks of pure purposes that share a resolver, over a supply that answers by the name alone, may
be executed in any order: there is one result for each task in its round, and the cache ends with
the same names and the same counts. -/
theorem executeAll_perm {pairs others : List (Task ρ π ω × ρ)} (permuted : pairs.Perm others)
    (pure : ∀ pair ∈ pairs, pair.1.purpose.Pure) (shared : ∀ pair ∈ pairs, pair.1.resolver = r)
    (within : r.Within d) (steady : r.Steady d.workshop.supply answer) (p q : π) :
    let results := (executeAll pairs (d, p)).1
    let resultsToo := (executeAll others (d, q)).1
    let cache := (executeAll pairs (d, p)).2.1.cacheOf r
    let cacheToo := (executeAll others (d, q)).2.1.cacheOf r
    (∃ verdict : Task ρ π ω × ρ → Except Failure (Option Artifact),
      results = pairs.map verdict ∧ resultsToo = others.map verdict) ∧
      cache.stats = cacheToo.stats ∧
      ∀ name, cache.contains name = cacheToo.contains name := by
  have offers : r.Offers answer (r.finds answer d) d := ⟨within, steady, fun _ => rfl⟩
  have pureToo : ∀ pair ∈ others, pair.1.purpose.Pure :=
    fun pair among => pure pair (permuted.mem_iff.mpr among)
  have sharedToo : ∀ pair ∈ others, pair.1.resolver = r :=
    fun pair among => shared pair (permuted.mem_iff.mpr among)
  obtain ⟨after, p', executed, tallied⟩ := executeAll_offers pure shared offers p p
  obtain ⟨afterToo, q', executedToo, talliedToo⟩ := executeAll_offers pureToo sharedToo offers p q
  have same : r.tally after = r.tally afterToo := by
    rw [tallied, talliedToo]
    exact Tally.requests_perm _ _ (permuted.filterMap _)
  rw [executed, executedToo]
  refine ⟨⟨_, rfl, rfl⟩, congrArg Tally.stats same, fun name => ?_⟩
  exact congrFun (congrArg Tally.has same) name

theorem sample_pure (template : String) : (sample template).Pure :=
  ⟨fun _ _ _ _ => rfl, fun _ _ _ => rfl, fun _ _ _ _ => rfl⟩

theorem executeAll_perm_sample :
    let r := ((Depot.new Resolver.samples).resolver ⟨false⟩ Library.read).1
    let d := (r.resolve "a" ((Depot.new Resolver.samples).resolver ⟨false⟩ Library.read).2).1.2
    let good : Task Unit Unit Library × Unit := (forSubject (sample "a") ⟨"User", []⟩ r, ())
    let bad : Task Unit Unit Library × Unit := (forSubject (sample "b") ⟨"Group", []⟩ r, ())
    let cache := (executeAll [good, bad, good] (d, ())).2.1.cacheOf r
    let cacheToo := (executeAll [bad, good, good] (d, ())).2.1.cacheOf r
    r.Within d ∧ d.workshop.supply = Resolver.samples ∧ cache.stats = ⟨1, 2, 2, 1, 1⟩ ∧
      cache.stats = cacheToo.stats ∧ ∀ name, cache.contains name = cacheToo.contains name := by
  intro r d good bad cache cacheToo
  have within : r.Within d :=
    (Resolver.resolve_resolves r _ "a").within
      (Resolver.within_new (Depot.new Resolver.samples) ⟨false⟩ Library.read)
  have steady : r.Steady d.workshop.supply _ := Resolver.steady_library rfl trivial
  have pure : ∀ pair ∈ [good, bad, good], pair.1.purpose.Pure := by
    simp only [List.forall_mem_cons]
    exact ⟨sample_pure "a", sample_pure "b", sample_pure "a", nofun⟩
  have shared : ∀ pair ∈ [good, bad, good], pair.1.resolver = r := by
    simp only [List.forall_mem_cons]
    exact ⟨rfl, rfl, rfl, nofun⟩
  have swapped : [good, bad, good].Perm [bad, good, good] := List.Perm.swap bad good [good]
  have all := executeAll_perm swapped pure shared within steady () ()
  exact ⟨within, rfl, by decide +kernel, all.2.1, all.2.2⟩

end Task

end Stencil
