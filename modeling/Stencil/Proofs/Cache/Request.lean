import Stencil.Proofs.Cache.Content
import Stencil.Proofs.Cache.Shared

namespace Stencil

variable {τ ρ α : Type}

namespace Shared

def template? (s : Shared τ) (k : Nat) : Option τ :=
  (s.slots k).content.map (·.template)

/-- The cache, but for the numbers of its slots and the handles on them. -/
def cache (s : Shared τ) : Cache τ :=
  ⟨s.names.map fun entry => (entry.1, s.template? entry.2),
    s.hits, s.misses, s.compilations, s.failures⟩

/-- All steps of a request. It has no end if another one is in the slot: no step of that one can
come before it. -/
def request (name : String)
    (compile : Shared τ × ρ → Option (Except Failure τ × Shared τ × ρ)) :
    Shared τ × ρ → Option (Except Failure τ × Shared τ × ρ)
  | (s, r) =>
    let (s, k) := s.findOrAdd name
    match (s.slots k).content with
    | some product => some (.ok product.template, s.countHit.drop k, r)
    | none =>
      if (s.slots k).busy then none
      else (compile (s.enter k, r)).map fun
        | (.ok template, after, r) =>
          (.ok template, (after.fill k ⟨s.misses + 1, template⟩).drop k, r)
        | (.error failure, after, r) =>
          (.error failure, ((after.vacate k).release name k).drop k, r)

/-- Requests are in progress for some names, each in its slot, and no other handles are left. -/
structure Settled (s : Shared τ) (inside : List (String × Nat)) : Prop extends Tidy s where
  within {name k} : (name, k) ∈ inside → s.find? name = some k ∧
    (s.slots k).content = none ∧ (s.slots k).busy ∧ (s.slots k).handles = 2
  without {name k} : s.find? name = some k → (name, k) ∉ inside →
    (s.slots k).busy = false ∧ (s.slots k).handles = 1

theorem empty_settled : (empty : Shared τ).Settled [] where
  toTidy := empty_tidy
  within member := by cases member
  without leads := by cases leads

theorem cache_empty : (empty : Shared τ).cache = Cache.empty := rfl

theorem get?_slots (s : Shared τ) (name : String) :
    Table.get? name s.cache.slots = (s.find? name).map s.template? :=
  Table.get?_map s.template? name s.names

theorem get?_cache (s : Shared τ) (name : String) :
    s.cache.get? name = (s.get? name).map (·.template) := by
  unfold Cache.get? get?
  rw [get?_slots]
  cases s.find? name <;> rfl

theorem cache_eq {s : Shared τ} {c : Cache τ} (ascending : Table.Ascending s.names)
    (ascendingToo : Table.Ascending c.slots)
    (slots : ∀ name, (s.find? name).map s.template? = Table.get? name c.slots)
    (counts : s.hits = c.hits ∧ s.misses = c.misses ∧ s.compilations = c.compilations ∧
      s.failures = c.failures) : s.cache = c := by
  have same : s.names.map (fun entry => (entry.1, s.template? entry.2)) = c.slots := by
    refine (ascending.map s.template?).ext ascendingToo fun name => ?_
    exact (get?_slots s name).trans (slots name)
  obtain ⟨hits, misses, compilations, failures⟩ := counts
  unfold cache
  rw [same, hits, misses, compilations, failures]

def contains (s : Shared τ) (name : String) : Bool :=
  (s.get? name).isSome

def length (s : Shared τ) : Nat :=
  s.names.countP fun entry => (s.slots entry.2).content.isSome

def isEmpty (s : Shared τ) : Bool :=
  s.length == 0

theorem contains_cache (s : Shared τ) (name : String) : s.cache.contains name = s.contains name := by
  unfold Cache.contains contains
  rw [get?_cache, Option.isSome_map]

theorem length_cache (s : Shared τ) : s.cache.length = s.length := by
  unfold Cache.length length cache template?
  rw [List.countP_map]
  refine List.countP_congr fun entry _ => ?_
  simp

theorem isEmpty_cache (s : Shared τ) : s.cache.isEmpty = s.isEmpty := by
  unfold Cache.isEmpty isEmpty
  rw [length_cache]

theorem drop_hold (s : Shared τ) (k : Nat) : (s.hold k).drop k = s := by
  unfold drop hold update
  congr 1
  funext j
  by_cases same : j = k <;> simp [same]

structure Opens (s after : Shared τ) (name : String) (k : Nat) : Prop where
  tidy : after.Tidy
  find (query) : after.find? query = if query = name then some k else s.find? query
  own (query) : s.find? query = some k → query = name
  slots (j) : after.slots j = if j = k then ⟨none, true, 2⟩ else s.slots j
  counts : after.hits = s.hits ∧ after.misses = s.misses + 1 ∧
    after.compilations = s.compilations ∧ after.failures = s.failures

variable {s after : Shared τ} {inside : List (String × Nat)} {name : String} {k : Nat}

namespace Opens

theorem of_found (settled : s.Settled inside) (free : ∀ j, (name, j) ∉ inside)
    (leads : s.find? name = some k) (content : (s.slots k).content = none) :
    Opens s ((s.hold k).enter k) name k where
  tidy := settled.toTidy.of_same rfl rfl
  find query := by
    show s.find? query = _
    split
    · rename_i same
      rw [same, leads]
    · rfl
  own query leadsToo := settled.apart leadsToo leads
  slots j := by
    have handles := (settled.without leads (free k)).2
    by_cases same : j = k <;> simp [enter, hold, update, same, content, handles]
  counts := ⟨rfl, rfl, rfl, rfl⟩

theorem of_absent (settled : s.Settled inside) :
    Opens s ((s.add name).enter s.next) name s.next where
  tidy := (settled.toTidy.add name).of_same rfl rfl
  find := s.add_find? name
  own query leads := absurd (settled.named leads) (Nat.lt_irrefl _)
  slots j := by by_cases same : j = s.next <;> simp [enter, add, update, same]
  counts := ⟨rfl, rfl, rfl, rfl⟩

theorem cache_eq (opens : Opens s after name k) (ascending : Table.Ascending s.names)
    (absent : s.get? name = none) : after.cache = s.cache.reserve name := by
  have vacant : s.cache.get? name = none := by rw [get?_cache, absent, Option.map_none]
  refine Shared.cache_eq opens.tidy.ascending (Cache.ascending_reserve (ascending.map s.template?))
    (fun query => ?_) opens.counts
  rw [opens.find, Cache.get?_slots_reserve vacant, get?_slots]
  split
  · simp [template?, opens.slots]
  · rename_i differ
    cases leads : s.find? query with
    | none => rfl
    | some j =>
      have apart : j ≠ k := fun same => differ (opens.own query (same ▸ leads))
      simp [template?, opens.slots, apart]

end Opens

namespace Settled

theorem opened (settled : s.Settled inside) (free : ∀ j, (name, j) ∉ inside)
    (opens : Opens s after name k) : after.Settled ((name, k) :: inside) := by
  obtain ⟨tidy, find, own, slots, _⟩ := opens
  refine ⟨tidy, ?_, ?_⟩
  · intro query j member
    rw [slots]
    rcases List.mem_cons.mp member with same | earlier
    · cases same
      rw [find, if_pos rfl, if_pos rfl]
      exact ⟨rfl, rfl, rfl, rfl⟩
    · obtain ⟨leads, state⟩ := settled.within earlier
      have differ : query ≠ name := fun same => free j (same ▸ earlier)
      have apart : j ≠ k := fun same => differ (own query (same ▸ leads))
      rw [find, if_neg differ, if_neg apart]
      exact ⟨leads, state⟩
  · intro query j leads outside
    rw [find] at leads
    split at leads
    · rename_i same
      cases leads
      exact absurd (same ▸ List.mem_cons_self) outside
    · rename_i differ
      have apart : j ≠ k := fun same => differ (own query (same ▸ leads))
      rw [slots, if_neg apart]
      exact settled.without leads fun earlier => outside (List.mem_cons_of_mem _ earlier)

theorem closed (settled : s.Settled ((name, k) :: inside)) (free : ∀ j, (name, j) ∉ inside)
    (tidy : after.Tidy) (find : ∀ query, query ≠ name → after.find? query = s.find? query)
    (slots : ∀ j, j ≠ k → after.slots j = s.slots j)
    (shut : after.find? name = none ∨ after.find? name = some k ∧
      (after.slots k).busy = false ∧ (after.slots k).handles = 1) :
    after.Settled inside := by
  have leadsHere := (settled.within List.mem_cons_self).1
  have apart {query : String} {j : Nat} (differ : query ≠ name)
      (leads : s.find? query = some j) : j ≠ k := fun same =>
    differ (settled.apart leads (same ▸ leadsHere))
  refine ⟨tidy, ?_, ?_⟩
  · intro query j earlier
    obtain ⟨leads, state⟩ := settled.within (List.mem_cons_of_mem _ earlier)
    have differ : query ≠ name := fun same => free j (same ▸ earlier)
    rw [find query differ, slots j (apart differ leads)]
    exact ⟨leads, state⟩
  · intro query j leads outside
    by_cases same : query = name
    · subst same
      rcases shut with nowhere | ⟨here, state⟩
      · rw [nowhere] at leads
        cases leads
      · rw [leads] at here
        cases here
        exact state
    · rw [find query same] at leads
      rw [slots j (apart same leads)]
      refine settled.without leads fun member => ?_
      rcases List.mem_cons.mp member with now | earlier
      · cases now
        exact same rfl
      · exact outside earlier

variable (settled : s.Settled ((name, k) :: inside))

include settled

theorem filled (free : ∀ j, (name, j) ∉ inside) (product : Product τ) :
    ((s.fill k product).drop k).Settled inside := by
  obtain ⟨leads, _, _, handles⟩ := settled.within List.mem_cons_self
  refine settled.closed free (settled.toTidy.of_same rfl rfl) (fun _ _ => rfl) (fun j apart => ?_)
    (.inr ⟨leads, ?_, ?_⟩)
  · simp [drop, fill, update, apart]
  · simp [fill, update]
  · simp [fill, update, handles]

theorem cache_filled (product : Product τ) :
    ((s.fill k product).drop k).cache = s.cache.fill name product.template := by
  have leads := (settled.within List.mem_cons_self).1
  refine cache_eq settled.ascending
    (Cache.ascending_fill (settled.ascending.map s.template?) product.template) (fun query => ?_)
    ⟨rfl, rfl, rfl, rfl⟩
  show (s.find? query).map _ = Table.get? query (Table.insert name _ s.cache.slots)
  rw [Table.get?_insert, get?_slots]
  split
  · rename_i same
    rw [same, leads]
    simp [template?, fill, update]
  · rename_i differ
    cases leadsToo : s.find? query with
    | none => rfl
    | some j =>
      have apart : j ≠ k := fun same => differ (settled.apart leadsToo (same ▸ leads))
      simp [template?, fill, update, apart]

theorem release_eq : (s.vacate k).release name k = (s.vacate k).forget name k := by
  obtain ⟨leads, content, _, handles⟩ := settled.within List.mem_cons_self
  -- Two handles are on the slot, the cache's and that of the request, so nobody is in the way.
  have removable : (s.vacate k).Removable name k :=
    ⟨leads, by simp [content], by simp [vacate, update, handles]⟩
  unfold release
  rw [if_pos removable]

theorem failed (free : ∀ j, (name, j) ∉ inside) :
    (((s.vacate k).release name k).drop k).Settled inside := by
  rw [settled.release_eq]
  have find := forget_find? settled.ascending name k
  refine settled.closed free ((settled.toTidy.forget name k).of_same rfl rfl)
    (fun query differ => ?_) (fun j apart => ?_) (.inl ?_)
  · exact (find query).trans (if_neg differ)
  · simp [drop, forget, vacate, update, apart]
  · exact (find name).trans (if_pos rfl)

theorem cache_failed :
    (((s.vacate k).release name k).drop k).cache = s.cache.release name := by
  rw [settled.release_eq]
  obtain ⟨leads, content, _⟩ := settled.within List.mem_cons_self
  have absent : s.cache.get? name = none := by
    rw [get?_cache, get?_of_find? leads, content, Option.map_none]
  refine cache_eq (settled.ascending.erase name)
    (Cache.ascending_release (settled.ascending.map s.template?)) (fun query => ?_)
    ⟨rfl, rfl, rfl, rfl⟩
  rw [Cache.get?_slots_release (settled.ascending.map s.template?) absent, get?_slots]
  show (((s.forget name k).find? query).map _ : Option (Option τ)) = _
  rw [forget_find? settled.ascending]
  split
  · rfl
  · show (s.find? query).map _ = _
    cases s.find? query with
    | none => rfl
    | some j => simp [template?, forget]

end Settled

def Mirrors (step : Shared τ × ρ → Option (α × Shared τ × ρ))
    (mirrored : Traced (Cache τ × ρ) α) (inside : List (String × Nat)) (s : Shared τ) (r : ρ) :
    Prop :=
  ∃ a after r', step (s, r) = some (a, after, r') ∧
    (mirrored (s.cache, r)).1 = (a, after.cache, r') ∧ after.Settled inside

variable {compile : Shared τ × ρ → Option (Except Failure τ × Shared τ × ρ)}
  {mirrored : Traced (Cache τ × ρ) (Except Failure τ)} {r : ρ}

theorem Settled.request_hit {product : Product τ} (settled : s.Settled inside)
    (filled : s.get? name = some product) :
    Mirrors (request name compile) (Cache.request name mirrored) inside s r := by
  obtain ⟨k, leads, content⟩ := Option.bind_eq_some_iff.mp filled
  have found : s.cache.get? name = some product.template := by
    rw [get?_cache, filled, Option.map_some]
  refine ⟨.ok product.template, s.countHit, r, ?_, ?_, ?_⟩
  · have same : (s.hold k).countHit.drop k = s.countHit := congrArg countHit (s.drop_hold k)
    simp only [request, findOrAdd, leads, hold_content, content, same]
  · rw [Cache.request_hit found]
    rfl
  · exact ⟨settled.toTidy.of_same rfl rfl, settled.within, settled.without⟩

theorem Settled.request_opened {opened : Shared τ} (settled : s.Settled inside)
    (free : ∀ j, (name, j) ∉ inside) (absent : s.get? name = none)
    (found : s.findOrAdd name = (opened, k)) (content : (opened.slots k).content = none)
    (busy : (opened.slots k).busy = false) (opens : Opens s (opened.enter k) name k)
    (mirrors : Mirrors compile mirrored ((name, k) :: inside) (opened.enter k) r) :
    Mirrors (request name compile) (Cache.request name mirrored) inside s r := by
  obtain ⟨result, after, r', compiled, recorded, kept⟩ := mirrors
  have vacant : s.cache.get? name = none := by rw [get?_cache, absent, Option.map_none]
  rcases told : mirrored (s.cache.reserve name, r) with ⟨state, signals⟩
  rw [opens.cache_eq settled.ascending absent, told] at recorded
  subst recorded
  cases result with
  | ok template =>
    refine ⟨.ok template, _, r', ?_, ?_, kept.filled free ⟨opened.misses + 1, template⟩⟩
    · simp only [request, found, content, busy, compiled]
      rfl
    · rw [Cache.request_filled vacant told, kept.cache_filled]
  | error failure =>
    refine ⟨.error failure, _, r', ?_, ?_, kept.failed free⟩
    · simp only [request, found, content, busy, compiled]
      rfl
    · rw [Cache.request_released vacant told, kept.cache_failed]

/-- What a request does to the slots is what a request does to the cache, if that is so of what its
compile function does. -/
theorem Settled.request (settled : s.Settled inside) (free : ∀ j, (name, j) ∉ inside)
    (mirrors : s.get? name = none → ∀ k after, Opens s after name k →
      Mirrors compile mirrored ((name, k) :: inside) after r) :
    Mirrors (request name compile) (Cache.request name mirrored) inside s r := by
  cases filled : s.get? name with
  | some product => exact settled.request_hit filled
  | none =>
    cases leads : s.find? name with
    | none =>
      have opens : Opens s ((s.add name).enter s.next) name s.next := Opens.of_absent settled
      exact settled.request_opened free filled (by simp only [findOrAdd, leads])
        (by simp [add, update]) (by simp [add, update]) opens (mirrors filled _ _ opens)
    | some k =>
      have content : (s.slots k).content = none := by
        rw [get?_of_find? leads] at filled
        exact filled
      have opens := Opens.of_found settled free leads content
      have busy := (settled.without leads (free k)).1
      exact settled.request_opened free filled (by simp only [findOrAdd, leads])
        ((hold_content _ _ _).trans content) ((hold_busy _ _ _).trans busy) opens
        (mirrors filled _ _ opens)

end Shared

end Stencil
