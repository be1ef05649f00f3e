import Mathlib.Data.Finset.Card
import Stencil.Proofs.Cache.Moment
import Stencil.Proofs.Cache.Nested
import Stencil.Proofs.Cache.Size

namespace Stencil

variable {τ σ : Type}

theorem Deed.compiled_cons (name : String) (deeds : List Deed) :
    (compiled name :: deeds).filterMap compiled? = name :: deeds.filterMap compiled? := rfl

namespace Cache

structure Balanced (c : Cache τ) (names : List String) (deeds : List Deed) : Prop where
  ascending : Table.Ascending c.slots
  asked : c.hits + c.misses = deeds.countP Deed.begins
  missed : c.misses = c.compilations + c.failures + names.length
  length : c.length = c.compilations
  slots : c.slots.length = c.length + names.length
  reserved (name) : Table.get? name c.slots = some none ↔ name ∈ names
  apart : names.Nodup
  compiled (name) : (c.get? name).isSome ↔ name ∈ deeds.filterMap Deed.compiled?
  once : (deeds.filterMap Deed.compiled?).Nodup
  successes : (deeds.filterMap Deed.compiled?).length = c.compilations

/-- Nothing is counted down, and what is filled stays. -/
structure Grows (c later : Cache τ) : Prop where
  hits : c.hits ≤ later.hits
  misses : c.misses ≤ later.misses
  compilations : c.compilations ≤ later.compilations
  failures : c.failures ≤ later.failures
  length : c.length ≤ later.length
  kept {name template} : c.get? name = some template → later.get? name = some template

theorem Grows.refl (c : Cache τ) : c.Grows c :=
  ⟨Nat.le_refl _, Nat.le_refl _, Nat.le_refl _, Nat.le_refl _, Nat.le_refl _, id⟩

theorem Grows.trans {first second third : Cache τ} (before : first.Grows second)
    (after : second.Grows third) : first.Grows third where
  hits := Nat.le_trans before.hits after.hits
  misses := Nat.le_trans before.misses after.misses
  compilations := Nat.le_trans before.compilations after.compilations
  failures := Nat.le_trans before.failures after.failures
  length := Nat.le_trans before.length after.length
  kept found := after.kept (before.kept found)

variable {c : Cache τ} {name : String} {names : List String} {deeds : List Deed}

theorem empty_balanced : (empty : Cache τ).Balanced [] [] where
  ascending := List.Pairwise.nil
  asked := rfl
  missed := rfl
  length := rfl
  slots := rfl
  reserved name := by simp [empty, Table.get?]
  apart := List.Pairwise.nil
  compiled name := by simp [empty, get?, Table.get?]
  once := List.Pairwise.nil
  successes := rfl

namespace Balanced

theorem absent (balanced : c.Balanced names deeds) (member : name ∈ names) :
    c.get? name = none := by
  rw [get?, (balanced.reserved name).mpr member, Option.join_some]

theorem countHit (balanced : c.Balanced names deeds) (name : String) :
    c.countHit.Balanced names (.asked name :: deeds) where
  ascending := balanced.ascending
  asked := by
    have asked := balanced.asked
    simp only [Cache.countHit, List.countP_cons, Deed.begins, ite_true]
    omega
  missed := balanced.missed
  length := balanced.length
  slots := balanced.slots
  reserved := balanced.reserved
  apart := balanced.apart
  compiled := balanced.compiled
  once := balanced.once
  successes := balanced.successes

theorem reserve (balanced : c.Balanced names deeds) (fresh : name ∉ names)
    (absent : c.get? name = none) :
    (c.reserve name).Balanced (name :: names) (.asked name :: deeds) := by
  have free : Table.get? name c.slots = none := by
    cases slot : Table.get? name c.slots with
    | none => rfl
    | some content =>
      rw [get?, slot, Option.join_some] at absent
      exact absurd ((balanced.reserved name).mp (slot.trans (congrArg some absent))) fresh
  have same : (c.reserve name).length = c.length := length_reserve balanced.ascending absent
  refine ⟨ascending_reserve balanced.ascending, ?_, ?_, same.trans balanced.length, ?_, ?_,
    List.nodup_cons.mpr ⟨fresh, balanced.apart⟩, ?_, balanced.once, balanced.successes⟩
  · have asked := balanced.asked
    simp only [Cache.reserve, List.countP_cons, Deed.begins, ite_true]
    omega
  · have missed := balanced.missed
    simp only [Cache.reserve, List.length_cons]
    omega
  · have slots := balanced.slots
    rw [slots_reserve balanced.ascending free, same, List.length_cons]
    omega
  · intro query
    rw [get?_slots_reserve absent, List.mem_cons]
    split
    · rename_i itself
      simp [itself]
    · rename_i differ
      rw [balanced.reserved, or_iff_right differ]
  · intro query
    rw [get?_reserve]
    exact balanced.compiled query

theorem fill (balanced : c.Balanced (name :: names) deeds) (template : τ) :
    (c.fill name template).Balanced names (.compiled name :: deeds) := by
  have absent : c.get? name = none := balanced.absent List.mem_cons_self
  obtain ⟨fresh, apart⟩ := List.nodup_cons.mp balanced.apart
  have longer := length_fill balanced.ascending absent template
  refine ⟨ascending_fill balanced.ascending template, ?_, ?_, ?_, ?_, ?_, apart, ?_, ?_, ?_⟩
  · simpa [Cache.fill, Deed.begins] using balanced.asked
  · have missed := balanced.missed
    simp only [Cache.fill, List.length_cons] at missed ⊢
    omega
  · rw [longer, balanced.length]
    rfl
  · have slots := balanced.slots
    have taken := (balanced.reserved name).mpr List.mem_cons_self
    rw [List.length_cons] at slots
    rw [slots_fill balanced.ascending taken, longer]
    omega
  · intro query
    show Table.get? query (Table.insert name _ c.slots) = _ ↔ _
    rw [Table.get?_insert]
    split
    · rename_i itself
      simp [itself, fresh]
    · rename_i differ
      rw [balanced.reserved, List.mem_cons, or_iff_right differ]
  · intro query
    rw [get?_fill, Deed.compiled_cons, List.mem_cons]
    split
    · rename_i itself
      simp [itself]
    · rename_i differ
      rw [balanced.compiled, or_iff_right differ]
  · rw [Deed.compiled_cons]
    refine List.nodup_cons.mpr ⟨fun member => ?_, balanced.once⟩
    have filled := (balanced.compiled name).mpr member
    rw [absent] at filled
    cases filled
  · rw [Deed.compiled_cons, List.length_cons, balanced.successes]
    rfl

theorem release (balanced : c.Balanced (name :: names) deeds) :
    (c.release name).Balanced names (.failed name :: deeds) := by
  have absent : c.get? name = none := balanced.absent List.mem_cons_self
  obtain ⟨fresh, apart⟩ := List.nodup_cons.mp balanced.apart
  have same := length_release absent
  refine ⟨ascending_release balanced.ascending, ?_, ?_, same.trans balanced.length, ?_, ?_, apart,
    ?_, balanced.once, balanced.successes⟩
  · simpa [Cache.release, Deed.begins] using balanced.asked
  · have missed := balanced.missed
    simp only [Cache.release, List.length_cons] at missed ⊢
    omega
  · have slots := balanced.slots
    have shorter := slots_release ((balanced.reserved name).mpr List.mem_cons_self)
    rw [List.length_cons] at slots
    omega
  · intro query
    rw [get?_slots_release balanced.ascending absent]
    split
    · rename_i itself
      simp [itself, fresh]
    · rename_i differ
      rw [balanced.reserved, List.mem_cons, or_iff_right differ]
  · intro query
    rw [get?_release balanced.ascending]
    exact balanced.compiled query

end Balanced

theorem grows_countHit (c : Cache τ) : c.Grows c.countHit :=
  { Grows.refl c with hits := Nat.le_succ _ }

theorem grows_reserve (ascending : Table.Ascending c.slots) (absent : c.get? name = none) :
    c.Grows (c.reserve name) :=
  { Grows.refl c with
    misses := Nat.le_succ _
    length := (length_reserve ascending absent).ge
    kept found := (get?_reserve _).trans found }

theorem grows_fill (ascending : Table.Ascending c.slots) (absent : c.get? name = none)
    (template : τ) : c.Grows (c.fill name template) :=
  { Grows.refl c with
    compilations := Nat.le_succ _
    length := by
      rw [length_fill ascending absent]
      exact Nat.le_succ _
    kept {query} {_} found := by
      have differ : query ≠ name := fun same => by
        rw [same, absent] at found
        cases found
      rw [get?_fill, if_neg differ, found] }

theorem grows_release (ascending : Table.Ascending c.slots) (absent : c.get? name = none) :
    c.Grows (c.release name) :=
  { Grows.refl c with
    failures := Nat.le_succ _
    length := (length_release absent).ge
    kept found := (get?_release ascending _).trans found }

end Cache

namespace Moment

variable {m later : Moment τ σ}

theorem Move.balanced (balanced : m.shared.cache.Balanced m.names m.deeds)
    (move : Move m later) : later.shared.cache.Balanced later.names later.deeds := by
  cases move with
  | told pending shared deeds =>
    rw [names, pending, shared, deeds]
    exact balanced
  | hit found pending cache deeds =>
    rw [names, pending, cache, deeds]
    exact balanced.countHit _
  | entered fresh absent pending cache deeds =>
    rw [names, pending, cache, deeds]
    exact balanced.reserve fresh absent
  | filled pending cache deeds =>
    rw [names, pending] at balanced
    rw [cache, deeds]
    exact balanced.fill _
  | released pending cache deeds =>
    rw [names, pending] at balanced
    rw [cache, deeds]
    exact balanced.release

theorem Move.grows (balanced : m.shared.cache.Balanced m.names m.deeds) (move : Move m later) :
    m.shared.cache.Grows later.shared.cache := by
  cases move with
  | told pending shared deeds =>
    rw [shared]
    exact .refl _
  | hit found pending cache deeds =>
    rw [cache]
    exact Cache.grows_countHit _
  | entered fresh absent pending cache deeds =>
    rw [cache]
    exact Cache.grows_reserve balanced.ascending absent
  | filled pending cache deeds =>
    rw [names, pending] at balanced
    rw [cache]
    exact Cache.grows_fill balanced.ascending (balanced.absent List.mem_cons_self) _
  | released pending cache deeds =>
    rw [names, pending] at balanced
    rw [cache]
    exact Cache.grows_release balanced.ascending (balanced.absent List.mem_cons_self)

structure Sound (m : Moment τ σ) : Prop where
  settled : m.shared.Settled m.inside
  balanced : m.shared.cache.Balanced m.names m.deeds

theorem start_sound (script : Script τ σ) (state : σ) : (start script state).Sound :=
  ⟨Shared.empty_settled, Cache.empty_balanced⟩

theorem Sound.advance (sound : m.Sound) (stepped : m.step = some later) : Advance m later :=
  step_advance sound.settled sound.balanced.apart stepped

theorem Sound.step (sound : m.Sound) (stepped : m.step = some later) : later.Sound := by
  have advance := sound.advance stepped
  exact ⟨advance.settled, advance.move.balanced sound.balanced⟩

theorem Sound.after (sound : m.Sound) {n : Nat} (ran : m.after n = some later) : later.Sound := by
  induction n generalizing m with
  | zero =>
    cases ran
    exact sound
  | succ n ih =>
    obtain ⟨next, stepped, continued⟩ := Option.bind_eq_some_iff.mp ran
    exact ih (sound.step stepped) continued

theorem Sound.outcome_eq (sound : m.Sound) {n : Nat} (ran : m.after n = some later) :
    later.outcome = m.outcome := by
  induction n generalizing m with
  | zero =>
    cases ran
    rfl
  | succ n ih =>
    obtain ⟨next, stepped, continued⟩ := Option.bind_eq_some_iff.mp ran
    exact (ih (sound.step stepped) continued).trans (sound.advance stepped).outcome

theorem Sound.grows (sound : m.Sound) {n : Nat} (ran : m.after n = some later) :
    m.shared.cache.Grows later.shared.cache := by
  induction n generalizing m with
  | zero =>
    cases ran
    exact .refl _
  | succ n ih =>
    obtain ⟨next, stepped, continued⟩ := Option.bind_eq_some_iff.mp ran
    have grown := (sound.advance stepped).move.grows sound.balanced
    exact grown.trans (ih (sound.step stepped) continued)

theorem Sound.step_none_iff (sound : m.Sound) :
    m.step = none ↔
      (∃ result, m.script = .finish result ∧ m.pending = []) ∨
        ∃ name compile next, m.script = .request name compile next ∧ name ∈ m.names := by
  constructor
  · intro stuck
    cases script : m.script with
    | finish result =>
      cases pending : m.pending with
      | nil => exact .inl ⟨result, rfl, rfl⟩
      | cons p rest => simp [Moment.step, script, pending] at stuck
    | request name compile next =>
      refine .inr ⟨name, compile, next, rfl, ?_⟩
      simp only [Moment.step, script, Moment.request, Shared.findOrAdd] at stuck
      cases leads : m.shared.find? name with
      | none => simp [leads, Shared.add, Shared.update] at stuck
      | some k =>
        by_contra free
        have idle := (sound.settled.without leads fun inside => free (mem_names_of_inside inside)).1
        cases content : (m.shared.slots k).content <;> simp [leads, content, idle] at stuck
    | contains | length | isEmpty | consult | change => simp [Moment.step, script] at stuck
  · rintro (⟨result, script, pending⟩ | ⟨name, compile, next, script, member⟩)
    · simp [Moment.step, script, pending]
    · obtain ⟨k, inside⟩ := mem_names member
      obtain ⟨leads, content, busy, _⟩ := sound.settled.within inside
      simp [Moment.step, script, Moment.request, Shared.findOrAdd, leads, content, busy]

/-- At every moment of a run, and in whatever compile functions it is then: every request is a hit
or a miss; every miss has been compiled, or has failed, or is being compiled; there is one entry for
each name that has been compiled, one more slot, an empty one, for each name that is being compiled,
and no other slot. From there on nothing is counted down and no entry is lost. -/
theorem counts_agree (script : Script τ σ) (state : σ) {n : Nat}
    (ran : (start script state).after n = some m) :
    let stats := m.shared.cache.stats
    stats.hits + stats.misses = m.begun ∧
      stats.misses = stats.compilations + stats.failures + m.pending.length ∧
      stats.entries = stats.compilations ∧ stats.compilations = m.compiled.toFinset.card ∧
      m.shared.names.length = stats.entries + m.pending.length ∧
      (∀ name, (m.shared.find? name).map m.shared.template? = some none ↔ name ∈ m.names) ∧
      m.names.Nodup ∧
      (m.begun < 2 ^ 64 → stats.hits < 2 ^ 64 ∧ stats.misses < 2 ^ 64 ∧
        stats.compilations < 2 ^ 64 ∧ stats.failures < 2 ^ 64) ∧
      (∀ n later, m.after n = some later → m.shared.cache.Grows later.shared.cache) ∧
      m.outcome = (script.run (Cache.empty, ⟨state, []⟩)).1 ∧
      (m.step = none ↔ (∃ result, m.script = .finish result ∧ m.pending = []) ∨
        ∃ name compile next, m.script = .request name compile next ∧ name ∈ m.names) := by
  have sound := (start_sound script state).after ran
  have balanced := sound.balanced
  have asked : m.shared.cache.hits + m.shared.cache.misses = m.begun := balanced.asked
  have missed : m.shared.cache.misses =
      m.shared.cache.compilations + m.shared.cache.failures + m.pending.length := by
    rw [balanced.missed, names, List.length_map]
  refine ⟨asked, missed, balanced.length, ?_, ?_, ?_, balanced.apart, ?_,
    fun _ _ => sound.grows, ?_, sound.step_none_iff⟩
  · rw [compiled, List.toFinset_card_of_nodup balanced.once]
    exact balanced.successes.symm
  · have slots := balanced.slots
    rwa [Shared.cache, List.length_map, names, List.length_map] at slots
  · intro name
    rw [← Shared.get?_slots]
    exact balanced.reserved name
  · intro few
    show m.shared.cache.hits < _ ∧ m.shared.cache.misses < _ ∧
      m.shared.cache.compilations < _ ∧ m.shared.cache.failures < _
    omega
  · exact (start_sound script state).outcome_eq ran

theorem counts_agree_nested :
    ∃ m, (start Script.fallback ()).after 3 = some m ∧ m.names = ["outer"] ∧ m.begun = 2 ∧
      m.shared.cache.hits + m.shared.cache.misses = m.begun ∧
      m.shared.cache.misses = m.shared.cache.compilations + m.shared.cache.failures + 1 ∧
      m.shared.names.length = m.shared.cache.length + 1 := by
  have ran : (start Script.fallback ()).after 3 = some _ := rfl
  obtain ⟨asked, missed, _, _, slots, _⟩ := counts_agree Script.fallback () ran
  exact ⟨_, ran, rfl, rfl, asked, missed, slots⟩

end Moment

end Stencil
