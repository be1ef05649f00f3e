import Mathlib.Data.List.Forall2
import Stencil.Proofs.Resolver.Tally

namespace Stencil

open Template (Compiled)

variable {ω : Type}

inductive Question where
  | resolve (name : String)
  | render (name : String) (context : Context)
  | stats

inductive Reply where
  | resolved (result : Except Failure Edition)
  | rendered (result : Except Failure String)
  | counted (stats : Stats)

def Resolver.reply (r : Resolver ω) (d : Depot ω) : Question → Reply × Depot ω
  | .resolve name =>
    let (result, after) := (r.resolve name d).1
    (.resolved result, after)
  | .render name context =>
    let (result, after) := (r.resolve name d).1
    (.rendered (result.bind fun edition => edition.template.render context), after)
  | .stats => (.counted (d.cacheOf r).stats, d)

/-- A reply as it is seen: templates from the same compilation have the same number. -/
inductive Face where
  | resolved (result : Except Failure (Nat × Compiled))
  | rendered (result : Except Failure String)
  | counted (stats : Stats)

/-- What is known, with one thing at the end if it is new. -/
def noted {α : Type} [DecidableEq α] (known : List α) (a : α) : List α :=
  if a ∈ known then known else known ++ [a]

def Reply.face (known : List Nat) : Reply → Face × List Nat
  | .resolved (.error failure) => (.resolved (.error failure), known)
  | .resolved (.ok edition) =>
    (.resolved (.ok (known.idxOf edition.serial, edition.template)), noted known edition.serial)
  | .rendered result => (.rendered result, known)
  | .counted stats => (.counted stats, known)

structure Account where
  found : String → Except Failure Compiled
  seen : List String
  tally : Tally

namespace Account

def new (found : String → Except Failure Compiled) : Account :=
  ⟨found, [], fun _ => false, ⟨0, 0, 0, 0, 0⟩⟩

def request (a : Account) (name : String) : Account :=
  { a with tally := a.tally.request (fun query => (a.found query).isOk) name }

def reply (a : Account) : Question → Face × Account
  | .resolve name =>
    match a.found name with
    | .error failure => (.resolved (.error failure), a.request name)
    | .ok template =>
      (.resolved (.ok (a.seen.idxOf name, template)),
        { a.request name with seen := noted a.seen name })
  | .render name context => (.rendered ((a.found name).bind (·.render context)), a.request name)
  | .stats => (.counted a.tally.stats, a)

end Account

section

variable {α β : Type} [DecidableEq α] [DecidableEq β] {R : α → β → Prop} {xs : List α}
  {ys : List β} {x : α} {y : β} (related : List.Forall₂ R xs ys)
  (unique : ∀ a b, R a b → (a = x ↔ b = y))

include related unique

theorem idxOf_related : xs.idxOf x = ys.idxOf y := by
  induction related with
  | nil => rfl
  | @cons a b as bs first _ ih =>
    by_cases same : a = x
    · rw [same, (unique a b first).mp same, List.idxOf_cons_self, List.idxOf_cons_self]
    · have other : b ≠ y := fun sameToo => same ((unique a b first).mpr sameToo)
      rw [List.idxOf_cons_ne _ same, List.idxOf_cons_ne _ other, ih]

theorem noted_related (pair : R x y) : List.Forall₂ R (noted xs x) (noted ys y) := by
  have known : x ∈ xs ↔ y ∈ ys := by
    rw [← List.idxOf_lt_length_iff, ← List.idxOf_lt_length_iff, idxOf_related related unique,
      related.length_eq]
  unfold noted
  by_cases member : x ∈ xs
  · rw [if_pos member, if_pos (known.mp member)]
    exact related
  · rw [if_neg member, if_neg fun memberToo => member (known.mpr memberToo)]
    exact List.rel_append related (.cons pair .nil)

end

namespace Resolver

variable {r : Resolver ω} {d after : Depot ω} {name : String} {result : Except Failure Edition}

theorem compile_parses {w workshop : Workshop ω}
    (compiled : (r.compile name w).1 = (result, workshop)) :
    w.parses ≤ workshop.parses ∧
      ∀ edition, result = .ok edition →
        edition.serial = w.parses ∧ w.parses < workshop.parses := by
  have compiles := compile_compiles r name w
  rw [compiled] at compiles
  generalize (r.compile name w).2 = signals at compiles
  cases compiles with
  | unreadable | absent => exact ⟨Nat.le_refl _, nofun⟩
  | defective => exact ⟨Nat.le_succ _, nofun⟩
  | made =>
    refine ⟨Nat.le_succ _, fun edition given => ?_⟩
    cases given
    exact ⟨rfl, Nat.lt_succ_self _⟩

theorem Resolves.parses_le (resolves : r.Resolves d name result after) :
    d.workshop.parses ≤ after.workshop.parses := by
  cases resolves with
  | kept found => exact Nat.le_refl _
  | filled absent compiled | released absent compiled => exact (compile_parses compiled).1

theorem Resolves.serial_new {edition : Edition}
    (resolves : r.Resolves d name (.ok edition) after)
    (absent : (d.cacheOf r).get? name = none) :
    edition.serial = d.workshop.parses ∧ d.workshop.parses < after.workshop.parses := by
  cases resolves with
  | kept found =>
    rw [absent] at found
    cases found
  | filled _ compiled => exact (compile_parses compiled).2 edition rfl

theorem Resolves.get?_kept (resolves : r.Resolves d name result after) (within : r.Within d)
    {query : String} {edition : Edition} (found : (d.cacheOf r).get? query = some edition) :
    (after.cacheOf r).get? query = some edition := by
  rw [resolves.get? within]
  split
  · rename_i same
    subst same
    rw [(resolves.of_kept found).1]
    rfl
  · exact found

structure Numbered (r : Resolver ω) (d : Depot ω) : Prop where
  below {name edition} : (d.cacheOf r).get? name = some edition →
    edition.serial < d.workshop.parses
  apart {name other edition another} : (d.cacheOf r).get? name = some edition →
    (d.cacheOf r).get? other = some another → edition.serial = another.serial → name = other

theorem Numbered.of_get? (numbered : r.Numbered d)
    (same : ∀ query, (after.cacheOf r).get? query = (d.cacheOf r).get? query)
    (later : d.workshop.parses ≤ after.workshop.parses) : r.Numbered after := by
  constructor
  · intro name edition found
    rw [same] at found
    exact Nat.lt_of_lt_of_le (numbered.below found) later
  · intro name other edition another found foundToo equal
    rw [same] at found foundToo
    exact numbered.apart found foundToo equal

theorem Numbered.add (numbered : r.Numbered d) {edition : Edition}
    (kept : ∀ query, (after.cacheOf r).get? query =
      if query = name then some edition else (d.cacheOf r).get? query)
    (serial : edition.serial = d.workshop.parses)
    (counted : d.workshop.parses < after.workshop.parses) : r.Numbered after := by
  have old {query : String} {other : Edition} (found : (after.cacheOf r).get? query = some other)
      (different : query ≠ name) : (d.cacheOf r).get? query = some other := by
    rwa [kept, if_neg different] at found
  have new {other : Edition} (found : (after.cacheOf r).get? name = some other) :
      other.serial = d.workshop.parses := by
    rw [kept, if_pos rfl] at found
    cases found
    exact serial
  constructor
  · intro query other found
    by_cases same : query = name
    · subst same
      rw [new found]
      exact counted
    · exact Nat.lt_trans (numbered.below (old found same)) counted
  · intro query queryToo other another found foundToo equal
    by_cases same : query = name <;> by_cases sameToo : queryToo = name
    · rw [same, sameToo]
    · subst same
      have below := numbered.below (old foundToo sameToo)
      have first := new found
      omega
    · subst sameToo
      have below := numbered.below (old found same)
      have second := new foundToo
      omega
    · exact numbered.apart (old found same) (old foundToo sameToo) equal

theorem Resolves.numbered (resolves : r.Resolves d name result after) (within : r.Within d)
    (numbered : r.Numbered d) : r.Numbered after := by
  have later := resolves.parses_le
  have kept := resolves.get? within
  cases found : (d.cacheOf r).get? name with
  | some edition =>
    refine numbered.of_get? (fun query => ?_) later
    by_cases same : query = name
    · rw [same, found, resolves.get?_kept within found]
    · rw [kept, if_neg same]
  | none =>
    cases result with
    | error failure =>
      refine numbered.of_get? (fun query => ?_) later
      by_cases same : query = name
      · rw [kept, if_pos same, same, found]
        rfl
      · rw [kept, if_neg same]
    | ok edition =>
      obtain ⟨serial, counted⟩ := resolves.serial_new found
      exact numbered.add kept serial counted

structure Matches (r : Resolver ω) (answer : String → Except File.Error (Option String))
    (a : Account) (known : List Nat) (d : Depot ω) : Prop where
  offers : r.Offers answer a.found d
  tally : r.tally d = a.tally
  numbered : r.Numbered d
  seen : List.Forall₂ (fun name serial =>
    ∃ edition, (d.cacheOf r).get? name = some edition ∧ edition.serial = serial) a.seen known

variable {answer : String → Except File.Error (Option String)} {a : Account} {known : List Nat}

theorem matches_new (d : Depot ω) (engine : Engine)
    (read : String → ω → Except File.Error (Option String) × ω)
    (steady : (d.resolver engine read).1.Steady d.workshop.supply answer) :
    (d.resolver engine read).1.Matches answer (.new (engine.make answer)) []
      (d.resolver engine read).2 := by
  have new := cacheOf_new d engine read
  have empty (query : String) : (Cache.empty : Cache Edition).get? query = none := rfl
  refine ⟨⟨within_new d engine read, steady, fun query => ?_⟩, ?_, ⟨?_, ?_⟩, .nil⟩
  · rw [Resolver.finds, new]
    rfl
  · rw [Resolver.tally, new]
    rfl
  · intro name edition found
    rw [new, empty] at found
    cases found
  · intro name other edition another found
    rw [new, empty] at found
    cases found

theorem Matches.frame (matching : r.Matches answer a known d)
    (same : after.cacheOf r = d.cacheOf r) (own : r.cache < after.caches.length)
    (steady : r.Steady after.workshop.supply answer)
    (later : d.workshop.parses ≤ after.workshop.parses) : r.Matches answer a known after := by
  have offers := matching.offers
  refine ⟨⟨⟨own, ?_⟩, steady, fun query => ?_⟩, ?_, ?_, ?_⟩
  · rw [same]
    exact offers.within.ascending
  · rw [← offers.finds query, Resolver.finds, Resolver.finds, same]
  · rw [← matching.tally, Resolver.tally, Resolver.tally, same]
  · exact matching.numbered.of_get? (fun query => by rw [same]) later
  · rw [same]
    exact matching.seen

theorem Matches.resolved (matching : r.Matches answer a known d)
    (resolves : r.Resolves d name result after) :
    r.Matches answer (a.request name) known after := by
  have within := matching.offers.within
  refine ⟨matching.offers.resolves resolves, ?_, resolves.numbered within matching.numbered, ?_⟩
  · rw [matching.offers.tally_resolves resolves, matching.tally]
    rfl
  · refine matching.seen.imp fun query serial ⟨edition, found, same⟩ => ?_
    exact ⟨edition, resolves.get?_kept within found, same⟩

theorem Matches.unique (matching : r.Matches answer a known d) {edition : Edition}
    (found : (d.cacheOf r).get? name = some edition) (query : String) (serial : Nat)
    (related : ∃ other, (d.cacheOf r).get? query = some other ∧ other.serial = serial) :
    query = name ↔ serial = edition.serial := by
  obtain ⟨other, foundToo, rfl⟩ := related
  constructor
  · intro same
    rw [same, found] at foundToo
    cases foundToo
    rfl
  · exact matching.numbered.apart foundToo found

theorem Matches.reply (matching : r.Matches answer a known d) (q : Question) :
    ((r.reply d q).1.face known).1 = (a.reply q).1 ∧
      r.Matches answer (a.reply q).2 ((r.reply d q).1.face known).2 (r.reply d q).2 := by
  cases q with
  | stats =>
    have tallied := congrArg Tally.stats matching.tally
    exact ⟨congrArg Face.counted tallied, matching⟩
  | render name context =>
    have resolves := resolve_resolves r d name
    have given := matching.offers.result_eq resolves
    refine ⟨?_, matching.resolved resolves⟩
    simp only [Resolver.reply, Reply.face, Account.reply, ← given]
    cases (r.resolve name d).1.1 <;> rfl
  | resolve name =>
    have resolves := resolve_resolves r d name
    have given := matching.offers.result_eq resolves
    have next := matching.resolved resolves
    have kept := resolves.get? matching.offers.within name
    rw [if_pos rfl] at kept
    simp only [Resolver.reply, Account.reply, ← given]
    cases answered : (r.resolve name d).1.1 with
    | error failure => exact ⟨rfl, next⟩
    | ok edition =>
      rw [answered] at kept
      have unique := next.unique kept
      -- Numbers are known in the order in which the names have been seen.
      refine ⟨?_, next.offers, next.tally, next.numbered, ?_⟩
      · have first : known.idxOf edition.serial = a.seen.idxOf name :=
          (idxOf_related next.seen unique).symm
        simp only [Reply.face, first, Except.map]
      · exact noted_related next.seen unique ⟨edition, kept, rfl⟩

end Resolver

end Stencil
