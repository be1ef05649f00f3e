import Stencil.Proofs.Resolver.Account

namespace Stencil

variable {ω : Type}

inductive Reached (readers : Reader ω → Prop) (supply : ω) : ω → Prop where
  | start : Reached readers supply supply
  | read {s read} (name : String) : Reached readers supply s → readers read →
      Reached readers supply (read name s).2

/-- Whatever has been read, each reader answers by the name alone. -/
def ByName (readers : Reader ω → Prop) (supply : ω) : Prop :=
  ∀ s, Reached readers supply s → ∀ read, readers read → ∀ name,
    (read name s).1 = (read name supply).1

/-- A resolver in somebody's hands, and the number of the handle that was made new and that it comes
from, by cloning. -/
structure Handle (ω : Type) where
  origin : Nat
  resolver : Resolver ω

def Handle.clone (x : Handle ω) : Handle ω :=
  { x with resolver := x.resolver.clone }

/-- A depot and the handles of its resolvers, which are numbered. -/
structure Household (ω : Type) where
  depot : Depot ω
  handles : List (Handle ω)

inductive Act (ω : Type) where
  | make (engine : Engine) (read : Reader ω)
  | clone (handle : Nat)
  | ask (handle : Nat) (question : Question)

structure Entry where
  handle : Nat
  origin : Nat
  reply : Reply

namespace Household

def step (h : Household ω) : Act ω → Household ω × Option Entry
  | .make engine read =>
    let (r, depot) := h.depot.resolver engine read
    (⟨depot, h.handles ++ [⟨h.handles.length, r⟩]⟩, none)
  | .clone handle =>
    ({ h with handles := h.handles ++ (h.handles[handle]?.map Handle.clone).toList }, none)
  | .ask handle question =>
    match h.handles[handle]? with
    | none => (h, none)
    | some x =>
      let (reply, depot) := x.resolver.reply h.depot question
      ({ h with depot }, some ⟨handle, x.origin, reply⟩)

def run : List (Act ω) → Household ω → List Entry
  | [], _ => []
  | act :: acts, h => (h.step act).2.toList ++ run acts (h.step act).1

end Household

/-- What is seen through the handles of one origin, with the number of the handle each time. -/
def view (origin : Nat) : List Nat → List Entry → List (Nat × Face)
  | _, [] => []
  | known, e :: entries =>
    if e.origin = origin then
      (e.handle, (e.reply.face known).1) :: view origin (e.reply.face known).2 entries
    else view origin known entries

inductive Dealing where
  | made (engine : Engine) (answer : String → Except File.Error (Option String))
  | asked (question : Question)

namespace Act

variable (origin : Nat) (origins : List Nat)

def register : Act ω → List Nat
  | make _ _ => origins ++ [origins.length]
  | clone handle => origins ++ origins[handle]?.toList
  | ask _ _ => origins

/-- What an act does to the resolver of an origin, and through which handle. -/
def dealing? (supply : ω) : Act ω → Option (Nat × Dealing)
  | make engine read =>
    if origins.length = origin then
      some (origin, .made engine fun name => (read name supply).1)
    else none
  | clone _ => none
  | ask handle question =>
    if origins[handle]? = some origin then some (handle, .asked question) else none

def isForeign : Act ω → Bool
  | make _ _ | clone _ => false
  | ask handle _ => origins[handle]? != some origin

end Act

def dealings (supply : ω) (origin : Nat) : List Nat → List (Act ω) → List (Nat × Dealing)
  | _, [] => []
  | origins, act :: acts =>
    (act.dealing? origin origins supply).toList ++
      dealings supply origin (act.register origins) acts

/-- The acts without what is asked through handles of other origins. -/
def pruned (origin : Nat) : List Nat → List (Act ω) → List (Act ω)
  | _, [] => []
  | origins, act :: acts =>
    let rest := pruned origin (act.register origins) acts
    if act.isForeign origin origins then rest else act :: rest

namespace Account

def follow (a : Account) : Dealing → Option Face × Account
  | .made engine answer => (none, .new (engine.make answer))
  | .asked question => (some (a.reply question).1, (a.reply question).2)

def faces : Account → List (Nat × Dealing) → List (Nat × Face)
  | _, [] => []
  | a, (handle, dealing) :: rest =>
    ((a.follow dealing).1.map (handle, ·)).toList ++ faces (a.follow dealing).2 rest

theorem faces_unnumbered (a : Account) {dealings others : List (Nat × Dealing)}
    (same : dealings.map (·.2) = others.map (·.2)) :
    (a.faces dealings).map (·.2) = (a.faces others).map (·.2) := by
  induction dealings generalizing a others with
  | nil =>
    cases others with
    | nil => rfl
    | cons => cases same
  | cons first rest ih =>
    cases others with
    | nil => cases same
    | cons other others =>
      obtain ⟨handle, dealing⟩ := first
      obtain ⟨handleToo, another⟩ := other
      obtain ⟨rfl, sameRest⟩ : dealing = another ∧ _ := List.cons_eq_cons.mp same
      have next := ih (a.follow dealing).2 sameRest
      rw [faces, faces, List.map_append, List.map_append, next]
      cases (a.follow dealing).1 <;> rfl

end Account

theorem dealings_pruned (supply : ω) (origin : Nat) (origins : List Nat) (acts : List (Act ω)) :
    dealings supply origin origins (pruned origin origins acts) =
      dealings supply origin origins acts := by
  induction acts generalizing origins with
  | nil => rfl
  | cons act acts ih =>
    cases foreign : act.isForeign origin origins with
    | false => simp only [pruned, foreign, Bool.false_eq_true, if_false, dealings, ih]
    | true =>
      -- What is left out neither makes a handle nor has to do with the origin.
      cases act with
      | make | clone => cases foreign
      | ask handle question =>
        have other : origins[handle]? ≠ some origin := bne_iff_ne.mp foreign
        simp only [pruned, foreign, if_true, dealings, Act.dealing?, if_neg other, Act.register, ih,
          Option.toList_none, List.nil_append]

namespace Resolver

variable {r : Resolver ω} {d after : Depot ω} {name : String} {result : Except Failure Edition}

theorem Resolves.supply_eq (resolves : r.Resolves d name result after) :
    after.workshop.supply = d.workshop.supply ∨
      after.workshop.supply = (r.read name d.workshop.supply).2 := by
  cases found : (d.cacheOf r).get? name with
  | some edition => exact .inl (congrArg Workshop.supply (resolves.of_kept found).2)
  | none => exact .inr (resolves.of_absent found).2

theorem Resolves.caches_eq (resolves : r.Resolves d name result after) :
    ∃ cache, after.caches = d.caches.set r.cache cache := by
  cases resolves with
  | kept | filled | released => exact ⟨_, rfl⟩

structure Leaves (r : Resolver ω) (d after : Depot ω) : Prop where
  length : after.caches.length = d.caches.length
  other {q : Resolver ω} : q.cache ≠ r.cache → after.cacheOf q = d.cacheOf q
  parses : d.workshop.parses ≤ after.workshop.parses
  supply : ∃ names, after.workshop.supply = r.readAll names d.workshop.supply

theorem Resolves.leaves (resolves : r.Resolves d name result after) : r.Leaves d after := by
  obtain ⟨cache, caches⟩ := resolves.caches_eq
  refine ⟨?_, fun apart => ?_, resolves.parses_le, ?_⟩
  · rw [caches, List.length_set]
  · rw [Depot.cacheOf, caches, List.getElem?_set_ne (Ne.symm apart), Depot.cacheOf]
  · rcases resolves.supply_eq with same | read
    · exact ⟨[], same⟩
    · exact ⟨[name], read⟩

theorem reply_leaves (r : Resolver ω) (d : Depot ω) (q : Question) :
    r.Leaves d (r.reply d q).2 := by
  cases q with
  | resolve name | render name context => exact (resolve_resolves r d name).leaves
  | stats => exact ⟨rfl, fun _ => rfl, Nat.le_refl _, [], rfl⟩

end Resolver

section

variable {readers : Reader ω → Prop} {supply s : ω} {r : Resolver ω}

theorem Reached.readAll (reached : Reached readers supply s) (reads : readers r.read)
    (names : List String) : Reached readers supply (r.readAll names s) := by
  induction names generalizing s with
  | nil => exact reached
  | cons name names ih => exact ih (reached.read name reads)

theorem ByName.of_constant
    (constant : ∀ read, readers read → ∀ name, (read name supply).2 = supply) :
    ByName readers supply := by
  intro s reached read reads name
  have same : s = supply := by
    induction reached with
    | start => rfl
    | read query _ readsToo ih => rw [ih, constant _ readsToo]
  rw [same]

theorem ByName.steady (byName : ByName readers supply) (reached : Reached readers supply s)
    (reads : readers r.read) : r.Steady s fun name => (r.read name supply).1 :=
  fun before name => byName _ (reached.readAll reads before) r.read reads name

end

namespace Household

variable {readers : Reader ω → Prop} {supply : ω} {h : Household ω}

def Agree (x y : Handle ω) : Prop :=
  if x.origin = y.origin then x.resolver = y.resolver
  else x.resolver.cache ≠ y.resolver.cache

theorem Agree.symm {x y : Handle ω} (agree : Agree x y) : Agree y x := by
  unfold Agree at agree ⊢
  by_cases same : x.origin = y.origin
  · rw [if_pos same] at agree
    rw [if_pos same.symm]
    exact agree.symm
  · rw [if_neg same] at agree
    rw [if_neg (Ne.symm same)]
    exact agree.symm

structure Orderly (readers : Reader ω → Prop) (supply : ω) (h : Household ω) : Prop where
  reached : Reached readers supply h.depot.workshop.supply
  reads : ∀ x ∈ h.handles, readers x.resolver.read
  earlier : ∀ x ∈ h.handles, x.origin < h.handles.length
  own : ∀ x ∈ h.handles, x.resolver.cache < h.depot.caches.length
  agree : ∀ x ∈ h.handles, ∀ y ∈ h.handles, Agree x y

theorem orderly_start (readers : Reader ω → Prop) (d : Depot ω) :
    Orderly readers d.workshop.supply ⟨d, []⟩ :=
  ⟨.start, nofun, nofun, nofun, nofun⟩

theorem mem_clone {x : Handle ω} {handle : Nat}
    (member : x ∈ (h.step (.clone handle)).1.handles) : x ∈ h.handles := by
  rcases List.mem_append.mp member with old | new
  · exact old
  · obtain ⟨y, found, rfl⟩ := Option.map_eq_some_iff.mp (Option.mem_toList.mp new)
    exact List.mem_of_getElem? found

theorem step_ask_none {handle : Nat} (absent : h.handles[handle]? = none) (question : Question) :
    h.step (.ask handle question) = (h, none) := by
  simp only [step, absent]

theorem step_ask_some {handle : Nat} {x : Handle ω} (found : h.handles[handle]? = some x)
    (question : Question) :
    h.step (.ask handle question) =
      (⟨(x.resolver.reply h.depot question).2, h.handles⟩,
        some ⟨handle, x.origin, (x.resolver.reply h.depot question).1⟩) := by
  simp only [step, found]

theorem Orderly.make (orderly : h.Orderly readers supply) (engine : Engine) {read : Reader ω}
    (reads : readers read) : (h.step (.make engine read)).1.Orderly readers supply := by
  have others : ∀ x ∈ h.handles,
      Agree x ⟨h.handles.length, (h.depot.resolver engine read).1⟩ := by
    intro x member
    rw [Agree, if_neg (Nat.ne_of_lt (orderly.earlier x member))]
    exact Nat.ne_of_lt (orderly.own x member)
  refine ⟨orderly.reached, ?_, ?_, ?_, ?_⟩
  · exact List.forall_mem_append.mpr ⟨orderly.reads, List.forall_mem_singleton.mpr reads⟩
  · have longer : h.handles.length < (h.step (.make engine read)).1.handles.length := by
      simp [step]
    refine List.forall_mem_append.mpr ⟨fun x member => ?_, List.forall_mem_singleton.mpr longer⟩
    exact Nat.lt_trans (orderly.earlier x member) longer
  · have longer : h.depot.caches.length <
        (h.step (.make engine read)).1.depot.caches.length := by
      simp [step, Depot.resolver]
    refine List.forall_mem_append.mpr ⟨fun x member => ?_, List.forall_mem_singleton.mpr longer⟩
    exact Nat.lt_trans (orderly.own x member) longer
  · refine List.forall_mem_append.mpr ⟨fun x member => ?_, List.forall_mem_singleton.mpr ?_⟩
    · exact List.forall_mem_append.mpr
        ⟨orderly.agree x member, List.forall_mem_singleton.mpr (others x member)⟩
    · refine List.forall_mem_append.mpr
        ⟨fun x member => (others x member).symm, List.forall_mem_singleton.mpr ?_⟩
      rw [Agree, if_pos rfl]

theorem Orderly.clone (orderly : h.Orderly readers supply) (handle : Nat) :
    (h.step (.clone handle)).1.Orderly readers supply := by
  refine ⟨orderly.reached, fun x member => orderly.reads x (mem_clone member), fun x member => ?_,
    fun x member => orderly.own x (mem_clone member),
    fun x member y memberToo => orderly.agree x (mem_clone member) y (mem_clone memberToo)⟩
  have longer : h.handles.length ≤ (h.step (.clone handle)).1.handles.length := by
    simp [step]
  exact Nat.lt_of_lt_of_le (orderly.earlier x (mem_clone member)) longer

theorem Orderly.ask (orderly : h.Orderly readers supply) (handle : Nat) (question : Question) :
    (h.step (.ask handle question)).1.Orderly readers supply := by
  cases found : h.handles[handle]? with
  | none =>
    rw [step_ask_none found]
    exact orderly
  | some x =>
    rw [step_ask_some found]
    have leaves := x.resolver.reply_leaves h.depot question
    refine ⟨?_, orderly.reads, orderly.earlier, fun y member => ?_, orderly.agree⟩
    · obtain ⟨names, read⟩ := leaves.supply
      have reached := orderly.reached.readAll (orderly.reads x (List.mem_of_getElem? found)) names
      rwa [← read] at reached
    · show y.resolver.cache < (x.resolver.reply h.depot question).2.caches.length
      rw [leaves.length]
      exact orderly.own y member

/-- Whoever makes a resolver uses one of these readers. -/
def Uses (readers : Reader ω → Prop) : Act ω → Prop
  | .make _ read => readers read
  | .clone _ | .ask _ _ => True

theorem Orderly.step (orderly : h.Orderly readers supply) {act : Act ω} (uses : Uses readers act) :
    (h.step act).1.Orderly readers supply := by
  cases act with
  | make engine read => exact orderly.make engine uses
  | clone handle => exact orderly.clone handle
  | ask handle question => exact orderly.ask handle question

variable {origin : Nat} {a : Account} {known : List Nat}

structure Fits (supply : ω) (origin : Nat) (a : Account) (known : List Nat) (h : Household ω) :
    Prop where
  matching : ∀ x ∈ h.handles, x.origin = origin →
    x.resolver.Matches (fun name => (x.resolver.read name supply).1) a known h.depot
  fresh : (∀ x ∈ h.handles, x.origin ≠ origin) → known = []

theorem Fits.frame (byName : ByName readers supply) {after : Household ω}
    (orderly : after.Orderly readers supply) (fits : h.Fits supply origin a known)
    (grown : h.handles ⊆ after.handles)
    (old : ∀ x ∈ after.handles, x.origin = origin →
      x ∈ h.handles ∧ after.depot.cacheOf x.resolver = h.depot.cacheOf x.resolver)
    (later : h.depot.workshop.parses ≤ after.depot.workshop.parses) :
    after.Fits supply origin a known := by
  refine ⟨fun x member ours => ?_, fun none => fits.fresh fun x member => none x (grown member)⟩
  obtain ⟨memberToo, same⟩ := old x member ours
  exact (fits.matching x memberToo ours).frame same (orderly.own x member)
    (byName.steady orderly.reached (orderly.reads x member)) later

structure Advance (supply : ω) (origin : Nat) (a : Account) (known : List Nat)
    (h : Household ω) (act : Act ω) (seen : List (Nat × Face)) (next : Account)
    (knownNext : List Nat) : Prop where
  fits : (h.step act).1.Fits supply origin next knownNext
  view (entries) : view origin known ((h.step act).2.toList ++ entries) =
    seen ++ view origin knownNext entries
  faces (rest) :
    a.faces ((act.dealing? origin (h.handles.map (·.origin)) supply).toList ++ rest) =
      seen ++ next.faces rest

section

variable (byName : ByName readers supply) (orderly : h.Orderly readers supply)
  (fits : h.Fits supply origin a known)

include byName orderly fits

theorem Fits.make (engine : Engine) {read : Reader ω} (reads : readers read) :
    ∃ next knownNext, Advance supply origin a known h (.make engine read) [] next knownNext := by
  let new : Handle ω := ⟨h.handles.length, (h.depot.resolver engine read).1⟩
  have after := orderly.make engine reads
  by_cases own : h.handles.length = origin
  · refine ⟨.new (engine.make fun name => (read name supply).1), known, ⟨?_, ?_⟩,
      fun entries => rfl, fun rest => ?_⟩
    · have others : ∀ x ∈ h.handles, x.origin ≠ origin := fun x member same =>
        Nat.ne_of_lt (orderly.earlier x member) (same.trans own.symm)
      refine List.forall_mem_append.mpr ⟨fun x member same => absurd same (others x member), ?_⟩
      refine List.forall_mem_singleton.mpr fun _ => ?_
      rw [fits.fresh others]
      exact Resolver.matches_new h.depot engine read (byName.steady orderly.reached reads)
    · exact fun none => absurd own (none new (List.mem_append_right _ (List.mem_singleton_self _)))
    · simp only [Act.dealing?, List.length_map, if_pos own]
      rfl
  · refine ⟨a, known, fits.frame byName after (List.subset_append_left _ _) ?_ (Nat.le_refl _),
      fun entries => rfl, fun rest => ?_⟩
    · refine List.forall_mem_append.mpr ⟨fun x member _ => ⟨member, ?_⟩, ?_⟩
      · show (h.depot.caches ++ [Cache.empty])[x.resolver.cache]?.getD Cache.empty = _
        rw [List.getElem?_append_left (orderly.own x member)]
        rfl
      · exact List.forall_mem_singleton.mpr fun same => absurd same own
    · simp only [Act.dealing?, List.length_map, if_neg own]
      rfl

theorem Fits.clone (handle : Nat) :
    ∃ next knownNext, Advance supply origin a known h (.clone handle) [] next knownNext := by
  have after := orderly.clone handle
  have grown : h.handles ⊆ (h.step (.clone handle)).1.handles := List.subset_append_left _ _
  exact ⟨a, known, fits.frame byName after grown (fun x member _ => ⟨mem_clone member, rfl⟩)
    (Nat.le_refl _), fun entries => rfl, fun rest => rfl⟩

omit byName in
theorem Fits.ask_own {handle : Nat} {x : Handle ω} (found : h.handles[handle]? = some x)
    (own : x.origin = origin) (question : Question) :
    ∃ next knownNext, Advance supply origin a known h (.ask handle question)
      [(handle, (a.reply question).1)] next knownNext := by
  have member := List.mem_of_getElem? found
  obtain ⟨same, next⟩ := (fits.matching x member own).reply question
  refine ⟨(a.reply question).2, ((x.resolver.reply h.depot question).1.face known).2, ⟨?_, ?_⟩,
    fun entries => ?_, fun rest => ?_⟩
  · rw [step_ask_some found]
    -- The other handles of the origin are the same resolver.
    intro y memberToo sameToo
    have agree := orderly.agree y memberToo x member
    rw [Agree, if_pos (sameToo.trans own.symm)] at agree
    rw [agree]
    exact next
  · rw [step_ask_some found]
    exact fun none => absurd own (none x member)
  · rw [step_ask_some found]
    simp only [Option.toList_some, List.cons_append, List.nil_append, Stencil.view, if_pos own,
      same]
  · simp only [Act.dealing?, List.getElem?_map, found, Option.map_some, own, if_true]
    rfl

theorem Fits.ask_foreign {handle : Nat} {x : Handle ω} (found : h.handles[handle]? = some x)
    (other : x.origin ≠ origin) (question : Question) :
    ∃ next knownNext,
      Advance supply origin a known h (.ask handle question) [] next knownNext := by
  have member := List.mem_of_getElem? found
  have leaves := x.resolver.reply_leaves h.depot question
  have after := orderly.ask handle question
  rw [step_ask_some found] at after
  refine ⟨a, known, ?_, fun entries => ?_, fun rest => ?_⟩
  · rw [step_ask_some found]
    refine fits.frame byName after (List.Subset.refl _) (fun y memberToo ours => ?_) leaves.parses
    have agree := orderly.agree y memberToo x member
    rw [Agree, if_neg fun equal => other (equal.symm.trans ours)] at agree
    exact ⟨memberToo, leaves.other agree⟩
  · rw [step_ask_some found]
    simp only [Option.toList_some, List.cons_append, List.nil_append, Stencil.view, if_neg other]
  · have different : some x.origin ≠ some origin := fun equal => other (Option.some.inj equal)
    simp only [Act.dealing?, List.getElem?_map, found, Option.map_some, if_neg different]
    rfl

theorem Fits.ask (handle : Nat) (question : Question) :
    ∃ seen next knownNext,
      Advance supply origin a known h (.ask handle question) seen next knownNext := by
  cases found : h.handles[handle]? with
  | none =>
    refine ⟨[], a, known, ?_, fun entries => ?_, fun rest => ?_⟩
    · rw [step_ask_none found]
      exact fits
    · rw [step_ask_none found]
      rfl
    · simp only [Act.dealing?, List.getElem?_map, found]
      rfl
  | some x =>
    by_cases own : x.origin = origin
    · exact ⟨_, fits.ask_own orderly found own question⟩
    · exact ⟨_, fits.ask_foreign byName orderly found own question⟩

theorem Fits.step {act : Act ω} (uses : Uses readers act) :
    ∃ seen next knownNext, Advance supply origin a known h act seen next knownNext := by
  cases act with
  | make engine read => exact ⟨[], fits.make byName orderly engine uses⟩
  | clone handle => exact ⟨[], fits.clone byName orderly handle⟩
  | ask handle question => exact fits.ask byName orderly handle question

end

theorem origins_step (h : Household ω) (act : Act ω) :
    (h.step act).1.handles.map (·.origin) = act.register (h.handles.map (·.origin)) := by
  cases act with
  | make engine read => simp [Household.step, Act.register]
  | clone handle =>
    simp only [Household.step, Act.register, List.map_append, List.getElem?_map]
    cases h.handles[handle]? <;> rfl
  | ask handle question =>
    cases found : h.handles[handle]? with
    | none => rw [step_ask_none found, Act.register]
    | some x => rw [step_ask_some found, Act.register]

theorem view_run (byName : ByName readers supply) (orderly : h.Orderly readers supply)
    (fits : h.Fits supply origin a known) {acts : List (Act ω)}
    (uses : ∀ act ∈ acts, Uses readers act) :
    view origin known (run acts h) =
      a.faces (dealings supply origin (h.handles.map (·.origin)) acts) := by
  -- `Orderly` and `Fits` hold after each act; what is seen and what is told grow by the same.
  induction acts generalizing h a known with
  | nil => rfl
  | cons act acts ih =>
    have usesFirst := uses act List.mem_cons_self
    obtain ⟨seen, next, knownNext, advance⟩ := fits.step byName orderly usesFirst
    have others := ih (orderly.step usesFirst) advance.fits
      fun act member => uses act (List.mem_cons_of_mem _ member)
    rw [run, advance.view, others, dealings, advance.faces, origins_step]

theorem view_start {d : Depot ω} (byName : ByName readers d.workshop.supply) {acts : List (Act ω)}
    (uses : ∀ act ∈ acts, Uses readers act) (origin : Nat) :
    view origin [] (run acts ⟨d, []⟩) =
      (Account.new fun name => .error (.absent name)).faces
        (dealings d.workshop.supply origin [] acts) := by
  have fits : Fits d.workshop.supply origin (.new fun name => .error (.absent name)) [] ⟨d, []⟩ :=
    ⟨fun x member => absurd member List.not_mem_nil, fun _ => rfl⟩
  exact view_run byName (orderly_start readers d) fits uses

theorem uses_pruned {acts : List (Act ω)} (uses : ∀ act ∈ acts, Uses readers act) (origin : Nat)
    (origins : List Nat) : ∀ act ∈ pruned origin origins acts, Uses readers act := by
  induction acts generalizing origins with
  | nil => exact uses
  | cons act acts ih =>
    obtain ⟨first, rest⟩ := List.forall_mem_cons.mp uses
    rw [pruned]
    split
    · exact ih rest _
    · exact List.forall_mem_cons.mpr ⟨first, ih rest _⟩

/-- Over a supply that answers its readers by the name alone: what is seen through the handles of an
origin is what would be seen if nobody asked through any other handle. And it is the same wherever
the same happens to a resolver, through whichever of its handles. -/
theorem handles_isolated {d : Depot ω} (byName : ByName readers d.workshop.supply)
    {acts others : List (Act ω)} (uses : ∀ act ∈ acts, Uses readers act)
    (usesToo : ∀ act ∈ others, Uses readers act) (origin another : Nat) :
    view origin [] (run acts ⟨d, []⟩) = view origin [] (run (pruned origin [] acts) ⟨d, []⟩) ∧
      ((dealings d.workshop.supply origin [] acts).map (·.2) =
          (dealings d.workshop.supply another [] others).map (·.2) →
        (view origin [] (run acts ⟨d, []⟩)).map (·.2) =
          (view another [] (run others ⟨d, []⟩)).map (·.2)) := by
  have usesPruned := uses_pruned uses origin []
  constructor
  · rw [view_start byName uses, view_start byName usesPruned, dealings_pruned]
  · intro same
    rw [view_start byName uses, view_start byName usesToo]
    exact Account.faces_unnumbered _ same

def elsewhere : Reader Library := fun name l =>
  ((Store.read l.files name (.embedded [("a", "other"), ("c", "text")])).1, l)

theorem handles_isolated_sample :
    let d := Depot.new Resolver.samples
    let readers : Reader Library → Prop := fun read => read = Library.read ∨ read = elsewhere
    let made : List (Act Library) :=
      [.make ⟨false⟩ Library.read, .make ⟨true⟩ elsewhere, .clone 0]
    let acts := made ++ [.ask 0 (.resolve "a"), .ask 1 (.resolve "a"), .ask 1 (.resolve "c"),
      .ask 2 (.render "a" .empty), .ask 1 (.render "b" .empty), .ask 2 .stats]
    let quiet := made ++ [.ask 0 (.resolve "a"), .ask 2 (.render "a" .empty), .ask 2 .stats]
    let moved := made ++ [.ask 2 (.resolve "a"), .ask 0 (.render "a" .empty), .ask 1 .stats,
      .ask 0 .stats]
    ByName readers d.workshop.supply ∧
      view 0 [] (run acts ⟨d, []⟩) = view 0 [] (run quiet ⟨d, []⟩) ∧
      (view 0 [] (run acts ⟨d, []⟩)).map (·.2) = (view 0 [] (run moved ⟨d, []⟩)).map (·.2) := by
  intro d readers made acts quiet moved
  have byName : ByName readers d.workshop.supply := by
    refine ByName.of_constant fun read reads name => ?_
    rcases reads with rfl | rfl
    · exact Library.read_firm (l := Resolver.samples) trivial name
    · rfl
  have uses : ∀ act ∈ made, Uses readers act := by
    simp [made, Uses, readers]
  have usesActs : ∀ act ∈ acts, Uses readers act :=
    List.forall_mem_append.mpr ⟨uses, by simp [Uses]⟩
  have usesMoved : ∀ act ∈ moved, Uses readers act :=
    List.forall_mem_append.mpr ⟨uses, by simp [Uses]⟩
  obtain ⟨alone, alike⟩ := handles_isolated byName usesActs usesMoved 0 0
  exact ⟨byName, alone, alike rfl⟩

end Household

end Stencil
