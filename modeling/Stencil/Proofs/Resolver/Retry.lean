import Stencil.Proofs.Resolver.Resolve

namespace Stencil

variable {ω : Type}

/-- A supply, and the names that have been read from it, the latest first. -/
structure Watched (ω : Type) where
  supply : ω
  asked : List String

namespace Watched

def read (read : String → ω → Except File.Error (Option String) × ω) (name : String)
    (w : Watched ω) : Except File.Error (Option String) × Watched ω :=
  let (answer, supply) := read name w.supply
  (answer, ⟨supply, name :: w.asked⟩)

end Watched

namespace Depot

def watch (d : Depot ω) : Depot (Watched ω) :=
  ⟨d.caches, ⟨d.workshop.supply, []⟩, d.workshop.reads, d.workshop.parses⟩

/-- The depot after its supply has been changed from outside. -/
def edit (d : Depot (Watched ω)) (change : ω → ω) : Depot (Watched ω) :=
  let workshop := d.workshop
  let supply := workshop.supply
  { d with workshop := { workshop with supply := { supply with supply := change supply.supply } } }

end Depot

inductive Occasion (ω : Type) where
  | edited (change : ω → ω)
  | resolved (name : String)

/-- A depot, and what a resolver has answered so far, the latest last. -/
structure Story (ω : Type) where
  depot : Depot (Watched ω)
  answers : List (String × Except Failure Edition)

namespace Story

def add (r : Resolver (Watched ω)) (s : Story ω) : Occasion ω → Story ω
  | .edited change => { s with depot := s.depot.edit change }
  | .resolved name =>
    let (result, depot) := (r.resolve name s.depot).1
    ⟨depot, s.answers ++ [(name, result)]⟩

def tell (r : Resolver (Watched ω)) (s : Story ω) (occasions : List (Occasion ω)) : Story ω :=
  occasions.foldl (add r) s

/-- The template that was the first answer to a name, failures apart. -/
def first? (s : Story ω) (name : String) : Option Edition :=
  s.answers.findSome? fun answer => if answer.1 = name then answer.2.toOption else none

def failures (s : Story ω) (name : String) : Nat :=
  s.answers.countP fun answer => answer.1 = name && answer.2.toOption.isNone

def reads (s : Story ω) (name : String) : Nat :=
  s.depot.workshop.supply.asked.count name

variable {s : Story ω} {name : String} {result : Except Failure Edition}
  {depot : Depot (Watched ω)}

theorem first?_append (query : String) :
    first? ⟨depot, s.answers ++ [(name, result)]⟩ query =
      (s.first? query).or (if name = query then result.toOption else none) := by
  unfold first?
  rw [List.findSome?_append, List.findSome?_singleton]

theorem failures_append (query : String) :
    failures ⟨depot, s.answers ++ [(name, result)]⟩ query =
      s.failures query + if name = query ∧ result.toOption = none then 1 else 0 := by
  unfold failures
  rw [List.countP_append, List.countP_singleton]
  simp [Bool.and_eq_true, Option.isNone_iff_eq_none]

/-- The resolver keeps what it has answered first, and each reading was for a failure or for that
answer. -/
structure Told (r : Resolver (Watched ω)) (s : Story ω) : Prop where
  within : r.Within s.depot
  kept (query) : (s.depot.cacheOf r).get? query = s.first? query
  reads (query) : s.reads query = s.failures query + if (s.first? query).isSome then 1 else 0

theorem told_new (d : Depot ω) (engine : Engine)
    (read : String → ω → Except File.Error (Option String) × ω) :
    Told (d.watch.resolver engine (Watched.read read)).1
      ⟨(d.watch.resolver engine (Watched.read read)).2, []⟩ := by
  refine ⟨Resolver.within_new d.watch engine _, fun name => ?_, fun name => rfl⟩
  rw [Resolver.cacheOf_new]
  rfl

variable {r : Resolver (Watched ω)}

theorem Told.edited (told : Told r s) (change : ω → ω) :
    Told r { s with depot := s.depot.edit change } :=
  ⟨⟨told.within.own, told.within.ascending⟩, told.kept, told.reads⟩

theorem Told.repeated (told : Told r s) {edition : Edition}
    (known : s.first? name = some edition) (within : r.Within depot)
    (kept : ∀ query, (depot.cacheOf r).get? query = (s.depot.cacheOf r).get? query)
    (unread : depot.workshop = s.depot.workshop) :
    Told r ⟨depot, s.answers ++ [(name, .ok edition)]⟩ := by
  have first (query : String) :
      first? ⟨depot, s.answers ++ [(name, .ok edition)]⟩ query = s.first? query := by
    rw [first?_append]
    by_cases same : name = query
    · rw [← same, known, Option.some_or]
    · rw [if_neg same, Option.or_none]
  refine ⟨within, fun query => ?_, fun query => ?_⟩
  · rw [kept, first, told.kept]
  · rw [first, failures_append, if_neg (by simp [Except.toOption]), Story.reads, unread]
    exact told.reads query

theorem Told.tried (told : Told r s) (new : s.first? name = none)
    (within : r.Within depot)
    (kept : ∀ query, (depot.cacheOf r).get? query =
      if query = name then result.toOption else (s.depot.cacheOf r).get? query)
    (asked : depot.workshop.supply.asked = name :: s.depot.workshop.supply.asked) :
    Told r ⟨depot, s.answers ++ [(name, result)]⟩ := by
  refine ⟨within, fun query => ?_, fun query => ?_⟩
  · rw [kept, first?_append, told.kept]
    by_cases same : query = name
    · rw [if_pos same, if_pos same.symm, same, new, Option.none_or]
    · rw [if_neg same, if_neg (Ne.symm same), Option.or_none]
  · rw [first?_append, failures_append, Story.reads, asked, List.count_cons]
    have before := told.reads query
    unfold Story.reads at before
    by_cases same : name = query
    · subst same
      rw [new] at before ⊢
      cases result <;> simp [Except.toOption, before]
    · simp [same, before]

variable (noted : ∀ name w, (r.read name w).2.asked = name :: w.asked)

include noted

theorem Told.resolved (told : Told r s) (resolves : r.Resolves s.depot name result depot) :
    Told r ⟨depot, s.answers ++ [(name, result)]⟩ := by
  have within := resolves.within told.within
  have kept := resolves.get? told.within
  cases known : s.first? name with
  | some edition =>
    obtain ⟨rfl, unread⟩ := resolves.of_kept ((told.kept name).trans known)
    refine told.repeated known within (fun query => ?_) unread
    rw [kept]
    split
    · rename_i same
      rw [same, told.kept, known]
      rfl
    · rfl
  | none =>
    obtain ⟨_, read⟩ := resolves.of_absent ((told.kept name).trans known)
    exact told.tried known within kept ((congrArg Watched.asked read).trans (noted _ _))

theorem Told.tell (told : Told r s) (occasions : List (Occasion ω)) :
    Told r (s.tell r occasions) := by
  induction occasions generalizing s with
  | nil => exact told
  | cons occasion rest ih =>
    cases occasion with
    | edited change => exact ih (told.edited change)
    | resolved name => exact ih (told.resolved noted (Resolver.resolve_resolves r s.depot name))

end Story

namespace Resolver

/-- Whatever happens, to the supply and to the resolver: as long as a name has not been resolved, to
resolve it is to read it once, and the answer is that of the supply at that time; from the first
template on it is that template, and the supply is left alone. So a name is read as often as it has
been resolved in vain, and once more if it has been resolved. -/
theorem resolve_settles (d : Depot ω) (engine : Engine)
    (read : String → ω → Except File.Error (Option String) × ω) (occasions : List (Occasion ω))
    (name : String) :
    let r := (d.watch.resolver engine (Watched.read read)).1
    let s := Story.tell r ⟨(d.watch.resolver engine (Watched.read read)).2, []⟩ occasions
    let supply := s.depot.workshop.supply
    let (result, after) := (r.resolve name s.depot).1
    match s.first? name with
    | none =>
      result.map (·.template) = engine.make (fun query => (read query supply.supply).1) name ∧
        after.workshop.supply.asked = name :: supply.asked ∧ s.reads name = s.failures name
    | some edition =>
      result = .ok edition ∧
        (∀ context, (result.bind fun edition => edition.template.render context) =
          edition.template.render context) ∧
        after.workshop.supply = supply ∧ s.reads name = s.failures name + 1 := by
  intro r s supply
  have told : Story.Told r s := (Story.told_new d engine read).tell (fun _ _ => rfl) occasions
  have reads := told.reads name
  have resolves := resolve_resolves r s.depot name
  dsimp only
  cases known : s.first? name with
  | none =>
    obtain ⟨made, asked⟩ := resolves.of_absent ((told.kept name).trans known)
    rw [known] at reads
    exact ⟨made, congrArg Watched.asked asked, reads⟩
  | some edition =>
    obtain ⟨answered, unread⟩ := resolves.of_kept ((told.kept name).trans known)
    rw [known] at reads
    refine ⟨answered, fun context => ?_, congrArg Workshop.supply unread, reads⟩
    rw [answered]
    rfl

-- A store that fails once, and is emptied when the name has been resolved.
example :
    let d := Depot.new ⟨.flaky 1 .notText (.embedded [("a", "text")]), .fresh []⟩
    let r := (d.watch.resolver ⟨false⟩ (Watched.read Library.read)).1
    let s := Story.tell r ⟨(d.watch.resolver ⟨false⟩ (Watched.read Library.read)).2, []⟩
      [.resolved "a", .resolved "a", .edited fun l => { l with store := .embedded [] },
        .resolved "a"]
    s.reads "a" = 2 ∧ s.failures "a" = 1 ∧ s.answers.length = 3 := by
  decide +kernel

end Resolver

end Stencil
