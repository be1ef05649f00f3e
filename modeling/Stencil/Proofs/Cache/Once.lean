import Stencil.Proofs.Cache.Consistent

namespace Stencil

variable {τ : Type}

/-- What must have happened before, and what must not. -/
def Happening.Follows (before : List (Happening τ)) : Happening τ → Prop
  | started name run =>
    (∀ product, succeeded name product ∉ before) ∧
      ∀ other earlier, started other earlier ∈ before → earlier < run
  | succeeded name product =>
    (∀ other, succeeded name other ∉ before) ∧ started name product.run ∈ before
  | returned name (.ok product) => succeeded name product ∈ before
  | _ => True

def InOrder : List (Happening τ) → Prop
  | [] => True
  | e :: before => e.Follows before ∧ InOrder before

namespace InOrder

variable {history : List (Happening τ)}

theorem suffix {before : List (Happening τ)} (ordered : InOrder history)
    (suffix : before <:+ history) : InOrder before := by
  induction history with
  | nil =>
    rw [List.suffix_nil.mp suffix]
    trivial
  | cons e rest ih =>
    rcases List.suffix_cons_iff.mp suffix with rfl | inside
    · exact ordered
    · exact ih ordered.2 inside

theorem follows {e : Happening τ} {before : List (Happening τ)} (ordered : InOrder history)
    (suffix : e :: before <:+ history) : e.Follows before :=
  (ordered.suffix suffix).1

theorem succeeds_le (ordered : InOrder history) (name : String) :
    history.countP (·.succeeds name) ≤ 1 := by
  induction history with
  | nil => simp
  | cons e rest ih =>
    obtain ⟨follows, older⟩ := ordered
    rw [List.countP_cons]
    split
    · rename_i succeeds
      cases e with
      | succeeded other product =>
        cases beq_iff_eq.mp succeeds
        have none : rest.countP (·.succeeds name) = 0 := by
          refine List.countP_eq_zero.mpr fun happening member again => ?_
          cases happening with
          | succeeded third earlier =>
            cases beq_iff_eq.mp again
            exact follows.1 earlier member
          | started | failed | released | returned => cases again
        omega
      | started | failed | released | returned => cases succeeds
    · exact ih older

theorem started_of_succeeded {name : String} {product : Product τ} (ordered : InOrder history)
    (member : .succeeded name product ∈ history) : .started name product.run ∈ history := by
  obtain ⟨after, before, rfl⟩ := List.append_of_mem member
  have follows := ordered.follows (List.suffix_append after _)
  exact List.mem_append_right _ (List.mem_cons_of_mem _ follows.2)

theorem begins_eq {name : String} {run : Nat} (ordered : InOrder history)
    (member : .started name run ∈ history) : history.countP (·.begins run) = 1 := by
  induction history with
  | nil => cases member
  | cons e rest ih =>
    obtain ⟨follows, older⟩ := ordered
    rw [List.countP_cons]
    by_cases earlier : .started name run ∈ rest
    · have other : e.begins run = false := by
        cases e with
        | started query now =>
          have less := follows.2 name run earlier
          exact beq_eq_false_iff_ne.mpr (Nat.ne_of_gt less)
        | succeeded | failed | released | returned => rfl
      rw [ih older earlier, other]
      rfl
    · have now : e = .started name run :=
        ((List.mem_cons.mp member).resolve_right earlier).symm
      subst now
      have none : rest.countP (·.begins run) = 0 := by
        refine List.countP_eq_zero.mpr fun happening inside begins => ?_
        cases happening with
        | started query before =>
          cases beq_iff_eq.mp begins
          exact Nat.lt_irrefl _ (follows.2 query run inside)
        | succeeded | failed | released | returned => cases begins
      have self : (.started name run : Happening τ).begins run := beq_self_eq_true run
      rw [none, if_pos self]

end InOrder

namespace Crowd

structure Recorded (m : Crowd τ) : Prop where
  succeeded {name product} :
    .succeeded name product ∈ m.history ↔ m.shared.get? name = some product
  started {caller name k run} : caller ∈ m.callers →
    caller.phase = .visiting name k (.compiling run) → .started name run ∈ m.history
  numbered {name run} : .started name run ∈ m.history → run ≤ m.shared.misses
  ordered : InOrder m.history

theorem start_recorded (programs : List (List String)) :
    (start programs : Crowd τ).Recorded where
  succeeded := ⟨nofun, nofun⟩
  started member at_ := by
    obtain ⟨names, _, rfl⟩ := List.mem_map.mp member
    cases at_
  numbered := nofun
  ordered := trivial

variable {m : Crowd τ} {i : Nat} {before after : Caller τ} {shared : Shared τ}
  {events : List (Happening τ)}

theorem Recorded.keep (recorded : m.Recorded)
    (same : ∀ name, shared.get? name = m.shared.get? name)
    (silent : ∀ name product, .succeeded name product ∉ events)
    (compiling : ∀ name k run, after.phase = .visiting name k (.compiling run) →
      .started name run ∈ events)
    (misses : m.shared.misses ≤ shared.misses)
    (numbered : ∀ name run, .started name run ∈ events → run ≤ shared.misses)
    (ordered : InOrder (events ++ m.history)) :
    (m.turn i shared after events).Recorded where
  succeeded {name product} := by
    show _ ∈ events ++ m.history ↔ shared.get? name = _
    rw [same, ← recorded.succeeded, List.mem_append]
    exact ⟨fun inside => inside.resolve_left (silent name product), .inr⟩
  started {caller name k run} member at_ := by
    show _ ∈ events ++ m.history
    rcases List.mem_or_eq_of_mem_set member with old | rfl
    · exact List.mem_append_right _ (recorded.started old at_)
    · exact List.mem_append_left _ (compiling name k run at_)
  numbered {name run} member := by
    rcases List.mem_append.mp member with now | earlier
    · exact numbered name run now
    · exact Nat.le_trans (recorded.numbered earlier) misses
  ordered := ordered

theorem Recorded.keep_silent (recorded : m.Recorded)
    (same : ∀ name, shared.get? name = m.shared.get? name)
    (compiling : ∀ name k run, after.phase ≠ .visiting name k (.compiling run))
    (misses : m.shared.misses ≤ shared.misses) :
    (m.turn i shared after []).Recorded :=
  recorded.keep same nofun (fun name k run at_ => absurd at_ (compiling name k run)) misses nofun
    recorded.ordered

theorem Recorded.enter {name : String} {k : Nat} {rest : List String} (recorded : m.Recorded)
    (leads : m.shared.find? name = some k) (content : (m.shared.slots k).content = none) :
    (m.turn i (m.shared.enter k) ⟨.visiting name k (.compiling (m.shared.misses + 1)), rest⟩
      [.started name (m.shared.misses + 1)]).Recorded := by
  refine recorded.keep (fun _ => Shared.enter_get? _ _ _) ?_ ?_ (Nat.le_succ _) ?_ ?_
  · intro other product inside
    cases List.mem_singleton.mp inside
  · intro other j run at_
    cases at_
    exact List.mem_singleton_self _
  · intro other run inside
    cases List.mem_singleton.mp inside
    exact Nat.le_refl _
  · refine ⟨⟨?_, ?_⟩, recorded.ordered⟩
    · intro product earlier
      have kept := recorded.succeeded.mp earlier
      rw [Shared.get?_of_find? leads, content] at kept
      cases kept
    · intro other earlier inside
      exact Nat.lt_succ_of_le (recorded.numbered inside)

theorem Recorded.fill {name : String} {k run : Nat} {template : τ} {rest : List String}
    (consistent : m.Consistent) (recorded : m.Recorded)
    (present : m.callers[i]? = some ⟨.visiting name k (.compiling run), rest⟩) :
    (m.turn i (m.shared.fill k ⟨run, template⟩)
      ⟨.visiting name k (.leaving (.ok ⟨run, template⟩)), rest⟩
      [.succeeded name ⟨run, template⟩]).Recorded := by
  have member := List.mem_of_getElem? present
  have leads := consistent.attached member rfl
  have vacant := consistent.vacant (consistent.busy_of_compiling member)
  have before : m.shared.get? name = none := by
    rw [Shared.get?_of_find? leads, vacant]
  have filled := Shared.fill_get? consistent.toTidy leads (⟨run, template⟩ : Product τ)
  refine ⟨?_, ?_, ?_, ⟨?_, recorded.started member rfl⟩, recorded.ordered⟩
  · intro query product
    show _ ∈ _ :: m.history ↔ (m.shared.fill k _).get? query = _
    rw [filled, List.mem_cons]
    split
    · rename_i same
      subst same
      simp [recorded.succeeded, before, eq_comm]
    · rename_i differ
      simp [recorded.succeeded, differ]
  · intro caller query j earlier inside at_
    refine List.mem_cons_of_mem _ ?_
    rcases List.mem_or_eq_of_mem_set inside with old | rfl
    · exact recorded.started old at_
    · cases at_
  · intro query earlier inside
    rcases List.mem_cons.mp inside with now | old
    · cases now
    · exact recorded.numbered old
  · intro other earlier
    have kept := recorded.succeeded.mp earlier
    rw [before] at kept
    cases kept

theorem Recorded.leave {name : String} {k : Nat} {result : Except Failure (Product τ)}
    {rest : List String} (consistent : m.Consistent) (recorded : m.Recorded)
    (present : m.callers[i]? = some ⟨.visiting name k (.leaving result), rest⟩) :
    (m.turn i (m.shared.drop k) ⟨.idle, rest⟩ [.returned name result]).Recorded := by
  have member := List.mem_of_getElem? present
  refine recorded.keep (fun _ => Shared.drop_get? _ _ _) ?_ nofun (Nat.le_refl _) ?_
    ⟨?_, recorded.ordered⟩
  · intro other product inside
    cases List.mem_singleton.mp inside
  · intro other run inside
    cases List.mem_singleton.mp inside
  · cases result with
    | error failure => trivial
    | ok product =>
      show .succeeded name product ∈ m.history
      have leads := consistent.attached member rfl
      have content := consistent.given member
      rw [recorded.succeeded, Shared.get?_of_find? leads, content]

theorem Recorded.turn (consistent : m.Consistent) (recorded : m.Recorded)
    (present : m.callers[i]? = some before) (turn : Turn m before shared after events) :
    (m.turn i shared after events).Recorded := by
  have member := List.mem_of_getElem? present
  cases turn with
  | found leads | foundLater leads =>
    exact recorded.keep_silent (fun _ => Shared.hold_get? _ _ _) nofun (Nat.le_refl _)
  | missed absent => exact recorded.keep_silent (fun _ => rfl) nofun (Nat.le_refl _)
  | added absent =>
    exact recorded.keep_silent (Shared.add_get? consistent.toTidy absent) nofun (Nat.le_refl _)
  | empty content => exact recorded.keep_silent (fun _ => rfl) nofun (Nat.le_refl _)
  | hit reading content => exact recorded.keep_silent (fun _ => rfl) nofun (Nat.le_refl _)
  | entered content busy => exact recorded.enter (consistent.attached member rfl) content
  | filled => exact Recorded.fill consistent recorded present
  | vacated =>
    exact recorded.keep (fun _ => Shared.vacate_get? _ _ _) nofun nofun (Nat.le_refl _) nofun
      ⟨trivial, recorded.ordered⟩
  | forgot removable =>
    exact recorded.keep (Shared.forget_get? consistent.toTidy removable) nofun nofun
      (Nat.le_refl _) nofun ⟨trivial, recorded.ordered⟩
  | kept removable =>
    exact recorded.keep (fun _ => rfl) nofun nofun (Nat.le_refl _) nofun
      ⟨trivial, recorded.ordered⟩
  | left => exact Recorded.leave consistent recorded present

theorem step_recorded {result : Crowd τ} {move : Move τ} (both : m.Consistent ∧ m.Recorded)
    (stepped : m.step move = some result) : result.Consistent ∧ result.Recorded := by
  obtain ⟨consistent, recorded⟩ := both
  obtain ⟨i, before, shared, after, events, present, turn, rfl⟩ := step_turn stepped
  exact ⟨consistent.turn present turn, recorded.turn consistent present turn⟩

theorem run_recorded {programs : List (List String)} {schedule : List (Move τ)}
    (ran : (start programs).run schedule = some m) : m.Recorded :=
  (run_preserves (fun _ _ _ => step_recorded)
    ⟨start_consistent programs, start_recorded programs⟩ ran).2

theorem Consistent.compiles_le (consistent : m.Consistent) (name : String) :
    m.callers.countP (·.compiles name) ≤ 1 := by
  have attached {caller : Caller τ} (member : caller ∈ m.callers)
      (compiles : caller.compiles name) :
      ∃ k, m.shared.find? name = some k ∧ caller.compilesIn k := by
    obtain ⟨phase, requests⟩ := caller
    cases phase with
    | idle | absent => cases compiles
    | visiting other k stage =>
      have ⟨same, inside⟩ := Bool.and_eq_true_iff.mp compiles
      cases beq_iff_eq.mp same
      cases stage with
      | compiling run => exact ⟨k, consistent.attached member rfl, by simp [Stage.compiles]⟩
      | holding | waiting | failing | leaving => cases inside
  cases leads : m.shared.find? name with
  | none =>
    have nobody : m.callers.countP (·.compiles name) = 0 := by
      refine List.countP_eq_zero.mpr fun caller member compiles => ?_
      obtain ⟨k, leadsToo, _⟩ := attached member compiles
      rw [leads] at leadsToo
      cases leadsToo
    omega
  | some k =>
    have inside : m.callers.countP (·.compiles name) ≤ m.compilers k := by
      refine List.countP_mono_left fun caller member compiles => ?_
      obtain ⟨j, leadsToo, inside⟩ := attached member compiles
      rw [leads, Option.some.injEq] at leadsToo
      exact leadsToo ▸ inside
    have occupied := consistent.occupied k
    split at occupied <;> omega

/-- At any time of any run: a name is compiled by one caller at most, and with success once at
most; no run for it begins after that; and who is given a template is given the one of that run. -/
theorem compiled_once {programs : List (List String)} {schedule : List (Move τ)}
    (ran : (start programs).run schedule = some m) (name : String) :
    m.callers.countP (·.compiles name) ≤ 1 ∧
      m.history.countP (·.succeeds name) ≤ 1 ∧
      (∀ run before, .started name run :: before <:+ m.history →
        ∀ product, .succeeded name product ∉ before) ∧
      (∀ product before, .returned name (.ok product) :: before <:+ m.history →
        .succeeded name product ∈ before) ∧
      ∀ product, .succeeded name product ∈ m.history →
        .started name product.run ∈ m.history ∧ m.history.countP (·.begins product.run) = 1 := by
  have consistent := run_consistent ran
  have recorded := run_recorded ran
  refine ⟨consistent.compiles_le name, recorded.ordered.succeeds_le name, ?_, ?_, ?_⟩
  · intro run before suffix
    exact (recorded.ordered.follows suffix).1
  · intro product before suffix
    exact recorded.ordered.follows suffix
  · intro product member
    have started := recorded.ordered.started_of_succeeded member
    exact ⟨started, recorded.ordered.begins_eq started⟩

def secondAttempt : List (Move String) :=
  [.go 0, .go 0, .go 1, .go 0, .go 1, .go 0, .finish 0 (.error (.absent "a")), .go 1, .go 0,
    .finish 1 (.ok "text"), .go 0, .go 1, .go 0, .go 0, .go 0]

theorem compiled_once_second_attempt :
    ∃ m, (start [["a", "a"], ["a"]]).run secondAttempt = some m ∧
      .returned "a" (.ok ⟨2, "text"⟩) ∈ m.history ∧ m.history.countP (·.succeeds "a") ≤ 1 := by
  have ran : (start [["a", "a"], ["a"]]).run secondAttempt = some _ := rfl
  exact ⟨_, ran, List.Mem.head _, (compiled_once ran "a").2.1⟩

end Crowd

end Stencil
