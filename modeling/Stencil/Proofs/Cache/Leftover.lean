import Stencil.Proofs.Cache.Once

namespace Stencil

open Happening (lastOthers?)

variable {τ : Type}

namespace Crowd

/-- Why an empty slot is there, and until when it stays. -/
structure Accounted (m : Crowd τ) : Prop where
  empty {name k} : m.shared.find? name = some k → (m.shared.slots k).content = none →
    0 < m.claimants k ∨ ∃ others, lastOthers? name m.history = some (others + 1)
  stays {name others} : lastOthers? name m.history = some (others + 1) →
    m.shared.find? name ≠ none

theorem start_accounted (programs : List (List String)) :
    (start programs : Crowd τ).Accounted where
  empty leads := by cases leads
  stays last := by cases last

theorem lastOthers?_append {name : String} {events history : List (Happening τ)}
    (silent : lastOthers? name events = none) :
    lastOthers? name (events ++ history) = lastOthers? name history := by
  unfold lastOthers? at *
  rw [List.findSome?_append, silent, Option.none_or]

theorem lastOthers?_released (name query : String) (others : Nat)
    (history : List (Happening τ)) :
    lastOthers? query (.released name others :: history) =
      if name = query then some others else lastOthers? query history := by
  unfold lastOthers?
  rw [List.findSome?_cons]
  by_cases same : name = query <;> simp [Happening.others?, same]

variable {m : Crowd τ} {i : Nat} {before after : Caller τ} {shared : Shared τ}
  {events : List (Happening τ)}

theorem claimants_of_ne {name : String} {j k : Nat} {stage next : Stage τ} {rest : List String}
    (present : m.callers[i]? = some ⟨.visiting name k stage, rest⟩) (apart : k ≠ j) :
    (m.turn i shared ⟨.visiting name k next, rest⟩ events).claimants j = m.claimants j := by
  have count : (m.turn i shared ⟨.visiting name k next, rest⟩ events).claimants j + _ = _ :=
    claimants_turn present j
  have elsewhere : (k == j) = false := beq_eq_false_iff_ne.mpr apart
  simpa only [Caller.claims_visiting, elsewhere, Bool.false_and, Bool.false_eq_true, ite_false,
    Nat.add_zero] using count

theorem Accounted.keep (accounted : m.Accounted) (present : m.callers[i]? = some before)
    (find : ∀ name, shared.find? name = m.shared.find? name)
    (empty : ∀ k, (shared.slots k).content = none → (m.shared.slots k).content = none)
    (claims : ∀ k, (shared.slots k).content = none → before.claims k → after.claims k)
    (silent : ∀ name, lastOthers? name events = none) :
    (m.turn i shared after events).Accounted where
  empty {name k} leads content := by
    have earlier := accounted.empty ((find name).symm.trans leads) (empty k content)
    rcases earlier with claimed | ⟨others, last⟩
    · left
      have count : (m.turn i shared after events).claimants k + _ = _ :=
        claimants_turn present k
      have kept := claims k content
      split at count
      · rename_i claimed
        rw [if_pos (kept claimed)] at count
        omega
      · omega
    · exact .inr ⟨others, (lastOthers?_append (silent name)).trans last⟩
  stays {name others} last := by
    have earlier := (lastOthers?_append (silent name)).symm.trans last
    show shared.find? name ≠ none
    rw [find]
    exact accounted.stays earlier

theorem Accounted.add {name : String} {rest : List String} (accounted : m.Accounted)
    (present : m.callers[i]? = some before) (outside : ∀ k, before.claims k = false) :
    (m.turn i (m.shared.add name) ⟨.visiting name m.shared.next .holding, rest⟩ []).Accounted := by
  have claimants (k : Nat) : (m.turn i (m.shared.add name)
      ⟨.visiting name m.shared.next .holding, rest⟩ []).claimants k =
        m.claimants k + if m.shared.next = k then 1 else 0 := by
    have count : (m.turn i (m.shared.add name)
      ⟨.visiting name m.shared.next .holding, rest⟩ []).claimants k + _ = _ :=
        claimants_turn present k
    simpa [outside, Stage.attached] using count
  refine ⟨?_, ?_⟩
  · intro query k leads content
    rw [claimants]
    change (m.shared.add name).find? query = some k at leads
    rw [Shared.add_find?] at leads
    by_cases fresh : m.shared.next = k
    · left
      rw [if_pos fresh]
      omega
    · split at leads
      · cases leads
        exact absurd rfl fresh
      · have old : (m.shared.slots k).content = none := by
          simpa [turn, Shared.add, Shared.update, Ne.symm fresh] using content
        rcases accounted.empty leads old with claimed | last
        · left
          omega
        · exact .inr last
  · intro query others last
    show (m.shared.add name).find? query ≠ none
    rw [Shared.add_find?]
    split
    · exact Option.some_ne_none _
    · exact accounted.stays last

theorem Accounted.released {name : String} {k : Nat} {failure : Failure} {rest : List String}
    (consistent : m.Consistent) (accounted : m.Accounted)
    (present : m.callers[i]? = some ⟨.visiting name k (.failing failure), rest⟩)
    (find : ∀ query, query ≠ name → shared.find? query = m.shared.find? query)
    (contents : ∀ j, (shared.slots j).content = (m.shared.slots j).content)
    (others : shared.find? name = some k → (shared.slots k).content = none → 1 < m.holders k)
    (stays : 1 < m.holders k → shared.find? name = some k)
    (own : ∀ j, shared.find? name = some j → j = k) :
    (m.turn i shared ⟨.visiting name k (.leaving (.error failure)), rest⟩
      [.released name (m.holders k - 1)]).Accounted := by
  have leads := consistent.attached (List.mem_of_getElem? present) rfl
  have last (query : String) : lastOthers? query (.released name (m.holders k - 1) :: m.history) =
      if name = query then some (m.holders k - 1) else lastOthers? query m.history :=
    lastOthers?_released name query _ _
  refine ⟨?_, ?_⟩
  · intro query j leadsToo content
    change shared.find? query = some j at leadsToo
    change (shared.slots j).content = none at content
    show _ ∨ ∃ others, lastOthers? query (_ :: m.history) = _
    rw [last]
    split
    · rename_i same
      subst same
      cases own j leadsToo
      have more := others leadsToo content
      exact .inr ⟨m.holders k - 2, congrArg some (by omega)⟩
    · rename_i differ
      rw [find query (Ne.symm differ)] at leadsToo
      have apart : k ≠ j := fun same => differ (consistent.apart leads (same ▸ leadsToo))
      rw [claimants_of_ne present apart]
      exact accounted.empty leadsToo ((contents j).symm.trans content)
  · intro query others released
    change lastOthers? query (_ :: m.history) = _ at released
    show shared.find? query ≠ none
    rw [last] at released
    split at released
    · rename_i same
      have more := Option.some.inj released
      rw [← same, stays (by omega)]
      exact Option.some_ne_none k
    · rename_i differ
      rw [find query (Ne.symm differ)]
      exact accounted.stays released

theorem Accounted.release {name : String} {k : Nat} {failure : Failure} {rest : List String}
    (consistent : m.Consistent) (accounted : m.Accounted)
    (present : m.callers[i]? = some ⟨.visiting name k (.failing failure), rest⟩) :
    (m.turn i (m.shared.release name k) ⟨.visiting name k (.leaving (.error failure)), rest⟩
      [.released name (m.holders k - 1)]).Accounted := by
  have member := List.mem_of_getElem? present
  have leads := consistent.attached member rfl
  have counted := consistent.counted leads
  unfold Shared.release
  split
  · rename_i removable
    have alone := removable.2.2
    have find := Shared.forget_find? consistent.ascending name k
    have gone : (m.shared.forget name k).find? name = none := (find name).trans (if_pos rfl)
    refine Accounted.released consistent accounted present
      (fun query differ => (find query).trans (if_neg differ)) (fun j => Shared.drop_content _ _ _)
      ?_ (by omega) ?_
    · intro here
      rw [gone] at here
      cases here
    · intro j here
      rw [gone] at here
      cases here
  · rename_i removable
    have positive : 0 < m.holders k := List.countP_pos_iff.mpr ⟨_, member, by simp⟩
    refine Accounted.released consistent accounted present (fun _ _ => rfl) (fun _ => rfl) ?_
      (fun _ => leads) (fun j here => Option.some.inj (here.symm.trans leads))
    intro _ content
    have more : (m.shared.slots k).handles ≠ 2 := fun handles =>
      removable ⟨leads, by rw [content]; rfl, handles⟩
    omega

theorem Accounted.turn (consistent : m.Consistent) (accounted : m.Accounted)
    (present : m.callers[i]? = some before) (turn : Turn m before shared after events) :
    (m.turn i shared after events).Accounted := by
  cases turn with
  | found leads | foundLater leads =>
    refine accounted.keep present (fun _ => rfl) (fun k content => ?_) (fun k _ claims => ?_)
      (fun _ => rfl)
    · rwa [Shared.hold_content] at content
    · cases claims
  | missed absent =>
    exact accounted.keep present (fun _ => rfl) (fun _ => id) (fun _ _ => nofun) (fun _ => rfl)
  | added absent => exact accounted.add present (fun _ => rfl)
  | empty content =>
    exact accounted.keep present (fun _ => rfl) (fun _ => id) (fun _ _ => id) (fun _ => rfl)
  | hit reading content =>
    refine accounted.keep present (fun _ => rfl) (fun _ => id) (fun k _ claims => ?_)
      (fun _ => rfl)
    rcases reading with rfl | rfl <;> exact claims
  | entered content busy =>
    refine accounted.keep present (fun _ => rfl) (fun j content => ?_) (fun _ _ => id)
      (fun _ => rfl)
    rwa [Shared.enter_content] at content
  | filled =>
    refine accounted.keep present (fun _ => rfl) (fun j content => ?_) (fun _ _ => id)
      (fun _ => rfl)
    simp only [Shared.fill, Shared.update] at content
    split at content
    · cases content
    · exact content
  | vacated =>
    refine accounted.keep present (fun _ => rfl) (fun j content => ?_) (fun _ _ => id)
      (fun _ => rfl)
    rwa [Shared.vacate_content] at content
  | forgot removable =>
    have released := Accounted.release consistent accounted present
    rwa [Shared.release, if_pos removable] at released
  | kept removable =>
    have released := Accounted.release consistent accounted present
    rwa [Shared.release, if_neg removable] at released
  | @left name rest k result =>
    refine accounted.keep present (fun _ => rfl) (fun j content => ?_) (fun j content claims => ?_)
      (fun _ => rfl)
    · rwa [Shared.drop_content] at content
    · -- Who still claims a slot has been given what is in it.
      rw [Shared.drop_content] at content
      simp only [Caller.claims_visiting, Bool.and_eq_true, beq_iff_eq] at claims
      obtain ⟨rfl, attached⟩ := claims
      cases result with
      | error failure => cases attached
      | ok product =>
        rw [consistent.given (List.mem_of_getElem? present)] at content
        cases content

theorem step_accounted {result : Crowd τ} {move : Move τ} (both : m.Consistent ∧ m.Accounted)
    (stepped : m.step move = some result) : result.Consistent ∧ result.Accounted := by
  obtain ⟨consistent, accounted⟩ := both
  obtain ⟨i, before, shared, after, events, present, turn, rfl⟩ := step_turn stepped
  exact ⟨consistent.turn present turn, accounted.turn consistent present turn⟩

theorem run_accounted {programs : List (List String)} {schedule : List (Move τ)}
    (ran : (start programs).run schedule = some m) : m.Accounted :=
  (run_preserves (fun _ _ _ => step_accounted)
    ⟨start_consistent programs, start_accounted programs⟩ ran).2

theorem Quiet.unclaimed (quiet : m.Quiet) (k : Nat) : m.claimants k = 0 := by
  have bound := m.claimants_le_holders k
  rw [quiet.unheld] at bound
  omega

/-- When all requests are through, a name is left with an empty slot just in case no run for it has
succeeded, and the last caller to release its slot was not the last to have a handle on it. -/
theorem leftover_iff {programs : List (List String)} {schedule : List (Move τ)}
    (ran : (start programs).run schedule = some m) (quiet : m.Quiet) (name : String) :
    (∃ k, m.shared.find? name = some k ∧ (m.shared.slots k).content = none) ↔
      (∀ product, .succeeded name product ∉ m.history) ∧
        ∃ others, lastOthers? name m.history = some (others + 1) := by
  have recorded := run_recorded ran
  have accounted := run_accounted ran
  constructor
  · rintro ⟨k, leads, content⟩
    refine ⟨fun product succeeded => ?_, ?_⟩
    · have kept := recorded.succeeded.mp succeeded
      rw [Shared.get?_of_find? leads, content] at kept
      cases kept
    · have unclaimed := quiet.unclaimed k
      exact (accounted.empty leads content).resolve_left (by omega)
  · rintro ⟨fails, others, last⟩
    obtain ⟨k, leads⟩ := Option.ne_none_iff_exists'.mp (accounted.stays last)
    refine ⟨k, leads, ?_⟩
    cases content : (m.shared.slots k).content with
    | none => rfl
    | some product =>
      have get : m.shared.get? name = some product := by
        rw [Shared.get?_of_find? leads, content]
      exact absurd (recorded.succeeded.mpr get) (fails product)

def lateDrop : List (Move String) :=
  [.go 0, .go 0, .go 1, .go 0, .go 1, .go 0, .finish 0 (.error (.absent "a")), .go 1, .go 0,
    .finish 1 (.error (.absent "a")), .go 1, .go 0, .go 1]

theorem run_lateDrop :
    ∃ m, (start [["a"], ["a"]]).run lateDrop = some m ∧
      m.callers = [⟨.idle, []⟩, ⟨.idle, []⟩] ∧
      m.history = [.returned "a" (.error (.absent "a")), .returned "a" (.error (.absent "a")),
        .released "a" 1, .failed "a" (.absent "a"), .released "a" 1, .started "a" 2,
        .failed "a" (.absent "a"), .started "a" 1] ∧
      m.shared.find? "a" = some 0 ∧ (m.shared.slots 0).content = none :=
  ⟨_, rfl, rfl, rfl, rfl, rfl⟩

theorem leftover_iff_late_drop :
    ∃ m, (start [["a"], ["a"]]).run lateDrop = some m ∧ m.Quiet ∧
      ∃ k, m.shared.find? "a" = some k ∧ (m.shared.slots k).content = none := by
  obtain ⟨m, ran, callers, history, _⟩ := run_lateDrop
  have quiet : m.Quiet := by
    unfold Quiet
    simp [callers, Caller.isIdle]
  refine ⟨m, ran, quiet, (leftover_iff ran quiet "a").mpr ⟨?_, 0, ?_⟩⟩
  · simp [history]
  · rw [history]
    rfl

theorem not_always_filled :
    ¬ ∀ (programs : List (List String)) (schedule : List (Move String)) (m : Crowd String),
      (start programs).run schedule = some m → m.Quiet →
        ∀ name k, m.shared.find? name = some k → (m.shared.slots k).content ≠ none := by
  intro always
  obtain ⟨m, ran, callers, _, leads, content⟩ := run_lateDrop
  have quiet : m.Quiet := by
    unfold Quiet
    simp [callers, Caller.isIdle]
  exact always _ _ m ran quiet "a" 0 leads content

end Crowd

end Stencil
