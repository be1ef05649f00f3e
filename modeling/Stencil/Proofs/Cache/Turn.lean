import Stencil.Proofs.Cache.Crowd

namespace Stencil

variable {τ : Type}

inductive Turn (m : Crowd τ) :
    Caller τ → Shared τ → Caller τ → List (Happening τ) → Prop where
  | found {name rest k} : m.shared.find? name = some k →
      Turn m ⟨.idle, name :: rest⟩ (m.shared.hold k) ⟨.visiting name k .holding, rest⟩ []
  | missed {name rest} : m.shared.find? name = none →
      Turn m ⟨.idle, name :: rest⟩ m.shared ⟨.absent name, rest⟩ []
  | foundLater {name rest k} : m.shared.find? name = some k →
      Turn m ⟨.absent name, rest⟩ (m.shared.hold k) ⟨.visiting name k .holding, rest⟩ []
  | added {name rest} : m.shared.find? name = none →
      Turn m ⟨.absent name, rest⟩ (m.shared.add name)
        ⟨.visiting name m.shared.next .holding, rest⟩ []
  | empty {name rest k} : (m.shared.slots k).content = none →
      Turn m ⟨.visiting name k .holding, rest⟩ m.shared ⟨.visiting name k .waiting, rest⟩ []
  | hit {name rest k stage product} : stage = .holding ∨ stage = .waiting →
      (m.shared.slots k).content = some product →
      Turn m ⟨.visiting name k stage, rest⟩ m.shared.countHit
        ⟨.visiting name k (.leaving (.ok product)), rest⟩ []
  | entered {name rest k} : (m.shared.slots k).content = none →
      (m.shared.slots k).busy = false →
      Turn m ⟨.visiting name k .waiting, rest⟩ (m.shared.enter k)
        ⟨.visiting name k (.compiling (m.shared.misses + 1)), rest⟩
        [.started name (m.shared.misses + 1)]
  | filled {name rest k run template} :
      Turn m ⟨.visiting name k (.compiling run), rest⟩ (m.shared.fill k ⟨run, template⟩)
        ⟨.visiting name k (.leaving (.ok ⟨run, template⟩)), rest⟩
        [.succeeded name ⟨run, template⟩]
  | vacated {name rest k run failure} :
      Turn m ⟨.visiting name k (.compiling run), rest⟩ (m.shared.vacate k)
        ⟨.visiting name k (.failing failure), rest⟩ [.failed name failure]
  | forgot {name rest k failure} : m.shared.Removable name k →
      Turn m ⟨.visiting name k (.failing failure), rest⟩ (m.shared.forget name k)
        ⟨.visiting name k (.leaving (.error failure)), rest⟩
        [.released name (m.holders k - 1)]
  | kept {name rest k failure} : ¬ m.shared.Removable name k →
      Turn m ⟨.visiting name k (.failing failure), rest⟩ m.shared
        ⟨.visiting name k (.leaving (.error failure)), rest⟩
        [.released name (m.holders k - 1)]
  | left {name rest k result} :
      Turn m ⟨.visiting name k (.leaving result), rest⟩ (m.shared.drop k) ⟨.idle, rest⟩
        [.returned name result]

theorem Crowd.go_turn {m result : Crowd τ} {i : Nat} {caller : Caller τ}
    (gone : m.go i caller = some result) :
    ∃ shared after events, Turn m caller shared after events ∧
      result = m.turn i shared after events := by
  obtain ⟨phase, requests⟩ := caller
  cases phase with
  | idle =>
    cases requests with
    | nil => cases gone
    | cons name rest =>
      cases leads : m.shared.find? name <;> simp only [go, leads, Option.some.injEq] at gone
      · exact ⟨_, _, _, .missed leads, gone.symm⟩
      · exact ⟨_, _, _, .found leads, gone.symm⟩
  | absent name =>
    cases leads : m.shared.find? name <;>
      simp only [go, Shared.findOrAdd, leads, Option.some.injEq] at gone
    · exact ⟨_, _, _, .added leads, gone.symm⟩
    · exact ⟨_, _, _, .foundLater leads, gone.symm⟩
  | visiting name k stage =>
    cases stage with
    | holding =>
      cases content : (m.shared.slots k).content <;>
        simp only [go, proceed, content, Option.map_some, Option.some.injEq] at gone
      · exact ⟨_, _, _, .empty content, gone.symm⟩
      · exact ⟨_, _, _, .hit (.inl rfl) content, gone.symm⟩
    | waiting =>
      cases content : (m.shared.slots k).content <;> simp only [go, proceed, content] at gone
      · cases busy : (m.shared.slots k).busy <;>
          simp only [busy, Bool.false_eq_true, ite_true, ite_false, Option.map_some,
            Option.map_none, Option.some.injEq, reduceCtorEq] at gone
        exact ⟨_, _, _, .entered content busy, gone.symm⟩
      · simp only [Option.map_some, Option.some.injEq] at gone
        exact ⟨_, _, _, .hit (.inr rfl) content, gone.symm⟩
    | compiling run => cases gone
    | failing failure =>
      simp only [go, proceed, Shared.release, Option.map_some, Option.some.injEq] at gone
      by_cases removable : m.shared.Removable name k <;>
        simp only [removable, ite_true, ite_false] at gone
      · exact ⟨_, _, _, .forgot removable, gone.symm⟩
      · exact ⟨_, _, _, .kept removable, gone.symm⟩
    | leaving result =>
      simp only [go, proceed, Option.map_some, Option.some.injEq] at gone
      exact ⟨_, _, _, .left, gone.symm⟩

theorem Crowd.finish_turn {m result : Crowd τ} {i : Nat} {caller : Caller τ}
    {outcome : Except Failure τ} (finished : m.finish i outcome caller = some result) :
    ∃ shared after events, Turn m caller shared after events ∧
      result = m.turn i shared after events := by
  obtain ⟨phase, requests⟩ := caller
  cases phase with
  | idle => cases finished
  | absent name => cases finished
  | visiting name k stage =>
    cases stage with
    | compiling run =>
      cases outcome <;>
        simp only [finish, conclude, Option.map_some, Option.some.injEq] at finished
      · exact ⟨_, _, _, .vacated, finished.symm⟩
      · exact ⟨_, _, _, .filled, finished.symm⟩
    | holding | waiting | failing _ | leaving _ => cases finished

theorem Crowd.step_turn {m result : Crowd τ} {move : Move τ}
    (stepped : m.step move = some result) :
    ∃ i before shared after events, m.callers[i]? = some before ∧
      Turn m before shared after events ∧ result = m.turn i shared after events := by
  cases move with
  | go i =>
    obtain ⟨caller, present, gone⟩ := Option.bind_eq_some_iff.mp stepped
    obtain ⟨shared, after, events, turn, same⟩ := go_turn gone
    exact ⟨i, caller, shared, after, events, present, turn, same⟩
  | finish i outcome =>
    obtain ⟨caller, present, finished⟩ := Option.bind_eq_some_iff.mp stepped
    obtain ⟨shared, after, events, turn, same⟩ := finish_turn finished
    exact ⟨i, caller, shared, after, events, present, turn, same⟩

theorem Turn.step {m : Crowd τ} {i : Nat} {before after : Caller τ} {shared : Shared τ}
    {events : List (Happening τ)} (present : m.callers[i]? = some before)
    (turn : Turn m before shared after events) :
    ∃ move : Move τ, move.caller = i ∧ m.step move = some (m.turn i shared after events) := by
  cases turn with
  | found leads | missed leads =>
    exact ⟨.go i, rfl, by simp [Crowd.step, Crowd.go, present, leads]⟩
  | foundLater leads | added leads =>
    exact ⟨.go i, rfl, by simp [Crowd.step, Crowd.go, Shared.findOrAdd, present, leads]⟩
  | empty content =>
    exact ⟨.go i, rfl, by simp [Crowd.step, Crowd.go, Crowd.proceed, present, content]⟩
  | hit reading content =>
    refine ⟨.go i, rfl, ?_⟩
    rcases reading with rfl | rfl <;>
      simp [Crowd.step, Crowd.go, Crowd.proceed, present, content]
  | entered content busy =>
    exact ⟨.go i, rfl, by simp [Crowd.step, Crowd.go, Crowd.proceed, present, content, busy]⟩
  | @filled _ _ _ _ template =>
    exact ⟨.finish i (.ok template), rfl,
      by simp [Crowd.step, Crowd.finish, Crowd.conclude, present]⟩
  | @vacated _ _ _ _ failure =>
    exact ⟨.finish i (.error failure), rfl,
      by simp [Crowd.step, Crowd.finish, Crowd.conclude, present]⟩
  | forgot removable | kept removable =>
    exact ⟨.go i, rfl,
      by simp [Crowd.step, Crowd.go, Crowd.proceed, Shared.release, present, removable]⟩
  | left => exact ⟨.go i, rfl, by simp [Crowd.step, Crowd.go, Crowd.proceed, present]⟩

theorem Crowd.run_preserves {holds : Crowd τ → Prop}
    (preserves : ∀ m result move, holds m → m.step move = some result → holds result)
    {m result : Crowd τ} {schedule : List (Move τ)} (before : holds m)
    (ran : m.run schedule = some result) : holds result := by
  induction schedule generalizing m with
  | nil =>
    cases ran
    exact before
  | cons move rest ih =>
    obtain ⟨next, stepped, continued⟩ := Option.bind_eq_some_iff.mp ran
    exact ih (preserves m next move before stepped) continued

end Stencil
