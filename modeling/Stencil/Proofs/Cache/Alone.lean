import Stencil.Proofs.Cache.Consistent
import Stencil.Proofs.Cache.Request

namespace Stencil

variable {τ : Type}

namespace Crowd

variable {m : Crowd τ} {i : Nat}

def Serves (i : Nat) (name : String) (rest : List String) (outcome : Except Failure τ)
    (m : Crowd τ) (shared : Shared τ) : Prop :=
  ∃ (schedule : List (Move τ)) (final : Crowd τ) (told : Except Failure (Product τ)),
    (∀ move ∈ schedule, move.caller = i) ∧ m.run schedule = some final ∧
      final.callers = m.callers.set i ⟨.idle, rest⟩ ∧ final.shared = shared ∧
      final.history.head? = some (.returned name told) ∧ told.map (·.template) = outcome

variable {name : String} {k : Nat} {rest : List String} {outcome result : Except Failure τ}
  {shared : Shared τ}

theorem Serves.turn {before after : Caller τ} {next : Shared τ} {events : List (Happening τ)}
    (present : m.callers[i]? = some before) (turn : Turn m before next after events)
    (serves : (m.turn i next after events).callers[i]? = some after →
      Serves i name rest outcome (m.turn i next after events) shared) :
    Serves i name rest outcome m shared := by
  have followed : (m.turn i next after events).callers[i]? = some after := by
    obtain ⟨bound, _⟩ := List.getElem?_eq_some_iff.mp present
    simp [Crowd.turn, bound]
  obtain ⟨schedule, final, told, all, ran, callers, ends⟩ := serves followed
  obtain ⟨move, own, stepped⟩ := turn.step present
  refine ⟨move :: schedule, final, told, ?_, ?_, ?_, ends⟩
  · intro other member
    rcases List.mem_cons.mp member with rfl | later
    · exact own
    · exact all other later
  · simp only [run, stepped, Option.bind_some]
    exact ran
  · rw [callers]
    exact List.set_set ..

theorem serves_leaving {told : Except Failure (Product τ)}
    (present : m.callers[i]? = some ⟨.visiting name k (.leaving told), rest⟩) :
    Serves i name rest (told.map (·.template)) m (m.shared.drop k) := by
  obtain ⟨move, own, stepped⟩ := Turn.left.step present
  refine ⟨[move], m.turn i (m.shared.drop k) ⟨.idle, rest⟩ [.returned name told], told, ?_, ?_,
    rfl, rfl, rfl, rfl⟩
  · intro other member
    rw [List.mem_singleton.mp member, own]
  · simp only [run, stepped, Option.bind_some]

theorem serves_failing {failure : Failure}
    (present : m.callers[i]? = some ⟨.visiting name k (.failing failure), rest⟩) :
    Serves i name rest (.error failure) m ((m.shared.release name k).drop k) := by
  unfold Shared.release
  split
  · rename_i removable
    exact .turn present (.forgot removable) serves_leaving
  · rename_i removable
    exact .turn present (.kept removable) serves_leaving

theorem serves_holding (present : m.callers[i]? = some ⟨.visiting name k .holding, rest⟩)
    (content : (m.shared.slots k).content = none) (busy : (m.shared.slots k).busy = false)
    (outcome : Except Failure τ) :
    Serves i name rest outcome m <| match outcome with
      | .ok template => ((m.shared.enter k).fill k ⟨m.shared.misses + 1, template⟩).drop k
      | .error _ => (((m.shared.enter k).vacate k).release name k).drop k := by
  refine .turn present (.empty content) fun waits => ?_
  refine .turn waits (.entered content busy) fun enters => ?_
  cases outcome with
  | ok template => exact .turn enters .filled serves_leaving
  | error failure => exact .turn enters .vacated serves_failing

theorem serves_request (present : m.callers[i]? = some ⟨.idle, name :: rest⟩)
    (requested : Shared.request name (fun (s, r) => some (outcome, s, r)) (m.shared, ()) =
      some (result, shared, ())) :
    Serves i name rest result m shared := by
  unfold Shared.request Shared.findOrAdd at requested
  cases leads : m.shared.find? name with
  | none =>
    refine .turn present (.missed leads) fun looks => .turn looks (.added leads) fun adds => ?_
    have content : ((m.shared.add name).slots m.shared.next).content = none := by
      simp [Shared.add, Shared.update]
    have busy : ((m.shared.add name).slots m.shared.next).busy = false := by
      simp [Shared.add, Shared.update]
    simp only [leads, content, busy, Bool.false_eq_true, ite_false, Option.map_some] at requested
    have serves := serves_holding adds content busy outcome
    cases outcome <;> cases requested <;> exact serves
  | some k =>
    refine .turn present (.found leads) fun holds => ?_
    cases content : (m.shared.slots k).content with
    | some product =>
      simp only [leads, Shared.hold_content, content, Option.some.injEq, Prod.mk.injEq,
        and_true] at requested
      obtain ⟨rfl, rfl⟩ := requested
      refine .turn holds (.hit (.inl rfl) ?_) serves_leaving
      exact (Shared.hold_content _ _ _).trans content
    | none =>
      cases busy : (m.shared.slots k).busy with
      | true => simp [leads, content, busy] at requested
      | false =>
        simp only [leads, Shared.hold_content, Shared.hold_busy, content, busy,
          Bool.false_eq_true, ite_false, Option.map_some] at requested
        have serves := serves_holding holds ((Shared.hold_content _ _ _).trans content)
          ((Shared.hold_busy _ _ _).trans busy) outcome
        cases outcome <;> cases requested <;> exact serves

theorem Consistent.settled (consistent : m.Consistent) (quiet : m.Quiet) :
    m.shared.Settled [] where
  toTidy := consistent.toTidy
  within member := by cases member
  without {name k} leads _ := by
    have counted := consistent.counted leads
    have occupied := consistent.occupied k
    have bound := m.compilers_le_holders k
    rw [quiet.unheld] at counted bound
    refine ⟨?_, counted⟩
    cases busy : (m.shared.slots k).busy with
    | false => rfl
    | true =>
      rw [busy, if_pos rfl] at occupied
      omega

/-- A caller that makes a request while no other one is in progress gets what the cache answers,
and leaves the cache as the request does. -/
theorem alone_requests (consistent : m.Consistent) (quiet : m.Quiet)
    (present : m.callers[i]? = some ⟨.idle, name :: rest⟩) (outcome : Except Failure τ) :
    ∃ result shared, Serves i name rest result m shared ∧
      (Cache.request name (pure outcome) (m.shared.cache, ())).1 = (result, shared.cache, ()) := by
  have settled := consistent.settled quiet
  have ends (k : Nat) (opened : Shared τ) (opens : Shared.Opens m.shared opened name k) :
      Shared.Mirrors (fun (s, r) => some (outcome, s, r)) (pure outcome) [(name, k)] opened () :=
    ⟨outcome, opened, (), rfl, rfl, settled.opened nofun opens⟩
  obtain ⟨result, shared, _, requested, mirrored, _⟩ := settled.request nofun fun _ => ends
  exact ⟨result, shared, serves_request present requested, mirrored⟩

end Crowd

end Stencil
