import Stencil.Proofs.Cache.Turn

namespace Stencil

variable {τ : Type}

namespace Caller

/-- The handle of a request is on the slot that its name leads to, if that must still be so, and
what the request has been given is in the slot. -/
def Placed (s : Shared τ) (c : Caller τ) : Prop :=
  match c.phase with
  | .visiting name k stage =>
    k < s.next ∧ (stage.attached → s.find? name = some k) ∧
      ∀ product, stage = .leaving (.ok product) → (s.slots k).content = some product
  | _ => True

theorem Placed.mono {s t : Shared τ} {c : Caller τ} (placed : c.Placed s) (next : s.next ≤ t.next)
    (find : ∀ name k, s.find? name = some k → t.find? name = some k)
    (content : ∀ k product, k < s.next → (s.slots k).content = some product →
      (t.slots k).content = some product) : c.Placed t := by
  obtain ⟨phase, requests⟩ := c
  cases phase with
  | idle | absent => trivial
  | visiting name k stage =>
    obtain ⟨visited, attached, given⟩ := placed
    exact ⟨Nat.lt_of_lt_of_le visited next, fun stays => find name k (attached stays),
      fun product same => content k product visited (given product same)⟩

end Caller

namespace Crowd

structure Consistent (m : Crowd τ) : Prop extends Shared.Tidy m.shared where
  placed : ∀ caller ∈ m.callers, caller.Placed m.shared
  counted {name k} : m.shared.find? name = some k →
    (m.shared.slots k).handles = 1 + m.holders k
  occupied (k) : m.compilers k = if (m.shared.slots k).busy then 1 else 0
  vacant {k} : (m.shared.slots k).busy → (m.shared.slots k).content = none

theorem start_consistent (programs : List (List String)) :
    (start programs : Crowd τ).Consistent where
  toTidy := Shared.empty_tidy
  placed caller member := by
    obtain ⟨names, _, rfl⟩ := List.mem_map.mp member
    trivial
  counted leads := by cases leads
  occupied k := by
    simp only [compilers, start, Shared.empty, List.countP_map, Bool.false_eq_true, ite_false]
    exact List.countP_eq_zero.mpr fun names _ => by simp [Caller.compilesIn]
  vacant busy := by cases busy

theorem countP_turn {m : Crowd τ} {i : Nat} {before after : Caller τ} {shared : Shared τ}
    {events : List (Happening τ)} (present : m.callers[i]? = some before)
    (p : Caller τ → Bool) :
    (m.turn i shared after events).callers.countP p + (if p before then 1 else 0) =
      m.callers.countP p + (if p after then 1 else 0) := by
  obtain ⟨bound, same⟩ := List.getElem?_eq_some_iff.mp present
  have positive : p before → 0 < m.callers.countP p := fun holds =>
    List.countP_pos_iff.mpr ⟨before, List.mem_of_getElem? present, holds⟩
  simp only [turn, List.countP_set bound, same]
  split <;> split <;> grind

theorem holders_turn {m : Crowd τ} {i : Nat} {before after : Caller τ} {shared : Shared τ}
    {events : List (Happening τ)} (present : m.callers[i]? = some before) (k : Nat) :
    (m.turn i shared after events).holders k + (if before.holds k then 1 else 0) =
      m.holders k + (if after.holds k then 1 else 0) :=
  countP_turn present _

theorem compilers_turn {m : Crowd τ} {i : Nat} {before after : Caller τ} {shared : Shared τ}
    {events : List (Happening τ)} (present : m.callers[i]? = some before) (k : Nat) :
    (m.turn i shared after events).compilers k + (if before.compilesIn k then 1 else 0) =
      m.compilers k + (if after.compilesIn k then 1 else 0) :=
  countP_turn present _

theorem claimants_turn {m : Crowd τ} {i : Nat} {before after : Caller τ} {shared : Shared τ}
    {events : List (Happening τ)} (present : m.callers[i]? = some before) (k : Nat) :
    (m.turn i shared after events).claimants k + (if before.claims k then 1 else 0) =
      m.claimants k + (if after.claims k then 1 else 0) :=
  countP_turn present _

theorem compilers_le_holders (m : Crowd τ) (k : Nat) : m.compilers k ≤ m.holders k := by
  refine List.countP_mono_left fun caller _ inside => ?_
  obtain ⟨phase, requests⟩ := caller
  cases phase with
  | idle => cases inside
  | absent name => cases inside
  | visiting name j stage =>
    simp only [Caller.compilesIn_visiting, Bool.and_eq_true] at inside
    exact inside.1

theorem claimants_le_holders (m : Crowd τ) (k : Nat) : m.claimants k ≤ m.holders k := by
  refine List.countP_mono_left fun caller _ claims => ?_
  obtain ⟨phase, requests⟩ := caller
  cases phase with
  | idle => cases claims
  | absent name => cases claims
  | visiting name j stage =>
    simp only [Caller.claims_visiting, Bool.and_eq_true] at claims
    exact claims.1

theorem Quiet.unheld {m : Crowd τ} (quiet : m.Quiet) (k : Nat) : m.holders k = 0 := by
  refine List.countP_eq_zero.mpr fun caller member holds => ?_
  have idle := quiet caller member
  obtain ⟨phase, requests⟩ := caller
  cases phase with
  | idle => cases holds
  | absent | visiting => cases idle

namespace Consistent

variable {m : Crowd τ} {i : Nat} {before after : Caller τ} {shared : Shared τ}
  {events : List (Happening τ)} {name : String} {k : Nat} {stage next : Stage τ}
  {rest : List String}

theorem visited (consistent : m.Consistent)
    (member : ⟨.visiting name k stage, rest⟩ ∈ m.callers) : k < m.shared.next :=
  (consistent.placed _ member).1

theorem attached (consistent : m.Consistent)
    (member : ⟨.visiting name k stage, rest⟩ ∈ m.callers) (stays : stage.attached) :
    m.shared.find? name = some k :=
  (consistent.placed _ member).2.1 stays

theorem given {product : Product τ} (consistent : m.Consistent)
    (member : ⟨.visiting name k (.leaving (.ok product)), rest⟩ ∈ m.callers) :
    (m.shared.slots k).content = some product :=
  (consistent.placed _ member).2.2 product rfl

theorem busy_of_compiling {run : Nat} (consistent : m.Consistent)
    (member : ⟨.visiting name k (.compiling run), rest⟩ ∈ m.callers) :
    (m.shared.slots k).busy := by
  have one : 0 < m.compilers k :=
    List.countP_pos_iff.mpr ⟨_, member, by simp [Stage.compiles]⟩
  have occupied := consistent.occupied k
  split at occupied
  · rename_i busy
    exact busy
  · omega

theorem of_turn (present : m.callers[i]? = some before)
    (tidy : shared.Tidy)
    (others : ∀ caller ∈ (m.turn i shared after events).callers, caller ∈ m.callers →
      caller.Placed shared)
    (placed : after.Placed shared)
    (counted : ∀ name k, shared.find? name = some k →
      (shared.slots k).handles + (if before.holds k then 1 else 0) =
        1 + m.holders k + if after.holds k then 1 else 0)
    (occupied : ∀ k, (if (shared.slots k).busy then 1 else 0) +
      (if before.compilesIn k then 1 else 0) =
        m.compilers k + if after.compilesIn k then 1 else 0)
    (vacant : ∀ k, (shared.slots k).busy → (shared.slots k).content = none) :
    (m.turn i shared after events).Consistent := by
  refine ⟨tidy, ?_, ?_, ?_, vacant _⟩
  · intro caller member
    rcases List.mem_or_eq_of_mem_set member with old | rfl
    · exact others caller member old
    · exact placed
  · intro name k leads
    have handles := counted name k leads
    have count : (m.turn i shared after events).holders k + _ = _ := holders_turn present k
    show (shared.slots k).handles = _
    omega
  · intro k
    have busy := occupied k
    have count : (m.turn i shared after events).compilers k + _ = _ := compilers_turn present k
    show _ = if (shared.slots k).busy then 1 else 0
    omega

theorem restage {slot : Slot τ} (consistent : m.Consistent)
    (present : m.callers[i]? = some ⟨.visiting name k stage, rest⟩)
    (names : shared.names = m.shared.names) (same : shared.next = m.shared.next)
    (slots : ∀ j, shared.slots j = if j = k then slot else m.shared.slots j)
    (handles : slot.handles = (m.shared.slots k).handles)
    (attached : next.attached → stage.attached)
    (keeps : ∀ product, (m.shared.slots k).content = some product → slot.content = some product)
    (gives : ∀ product, next = .leaving (.ok product) → slot.content = some product)
    (vacant : slot.busy → slot.content = none)
    (occupied : (if next.compiles then 1 else 0) + (if (m.shared.slots k).busy then 1 else 0) =
      (if stage.compiles then 1 else 0) + (if slot.busy then 1 else 0)) :
    (m.turn i shared ⟨.visiting name k next, rest⟩ events).Consistent := by
  have member := List.mem_of_getElem? present
  have find (query : String) : shared.find? query = m.shared.find? query := by
    simp only [Shared.find?, names]
  have content (j : Nat) (product : Product τ)
      (held : (m.shared.slots j).content = some product) :
      (shared.slots j).content = some product := by
    rw [slots]
    split
    · rename_i here
      exact keeps product (here ▸ held)
    · exact held
  refine of_turn present (consistent.toTidy.of_same names same) ?_ ⟨?_, ?_, ?_⟩ ?_ ?_ ?_
  · intro caller _ old
    exact (consistent.placed caller old).mono (Nat.le_of_eq same.symm)
      (fun query j leads => (find query).trans leads) (fun j product _ => content j product)
  · rw [same]
    exact consistent.visited member
  · intro stays
    exact (find name).trans (consistent.attached member (attached stays))
  · intro product told
    rw [slots, if_pos rfl]
    exact gives product told
  · intro query j leads
    have count := consistent.counted ((find query).symm.trans leads)
    have unchanged : (shared.slots j).handles = (m.shared.slots j).handles := by
      rw [slots]
      split
      · rename_i here
        rw [handles, here]
      · rfl
    rw [unchanged, count]
    rfl
  · intro j
    have old := consistent.occupied j
    rw [Caller.compilesIn_visiting, Caller.compilesIn_visiting, slots]
    by_cases here : j = k
    · subst here
      simp only [beq_self_eq_true, Bool.true_and, ite_true]
      omega
    · have elsewhere : (k == j) = false := beq_eq_false_iff_ne.mpr (Ne.symm here)
      simp only [elsewhere, Bool.false_and, Bool.false_eq_true, ite_false, here]
      omega
  · intro j
    rw [slots]
    split
    · exact vacant
    · exact consistent.vacant

theorem restage_idle (consistent : m.Consistent)
    (present : m.callers[i]? = some ⟨.visiting name k stage, rest⟩)
    (names : shared.names = m.shared.names) (same : shared.next = m.shared.next)
    (slots : shared.slots = m.shared.slots)
    (outside : stage.compiles = false ∧ next.compiles = false)
    (attached : next.attached → stage.attached)
    (gives : ∀ product, next = .leaving (.ok product) →
      (m.shared.slots k).content = some product) :
    (m.turn i shared ⟨.visiting name k next, rest⟩ events).Consistent := by
  have unchanged (j : Nat) :
      shared.slots j = if j = k then m.shared.slots k else m.shared.slots j := by
    rw [slots]
    split
    · rename_i here
      rw [here]
    · rfl
  refine consistent.restage present names same unchanged rfl attached (fun _ held => held) gives
    consistent.vacant ?_
  rw [outside.1, outside.2]

theorem miss (consistent : m.Consistent) (present : m.callers[i]? = some ⟨.idle, name :: rest⟩) :
    (m.turn i m.shared ⟨.absent name, rest⟩ events).Consistent := by
  refine of_turn present consistent.toTidy (fun caller _ => consistent.placed caller)
    trivial (fun query j leads => ?_) (fun j => ?_) (fun j => consistent.vacant)
  · rw [consistent.counted leads]
    rfl
  · rw [consistent.occupied]
    rfl

theorem visit (consistent : m.Consistent) (present : m.callers[i]? = some before)
    (outside : ∀ j, before.holds j = false ∧ before.compilesIn j = false)
    (leads : m.shared.find? name = some k) :
    (m.turn i (m.shared.hold k) ⟨.visiting name k .holding, rest⟩ events).Consistent := by
  refine of_turn present (consistent.toTidy.of_same rfl rfl) (fun caller _ old => ?_)
    ⟨consistent.named leads, fun _ => leads, nofun⟩ (fun query j leadsToo => ?_) (fun j => ?_)
    (fun j busy => ?_)
  · exact (consistent.placed caller old).mono (Nat.le_refl _) (fun _ _ => id)
      (fun j product _ held => (Shared.hold_content _ _ _).trans held)
  · have count := consistent.counted leadsToo
    simp only [Shared.hold_handles, (outside j).1, Caller.holds_visiting, beq_iff_eq,
      Bool.false_eq_true, ite_false]
    omega
  · have count := consistent.occupied j
    simp [Shared.hold_busy, (outside j).2, Stage.compiles, count]
  · rw [Shared.hold_busy] at busy
    rw [Shared.hold_content]
    exact consistent.vacant busy

theorem unheld_next (consistent : m.Consistent) : m.holders m.shared.next = 0 := by
  refine List.countP_eq_zero.mpr fun caller member => ?_
  obtain ⟨phase, requests⟩ := caller
  cases phase with
  | idle => simp
  | absent query => simp
  | visiting query k stage =>
    have below := consistent.visited member
    simp only [Caller.holds_visiting, beq_iff_eq]
    omega

theorem add (consistent : m.Consistent) (present : m.callers[i]? = some before)
    (outside : ∀ j, before.holds j = false ∧ before.compilesIn j = false)
    (absent : m.shared.find? name = none) :
    (m.turn i (m.shared.add name) ⟨.visiting name m.shared.next .holding, rest⟩
      events).Consistent := by
  have find := m.shared.add_find? name
  have slots (j : Nat) : (m.shared.add name).slots j =
      if j = m.shared.next then ⟨none, false, 2⟩ else m.shared.slots j := rfl
  have unheld := consistent.unheld_next
  refine of_turn present (consistent.toTidy.add name) (fun caller _ old => ?_)
    ⟨Nat.lt_succ_self _, fun _ => (find name).trans (if_pos rfl), nofun⟩ (fun query j leads => ?_)
    (fun j => ?_) (fun j busy => ?_)
  · refine (consistent.placed caller old).mono (Nat.le_succ _) ?_ ?_
    · intro query j leads
      have differ : query ≠ name := fun same => by
        rw [same, absent] at leads
        cases leads
      rw [find, if_neg differ, leads]
    · intro j product below held
      rw [slots, if_neg (Nat.ne_of_lt below), held]
  · rw [find] at leads
    simp only [slots, (outside j).1, Caller.holds_visiting, beq_iff_eq, Bool.false_eq_true,
      ite_false]
    split at leads
    · cases leads
      simp only [ite_true, unheld]
    · have differ : j ≠ m.shared.next := Nat.ne_of_lt (consistent.named leads)
      have count := consistent.counted leads
      simp only [differ, Ne.symm differ, ite_false]
      omega
  · have count := consistent.occupied j
    have bound := m.compilers_le_holders j
    simp only [slots, (outside j).2, Caller.compilesIn_visiting, Stage.compiles, Bool.and_false,
      Bool.false_eq_true, ite_false]
    by_cases fresh : j = m.shared.next
    · rw [fresh, unheld] at bound
      simp only [fresh, ite_true, Bool.false_eq_true, ite_false]
      omega
    · simp only [fresh, ite_false]
      omega
  · rw [slots] at busy ⊢
    split at busy
    · cases busy
    · rename_i differ
      rw [if_neg differ]
      exact consistent.vacant busy

theorem forget {failure : Failure} (consistent : m.Consistent)
    (present : m.callers[i]? = some ⟨.visiting name k (.failing failure), rest⟩)
    (removable : m.shared.Removable name k) :
    (m.turn i (m.shared.forget name k) ⟨.visiting name k (.leaving (.error failure)), rest⟩
      events).Consistent := by
  obtain ⟨leads, _, handles⟩ := removable
  have member := List.mem_of_getElem? present
  have find := Shared.forget_find? consistent.ascending name k
  -- The cache and this caller have the only two handles, so no one else relies on the name.
  have unclaimed : (m.turn i (m.shared.forget name k)
      ⟨.visiting name k (.leaving (.error failure)), rest⟩ events).claimants k = 0 := by
    have count : (m.turn i (m.shared.forget name k)
      ⟨.visiting name k (.leaving (.error failure)), rest⟩ events).claimants k + _ = _ :=
      claimants_turn present k
    have bound := m.claimants_le_holders k
    have counted := consistent.counted leads
    simp only [Caller.claims_visiting, beq_self_eq_true, Stage.attached, Bool.and_true,
      Bool.and_false, Bool.false_eq_true, ite_true, ite_false] at count
    omega
  refine of_turn present (consistent.toTidy.forget name k) (fun caller inside old => ?_)
    ⟨consistent.visited member, nofun, nofun⟩ (fun query j leadsToo => ?_) (fun j => ?_)
    (fun j busy => ?_)
  · have free : ¬ caller.claims k := List.countP_eq_zero.mp unclaimed caller inside
    have placed := consistent.placed caller old
    obtain ⟨phase, requests⟩ := caller
    cases phase with
    | idle | absent => trivial
    | visiting query j stage =>
      obtain ⟨visited, attached, given⟩ := placed
      refine ⟨visited, fun stays => ?_, fun product told => ?_⟩
      · have differ : query ≠ name := fun same => by
          have here := attached stays
          rw [same, leads, Option.some.injEq] at here
          exact free (by simp [here, stays])
        rw [find, if_neg differ]
        exact attached stays
      · exact (Shared.drop_content _ _ _).trans (given product told)
  · rw [find] at leadsToo
    split at leadsToo
    · cases leadsToo
    · rename_i differ
      have apart : k ≠ j := fun same => differ (consistent.apart (same ▸ leadsToo) leads)
      have count := consistent.counted leadsToo
      show ((m.shared.drop k).slots j).handles + _ = _
      rw [Shared.drop_handles, if_neg apart, count]
      rfl
  · show (if ((m.shared.drop k).slots j).busy then 1 else 0) + _ = _
    rw [Shared.drop_busy, consistent.occupied]
    simp [Stage.compiles]
  · have same : ((m.shared.drop k).slots j).busy := busy
    rw [Shared.drop_busy] at same
    exact (Shared.drop_content _ _ _).trans (consistent.vacant same)

theorem leave {result : Except Failure (Product τ)} (consistent : m.Consistent)
    (present : m.callers[i]? = some ⟨.visiting name k (.leaving result), rest⟩) :
    (m.turn i (m.shared.drop k) ⟨.idle, rest⟩ events).Consistent := by
  refine of_turn present (consistent.toTidy.of_same rfl rfl) (fun caller _ old => ?_)
    trivial (fun query j leads => ?_) (fun j => ?_) (fun j busy => ?_)
  · exact (consistent.placed caller old).mono (Nat.le_refl _) (fun _ _ => id)
      (fun j product _ held => (Shared.drop_content _ _ _).trans held)
  · have count := consistent.counted leads
    have held : k = j → 0 < m.holders j := fun same =>
      List.countP_pos_iff.mpr ⟨_, List.mem_of_getElem? present, by simp [same]⟩
    simp only [Shared.drop_handles, Caller.holds_visiting, Caller.holds_idle, beq_iff_eq,
      Bool.false_eq_true, ite_false]
    split <;> omega
  · have count := consistent.occupied j
    simp [Shared.drop_busy, Stage.compiles, count]
  · rw [Shared.drop_busy] at busy
    rw [Shared.drop_content]
    exact consistent.vacant busy

theorem turn (consistent : m.Consistent)
    (present : m.callers[i]? = some before) (turn : Turn m before shared after events) :
    (m.turn i shared after events).Consistent := by
  cases turn with
  | found leads | foundLater leads => exact consistent.visit present (fun j => by simp) leads
  | added absent => exact consistent.add present (fun j => by simp) absent
  | missed absent => exact consistent.miss present
  | empty content =>
    exact consistent.restage_idle present rfl rfl rfl ⟨rfl, rfl⟩ id nofun
  | hit reading content =>
    refine consistent.restage_idle present rfl rfl rfl ⟨?_, rfl⟩ (fun _ => ?_) ?_
    · rcases reading with rfl | rfl <;> rfl
    · rcases reading with rfl | rfl <;> rfl
    · intro product same
      cases same
      exact content
  | entered content busy =>
    refine consistent.restage present rfl rfl (fun _ => rfl) rfl (fun _ => rfl)
      (fun _ same => same) nofun (fun _ => content) ?_
    simp [Stage.compiles, busy]
  | filled =>
    have busy := consistent.busy_of_compiling (List.mem_of_getElem? present)
    refine consistent.restage present rfl rfl (fun _ => rfl) rfl (fun _ => rfl) ?_ ?_ nofun ?_
    · intro product content
      rw [consistent.vacant busy] at content
      cases content
    · intro product same
      cases same
      rfl
    · simp [Stage.compiles, busy]
  | vacated =>
    have busy := consistent.busy_of_compiling (List.mem_of_getElem? present)
    refine consistent.restage present rfl rfl (fun _ => rfl) rfl (fun _ => rfl)
      (fun _ same => same) nofun nofun ?_
    simp [Stage.compiles, busy]
  | forgot removable => exact consistent.forget present removable
  | kept removable =>
    exact consistent.restage_idle present rfl rfl rfl ⟨rfl, rfl⟩ nofun nofun
  | left => exact consistent.leave present

end Consistent

variable {m : Crowd τ}

theorem step_consistent {result : Crowd τ} {move : Move τ} (consistent : m.Consistent)
    (stepped : m.step move = some result) : result.Consistent := by
  obtain ⟨i, before, shared, after, events, present, turn, rfl⟩ := step_turn stepped
  exact consistent.turn present turn

/-- As long as a request is left, some caller can take a step: who waits for a slot waits for a
caller that compiles. -/
theorem Consistent.not_stuck (consistent : m.Consistent) {caller : Caller τ}
    (member : caller ∈ m.callers) (left : caller.isIdle = false ∨ caller.requests ≠ []) :
    ∃ move result, m.step move = some result := by
  have able {before after : Caller τ} {shared : Shared τ} {events : List (Happening τ)}
      (inside : before ∈ m.callers) (turn : Turn m before shared after events) :
      ∃ move result, m.step move = some result := by
    obtain ⟨i, present⟩ := List.getElem?_of_mem inside
    obtain ⟨move, _, stepped⟩ := turn.step present
    exact ⟨move, _, stepped⟩
  have ends {name : String} {k run : Nat} {rest : List String}
      (inside : ⟨.visiting name k (.compiling run), rest⟩ ∈ m.callers) :
      ∃ move result, m.step move = some result :=
    able inside (.vacated : Turn m _ _ ⟨.visiting name k (.failing (.absent name)), rest⟩ _)
  obtain ⟨phase, requests⟩ := caller
  cases phase with
  | idle =>
    cases requests with
    | nil => simp [Caller.isIdle] at left
    | cons name rest =>
      cases leads : m.shared.find? name with
      | none => exact able member (.missed leads)
      | some k => exact able member (.found leads)
  | absent name =>
    cases leads : m.shared.find? name with
    | none => exact able member (.added leads)
    | some k => exact able member (.foundLater leads)
  | visiting name k stage =>
    cases stage with
    | holding =>
      cases content : (m.shared.slots k).content with
      | none => exact able member (.empty content)
      | some product => exact able member (.hit (.inl rfl) content)
    | waiting =>
      cases content : (m.shared.slots k).content with
      | some product => exact able member (.hit (.inr rfl) content)
      | none =>
        cases busy : (m.shared.slots k).busy with
        | false => exact able member (.entered content busy)
        | true =>
          -- Some caller compiles in a busy slot, and that one need not wait.
          have occupied := consistent.occupied k
          rw [busy, if_pos rfl] at occupied
          have some : 0 < m.compilers k := by omega
          obtain ⟨⟨phase, rest⟩, inside, compiles⟩ := List.countP_pos_iff.mp some
          cases phase with
          | idle | absent => cases compiles
          | visiting other j stage =>
            cases stage with
            | compiling run => exact ends inside
            | holding | waiting | failing | leaving => simp [Stage.compiles] at compiles
    | compiling run => exact ends member
    | failing failure =>
      by_cases removable : m.shared.Removable name k
      · exact able member (.forgot removable)
      · exact able member (.kept removable)
    | leaving result => exact able member .left

theorem run_consistent {programs : List (List String)} {schedule : List (Move τ)}
    (ran : (start programs).run schedule = some m) : m.Consistent :=
  run_preserves (fun _ _ _ => step_consistent) (start_consistent programs) ran

end Crowd

end Stencil
