import Mathlib.Data.List.Chain
import Stencil.Proofs.Task.Execute

namespace Stencil

open Json (Value)

inductive TaskState.Leads : TaskState → TaskState → Prop where
  | begun : Leads .start .analyze
  | declined : Leads .analyze .skipped
  | wanted : Leads .analyze .resolveTemplate
  | unresolved : Leads .resolveTemplate .failed
  | resolved : Leads .resolveTemplate .render
  | unrendered : Leads .render .failed
  | rendered : Leads .render .complete

namespace Signal

/-- Events of caches, and of resolvers that compile for them. -/
def Seeks : Signal → Prop
  | .event (.lookup _ _) | .event (.compiled _ _) | .event (.notCompiled _ _) => True
  | _ => False

def state? : Signal → Option TaskState
  | .recorded state => some state
  | _ => none

def fields? (message : String) : Signal → Option (List (String × Value))
  | .event e => if e.message = message then some e.fields else none
  | _ => none

/-- Neither begins a course nor ends one. -/
def Stays : Signal → Prop
  | .opened _ | .closed => False
  | .recorded _ | .event _ => True

theorem inCourse_append (current : Option (Span × TaskState)) (before after : List Signal) :
    inCourse current (before ++ after) =
      inCourse current before ++ inCourse (before.foldl follow current) after := by
  induction before generalizing current with
  | nil => rfl
  | cons s before ih => rw [List.cons_append, inCourse, inCourse, List.foldl_cons, ih]; rfl

theorem notMem_inCourse {current place : Option (Span × TaskState)} {s : Signal}
    {signals : List Signal} (idle : ∀ s ∈ signals, ¬s.Seeks) (seeking : s.Seeks) :
    (s, place) ∉ inCourse current signals := by
  induction signals generalizing current with
  | nil => exact List.not_mem_nil
  | cons first signals ih =>
    intro member
    rcases List.mem_cons.mp member with same | later
    · obtain ⟨rfl, -⟩ := Prod.mk.inj same
      exact idle s List.mem_cons_self seeking
    · exact ih (fun s among => idle s (List.mem_cons_of_mem _ among)) later

variable {sought : List Signal} (seeks : ∀ s ∈ sought, s.Seeks)

include seeks

theorem states_around (front back : List Signal) :
    (front ++ sought ++ back).filterMap state? =
      front.filterMap state? ++ back.filterMap state? := by
  have silent : sought.filterMap state? = [] := by
    refine List.filterMap_eq_nil_iff.mpr fun s member => ?_
    have event := seeks s member
    cases s with
    | event e => rfl
    | opened | recorded | closed => cases event
  rw [List.filterMap_append, List.filterMap_append, silent, List.append_nil]

theorem fields_around (front back : List Signal) {message : String}
    (lookup : message ≠ "template cache lookup") (compiled : message ≠ "template compiled")
    (failed : message ≠ "template compilation failed; nothing cached") :
    (front ++ sought ++ back).filterMap (fields? message) =
      front.filterMap (fields? message) ++ back.filterMap (fields? message) := by
  suffices silent : sought.filterMap (fields? message) = [] by
    rw [List.filterMap_append, List.filterMap_append, silent, List.append_nil]
  refine List.filterMap_eq_nil_iff.mpr fun s member => ?_
  have event := seeks s member
  cases s with
  | opened | recorded | closed => cases event
  | event e =>
    cases e with
    | lookup => exact if_neg (Ne.symm lookup)
    | compiled => exact if_neg (Ne.symm compiled)
    | notCompiled => exact if_neg (Ne.symm failed)
    | notRequired | generating | generated | failed | configured | installed => cases event

theorem inCourse_seeks (current : Option (Span × TaskState)) :
    inCourse current sought = sought.map (·, current) ∧ sought.foldl follow current = current := by
  induction sought with
  | nil => exact ⟨rfl, rfl⟩
  | cons s sought ih =>
    have event := seeks s List.mem_cons_self
    have others := ih fun s member => seeks s (List.mem_cons_of_mem _ member)
    cases s with
    | opened | recorded | closed => cases event
    | event e => exact ⟨congrArg (_ :: ·) others.1, others.2⟩

theorem stays_seeks : ∀ s ∈ sought, s.Stays := by
  intro s member
  have event := seeks s member
  cases s with
  | event e => trivial
  | opened | recorded | closed => cases event

end Signal

theorem Resolver.seeks_of_resolve {ω : Type} {r : Resolver ω} {d after : Depot ω} {name : String}
    {result : Except Failure Edition} {sought : List Signal}
    (resolved : r.resolve name d = ((result, after), sought)) : ∀ s ∈ sought, s.Seeks := by
  have tells := resolve_tells r d name
  rw [resolved] at tells
  cases tells <;> simp [Signal.Seeks]

namespace Task

variable {ρ π ω : Type}

def asks (t : Task ρ π ω) (round : ρ) (p : π) : Option String :=
  let wanted := t.purpose.analyze round t.annotated p
  if wanted.1 = false then none
  else if (t.purpose.artifactName t.annotated wanted.2).1 = "" then none
  else some t.purpose.template

inductive Goes (t : Task ρ π ω) (name : String) (d : Depot ω) :
    Option String → Except Failure (Option Artifact) → Depot ω → List Signal → Prop where
  | skipped : Goes t name d none (.ok none) d
      [.recorded .analyze, .recorded .skipped, .event .notRequired]
  | unnamed {failure} : Goes t name d none (.error failure) d
      [.recorded .analyze, .recorded .resolveTemplate, .recorded .failed, .event (.failed failure)]
  | unresolved {failure after sought} :
      t.resolver.resolve t.purpose.template d = ((.error failure, after), sought) →
      Goes t name d (some t.purpose.template) (.error failure) after
        ([.recorded .analyze, .recorded .resolveTemplate,
          .event (.generating name t.purpose.template)] ++ sought ++
            [.recorded .failed, .event (.failed failure)])
  | unrendered {edition failure after sought} :
      t.resolver.resolve t.purpose.template d = ((.ok edition, after), sought) →
      Goes t name d (some t.purpose.template) (.error failure) after
        ([.recorded .analyze, .recorded .resolveTemplate,
          .event (.generating name t.purpose.template)] ++ sought ++
            [.recorded .render, .recorded .failed, .event (.failed failure)])
  | complete {edition artifact after sought} :
      t.resolver.resolve t.purpose.template d = ((.ok edition, after), sought) →
      Goes t name d (some t.purpose.template) (.ok (some artifact)) after
        ([.recorded .analyze, .recorded .resolveTemplate,
          .event (.generating name t.purpose.template)] ++ sought ++
            [.recorded .render, .recorded .complete, .event (.generated name)])

theorem execute_frame (t : Task ρ π ω) (round : ρ) (s : Depot ω × π) :
    (t.execute round s).2 = .opened t.span :: ((t.perform round s).2 ++ [.closed]) := by
  simp only [execute, Traced.bind_apply, Traced.signal_apply, Traced.pure_apply, List.append_nil,
    List.cons_append, List.nil_append]

theorem perform_goes (t : Task ρ π ω) (round : ρ) (d : Depot ω) (p : π) :
    Goes t (t.purpose.artifactName t.annotated (t.purpose.analyze round t.annotated p).2).1 d
      (t.asks round p) (t.perform round (d, p)).1.1 (t.perform round (d, p)).1.2.1
      (t.perform round (d, p)).2 := by
  unfold asks
  rcases wanted : t.purpose.analyze round t.annotated p with ⟨wants, p'⟩
  cases wants with
  | false =>
    rw [perform_skipped wanted]
    exact .skipped
  | true =>
    rw [perform_wanted wanted]
    rcases named : t.purpose.artifactName t.annotated p' with ⟨name, p''⟩
    simp only [named, Bool.true_eq_false, if_false]
    by_cases nameless : name = ""
    · subst nameless
      rw [synthesize_unnamed named, if_pos rfl]
      exact .unnamed
    · rw [if_neg nameless]
      rcases resolved : t.resolver.resolve t.purpose.template d with ⟨⟨answer, after⟩, sought⟩
      cases answer with
      | error failure =>
        rw [synthesize_unresolved named nameless resolved]
        exact .unresolved resolved
      | ok edition =>
        rcases varied : t.purpose.context t.initiator t.annotated p'' with ⟨context, q⟩
        cases rendered : edition.template.render context with
        | error failure =>
          rw [synthesize_unrendered named nameless resolved varied rendered, conclusion,
            List.cons_append, List.cons_append, List.append_assoc]
          exact .unrendered resolved
        | ok text =>
          rw [synthesize_rendered named nameless resolved varied rendered, conclusion,
            List.cons_append, List.cons_append, List.append_assoc]
          exact .complete resolved

def ending : Except Failure (Option Artifact) → TaskState
  | .ok none => .skipped
  | .ok (some _) => .complete
  | .error _ => .failed

def failureFields : Except Failure (Option Artifact) → List (List (String × Value))
  | .ok _ => []
  | .error failure =>
    [[("error_kind", .string failure.kind.text), ("error", .string failure.message)]]

def artifactFields (name : String) :
    Except Failure (Option Artifact) → List (List (String × Value))
  | .ok (some _) => [[("artifact", .string name)]]
  | .ok none | .error _ => []

/-- What is told of a task is one course through the diagram of states, which agrees with the
result. -/
structure Legal (t : Task ρ π ω) (name : String) (result : Except Failure (Option Artifact))
    (signals : List Signal) : Prop where
  framed : ∃ inside, signals = .opened t.span :: (inside ++ [.closed]) ∧ ∀ s ∈ inside, s.Stays
  path : List.IsChain TaskState.Leads (.start :: signals.filterMap Signal.state?)
  ends : ∃ before, signals.filterMap Signal.state? = before ++ [ending result] ∧
    ∀ state ∈ before, state.isTerminal = false
  closed : (Signal.inCourse none signals).getLast? = some (.closed, some (t.span, ending result))
  sought : ∀ s current, (s, current) ∈ Signal.inCourse none signals → s.Seeks →
    current = some (t.span, .resolveTemplate)
  failed : signals.filterMap (Signal.fields? "generation failed") = failureFields result
  generating : ∀ fields ∈ signals.filterMap (Signal.fields? "generating artifact"),
    fields = [("artifact", .string name), ("template", .string t.purpose.template)]
  generated : signals.filterMap (Signal.fields? "artifact generated") = artifactFields name result

variable {t : Task ρ π ω} {name : String} {result : Except Failure (Option Artifact)}
  {inside : List Signal} {d after : Depot ω} {asked : Option String}

theorem Goes.stays (goes : t.Goes name d asked result after inside) : ∀ s ∈ inside, s.Stays := by
  cases goes with
  | skipped | unnamed => simp [Signal.Stays]
  | unresolved resolved | unrendered resolved | complete resolved =>
    have stays := Signal.stays_seeks (Resolver.seeks_of_resolve resolved)
    simp only [List.forall_mem_append, List.forall_mem_cons]
    simpa [Signal.Stays] using stays

theorem Goes.path (goes : t.Goes name d asked result after inside) :
    List.IsChain TaskState.Leads (.start :: inside.filterMap Signal.state?) := by
  cases goes with
  | skipped => exact .cons_cons .begun (.cons_cons .declined (.singleton _))
  | unnamed =>
    exact .cons_cons .begun (.cons_cons .wanted (.cons_cons .unresolved (.singleton _)))
  | unresolved resolved =>
    rw [Signal.states_around (Resolver.seeks_of_resolve resolved)]
    exact .cons_cons .begun (.cons_cons .wanted (.cons_cons .unresolved (.singleton _)))
  | unrendered resolved =>
    rw [Signal.states_around (Resolver.seeks_of_resolve resolved)]
    exact .cons_cons .begun (.cons_cons .wanted (.cons_cons .resolved
      (.cons_cons .unrendered (.singleton _))))
  | complete resolved =>
    rw [Signal.states_around (Resolver.seeks_of_resolve resolved)]
    exact .cons_cons .begun (.cons_cons .wanted (.cons_cons .resolved
      (.cons_cons .rendered (.singleton _))))

theorem Goes.ends (goes : t.Goes name d asked result after inside) :
    ∃ before, inside.filterMap Signal.state? = before ++ [ending result] ∧
      ∀ state ∈ before, state.isTerminal = false := by
  cases goes with
  | skipped => exact ⟨[.analyze], rfl, by decide⟩
  | unnamed => exact ⟨[.analyze, .resolveTemplate], rfl, by decide⟩
  | unresolved resolved =>
    rw [Signal.states_around (Resolver.seeks_of_resolve resolved)]
    exact ⟨[.analyze, .resolveTemplate], rfl, by decide⟩
  | unrendered resolved | complete resolved =>
    rw [Signal.states_around (Resolver.seeks_of_resolve resolved)]
    exact ⟨[.analyze, .resolveTemplate, .render], rfl, by decide⟩

theorem Goes.follows (goes : t.Goes name d asked result after inside) :
    inside.foldl Signal.follow (some (t.span, .start)) = some (t.span, ending result) := by
  cases goes with
  | skipped | unnamed => rfl
  | unresolved resolved | unrendered resolved | complete resolved =>
    rw [List.foldl_append, List.foldl_append,
      (Signal.inCourse_seeks (Resolver.seeks_of_resolve resolved) _).2]
    rfl

theorem Goes.sought (goes : t.Goes name d asked result after inside) (s : Signal)
    (place : Option (Span × TaskState))
    (member : (s, place) ∈ Signal.inCourse (some (t.span, .start)) inside) (seeking : s.Seeks) :
    place = some (t.span, .resolveTemplate) := by
  cases goes with
  | skipped | unnamed =>
    exact absurd member (Signal.notMem_inCourse (by simp [Signal.Seeks]) seeking)
  | unresolved resolved | unrendered resolved | complete resolved =>
    rw [Signal.inCourse_append, Signal.inCourse_append, List.mem_append, List.mem_append,
      (Signal.inCourse_seeks (Resolver.seeks_of_resolve resolved) _).1] at member
    -- Before the template is sought and afterwards, nothing is told that has to do with it.
    rcases member with (early | among) | late
    · exact absurd early (Signal.notMem_inCourse (by simp [Signal.Seeks]) seeking)
    · obtain ⟨_, _, same⟩ := List.mem_map.mp among
      exact (Prod.mk.inj same).2.symm
    · exact absurd late (Signal.notMem_inCourse (by simp [Signal.Seeks]) seeking)

theorem Goes.failed (goes : t.Goes name d asked result after inside) :
    inside.filterMap (Signal.fields? "generation failed") = failureFields result := by
  cases goes with
  | skipped => rfl
  | unnamed => rfl
  | unresolved resolved | unrendered resolved | complete resolved =>
    rw [Signal.fields_around (Resolver.seeks_of_resolve resolved) _ _ (by decide) (by decide)
      (by decide)]
    rfl

theorem Goes.generating (goes : t.Goes name d asked result after inside) :
    ∀ fields ∈ inside.filterMap (Signal.fields? "generating artifact"),
      fields = [("artifact", .string name), ("template", .string t.purpose.template)] := by
  cases goes with
  | skipped => nofun
  | unnamed => nofun
  | unresolved resolved | unrendered resolved | complete resolved =>
    rw [Signal.fields_around (Resolver.seeks_of_resolve resolved) _ _ (by decide) (by decide)
      (by decide)]
    exact fun fields among => List.mem_singleton.mp among

theorem Goes.generated (goes : t.Goes name d asked result after inside) :
    inside.filterMap (Signal.fields? "artifact generated") = artifactFields name result := by
  cases goes with
  | skipped => rfl
  | unnamed => rfl
  | unresolved resolved | unrendered resolved | complete resolved =>
    rw [Signal.fields_around (Resolver.seeks_of_resolve resolved) _ _ (by decide) (by decide)
      (by decide)]
    rfl

theorem Goes.legal (goes : t.Goes name d asked result after inside) :
    t.Legal name result (.opened t.span :: (inside ++ [.closed])) := by
  have framed {α : Type} (f : Signal → Option α) (opened : f (.opened t.span) = none)
      (closed : f .closed = none) :
      (Signal.opened t.span :: (inside ++ [.closed])).filterMap f = inside.filterMap f := by
    rw [List.filterMap_cons_none opened, List.filterMap_append, List.filterMap_cons_none closed,
      List.filterMap_nil, List.append_nil]
  have course : Signal.inCourse none (.opened t.span :: (inside ++ [.closed])) =
      (.opened t.span, none) :: (Signal.inCourse (some (t.span, .start)) inside ++
        [(.closed, some (t.span, ending result))]) := by
    rw [Signal.inCourse, Signal.inCourse_append, Signal.follow, goes.follows]
    rfl
  refine ⟨⟨inside, rfl, goes.stays⟩, ?_, ?_, ?_, ?_, ?_, ?_, ?_⟩
  · rw [framed _ rfl rfl]
    exact goes.path
  · rw [framed _ rfl rfl]
    exact goes.ends
  · rw [course, ← List.cons_append]
    exact List.getLast?_concat
  · intro s place member seeking
    rw [course] at member
    rcases List.mem_cons.mp member with first | later
    · obtain ⟨rfl, -⟩ := Prod.mk.inj first
      cases seeking
    · rcases List.mem_append.mp later with among | last
      · exact goes.sought s place among seeking
      · obtain ⟨rfl, -⟩ := Prod.mk.inj (List.mem_singleton.mp last)
        cases seeking
  · rw [framed _ rfl rfl]
    exact goes.failed
  · rw [framed _ rfl rfl]
    exact goes.generating
  · rw [framed _ rfl rfl]
    exact goes.generated

structure Execution (ρ π ω : Type) where
  task : Task ρ π ω
  round : ρ
  before : Depot ω × π
  result : Except Failure (Option Artifact)
  signals : List Signal

def Execution.artifactName (e : Execution ρ π ω) : String :=
  let purpose := e.task.purpose
  (purpose.artifactName e.task.annotated (purpose.analyze e.round e.task.annotated e.before.2).2).1

def executions : List (Task ρ π ω × ρ) → Depot ω × π → List (Execution ρ π ω)
  | [], _ => []
  | (t, round) :: rest, s =>
    let ((result, after), signals) := t.execute round s
    ⟨t, round, s, result, signals⟩ :: executions rest after

/-- Whatever tasks are executed in whatever state of the depot: what each of them tells is one legal
course that agrees with its result, and their courses do not overlap. -/
theorem executions_legal (pairs : List (Task ρ π ω × ρ)) (s : Depot ω × π) :
    (executions pairs s).map (fun e => (e.task, e.round)) = pairs ∧
    (∀ e ∈ executions pairs s, e.task.Legal e.artifactName e.result e.signals) ∧
    Signal.inCourse none ((executions pairs s).flatMap (·.signals)) =
      (executions pairs s).flatMap fun e => Signal.inCourse none e.signals := by
  induction pairs generalizing s with
  | nil => exact ⟨rfl, nofun, rfl⟩
  | cons pair rest ih =>
    obtain ⟨t, round⟩ := pair
    obtain ⟨d, p⟩ := s
    obtain ⟨others, legal, apart⟩ := ih (t.execute round (d, p)).1.2
    have goes := perform_goes t round d p
    have told := execute_frame t round (d, p)
    simp only [executions, List.map_cons, List.forall_mem_cons, List.flatMap_cons]
    refine ⟨congrArg _ others, ⟨?_, legal⟩, ?_⟩
    · rw [told]
      exact goes.legal
    · have finished : (t.execute round (d, p)).2.foldl Signal.follow none = none := by
        rw [told, ← List.cons_append, List.foldl_append]
        rfl
      rw [Signal.inCourse_append, finished, apart]

end Task

end Stencil
