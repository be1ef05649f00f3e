import Stencil.Proofs.Resolver.Resolve
import Stencil.Task

namespace Stencil.Task

open Template (Compiled)

variable {ρ π ω : Type} {t : Task ρ π ω} {round : ρ} {d after : Depot ω} {p p' p'' : π}
  {name : String}

def draw (name : String) (context : Context) (answer : Except Failure Compiled) :
    Except Failure (Option Artifact) := do
  let template ← answer
  let text ← template.render context
  .ok (some (.source ⟨name, text⟩))

def conclusion : Except Failure Artifact → List Signal
  | .ok artifact => [.event (.generated artifact.name)]
  | .error failure => [.recorded .failed, .event (.failed failure)]

theorem execute_perform (t : Task ρ π ω) (round : ρ) (s : Depot ω × π) :
    (t.execute round s).1 = (t.perform round s).1 := rfl

theorem perform_skipped (declined : t.purpose.analyze round t.annotated p = (false, p')) :
    t.perform round (d, p) =
      ((.ok none, d, p'), [.recorded .analyze, .recorded .skipped, .event .notRequired]) := by
  simp [perform, enter, ask, declined]

theorem perform_wanted (wanted : t.purpose.analyze round t.annotated p = (true, p')) :
    t.perform round (d, p) =
      (((t.synthesize (d, p')).1.1.map some, (t.synthesize (d, p')).1.2),
        .recorded .analyze ::
          ((t.synthesize (d, p')).2 ++ conclusion (t.synthesize (d, p')).1.1)) := by
  rcases made : t.synthesize (d, p') with ⟨⟨result, s⟩, signals⟩
  cases result <;> simp [perform, enter, ask, wanted, made, Except.map, conclusion]

theorem synthesize_unnamed (named : t.purpose.artifactName t.annotated p = ("", p')) :
    t.synthesize (d, p) =
      ((.error (.unnamed t.purpose.name), d, p'), [.recorded .resolveTemplate]) := by
  simp [synthesize, enter, ask, named]

section

variable {sought : List Signal}
  (named : t.purpose.artifactName t.annotated p = (name, p')) (nonempty : name ≠ "")

include named nonempty

theorem synthesize_unresolved {failure : Failure}
    (resolved : t.resolver.resolve t.purpose.template d = ((.error failure, after), sought)) :
    t.synthesize (d, p) =
      ((.error failure, after, p'),
        .recorded .resolveTemplate :: .event (.generating name t.purpose.template) :: sought) := by
  simp [synthesize, enter, ask, named, nonempty, resolved]

variable {edition : Edition} {context : Context}
  (resolved : t.resolver.resolve t.purpose.template d = ((.ok edition, after), sought))
  (varied : t.purpose.context t.initiator t.annotated p' = (context, p''))

include resolved varied

theorem synthesize_unrendered {failure : Failure}
    (unrendered : edition.template.render context = .error failure) :
    t.synthesize (d, p) =
      ((.error failure, after, p''),
        .recorded .resolveTemplate :: .event (.generating name t.purpose.template) ::
          (sought ++ [.recorded .render])) := by
  simp [synthesize, enter, ask, named, nonempty, resolved, varied, unrendered]

theorem synthesize_rendered {text : String}
    (rendered : edition.template.render context = .ok text) :
    t.synthesize (d, p) =
      ((.ok (.source ⟨name, text⟩), after, p''),
        .recorded .resolveTemplate :: .event (.generating name t.purpose.template) ::
          (sought ++ [.recorded .render, .recorded .complete])) := by
  simp [synthesize, enter, ask, named, nonempty, resolved, varied, rendered]

end

theorem execute_skipped (declined : t.purpose.analyze round t.annotated p = (false, p')) :
    (t.execute round (d, p)).1 = (.ok none, d, p') :=
  congrArg Prod.fst (perform_skipped declined)

variable (wanted : t.purpose.analyze round t.annotated p = (true, p'))

include wanted

theorem execute_unnamed (named : t.purpose.artifactName t.annotated p' = ("", p'')) :
    (t.execute round (d, p)).1 = (.error (.unnamed t.purpose.name), d, p'') := by
  rw [execute_perform, perform_wanted wanted, synthesize_unnamed named]
  rfl

theorem execute_named (named : t.purpose.artifactName t.annotated p' = (name, p''))
    (nonempty : name ≠ "") {answer : Except Failure Edition}
    (resolved : (t.resolver.resolve t.purpose.template d).1 = (answer, after)) :
    ∃ q, (t.execute round (d, p)).1 =
      (draw name (t.purpose.context t.initiator t.annotated p'').1 (answer.map (·.template)),
        after, q) := by
  rcases whole : t.resolver.resolve t.purpose.template d with ⟨outcome, sought⟩
  obtain rfl : outcome = (answer, after) := by rw [← resolved, whole]
  rw [execute_perform, perform_wanted wanted]
  cases answer with
  | error failure =>
    rw [synthesize_unresolved named nonempty whole]
    exact ⟨p'', rfl⟩
  | ok edition =>
    rcases varied : t.purpose.context t.initiator t.annotated p'' with ⟨context, q⟩
    refine ⟨q, ?_⟩
    simp only [Except.map, draw, Bind.bind, Except.bind]
    cases rendered : edition.template.render context with
    | error failure =>
      rw [synthesize_unrendered named nonempty whole varied rendered]
    | ok text =>
      rw [synthesize_rendered named nonempty whole varied rendered]

omit wanted

/-- A task that is not wanted, and one that has no name for its artifact, leave the depot alone. Any
other resolves its template, once, and changes the depot only by that. -/
theorem execute_once (t : Task ρ π ω) (round : ρ) (d : Depot ω) (p : π) :
    let wanted := t.purpose.analyze round t.annotated p
    let named := t.purpose.artifactName t.annotated wanted.2
    let context := (t.purpose.context t.initiator t.annotated named.2).1
    let resolved := (t.resolver.resolve t.purpose.template d).1
    let (result, after, _) := (t.execute round (d, p)).1
    if wanted.1 = false then result = .ok none ∧ after = d
    else if named.1 = "" then result = .error (.unnamed t.purpose.name) ∧ after = d
    else
      after = resolved.2 ∧
        match resolved.1 with
        | .error failure => result = .error failure
        | .ok edition =>
          (t.resolver.Within d →
            (after.cacheOf t.resolver).get? t.purpose.template = some edition) ∧
          match edition.template.render context with
          | .error failure => result = .error failure
          | .ok text =>
            ∃ artifact : Artifact, result = .ok (some artifact) ∧ artifact.name = named.1 ∧
              artifact.name ≠ "" ∧ artifact.source? = some ⟨named.1, text⟩ := by
  rcases executed : (t.execute round (d, p)).1 with ⟨result, after, p'⟩
  dsimp only
  rcases wanted : t.purpose.analyze round t.annotated p with ⟨wants, q⟩
  cases wants with
  | false =>
    cases executed.symm.trans (execute_skipped wanted)
    exact ⟨rfl, rfl⟩
  | true =>
    rcases named : t.purpose.artifactName t.annotated q with ⟨name, q'⟩
    by_cases nameless : name = ""
    · subst nameless
      cases executed.symm.trans (execute_unnamed wanted named)
      exact ⟨rfl, rfl⟩
    · rcases resolved : (t.resolver.resolve t.purpose.template d).1 with ⟨answer, depot⟩
      obtain ⟨_, drawn⟩ := execute_named wanted named nameless resolved
      cases executed.symm.trans drawn
      have resolves := Resolver.resolve_resolves t.resolver d t.purpose.template
      rw [resolved] at resolves
      simp only [Bool.true_eq_false, if_false, if_neg nameless, true_and]
      cases answer with
      | error failure => rfl
      | ok edition =>
        refine ⟨fun within => ?_, ?_⟩
        · rw [resolves.get? within, if_pos rfl]
          rfl
        · simp only [Except.map, draw, Bind.bind, Except.bind]
          cases edition.template.render (t.purpose.context t.initiator t.annotated q').1 with
          | error failure => rfl
          | ok text => exact ⟨.source ⟨name, text⟩, rfl, rfl, nameless, rfl⟩

def sample (template : String) : Purpose Unit Unit where
  name := "Sample"
  template := template
  analyze _ _ p := (true, p)
  artifactName annotated p := (annotated.canonicalName, p)
  context _ _ p := (.empty, p)

theorem execute_once_sample :
    let r := ((Depot.new Resolver.samples).resolver ⟨false⟩ Library.read).1
    let d := ((Depot.new Resolver.samples).resolver ⟨false⟩ Library.read).2
    let t : Task Unit Unit Library := forSubject (sample "a") ⟨"User", []⟩ r
    let (result, after, _) := (t.execute () (d, ())).1
    r.Within d ∧ after = (r.resolve "a" d).1.2 ∧ ((after.cacheOf r).get? "a").isSome ∧
      ∃ artifact : Artifact, result = .ok (some artifact) ∧
        artifact.source? = some ⟨"User", "text"⟩ := by
  intro r d t
  have within : r.Within d := Resolver.within_new (Depot.new Resolver.samples) ⟨false⟩ Library.read
  have once := execute_once t () d ()
  generalize (t.execute () (d, ())).1 = executed at once ⊢
  obtain ⟨result, after, _⟩ := executed
  obtain ⟨same, kept, artifact, drawn, _, _, source⟩ := once
  exact ⟨within, same, Option.isSome_of_eq_some (kept within), artifact, drawn, source⟩

end Stencil.Task
