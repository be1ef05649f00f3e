import Stencil.Proofs.Template.SelfContained

namespace Stencil.Template

open Json (Value Number)

def Scene.renamed (scene : Scene) (name : String) : Scene :=
  { scene with template := name }

/-- Nothing that a rendering may reach in the template names another one. -/
structure Scene.SelfContained (scene : Scene) : Prop where
  blocks : ∀ block ∈ scene.blocks, refersAny block.2 = false
  definitions : ∀ definition ∈ scene.definitions, refersAny definition.body = false

section Lookup

variable (globals : List (String × Value)) (frames : List Frame) (m n : String)

theorem toOption_bind {α β : Type} (result : Except Trouble α) (next : α → Except Trouble β) :
    (result >>= next).toOption = result.toOption.bind fun x => (next x).toOption := by
  cases result <;> rfl

mutual

theorem resolve_rename : ∀ depth path,
    (resolve globals frames m depth path).toOption = (resolve globals frames n depth path).toOption
  | 0, _ => rfl
  | depth + 1, path => by
    simp only [resolve]
    split
    · rw [toOption_bind, toOption_bind, resolveBrackets_rename depth]
      congr
      funext evaluated
      split <;> rfl
    · split <;> rfl

theorem resolveBrackets_rename : ∀ depth path insides evaluated,
    (resolveBrackets globals frames m depth path insides evaluated).toOption =
      (resolveBrackets globals frames n depth path insides evaluated).toOption
  | 0, _, _, _ => rfl
  | _ + 1, _, [], _ => rfl
  | depth + 1, path, inside :: others, evaluated => by
    have inner := resolve_rename depth (String.ofList inside)
    have rest := resolveBrackets_rename depth path others
    simp only [resolveBrackets]
    cases here : resolve globals frames m depth (String.ofList inside) with
    | error trouble =>
      cases there : resolve globals frames n depth (String.ofList inside) with
      | error _ => rfl
      | ok v => simp [here, there, Except.toOption] at inner
    | ok v =>
      cases there : resolve globals frames n depth (String.ofList inside) with
      | error _ => simp [here, there, Except.toOption] at inner
      | ok w =>
        obtain rfl : v = w := by simpa [here, there, Except.toOption] using inner
        cases v <;> simp [rest]

end

end Lookup

namespace Eval

variable {α β : Type}

/-- The value of a step, if it has no trouble, and the frames after it. -/
def outcome (step : Eval α) (scene : Scene) (frames : List Frame) : Option α × List Frame :=
  match (step.run scene).run.run frames with
  | (.ok x, left) => (some x, left)
  | (.error _, left) => (none, left)

/-- The step comes to the same under every name of a self-contained template. -/
def Blind (step : Eval α) : Prop :=
  ∀ scene : Scene, scene.SelfContained → ∀ name frames,
    outcome step (scene.renamed name) frames = outcome step scene frames

section Outcomes

variable (scene : Scene) (frames : List Frame)

theorem outcome_bind (step : Eval α) (next : α → Eval β) :
    outcome (step >>= next) scene frames =
      match outcome step scene frames with
      | (some x, left) => outcome (next x) scene left
      | (none, left) => (none, left) := by
  simp only [outcome, ReaderT.run_bind, ExceptT.run_bind, StateT.run_bind]
  rcases (step.run scene).run.run frames with ⟨_ | _, left⟩ <;> rfl

theorem outcome_tryCatch (step : Eval α) (rescue : Trouble → Eval α) :
    outcome (tryCatch step rescue) scene frames =
      match (step.run scene).run.run frames with
      | (.ok x, left) => (some x, left)
      | (.error trouble, left) => outcome (rescue trouble) scene left := by
  have within : (tryCatch step rescue).run scene =
      tryCatch (step.run scene) fun trouble => (rescue trouble).run scene := rfl
  rw [outcome, within, ExceptT.run_tryCatch, StateT.run_bind]
  rcases (step.run scene).run.run frames with ⟨_ | _, left⟩ <;> rfl

theorem outcome_rescue (step rescue : Eval α) :
    outcome (tryCatch step fun _ => rescue) scene frames =
      match outcome step scene frames with
      | (some x, left) => (some x, left)
      | (none, left) => outcome rescue scene left := by
  rw [outcome_tryCatch, outcome]
  rcases (step.run scene).run.run frames with ⟨_ | _, left⟩ <;> rfl

theorem outcome_attempt (step : Eval α) :
    outcome (tryCatch (do pure (Except.ok (← step))) fun trouble => pure (.error trouble)) scene
        frames =
      match (step.run scene).run.run frames with
      | (found, left) => (some found, left) := by
  rw [outcome_tryCatch, ReaderT.run_bind, ExceptT.run_bind, StateT.run_bind]
  rcases (step.run scene).run.run frames with ⟨_ | _, left⟩ <;> rfl

theorem outcome_because (wrap : Trouble → Trouble) (step : Eval α) :
    outcome (because wrap step) scene frames = outcome step scene frames := by
  rw [because, outcome_tryCatch, outcome]
  rcases (step.run scene).run.run frames with ⟨_ | _, left⟩ <;> rfl

theorem outcome_settle (result : Except Trouble α) :
    outcome (settle result) scene frames = (result.toOption, frames) := by
  cases result <;> rfl

theorem outcome_lookup (path : String) :
    outcome (lookup path) scene frames =
      ((resolve scene.globals frames scene.template (2 * path.length + 2) path).toOption,
        frames) := by
  rw [lookup]
  exact outcome_settle scene frames _

end Outcomes

protected theorem Blind.pure (x : α) : Blind (pure x) :=
  fun _ _ _ _ => rfl

protected theorem Blind.throw (trouble : Trouble) : Blind (throw trouble : Eval α) :=
  fun _ _ _ _ => rfl

protected theorem Blind.bind {step : Eval α} {next : α → Eval β} (first : Blind step)
    (later : ∀ x, Blind (next x)) : Blind (step >>= next) := by
  intro scene alone name frames
  rw [outcome_bind, outcome_bind, first scene alone name frames]
  rcases outcome step scene frames with ⟨_ | x, left⟩
  · rfl
  · exact later x scene alone name left

protected theorem Blind.read {next : Scene → Eval α}
    (later : ∀ scene : Scene, scene.SelfContained → ∀ name frames,
      outcome (next (scene.renamed name)) (scene.renamed name) frames =
        outcome (next scene) scene frames) :
    Blind (read >>= next) := by
  intro scene alone name frames
  rw [outcome_bind, outcome_bind]
  exact later scene alone name frames

protected theorem Blind.get : Blind (get : Eval (List Frame)) :=
  fun _ _ _ _ => rfl

protected theorem Blind.set (frames : List Frame) : Blind (set frames : Eval PUnit) :=
  fun _ _ _ _ => rfl

protected theorem Blind.modify (change : List Frame → List Frame) :
    Blind (modify change : Eval PUnit) :=
  fun _ _ _ _ => rfl

protected theorem Blind.settle (result : Except Trouble α) : Blind (settle result) := by
  intro scene alone name frames
  rw [outcome_settle, outcome_settle]

protected theorem Blind.because {step : Eval α} (wrap : Trouble → Trouble) (inner : Blind step) :
    Blind (because wrap step) := by
  intro scene alone name frames
  rw [outcome_because, outcome_because]
  exact inner scene alone name frames

protected theorem Blind.verbatim {step : Eval α} (inner : Blind step) : Blind (verbatim step) :=
  fun scene alone name frames =>
    inner { scene with escaping := false } ⟨alone.blocks, alone.definitions⟩ name frames

protected theorem Blind.rescue {step rescue : Eval α} (inner : Blind step) (after : Blind rescue) :
    Blind (tryCatch step fun _ => rescue) := by
  intro scene alone name frames
  rw [outcome_rescue, outcome_rescue, inner scene alone name frames]
  rcases outcome step scene frames with ⟨_ | x, left⟩
  · exact after scene alone name left
  · rfl

protected theorem Blind.attempt {step : Eval α} {next : Except Trouble α → Eval β}
    (inner : Blind step) (after : ∀ x, Blind (next (.ok x)))
    (failed : ∀ trouble other : Trouble, ∀ scene : Scene, scene.SelfContained → ∀ name frames,
      outcome (next (.error trouble)) (scene.renamed name) frames =
        outcome (next (.error other)) scene frames) :
    Blind (tryCatch (do pure (Except.ok (← step))) (fun trouble => pure (.error trouble)) >>=
      next) := by
  intro scene alone name frames
  have same := inner scene alone name frames
  rw [outcome_bind, outcome_bind, outcome_attempt, outcome_attempt]
  rw [outcome, outcome] at same
  rcases here : (step.run (scene.renamed name)).run.run frames with ⟨trouble | x, left⟩ <;>
    rcases there : (step.run scene).run.run frames with ⟨other | y, others⟩ <;>
    simp only [here, there, Prod.mk.injEq, Option.some.injEq, reduceCtorEq, false_and,
      true_and] at same
  · subst same
    exact failed trouble other scene alone name left
  · obtain ⟨rfl, rfl⟩ := same
    exact after x scene alone name left

protected theorem Blind.lookup (path : String) : Blind (lookup path) := by
  intro scene alone name frames
  rw [outcome_lookup, outcome_lookup]
  exact congrArg (·, frames) (resolve_rename scene.globals frames name scene.template _ path)

end Eval

end Stencil.Template
