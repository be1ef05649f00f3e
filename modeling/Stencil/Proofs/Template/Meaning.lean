import Stencil.Proofs.Template.Blind

namespace Stencil.Template

open Json (Value Number)
open Eval

structure Meaning.Blind (meaning : Meaning) : Prop where
  value : Eval.Blind meaning.value
  truth : Eval.Blind meaning.truth
  number : Eval.Blind meaning.number

structure Sense.Blind (sense : Sense) : Prop where
  value : Eval.Blind sense.value
  truth : Eval.Blind sense.truth
  number : Eval.Blind sense.number

def Application.Blind (a : Application) : Prop :=
  ∀ arg ∈ a.args, arg.2.Blind

section Applications

theorem evalArguments_blind : ∀ args : List (String × Meaning), (∀ arg ∈ args, arg.2.Blind) →
    Blind (evalArguments args)
  | [], _ => .pure _
  | (name, meaning) :: others, blind => by
    have first : meaning.Blind := blind (name, meaning) List.mem_cons_self
    have rest := evalArguments_blind others fun arg member =>
      blind arg (List.mem_cons_of_mem _ member)
    exact .bind first.value.verbatim fun v => .bind rest fun evaluated => .pure _

theorem evalList_blind : ∀ items : List Meaning, (∀ item ∈ items, item.Blind) →
    Blind (evalList items)
  | [], _ => .pure _
  | meaning :: others, blind => by
    have first : meaning.Blind := blind meaning List.mem_cons_self
    have rest := evalList_blind others fun item member => blind item (List.mem_cons_of_mem _ member)
    exact .bind first.value fun v => .bind rest fun evaluated => .pure _

theorem applyFunction_blind {a : Application} (blind : a.Blind) : Blind (applyFunction a) := by
  unfold applyFunction
  split
  · exact .throw _
  · exact .because _ (.bind (evalArguments_blind a.args blind) fun args => .settle _)

theorem applyFilter_blind (v : Value) {a : Application} (blind : a.Blind) :
    Blind (applyFilter v a) := by
  unfold applyFilter
  split
  · exact .throw _
  · exact .because _ (.bind (evalArguments_blind a.args blind) fun args => .settle _)

theorem applyFilters_blind : ∀ (filters : List Application) (base : Value × Bool),
    (∀ a ∈ filters, a.Blind) → Blind (applyFilters filters base)
  | [], _, _ => .pure _
  | a :: others, (v, escapable), blind => by
    have rest := fun base => applyFilters_blind others base fun b member =>
      blind b (List.mem_cons_of_mem _ member)
    unfold applyFilters
    split
    · exact rest (v, escapable)
    · exact .bind (applyFilter_blind v (blind a List.mem_cons_self)) fun v => rest (v, true)

theorem finish_blind (negated : Bool) {filters : List Application} (base : Value × Bool)
    (blind : ∀ a ∈ filters, a.Blind) : Blind (finish negated filters base) := by
  refine .bind (applyFilters_blind filters base blind) fun (v, escapable) => ?_
  dsimp only
  split
  · exact .pure _
  · exact .read fun scene alone name frames => rfl

theorem default?_blind {filters : List Application} (blind : ∀ a ∈ filters, a.Blind)
    {default : Eval Value} (given : default? filters = some default) : Blind default := by
  unfold default? at given
  split at given
  case h_2 => simp at given
  case h_1 a others =>
    split at given
    · cases Option.some.inj given
      split
      case h_1 arg named =>
        exact (blind a List.mem_cons_self _ (List.mem_of_find?_eq_some named)).value
      case h_2 => exact .throw _
    · simp at given

end Applications

section Readings

theorem pathValue_blind (path : String) (negated : Bool) {filters : List Application}
    (blind : ∀ a ∈ filters, a.Blind) : Blind (pathValue path negated filters) := by
  have finished := fun base => finish_blind negated base blind
  have default_blind := fun default (given : default? filters = some default) =>
    default?_blind blind given
  refine .attempt (.lookup path) (fun v => ?_) fun trouble other scene alone name frames => ?_
  · split
    case h_1 default _ given =>
      exact .bind (default_blind default given) fun v => finished (v, true)
    case h_2 => exact finished _
    all_goals contradiction
  -- Without a default the trouble is thrown again, and its wording is all that may differ.
  · cases given : default? filters with
    | some default =>
      have replaced := Blind.bind (default_blind default given) fun v => finished (v, true)
      exact replaced scene alone name frames
    | none =>
      dsimp only
      split <;> rfl

theorem callNumber_blind {a : Application} (blind : a.Blind) : Blind (callNumber a) := by
  refine .bind (applyFunction_blind blind) fun v => ?_
  split
  · exact .pure _
  · exact .throw _

theorem pathNumber_blind (path : String) : Blind (pathNumber path) := by
  refine .bind (.lookup path) fun v => ?_
  split
  · exact .pure _
  · exact .throw _

theorem mathNumber_blind (op : MathOp) (byZero : Trouble) {left right : Meaning}
    (first : left.Blind) (second : right.Blind) : Blind (mathNumber op byZero left right) := by
  refine .bind first.number fun x => .bind second.number fun y => ?_
  split
  · exact .settle _
  · exact .pure _

theorem mathValue_blind {number : Eval (Option Number)} (blind : Blind number) :
    Blind (mathValue number) := by
  refine .bind (.because _ blind) fun n => ?_
  split <;> exact .pure _

theorem numberTruth_blind {number : Eval (Option Number)} (blind : Blind number) :
    Blind (numberTruth number) := by
  refine .bind blind fun n => ?_
  split <;> exact .pure _

theorem compareTruth_blind (op : CompareOp) {left right : Meaning} (first : left.Blind)
    (second : right.Blind) : Blind (compareTruth op left right) := by
  unfold compareTruth
  split
  case h_3 =>
    refine .bind first.number fun x => .bind second.number fun y => ?_
    split
    · exact .pure _
    · exact .throw _
  all_goals
    refine .bind first.value fun x => .bind second.value fun y => ?_
    split <;> exact .pure _

theorem membership_blind {item container : Meaning} (first : item.Blind)
    (second : container.Blind) (negated : Bool) : Blind (membership item container negated) := by
  refine .bind first.value.verbatim fun x => .bind second.value.verbatim fun inside => ?_
  dsimp only
  split
  case h_1 | h_2 | h_4 => exact .bind (.pure _) fun inside => .pure _
  case h_3 | h_5 | h_6 => exact .bind (.throw _) fun inside => .pure _

theorem testTruth_blind (path : String) (negated : Bool) (name : String) {args : List Meaning}
    (blind : ∀ arg ∈ args, arg.Blind) : Blind (testTruth path negated name args) := by
  unfold testTruth
  split
  · exact .throw _
  · refine .bind (.because _ (evalList_blind args blind).verbatim) fun args => ?_
    refine .bind (.rescue (.bind (.lookup path) fun v => .pure _) (.pure _)) fun found => ?_
    exact .bind (.because _ (.settle _)) fun holds => .pure _

end Readings

section Terms

theorem mem_of_mem_lastOfEach {α : Type} {entry : String × α} :
    ∀ {entries : List (String × α)}, entry ∈ lastOfEach entries → entry ∈ entries
  | [], member => member
  | (name, value) :: others, member => by
    unfold lastOfEach at member
    split at member
    · exact List.mem_cons_of_mem _ (mem_of_mem_lastOfEach member)
    · rcases List.mem_cons.mp member with rfl | later
      · exact List.mem_cons_self
      · exact List.mem_cons_of_mem _ (mem_of_mem_lastOfEach later)

theorem bindParameters_blind (name : String) {args : List (String × Meaning)}
    (blind : ∀ arg ∈ args, arg.2.Blind) :
    ∀ params, Blind (bindParameters name args params)
  | [] => .pure _
  | (param, default) :: others => by
    have rest := bindParameters_blind name blind others
    unfold bindParameters
    split
    case h_1 arg named =>
      have given := blind _ (List.mem_of_find?_eq_some named)
      exact .bind given.value.verbatim fun v => .bind rest fun bindings => .pure _
    case h_2 => exact .bind (.pure _) fun v => .bind rest fun bindings => .pure _
    case h_3 => exact .bind (.throw _) fun v => .bind rest fun bindings => .pure _

theorem within_blind (frame : Frame) {body : Eval String} (blind : Blind body) :
    Blind (within frame body) :=
  .bind (.modify _) fun _ => .bind blind fun _ => .bind (.modify _) fun _ => .pure _

def Scene.definition? (scene : Scene) (space name : String) : Option Definition :=
  if space == "self" && !scene.definitions.isEmpty then
    scene.definitions.find? (·.name == name)
  else none

theorem outcome_findDefinition (scene : Scene) (frames : List Frame) (space name : String) :
    outcome (findDefinition space name) scene frames = (scene.definition? space name, frames) := by
  have reading : outcome (read : Eval Scene) scene frames = (some scene, frames) := rfl
  rw [findDefinition, outcome_bind, reading]
  dsimp only
  rw [Scene.definition?]
  split
  · cases scene.definitions.find? (·.name == name) <;> rfl
  · rfl

def Again.Blind (again : List Node → Eval String) : Prop :=
  ∀ nodes, refersAny nodes = false → Eval.Blind (again nodes)

variable {again : List Node → Eval String}

theorem expansion_blind (elsewhere : Again.Blind again) (space name : String)
    {args : List (String × Meaning)} (blind : ∀ arg ∈ args, arg.2.Blind) :
    Blind (expansion again space name args) := by
  -- The rule for `bind` would forget that the macro is one of the scene.
  intro scene alone other frames
  rw [expansion, outcome_bind, outcome_bind, outcome_findDefinition, outcome_findDefinition]
  have same : (scene.renamed other).definition? space name = scene.definition? space name := rfl
  rw [same]
  cases found : scene.definition? space name with
  | none => rfl
  | some definition =>
    have member : definition ∈ scene.definitions := by
      unfold Scene.definition? at found
      split at found
      · exact List.mem_of_find?_eq_some found
      · simp at found
    have body := elsewhere definition.body (alone.definitions definition member)
    have bound := bindParameters_blind name blind definition.params
    have expanded := Blind.bind bound fun bindings =>
      within_blind ⟨.expansion space name, bindings⟩ body
    exact expanded scene alone other frames

theorem boolSense_blind {truth : Eval Verdict} {number : Eval (Option Number)}
    (holds : Blind truth) (counts : Blind number) : (boolSense truth number).Blind :=
  ⟨.bind holds fun _ => .pure _, holds, counts⟩

theorem meaningOf_blind (term : Term) {sense : Sense} (blind : sense.Blind) (negated : Bool)
    {filters : List Application} (filtered : ∀ a ∈ filters, a.Blind) :
    (meaningOf term sense negated filters).Blind := by
  have finished := fun base => finish_blind negated base filtered
  have truth := Blind.bind blind.truth fun verdict =>
    Blind.pure (verdict.holds != (negated && !verdict.final))
  have value : Blind (meaningOf term sense negated filters).value := by
    unfold meaningOf
    dsimp only
    split
    · exact pathValue_blind _ negated filtered
    · exact .bind truth fun v => finished _
    · exact .bind truth fun v => finished _
    · exact .bind truth fun v => finished _
    · exact .bind blind.value fun base => finished base
  refine ⟨value, ?_, ?_⟩
  · unfold meaningOf
    dsimp only
    split
    · exact .bind (.rescue value (.pure _)) fun v => .pure _
    · exact .bind value fun v => .pure _
    · exact truth
  · unfold meaningOf
    dsimp only
    split
    · exact blind.number
    · refine .bind value fun v => ?_
      split
      · exact .pure _
      · exact .throw _

mutual

theorem sense_blind (elsewhere : Again.Blind again) : ∀ term : Term, (term.sense again).Blind
  | .text _ => ⟨.pure _, .pure _, .throw _⟩
  | .int _ | .float _ => ⟨.pure _, numberTruth_blind (.pure _), .pure _⟩
  | .bool _ => ⟨.pure _, .pure _, .throw _⟩
  | .path p =>
    ⟨.bind (.lookup p) fun _ => .pure _, .bind (.lookup p) fun _ => .pure _, pathNumber_blind p⟩
  | .math op left right =>
    have number := mathNumber_blind op _ (meaning_blind elsewhere left)
      (meaning_blind elsewhere right)
    ⟨mathValue_blind number, numberTruth_blind number, number⟩
  | .compare op left right =>
    boolSense_blind (compareTruth_blind op (meaning_blind elsewhere left)
      (meaning_blind elsewhere right)) (.throw _)
  | .both left right => by
    have first := meaning_blind elsewhere left
    have second := meaning_blind elsewhere right
    refine boolSense_blind (.bind first.truth fun holds => ?_) (.throw _)
    split
    · exact .bind second.truth fun _ => .pure _
    · exact .pure _
  | .either left right => by
    have first := meaning_blind elsewhere left
    have second := meaning_blind elsewhere right
    refine boolSense_blind (.bind first.truth fun holds => ?_) (.throw _)
    split
    · exact .pure _
    · exact .bind second.truth fun _ => .pure _
  | .among item container negated =>
    have holds := membership_blind (meaning_blind elsewhere item)
      (meaning_blind elsewhere container) negated
    boolSense_blind (.bind holds fun _ => .pure _) (.throw _)
  | .test path negated name args =>
    have holds := testTruth_blind path negated name (meanings_blind elsewhere args)
    boolSense_blind (.bind holds fun _ => .pure _) (.throw _)
  | .call call => by
    have blind := application_blind elsewhere call
    refine ⟨.bind (applyFunction_blind blind) fun _ => .pure _, ?_, callNumber_blind blind⟩
    refine .bind (applyFunction_blind blind) fun v => ?_
    split
    · exact .pure _
    · exact .throw _
  | .expand space name args =>
    have text := expansion_blind elsewhere space name fun arg member =>
      namedMeanings_blind elsewhere args arg (mem_of_mem_lastOfEach member)
    ⟨.bind text fun _ => .pure _, .bind text fun _ => .pure _, .throw _⟩
  | .list items =>
    have values := evalList_blind _ (meanings_blind elsewhere items)
    ⟨.bind values fun _ => .pure _, .pure _, .throw _⟩
  | .joined parts =>
    have text := joinParts_blind elsewhere parts
    ⟨.bind text fun _ => .pure _, .bind text fun _ => .pure _, .throw _⟩

theorem joinParts_blind (elsewhere : Again.Blind again) :
    ∀ parts : List Term, Blind (joinParts again parts)
  | [] => .pure _
  | part :: others => by
    have joined := fun text : String => Blind.bind (joinParts_blind elsewhere others) fun rest =>
      Blind.pure (text ++ rest)
    cases part with
    | path p =>
      refine .bind (.lookup p) fun v => ?_
      split
      · exact .bind (.pure _) joined
      · exact .bind (.throw _) joined
    | call call =>
      refine .bind (applyFunction_blind (application_blind elsewhere call)) fun v => ?_
      split
      · exact .bind (.pure _) joined
      · exact .bind (.throw _) joined
    | _ => exact .bind (.pure _) joined

theorem meaning_blind (elsewhere : Again.Blind again) : ∀ e : Expr, (e.meaning again).Blind
  | .mk term negated filters =>
    meaningOf_blind term (sense_blind elsewhere term) negated
      (applications_blind elsewhere filters)

theorem application_blind (elsewhere : Again.Blind again) :
    ∀ call : Call, (call.application again).Blind
  | .mk _ args => fun arg member =>
    namedMeanings_blind elsewhere args arg (mem_of_mem_lastOfEach member)

theorem meanings_blind (elsewhere : Again.Blind again) :
    ∀ es : List Expr, ∀ meaning ∈ meanings again es, meaning.Blind
  | [], _, member => absurd member List.not_mem_nil
  | e :: es, meaning, member => by
    rcases List.mem_cons.mp member with rfl | later
    · exact meaning_blind elsewhere e
    · exact meanings_blind elsewhere es meaning later

theorem namedMeanings_blind (elsewhere : Again.Blind again) :
    ∀ args : List (String × Expr), ∀ arg ∈ namedMeanings again args, arg.2.Blind
  | [], _, member => absurd member List.not_mem_nil
  | (name, e) :: args, arg, member => by
    rcases List.mem_cons.mp member with rfl | later
    · exact meaning_blind elsewhere e
    · exact namedMeanings_blind elsewhere args arg later

theorem applications_blind (elsewhere : Again.Blind again) :
    ∀ calls : List Call, ∀ a ∈ applications again calls, a.Blind
  | [], _, member => absurd member List.not_mem_nil
  | call :: calls, a, member => by
    rcases List.mem_cons.mp member with rfl | later
    · exact application_blind elsewhere call
    · exact applications_blind elsewhere calls a later

end

end Terms

end Stencil.Template
