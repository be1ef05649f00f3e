import Stencil.Proofs.Template.Meaning

namespace Stencil.Template

open Json (Value)
open Eval

section Loops

theorem currentSignal_blind : Blind currentSignal :=
  .bind .get fun _ => .pure _

theorem tellLoop_blind (word : String) (signal : Signal) : Blind (tellLoop word signal) := by
  refine .bind .get fun frames => ?_
  split
  · exact .set _
  · exact .throw _

theorem advance_blind (items : List (String × Value)) : Blind (advance items) := by
  refine .bind .get fun frames => ?_
  split
  · exact .set _
  · exact .throw _

theorem renderItems_blind {body : Eval String} (blind : Blind body) :
    ∀ items, Blind (renderItems body items)
  | [] => by
    refine .bind blind fun text => .bind currentSignal_blind fun signal => ?_
    split
    · exact .pure _
    · exact .bind (advance_blind []) fun _ => .pure _
  | item :: others => by
    refine .bind blind fun text => .bind currentSignal_blind fun signal => ?_
    split
    · exact .pure _
    · exact .bind (advance_blind (item :: others)) fun _ =>
        .bind (renderItems_blind blind others) fun _ => .pure _

theorem renderLoop_blind (key : Option String) (item : String) (container : Term)
    {value : Eval Value} {body otherwise : Eval String} (contained : Blind value)
    (looped : Blind body) (unlooped : Blind otherwise) :
    Blind (renderLoop key item container value body otherwise) := by
  unfold renderLoop
  split
  · exact .throw _
  · refine .bind contained.verbatim fun v => .bind (.settle _) fun items => ?_
    split
    · exact unlooped
    · exact within_blind _ (renderItems_blind looped _)

end Loops

section Nodes

variable {again : List Node → Eval String}

/-- A block is rendered as the scene has it, which is in full what the node itself holds unless a
block of the same name stands further out. -/
theorem renderBlock_blind (elsewhere : Again.Blind again) (name : String) {here : Eval String}
    (blind : Blind here) :
    Blind (do
      match (← read).blocks.lookup name with
      | some body => again body
      | none => here) := by
  refine .read fun scene alone other frames => ?_
  have same : (scene.renamed other).blocks = scene.blocks := rfl
  rw [same]
  cases found : scene.blocks.lookup name with
  | none => exact blind scene alone other frames
  | some body =>
    obtain ⟨before, after, split, -⟩ := List.lookup_eq_some_iff.mp found
    have member : (name, body) ∈ scene.blocks := by simp [split]
    exact elsewhere body (alone.blocks _ member) scene alone other frames

mutual

theorem renderNode_blind (elsewhere : Again.Blind again) :
    ∀ node : Node, node.refers = false → Blind (renderNode again node)
  | .text _, _ | .raw _ _ _, _ | .comment _, _ | .define _ _ _ _ _, _ => .pure _
  | .extend _ _, alone | .load _ _ _, alone | .include _ _ _, alone => by
    simp [Node.refers] at alone
  | .print _ e, _ => .bind (meaning_blind elsewhere e).value fun _ => .pure _
  | .assign _ name e everywhere, _ =>
    .bind (meaning_blind elsewhere e).value.verbatim fun _ => .bind (.modify _) fun _ => .pure _
  | .branch arms otherwise _, alone => by
    obtain ⟨inArms, inFinal⟩ := Bool.or_eq_false_iff.mp alone
    exact renderArms_blind elsewhere arms inArms (renderFinal_blind elsewhere otherwise inFinal)
  | .loop _ key item container body otherwise _ _, alone => by
    obtain ⟨inBodies, -⟩ := Bool.or_eq_false_iff.mp alone
    obtain ⟨inBody, inOtherwise⟩ := Bool.or_eq_false_iff.mp inBodies
    exact renderLoop_blind key item container.term (meaning_blind elsewhere container).value
      (renderNodes_blind elsewhere body inBody)
      (renderUnlooped_blind elsewhere otherwise inOtherwise)
  | .quit _, _ | .next _, _ => .bind (tellLoop_blind _ _) fun _ => .pure _
  | .section _ filter body _, alone => by
    refine .bind (renderNodes_blind elsewhere body alone) fun text => ?_
    split
    · exact .pure _
    · exact .bind (applyFilter_blind _ (application_blind elsewhere filter)) fun _ => .pure _
  | .block _ name body _, alone =>
    renderBlock_blind elsewhere name (renderNodes_blind elsewhere body alone)
  | .inherited, _ => .throw _

theorem renderNodes_blind (elsewhere : Again.Blind again) :
    ∀ nodes : List Node, refersAny nodes = false → Blind (renderNodes again nodes)
  | [], _ => .pure _
  | node :: nodes, alone => by
    obtain ⟨here, later⟩ := Bool.or_eq_false_iff.mp alone
    refine .bind (renderNode_blind elsewhere node here) fun text =>
      .bind currentSignal_blind fun signal => ?_
    split
    · exact .bind (renderNodes_blind elsewhere nodes later) fun _ => .pure _
    · exact .pure _

theorem renderArms_blind (elsewhere : Again.Blind again) {otherwise : Eval String} :
    ∀ arms : List Arm, armsRefer arms = false → Blind otherwise →
      Blind (renderArms again arms otherwise)
  | [], _, final => final
  | .mk _ condition body :: arms, alone, final => by
    obtain ⟨here, later⟩ := Bool.or_eq_false_iff.mp alone
    refine .bind (meaning_blind elsewhere condition).truth fun holds => ?_
    split
    · exact renderNodes_blind elsewhere body here
    · exact renderArms_blind elsewhere arms later final

theorem renderFinal_blind (elsewhere : Again.Blind again) :
    ∀ final : Option Final, finalRefers final = false → Blind (renderFinal again final)
  | none, _ => .pure _
  | some (.mk _ body), alone => renderNodes_blind elsewhere body alone

theorem renderUnlooped_blind (elsewhere : Again.Blind again) :
    ∀ otherwise : Option (List Node), unloopedRefers otherwise = false →
      Blind (renderUnlooped again otherwise)
  | none, _ => .pure _
  | some body, alone => renderNodes_blind elsewhere body alone

end

theorem renderAt_blind : ∀ depth, Again.Blind (renderAt depth)
  | 0, _, _ => .throw _
  | depth + 1, nodes, alone => renderNodes_blind (renderAt_blind depth) nodes alone

end Nodes

section Names

theorem Compiled.escapes_eq (t : Compiled) : t.escapes = t.escaping := by
  -- Every name ends with the empty suffix, so it has no say.
  cases escaping : t.escaping <;>
    simp [Compiled.escapes, Compiled.suffixes, escaping, Text.endsWith, List.isSuffixOf]

variable {source : String}

theorem compile_rename (escaping : Bool) (alone : SelfContained source) (m n : String) :
    compile escaping n source =
      (compile escaping m source).map fun t => { t with name := n } := by
  unfold compile
  cases read : readTemplate? source with
  | none => rfl
  | some nodes =>
    dsimp only
    cases firstOutOfBounds? nodes with
    | some literal => rfl
    | none =>
      have trimmed : refersAny (trimNodes nodes) = false := by
        rw [refersAny_trimNodes]
        exact alone nodes read
      dsimp only
      rw [defect?_rename trimmed n m]
      cases defect? m (trimNodes nodes) <;> rfl

theorem refersAny_of_compile {escaping : Bool} {name : String} {t : Compiled}
    (alone : SelfContained source) (compiled : compile escaping name source = .ok t) :
    refersAny t.nodes = false := by
  obtain ⟨nodes, read, -, -, rfl⟩ := of_compile_ok compiled
  rw [refersAny_trimNodes]
  exact alone nodes read

theorem scene_escaping {e : Engine} {name : String} {t : Compiled}
    (compiled : compile e.escaping name source = .ok t) (context : Context) :
    (t.scene context).escaping = e.escaping := by
  obtain ⟨nodes, -, -, -, rfl⟩ := of_compile_ok compiled
  exact Compiled.escapes_eq _

theorem render_ok_iff (t : Compiled) (context : Context) (text : String) :
    t.render context = .ok text ↔
      (outcome (renderAt nestingBound t.nodes) (t.scene context) [⟨.page, []⟩]).1 = some text := by
  have nodes : (t.scene context).nodes = t.nodes := rfl
  simp only [Compiled.render, Scene.render, nodes, outcome]
  rcases ((renderAt nestingBound t.nodes).run (t.scene context)).run.run [⟨.page, []⟩] with
    ⟨_ | _, frames⟩ <;> simp

theorem render_error {t : Compiled} {context : Context} {f : Failure}
    (failed : t.render context = .error f) : ∃ report, f = .unrenderable t.name report := by
  unfold Compiled.render at failed
  split at failed
  · simp at failed
  · exact ⟨_, (Except.error.inj failed).symm⟩

theorem scene_selfContained {t : Compiled} (alone : refersAny t.nodes = false)
    (context : Context) : (t.scene context).SelfContained :=
  ⟨refersAny_of_mem_blocksOf t.nodes alone,
    fun _ member => refersAny_of_mem_definitionsOf alone member⟩

theorem render_rename {t : Compiled} (alone : refersAny t.nodes = false) (name : String)
    (context : Context) (text : String) :
    ({ t with name := name } : Compiled).render context = .ok text ↔
      t.render context = .ok text := by
  -- The name is in the scene, and by `escapes` it might be in what is escaped.
  have scene : ({ t with name := name } : Compiled).scene context =
      (t.scene context).renamed name := by
    simp [Compiled.scene, Compiled.escapes_eq, Scene.renamed]
  have blind := renderAt_blind nestingBound t.nodes alone (t.scene context)
    (scene_selfContained alone context) name [⟨.page, []⟩]
  rw [render_ok_iff, render_ok_iff, scene, blind]

/-- The name of a template never shows in the text. Two names of a self-contained source compile
alike and render alike; what they may differ in is the name in a failure and its wording. -/
theorem text_blind_to_name (e : Engine) (alone : SelfContained source) (context : Context)
    (m n : String) :
    ((∃ t, e.compile m source = .ok t) ↔ ∃ u, e.compile n source = .ok u) ∧
    (∀ f g, e.compile m source = .error f → e.compile n source = .error g →
      ∃ d : Defect, f = .malformed m (d.report m) ∧ g = .malformed n (d.report n)) ∧
    ∀ t u, e.compile m source = .ok t → e.compile n source = .ok u →
      (∀ text, t.render context = .ok text ↔ u.render context = .ok text) ∧
      (∀ f g, t.render context = .error f → u.render context = .error g →
        ∃ report other, f = .unrenderable m report ∧ g = .unrenderable n other) ∧
      (t.scene context).escaping = e.escaping ∧ (u.scene context).escaping = e.escaping := by
  have renamed := compile_rename e.escaping alone m n
  refine ⟨?_, fun f g fails failsToo => ?_, fun t u compiles compilesToo => ?_⟩
  · unfold Engine.compile
    rw [renamed]
    cases compile e.escaping m source <;> simp [Except.map]
  · obtain ⟨d, here, rfl⟩ := Engine.of_compile_error fails
    obtain ⟨c, there, rfl⟩ := Engine.of_compile_error failsToo
    rw [here, there] at renamed
    cases Except.error.inj renamed
    exact ⟨d, rfl, rfl⟩
  · have here := Engine.of_compile_ok compiles
    have there := Engine.of_compile_ok compilesToo
    have named := compile_name here
    have silent := refersAny_of_compile alone here
    have escaping := scene_escaping here context
    have escapingToo := scene_escaping there context
    rw [here, there] at renamed
    cases Except.ok.inj renamed
    subst named
    refine ⟨fun text => (render_rename silent n context text).symm,
      fun f g fails failsToo => ?_, escaping, escapingToo⟩
    obtain ⟨report, told⟩ := render_error fails
    obtain ⟨other, toldToo⟩ := render_error failsToo
    exact ⟨report, other, told, toldToo⟩

def boldNames : String :=
  "\x7b% for who in names %\x7d<b>\x7b\x7b who \x7d\x7d</b>\x7b% endfor %\x7d"

def twoNames : Context :=
  Context.empty.insert "names" (.array [.string "R&D", .string "ops"])

theorem boldNames_text_nameless :
    SelfContained boldNames ∧
    ∃ t u, (⟨true⟩ : Engine).compile "names.html" boldNames = .ok t ∧
      (⟨true⟩ : Engine).compile "" boldNames = .ok u ∧
      t.render twoNames = .ok "<b>R&amp;D</b><b>ops</b>" ∧
      u.render twoNames = .ok "<b>R&amp;D</b><b>ops</b>" := by
  have alone : SelfContained boldNames := by decide +kernel
  have shown : ((⟨true⟩ : Engine).compile "names.html" boldNames).toOption.bind
      (fun t => (t.render twoNames).toOption) = some "<b>R&amp;D</b><b>ops</b>" := by
    decide +kernel
  obtain ⟨parses, -, same⟩ := text_blind_to_name ⟨true⟩ alone twoNames "names.html" ""
  cases compiles : (⟨true⟩ : Engine).compile "names.html" boldNames with
  | error _ => simp [compiles, Except.toOption] at shown
  | ok t =>
    obtain ⟨u, compilesToo⟩ := parses.mp ⟨t, compiles⟩
    have renders : t.render twoNames = .ok "<b>R&amp;D</b><b>ops</b>" := by
      cases rendered : t.render twoNames <;>
        simp [compiles, rendered, Except.toOption] at shown
      rw [shown]
    have rendersToo := ((same t u compiles compilesToo).1 _).mp renders
    exact ⟨alone, t, u, rfl, compilesToo, renders, rendersToo⟩

end Names

end Stencil.Template
