import Stencil.Proofs.Template.Compile

namespace Stencil.Template

mutual

def Node.refers : Node → Bool
  | .include _ _ _ | .extend _ _ | .load _ _ _ => true
  | .branch arms otherwise _ => armsRefer arms || finalRefers otherwise
  | .loop _ _ _ _ body otherwise unused _ =>
    refersAny body || unloopedRefers otherwise || refersAny unused
  | .section _ _ body _ | .block _ _ body _ | .define _ _ _ body _ => refersAny body
  | .text _ | .print _ _ | .comment _ | .assign _ _ _ _ | .raw _ _ _ | .quit _ | .next _
  | .inherited => false

def refersAny : List Node → Bool
  | [] => false
  | node :: nodes => node.refers || refersAny nodes

def armsRefer : List Arm → Bool
  | [] => false
  | .mk _ _ body :: arms => refersAny body || armsRefer arms

def finalRefers : Option Final → Bool
  | none => false
  | some (.mk _ body) => refersAny body

def unloopedRefers : Option (List Node) → Bool
  | none => false
  | some body => refersAny body

end

/-- The source is no template, or one without a tag that names another. -/
def SelfContained (source : String) : Prop :=
  ∀ nodes ∈ readTemplate? source, refersAny nodes = false

instance (source : String) : Decidable (SelfContained source) :=
  inferInstanceAs (Decidable (∀ nodes ∈ readTemplate? source, refersAny nodes = false))

theorem refersAny_eq_any (nodes : List Node) : refersAny nodes = nodes.any Node.refers := by
  induction nodes with
  | nil => rfl
  | cons node nodes ih => simp [refersAny, ih]

theorem refersAny_append (nodes others : List Node) :
    refersAny (nodes ++ others) = (refersAny nodes || refersAny others) := by
  simp [refersAny_eq_any]

theorem refersAny_reverse (nodes : List Node) : refersAny nodes.reverse = refersAny nodes := by
  simp [refersAny_eq_any]

def Arm.body : Arm → List Node
  | .mk _ _ body => body

theorem armsRefer_eq_any (arms : List Arm) :
    armsRefer arms = arms.any fun arm => refersAny arm.body := by
  induction arms with
  | nil => rfl
  | cons arm arms ih =>
    obtain ⟨trim, condition, body⟩ := arm
    simp [armsRefer, Arm.body, ih]

section Trimming

theorem refersAny_textNode (s : String) : refersAny (textNode s) = false := by
  unfold textNode
  split <;> rfl

theorem refersAny_trimLast (nodes : List Node) : refersAny (trimLast nodes) = refersAny nodes := by
  unfold trimLast
  split
  · simp [refersAny_append, refersAny_textNode, refersAny, Node.refers]
  · rfl

theorem refersAny_trimBodyEnd (nodes : List Node) :
    refersAny (trimBodyEnd nodes) = refersAny nodes := by
  rw [trimBodyEnd, refersAny_reverse, refersAny_trimLast, refersAny_reverse]

theorem refersAny_trimEnd (arm : Arm) : refersAny arm.trimEnd.body = refersAny arm.body := by
  cases arm
  exact refersAny_trimBodyEnd _

theorem armsRefer_trimLastArm (arms : List Arm) :
    armsRefer (trimLastArm arms) = armsRefer arms := by
  have turned : armsRefer arms = armsRefer arms.reverse := by simp [armsRefer_eq_any]
  rw [turned, trimLastArm]
  cases arms.reverse with
  | nil => rfl
  | cons arm others => simp [armsRefer_eq_any, refersAny_trimEnd, Bool.or_comm]

theorem armsRefer_joinArms (arms : List Arm) : armsRefer (joinArms arms) = armsRefer arms := by
  fun_induction joinArms arms with
  | case1 => rfl
  | case2 => rfl
  | case3 first trim condition body others ih =>
    have joined := ih
    simp only [armsRefer_eq_any, List.any_cons] at joined ⊢
    rw [joined]
    split
    · rw [refersAny_trimEnd]
    · rfl

theorem refersAny_start (trimNext : Bool) : refersAny (Trimmed.start trimNext).reversed = false :=
  rfl

theorem refersAny_addText (t : Trimmed) (s : String) :
    refersAny (t.addText s).reversed = refersAny t.reversed := by
  simp only [Trimmed.addText, refersAny_append]
  split <;> simp [refersAny_textNode, refersAny, Node.refers]

theorem refersAny_addNode (t : Trimmed) (left right : Bool) (node : Node) :
    refersAny (t.addNode left right node).reversed = (node.refers || refersAny t.reversed) := by
  simp only [Trimmed.addNode, refersAny]
  split
  · rw [refersAny_trimLast]
  · rfl

theorem refersAny_finish (t : Trimmed) (trimEnd : Bool) :
    refersAny (t.finish trimEnd) = refersAny t.reversed := by
  rw [Trimmed.finish, refersAny_reverse]
  split
  · rw [refersAny_trimLast]
  · rfl

mutual

theorem refersAny_trimFrom (t : Trimmed) (trimEnd : Bool) :
    ∀ nodes, refersAny (trimFrom t trimEnd nodes) = (refersAny t.reversed || refersAny nodes)
  | [] => by simp [trimFrom, refersAny_finish, refersAny]
  | node :: nodes => by
    have inside := refers_trimInside node
    have rest := fun t => refersAny_trimFrom t trimEnd nodes
    cases node <;>
      simp [trimFrom, rest, refersAny_addText, refersAny_addNode, inside, refersAny, Node.refers,
        Bool.or_left_comm, Bool.or_assoc]

theorem refers_trimInside : ∀ node : Node, node.trimInside.refers = node.refers
  | .branch arms none closing => by
    have trimmed := armsRefer_trimArms arms
    simp only [Node.trimInside, Node.refers]
    split <;> simp [armsRefer_trimLastArm, armsRefer_joinArms, trimmed]
  | .branch arms (some (.mk trim body)) closing => by
    have trimmed := armsRefer_trimArms arms
    have last := refersAny_trimFrom (.start trim.right) closing.left body
    simp only [Node.trimInside, Node.refers, finalRefers]
    split <;> simp [armsRefer_trimLastArm, armsRefer_joinArms, trimmed, last, refersAny_start]
  | .loop opening key item container body otherwise unused closing => by
    simp [Node.trimInside, Node.refers, refersAny_trimFrom _ _ body, refersAny_start]
  | .section opening filter body closing => by
    simp [Node.trimInside, Node.refers, refersAny_trimFrom _ _ body, refersAny_start]
  | .block opening name body closing => by
    simp [Node.trimInside, Node.refers, refersAny_trimFrom _ _ body, refersAny_start]
  | .define opening name params body closing => by
    simp [Node.trimInside, Node.refers, refersAny_trimFrom _ _ body, refersAny_start]
  | .raw _ _ _ => rfl
  | .text _ | .print _ _ | .comment _ | .assign _ _ _ _ | .include _ _ _ | .quit _ | .next _
  | .inherited | .extend _ _ | .load _ _ _ => rfl

theorem armsRefer_trimArms : ∀ arms, armsRefer (trimArms arms) = armsRefer arms
  | [] => rfl
  | .mk trim condition body :: arms => by
    simp [trimArms, armsRefer, refersAny_trimFrom _ _ body, armsRefer_trimArms arms,
      refersAny_start]

end

theorem refersAny_trimNodes (nodes : List Node) :
    refersAny (trimNodes nodes) = refersAny nodes := by
  simp [trimNodes, refersAny_trimFrom, refersAny_start]

end Trimming

section Bodies

mutual

theorem refersAny_of_mem_blocks : ∀ node : Node, node.refers = false →
    ∀ block ∈ node.blocks, refersAny block.2 = false
  | .block _ name body _, alone, block, member => by
    rcases List.mem_cons.mp member with rfl | inside
    · exact alone
    · exact refersAny_of_mem_blocksOf body alone block inside
  | .text _, _, _, member | .print _ _, _, _, member | .comment _, _, _, member
  | .assign _ _ _ _, _, _, member | .include _ _ _, _, _, member | .raw _ _ _, _, _, member
  | .branch _ _ _, _, _, member | .loop _ _ _ _ _ _ _ _, _, _, member | .quit _, _, _, member
  | .next _, _, _, member | .section _ _ _ _, _, _, member | .inherited, _, _, member
  | .define _ _ _ _ _, _, _, member | .extend _ _, _, _, member | .load _ _ _, _, _, member => by
    simp [Node.blocks] at member

theorem refersAny_of_mem_blocksOf : ∀ nodes, refersAny nodes = false →
    ∀ block ∈ blocksOf nodes, refersAny block.2 = false
  | [], _, _, member => by simp [blocksOf] at member
  | node :: nodes, alone, block, member => by
    obtain ⟨here, later⟩ := Bool.or_eq_false_iff.mp alone
    rcases List.mem_append.mp member with inside | inside
    · exact refersAny_of_mem_blocks node here block inside
    · exact refersAny_of_mem_blocksOf nodes later block inside

end

theorem refers_of_mem {nodes : List Node} (alone : refersAny nodes = false) {node : Node}
    (member : node ∈ nodes) : node.refers = false := by
  rw [refersAny_eq_any] at alone
  simpa using List.any_eq_false.mp alone node member

theorem refersAny_of_mem_definitionsOf {nodes : List Node} (alone : refersAny nodes = false)
    {definition : Definition} (member : definition ∈ definitionsOf nodes) :
    refersAny definition.body = false := by
  obtain ⟨node, inside, defines⟩ := List.mem_filterMap.mp member
  have nothing := refers_of_mem alone inside
  cases node <;> simp at defines
  subst defines
  exact nothing

theorem parentOf?_eq_none {nodes : List Node} (alone : refersAny nodes = false) :
    parentOf? nodes = none := by
  refine List.findSome?_eq_none_iff.mpr fun node member => ?_
  have nothing := refers_of_mem alone member
  cases node <;> simp [Node.refers] at nothing ⊢

theorem loadsOf_eq_nil {nodes : List Node} (alone : refersAny nodes = false) :
    loadsOf nodes = [] := by
  refine List.filterMap_eq_nil_iff.mpr fun node member => ?_
  have nothing := refers_of_mem alone member
  cases node <;> simp [Node.refers] at nothing ⊢

theorem defect?_rename {nodes : List Node} (alone : refersAny nodes = false) (m n : String) :
    defect? m nodes = defect? n nodes := by
  simp only [defect?, parentOf?_eq_none alone, loadsOf_eq_nil alone]
  cases firstRepeated? [] ((blocksOf nodes).map (·.1)) <;>
    cases firstRepeated? [] ((definitionsOf nodes).map (·.name)) <;> rfl

end Bodies

end Stencil.Template
