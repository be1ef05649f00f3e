import Stencil.Proofs.Template.Compile
import Stencil.Proofs.Template.Naming
import Stencil.Proofs.Template.SelfContained
import Stencil.Proofs.Text.Infix

namespace Stencil.Template

inductive Part where
  | text (value : String)
  | blank (name : String)
  deriving DecidableEq, Repr

/-- Texts with blanks between them. A blank is a tag that holds a name and nothing else. -/
abbrev Form := List Part

/-- No tag and no comment begins in the text if `next` follows it. -/
def Literal (text next : List Char) : Prop :=
  ∀ c ∈ ['\x7b', '%', '#'], ¬['\x7b', c] <:+: text ++ next.take 1

instance (text next : List Char) : Decidable (Literal text next) :=
  decidable_of_iff
    (['\x7b', '%', '#'].all (fun c => !Text.hasInfix ['\x7b', c] (text ++ next.take 1)) = true)
    (by simp [Literal, ← Text.hasInfix_iff])

def reserved : List String :=
  ["true", "false", "True", "False", "and", "or", "not", "in", "is", "as", "__tera_context"]

structure IsPlain (name : String) : Prop where
  identifier : IsIdentifier name.toList
  unreserved : name ∉ reserved

instance (name : String) : Decidable (IsPlain name) :=
  decidable_of_iff (IsIdentifier name.toList ∧ name ∉ reserved)
    ⟨fun ⟨identifier, unreserved⟩ => ⟨identifier, unreserved⟩,
      fun plain => ⟨plain.identifier, plain.unreserved⟩⟩

namespace Form

def written : Form → List Char
  | [] => []
  | .text s :: form => s.toList ++ written form
  | .blank name :: form => '\x7b' :: '\x7b' :: (name.toList ++ '}' :: '}' :: written form)

def source (form : Form) : String :=
  String.ofList form.written

def blanks (form : Form) : List String :=
  form.filterMap fun
    | .text _ => none
    | .blank name => some name

/-- Its texts are literal where they stand. -/
def Unbroken : Form → Prop
  | [] => True
  | .text s :: form => Literal s.toList (written form) ∧ Unbroken form
  | .blank _ :: form => Unbroken form

instance decidableUnbroken : (form : Form) → Decidable form.Unbroken
  | [] => isTrue trivial
  | .text s :: form =>
    have := decidableUnbroken form
    inferInstanceAs (Decidable (Literal s.toList (written form) ∧ Unbroken form))
  | .blank _ :: form => decidableUnbroken form

end Form

theorem atTag_iff {c : Char} {cs : List Char} :
    atTag (c :: cs) = true ↔ ∃ mark ∈ ['\x7b', '%', '#'], ['\x7b', mark] <+: c :: cs := by
  by_cases brace : c = '\x7b'
  · subst brace
    cases cs with
    | nil => simp [atTag]
    | cons d cs => simp [atTag, or_assoc, @eq_comm _ d]
  · have free : atTag (c :: cs) = false := by
      unfold atTag
      split
      · rename_i same
        exact absurd (List.cons.inj same).1 brace
      · rfl
    simp [free, Ne.symm brace]

theorem literal_nil (next : List Char) : Literal [] next := by
  intro c _ inside
  have short := inside.length_le
  cases next <;> simp at short

theorem literal_cons {c : Char} {cs next : List Char} :
    Literal (c :: cs) next ↔ atTag (c :: (cs ++ next)) = false ∧ Literal cs next := by
  have near : ∀ mark, ['\x7b', mark] <+: c :: (cs ++ next.take 1) ↔
      ['\x7b', mark] <+: c :: (cs ++ next) := by
    intro mark
    cases cs <;> cases next <;> simp
  rw [← Bool.not_eq_true, atTag_iff]
  simp only [Literal, List.cons_append, List.infix_cons_iff, near, not_or, not_exists, not_and,
    forall_and]

theorem literal_append {first second next : List Char} :
    Literal (first ++ second) next ↔ Literal first (second ++ next) ∧ Literal second next := by
  induction first with
  | nil => simp [literal_nil]
  | cons c cs ih =>
    rw [List.cons_append, literal_cons, literal_cons, ih, List.append_assoc, and_assoc]

theorem literal_of_braceless {text : List Char} (braceless : ∀ c ∈ text, c ≠ '\x7b')
    (next : List Char) : Literal text next := by
  induction text with
  | nil => exact literal_nil next
  | cons c cs ih =>
    obtain ⟨first, rest⟩ := List.forall_mem_cons.mp braceless
    refine literal_cons.mpr ⟨?_, ih rest⟩
    rw [← Bool.not_eq_true, atTag_iff]
    rintro ⟨mark, -, begins⟩
    exact first (List.cons_prefix_cons.mp begins).1.symm

theorem takeText_literal {text next : List Char} (literal : Literal text next) :
    takeText (text ++ next) = (text ++ (takeText next).1, (takeText next).2) := by
  induction text with
  | nil => rfl
  | cons c cs ih =>
    obtain ⟨here, later⟩ := literal_cons.mp literal
    simp [takeText, here, ih later]

theorem readText?_literal {c : Char} {cs next : List Char} (literal : Literal (c :: cs) next)
    (ends : takeText next = ([], next)) :
    readText? (c :: (cs ++ next)) = some (.text (String.ofList (c :: cs)), next) := by
  have text := takeText_literal literal
  rw [List.cons_append, ends, List.append_nil] at text
  simp [readText?, text]

theorem readPrint?_eq_none {c : Char} {cs : List Char} (untagged : atTag (c :: cs) = false) :
    readPrint? (c :: cs) = none := by
  have closed : readPrintStart? (c :: cs) = none := by
    refine readOneOf?_eq_none fun word member begins => ?_
    have opens : ∀ word ∈ (opening "\x7b\x7b-" "\x7b\x7b").map Prod.fst,
        ['\x7b', '\x7b'] <+: word.toList := by decide
    have tag := atTag_iff.mpr ⟨'\x7b', List.mem_cons_self, (opens word member).trans begins⟩
    rw [untagged] at tag
    cases tag
  simp [readPrint?, closed]

theorem readFirst?_cons {α : Type} (reader : List Char → Option (α × List Char))
    (readers : List (List Char → Option (α × List Char))) (cs : List Char) :
    readFirst? (reader :: readers) cs = (reader cs).or (readFirst? readers cs) := by
  cases read : reader cs <;> simp [readFirst?, read]

def Untagged (cs : List Char) : Prop :=
  ∀ mark ∈ ['%', '#'], ¬['\x7b', mark] <:+: cs

section Untagged

variable {cs : List Char}

theorem untagged_cons {c : Char} :
    Untagged (c :: cs) ↔ (∀ mark ∈ ['%', '#'], ¬['\x7b', mark] <+: c :: cs) ∧ Untagged cs := by
  simp only [Untagged, List.infix_cons_iff, not_or, forall_and]

theorem Untagged.cons {c : Char} (untagged : Untagged cs) (braceless : c ≠ '\x7b') :
    Untagged (c :: cs) := by
  refine untagged_cons.mpr ⟨fun mark _ begins => ?_, untagged⟩
  exact braceless (List.cons_prefix_cons.mp begins).1.symm

theorem Untagged.of_suffix {part : List Char} (untagged : Untagged cs) (suffix : part <:+ cs) :
    Untagged part :=
  fun mark member inside => untagged mark member (inside.trans suffix.isInfix)

theorem Untagged.append {text : List Char} (untagged : Untagged cs) (literal : Literal text cs) :
    Untagged (text ++ cs) := by
  induction text with
  | nil => exact untagged
  | cons c text ih =>
    obtain ⟨here, later⟩ := literal_cons.mp literal
    refine untagged_cons.mpr ⟨fun mark member begins => ?_, ih later⟩
    have tag : atTag (c :: (text ++ cs)) = true :=
      atTag_iff.mpr ⟨mark, List.mem_cons_of_mem _ member, begins⟩
    rw [here] at tag
    cases tag

theorem Untagged.blank {name : List Char} (untagged : Untagged cs)
    (identifier : IsIdentifier name) : Untagged ('\x7b' :: '\x7b' :: (name ++ '}' :: '}' :: cs)) := by
  have closing : Untagged ('}' :: '}' :: cs) := (untagged.cons (by decide)).cons (by decide)
  have named : Untagged (name ++ '}' :: '}' :: cs) :=
    closing.append (literal_of_braceless
      (fun c member => ne_of_isNameChar (identifier.named c member) rfl) _)
  -- After the first brace another one stands, and after the second a name or its end.
  refine untagged_cons.mpr ⟨fun mark member begins => ?_,
    untagged_cons.mpr ⟨fun mark member begins => ?_, named⟩⟩
  · obtain ⟨-, second⟩ := List.cons_prefix_cons.mp begins
    obtain rfl := (List.cons_prefix_cons.mp second).1
    simp at member
  · obtain ⟨-, after, split⟩ := List.cons_prefix_cons.mp begins
    have unnamed : ∀ mark ∈ ['%', '#'], isNameChar mark = false :=
      List.forall_mem_cons.mpr ⟨rfl, List.forall_mem_cons.mpr ⟨rfl, nofun⟩⟩
    have unread := readExact?_name identifier ('}' :: '}' :: cs) (unnamed mark member) []
    rw [readExact?_eq_some.mpr split.symm] at unread
    cases unread

theorem readOneOf?_untagged {α : Type} (mark : Char) (member : mark ∈ ['%', '#'])
    {words : List (String × α)}
    (tagged : ∀ word ∈ words.map Prod.fst, ['\x7b', mark] <+: word.toList)
    (untagged : Untagged cs) : readOneOf? words cs = none :=
  readOneOf?_eq_none fun word inside begins =>
    untagged mark member ((tagged word inside).trans begins).isInfix

variable (untagged : Untagged cs)

include untagged

theorem readTag?_untagged {α : Type} (inside : List Char → Option (α × List Char)) :
    readTag? inside cs = none := by
  have closed : readTagStart? cs = none :=
    readOneOf?_untagged '%' (by decide) (by decide) untagged
  simp [readTag?, closed]

theorem readComment?_untagged : readComment? cs = none := by
  have closed : readOneOf? (opening "\x7b#-" "\x7b#") cs = none :=
    readOneOf?_untagged '#' (by decide) (by decide) untagged
  simp [readComment?, closed]

theorem readNode?_untagged (depth : Nat) :
    readNode? (depth + 1) .page cs = (readPrint? cs).or (readText? cs) := by
  have leaf : readLeaf? .page cs = readPrint? cs := by
    simp [readLeaf?, readFirst?_cons, readFirst?, readInclude?, readAssign?,
      readTag?_untagged untagged, readComment?_untagged untagged]
  have branch : readBranch? depth .page cs = none := by
    cases depth <;> simp [readBranch?, readCondition?, readTag?_untagged untagged]
  have loop : readLoop? depth cs = none := by
    cases depth <;> simp [readLoop?, readTag?_untagged untagged]
  have filtered : readSection? depth cs = none := by
    cases depth <;> simp [readSection?, readTag?_untagged untagged]
  have block : readBlock? depth cs = none := by
    cases depth <;> simp [readBlock?, readTag?_untagged untagged]
  have raw : readRaw? cs = none := by
    simp [readRaw?, readWordTag?, readTag?_untagged untagged]
  have last : readFirst? [readRaw?, readText?] cs = readText? cs := by
    rw [readFirst?_cons, readFirst?_cons, raw, Option.none_or]
    exact Option.or_none
  cases print : readPrint? cs <;>
    simp [readNode?, leaf, print, branch, loop, filtered, block, last, Setting.admitsBlocks]

theorem readPage_untagged (bound : Nat) :
    readPage (bound + 1) cs =
      match (readPrint? cs).or (readText? cs) with
      | none => ([], cs)
      | some (node, rest) => (node :: (readPage bound rest).1, (readPage bound rest).2) := by
  have undefined : readDefinition? cs = none := by
    simp [readDefinition?, readTag?_untagged untagged]
  have first : readFirst? [readNode? (depthFor cs) .page, readDefinition?] cs =
      (readPrint? cs).or (readText? cs) := by
    have node : readNode? (depthFor cs) .page cs = (readPrint? cs).or (readText? cs) :=
      readNode?_untagged untagged _
    rw [readFirst?_cons, readFirst?_cons, node, undefined, Option.none_or]
    exact Option.or_none
  rw [← first]
  rfl

theorem skipComments_untagged (bound : Nat) : skipComments bound cs = cs := by
  cases bound <;> simp [skipComments, readComment?_untagged untagged]

theorem readTop_untagged : readTop cs = ([], cs) := by
  have later : Untagged (skipSpace cs) := untagged.of_suffix (List.dropWhile_suffix isSpace)
  have load : readLoad? cs = none := by
    simp [readLoad?, readTag?_untagged later]
  have loads : ∀ bound, readLoads bound cs = ([], cs) := by
    intro bound
    cases bound <;> simp [readLoads, load]
  simp [readTop, readExtend?, readTag?_untagged later, loads]

end Untagged

def slot (name : String) : Node :=
  .print ⟨false, false⟩ (.ofTerm (.path name))

namespace Form

def nodesFrom (pending : String) : Form → List Node
  | [] => textNode pending
  | .text s :: form => nodesFrom (pending ++ s) form
  | .blank name :: form => textNode pending ++ slot name :: nodesFrom "" form

def nodes (form : Form) : List Node :=
  form.nodesFrom ""

structure Readable (form : Form) : Prop where
  identifiers : ∀ name ∈ form.blanks, IsIdentifier name.toList
  unlike : ∀ name ∈ form.blanks, ¬BeginsLikeBoolean name.toList
  unbroken : form.Unbroken

section Reading

theorem written_untagged {form : Form}
    (identifiers : ∀ name ∈ form.blanks, IsIdentifier name.toList) (unbroken : form.Unbroken) :
    Untagged form.written := by
  induction form with
  | nil => simp [Untagged, written]
  | cons part form ih =>
    cases part with
    | text s => exact (ih identifiers unbroken.2).append unbroken.1
    | blank name =>
      obtain ⟨identifier, others⟩ := List.forall_mem_cons.mp identifiers
      exact (ih others unbroken).blank identifier

theorem Readable.untagged {form : Form} (readable : form.Readable) : Untagged form.written :=
  written_untagged readable.identifiers readable.unbroken

theorem Readable.of_text {s : String} {form : Form} (readable : Readable (.text s :: form)) :
    form.Readable :=
  ⟨readable.identifiers, readable.unlike, readable.unbroken.2⟩

theorem Readable.of_blank {name : String} {form : Form}
    (readable : Readable (.blank name :: form)) : form.Readable :=
  ⟨(List.forall_mem_cons.mp readable.identifiers).2, (List.forall_mem_cons.mp readable.unlike).2,
    readable.unbroken⟩

theorem readPage_text {pending : String} {next : List Char} {nodes : List Node} {bound : Nat}
    (literal : Literal pending.toList next) (ends : takeText next = ([], next))
    (untagged : Untagged next) (enough : pending.toList.length + next.length < bound)
    (later : ∀ bound, next.length < bound → readPage bound next = (nodes, [])) :
    readPage bound (pending.toList ++ next) = (textNode pending ++ nodes, []) := by
  obtain ⟨cs, rfl⟩ : ∃ cs, pending = String.ofList cs := ⟨pending.toList, String.ofList_toList.symm⟩
  rw [String.toList_ofList] at literal enough ⊢
  cases cs with
  | nil => exact later bound (by simpa using enough)
  | cons c cs =>
    obtain ⟨bound, rfl⟩ : ∃ more, bound = more + 1 := ⟨bound - 1, by omega⟩
    have rest := later bound (by simp at enough; omega)
    have unprinted := readPrint?_eq_none (literal_cons.mp literal).1
    rw [readPage_untagged (untagged.append literal), List.cons_append, unprinted,
      readText?_literal literal ends]
    simp [textNode, rest]

theorem readPage_written {form : Form} (readable : form.Readable) (pending : String)
    (literal : Literal pending.toList form.written) {bound : Nat}
    (enough : pending.toList.length + form.written.length < bound) :
    readPage bound (pending.toList ++ form.written) = (nodesFrom pending form, []) := by
  have untagged := readable.untagged
  induction form generalizing pending bound with
  | nil =>
    have ended : ∀ bound, ([] : List Char).length < bound → readPage bound [] = ([], []) := by
      rintro (_ | bound) enough
      · cases enough
      · exact readPage_untagged untagged bound
    have read := readPage_text literal rfl untagged enough ended
    rw [List.append_nil] at read
    exact read
  | cons part form ih =>
    cases part with
    | text s =>
      have joined : Literal (pending ++ s).toList (written form) := by
        rw [String.toList_append]
        exact literal_append.mpr ⟨literal, readable.unbroken.1⟩
      have short : (pending ++ s).toList.length + (written form).length < bound := by
        simpa [written, Nat.add_assoc] using enough
      have read := ih readable.of_text _ joined short readable.of_text.untagged
      rw [String.toList_append, List.append_assoc] at read
      exact read
    | blank name =>
      have print := readPrint?_name (List.forall_mem_cons.mp readable.identifiers).1 (written form)
        (List.forall_mem_cons.mp readable.unlike).1
      rw [String.ofList_toList] at print
      refine readPage_text literal rfl untagged enough ?_
      rintro (_ | bound) enough
      · cases enough
      · have short : "".toList.length + (written form).length < bound := by
          simp [written] at enough ⊢
          omega
        have rest := ih readable.of_blank "" (literal_nil _) short readable.of_blank.untagged
        rw [readPage_untagged untagged]
        simp only [written, print, Option.some_or]
        exact congrArg (fun read => (slot name :: read.1, read.2)) rest

theorem readTemplate?_source {form : Form} (readable : form.Readable) :
    readTemplate? form.source = some form.nodes := by
  have untagged := readable.untagged
  have enough : "".toList.length + form.written.length < depthFor form.written := by
    simp [depthFor]
    omega
  have page := readPage_written readable "" (literal_nil _) enough
  rw [String.toList_empty, List.nil_append] at page
  have spelled : form.source.toList = form.written := String.toList_ofList
  have top : readTop (skipComments (depthFor form.written) form.written) = ([], form.written) := by
    rw [skipComments_untagged untagged, readTop_untagged untagged]
  unfold readTemplate?
  simp only [spelled, top, page]
  rfl

end Reading

section Nodes

def Bare (node : Node) : Prop :=
  (∃ s, node = .text s) ∨ ∃ name, node = slot name

theorem bare_of_mem_textNode {s : String} {node : Node} (member : node ∈ textNode s) :
    Bare node := by
  unfold textNode at member
  split at member
  · cases member
  · exact .inl ⟨s, List.mem_singleton.mp member⟩

theorem bare_of_mem_nodesFrom {form : Form} {pending : String} :
    ∀ node ∈ nodesFrom pending form, Bare node := by
  induction form generalizing pending with
  | nil => exact fun _ => bare_of_mem_textNode
  | cons part form ih =>
    cases part with
    | text s => exact ih
    | blank name =>
      intro node member
      rcases List.mem_append.mp member with before | here
      · exact bare_of_mem_textNode before
      · rcases List.mem_cons.mp here with rfl | later
        · exact .inr ⟨name, rfl⟩
        · exact ih node later

variable {nodes : List Node} (bare : ∀ node ∈ nodes, Bare node)

include bare

theorem trimFrom_bare (t : Trimmed) (kept : t.trimNext = false) :
    trimFrom t false nodes = t.reversed.reverse ++ nodes := by
  induction nodes generalizing t with
  | nil => simp [trimFrom, Trimmed.finish]
  | cons node nodes ih =>
    obtain ⟨here, later⟩ := List.forall_mem_cons.mp bare
    rcases here with ⟨s, rfl⟩ | ⟨name, rfl⟩
    · have added : t.addText s = ⟨.text s :: t.reversed, true, false⟩ := by
        simp [Trimmed.addText, kept]
      rw [trimFrom, added, ih later _ rfl]
      simp
    · have trimmed : trimFrom t false (slot name :: nodes) =
          trimFrom ⟨slot name :: t.reversed, false, false⟩ false nodes := by
        simp [slot, trimFrom, Node.sides, Node.trimInside, Trimmed.addNode]
      rw [trimmed, ih later _ rfl]
      simp

theorem firstOutOfBounds?_bare : firstOutOfBounds? nodes = none := by
  have unnumbered : integersOfNodes nodes = [] := by
    induction nodes with
    | nil => rfl
    | cons node nodes ih =>
      obtain ⟨here, later⟩ := List.forall_mem_cons.mp bare
      rw [integersOfNodes, ih later]
      rcases here with ⟨s, rfl⟩ | ⟨name, rfl⟩ <;> rfl
  simp [firstOutOfBounds?, unnumbered]

theorem defect?_bare (name : String) : defect? name nodes = none := by
  have blocks : blocksOf nodes = [] := by
    induction nodes with
    | nil => rfl
    | cons node nodes ih =>
      obtain ⟨here, later⟩ := List.forall_mem_cons.mp bare
      rw [blocksOf, ih later]
      rcases here with ⟨s, rfl⟩ | ⟨name, rfl⟩ <;> rfl
  have definitions : definitionsOf nodes = [] := by
    refine List.filterMap_eq_nil_iff.mpr fun node member => ?_
    rcases bare node member with ⟨s, rfl⟩ | ⟨name, rfl⟩ <;> rfl
  have alone : refersAny nodes = false := by
    rw [refersAny_eq_any, List.any_eq_false]
    intro node member
    rcases bare node member with ⟨s, rfl⟩ | ⟨name, rfl⟩ <;> simp [slot, Node.refers]
  simp [defect?, blocks, definitions, parentOf?_eq_none alone, loadsOf_eq_nil alone, firstRepeated?]

end Nodes

theorem compile_source {form : Form} (readable : form.Readable) (e : Engine) (name : String) :
    e.compile name form.source = .ok ⟨name, form.nodes, e.escaping⟩ := by
  have bare : ∀ node ∈ form.nodes, Bare node := bare_of_mem_nodesFrom
  have trimmed : trimNodes form.nodes = form.nodes := trimFrom_bare bare _ rfl
  have sound : defect? name (trimNodes form.nodes) = none := by
    rw [trimmed]
    exact defect?_bare bare name
  rw [Engine.compile_ok (readTemplate?_source readable) (firstOutOfBounds?_bare bare) sound, trimmed]

end Form

end Stencil.Template
