import Stencil.Template.Body
import Stencil.Proofs.Text.Letter

namespace Stencil.Template

def IsIdentifier : List Char → Prop
  | [] => False
  | c :: cs => isNameStart c = true ∧ ∀ d ∈ cs, isNameChar d = true

instance : DecidablePred IsIdentifier
  | [] => isFalse id
  | c :: cs =>
    decidable_of_iff (isNameStart c = true ∧ cs.all isNameChar = true) (by simp [IsIdentifier])

def BeginsLikeBoolean (name : List Char) : Prop :=
  ∃ word ∈ booleans.map Prod.fst, word.toList <+: name

instance : DecidablePred BeginsLikeBoolean := fun name =>
  decidable_of_iff ((booleans.map Prod.fst).any (·.toList.isPrefixOf name) = true)
    (by simp [BeginsLikeBoolean])

theorem isNameChar_of_isNameStart {c : Char} (start : isNameStart c = true) :
    isNameChar c = true := by
  rcases Bool.or_eq_true_iff.mp start with letter | line
  · exact Bool.or_eq_true_iff.mpr (.inl (Bool.or_eq_true_iff.mpr (.inl letter)))
  · exact Bool.or_eq_true_iff.mpr (.inr line)

theorem ne_of_isNameChar {c d : Char} (named : isNameChar c = true)
    (other : isNameChar d = false) : c ≠ d := by
  rintro rfl
  rw [named] at other
  cases other

theorem isSpace_of_isNameChar {c : Char} (named : isNameChar c = true) : isSpace c = false := by
  have blank := ne_of_isNameChar named (show isNameChar ' ' = false from rfl)
  have tab := ne_of_isNameChar named (show isNameChar '\t' = false from rfl)
  have carriage := ne_of_isNameChar named (show isNameChar '\r' = false from rfl)
  have line := ne_of_isNameChar named (show isNameChar '\n' = false from rfl)
  simp [isSpace, blank, tab, carriage, line]

theorem isQuote_of_isNameChar {c : Char} (named : isNameChar c = true) : isQuote c = false := by
  have double := ne_of_isNameChar named (show isNameChar '"' = false from rfl)
  have single := ne_of_isNameChar named (show isNameChar '\'' = false from rfl)
  have grave := ne_of_isNameChar named (show isNameChar '\x60' = false from rfl)
  simp [isQuote, double, single, grave]

theorem isDigit_of_isNameStart {c : Char} (start : isNameStart c = true) : c.isDigit = false := by
  rcases Bool.or_eq_true_iff.mp start with letter | line
  · exact Text.isDigit_of_isAlpha letter
  · rw [beq_iff_eq.mp line]
    rfl

theorem IsIdentifier.named {name : List Char} (identifier : IsIdentifier name) :
    ∀ c ∈ name, isNameChar c = true := by
  cases name with
  | nil => nofun
  | cons c cs =>
    exact List.forall_mem_cons.mpr ⟨isNameChar_of_isNameStart identifier.1, identifier.2⟩

theorem readExact?_eq_some {token cs rest : List Char} :
    readExact? token cs = some rest ↔ cs = token ++ rest := by
  induction token generalizing cs with
  | nil => exact Option.some_inj.trans Iff.rfl
  | cons t ts ih =>
    cases cs with
    | nil => simp [readExact?]
    | cons c cs =>
      by_cases same : t = c
      · subst same
        simp [readExact?, ih]
      · simp [readExact?, same, Ne.symm same]

theorem readOneOf?_eq_none {α : Type} {words : List (String × α)} {cs : List Char}
    (none : ∀ word ∈ words.map Prod.fst, ¬word.toList <+: cs) : readOneOf? words cs = .none := by
  induction words with
  | nil => rfl
  | cons word words ih =>
    obtain ⟨first, rest⟩ := List.forall_mem_cons.mp none
    have unread : readWord? word.1 cs = .none :=
      Option.eq_none_iff_forall_not_mem.mpr fun after read =>
        first ⟨after, (readExact?_eq_some.mp read).symm⟩
    simp only [readOneOf?, unread]
    exact ih rest

theorem prefix_of_prefix_append {word name rest : List Char} {c : Char} (absent : c ∉ word)
    (begins : word <+: name ++ c :: rest) : word <+: name := by
  rcases List.prefix_or_prefix_of_prefix begins (List.prefix_append name (c :: rest)) with
    inside | ⟨more, rfl⟩
  · exact inside
  · cases more with
    | nil => simp
    | cons d more =>
      obtain ⟨after, split⟩ := begins
      rw [List.append_assoc] at split
      have first : d = c := (List.cons.inj (List.append_cancel_left split)).1
      exact absurd (by simp [first]) absent

theorem readOneOf?_booleans {name : List Char} (other : ¬BeginsLikeBoolean name)
    (rest : List Char) : readOneOf? booleans (name ++ '}' :: rest) = none := by
  have braceless : ∀ word ∈ booleans.map Prod.fst, '}' ∉ word.toList := by decide
  exact readOneOf?_eq_none fun word member begins =>
    other ⟨word, member, prefix_of_prefix_append (braceless word member) begins⟩

theorem readParts_brace (depth : Nat) (rest : List Char) :
    readParts depth ('}' :: rest) = ([], '}' :: rest) := by
  cases depth <;> rfl

theorem readNamedArguments?_brace (depth : Nat) (rest : List Char) :
    readNamedArguments? depth ('}' :: rest) = none := by
  cases depth <;> rfl

section Readers

variable {name : List Char} (identifier : IsIdentifier name) (rest : List Char)

include identifier

theorem readExact?_name {t : Char} (other : isNameChar t = false) (ts : List Char) :
    readExact? (t :: ts) (name ++ rest) = none := by
  cases name with
  | nil => exact identifier.elim
  | cons c cs =>
    have first := ne_of_isNameChar (identifier.named c List.mem_cons_self) other
    simp [readExact?, Ne.symm first]

theorem skipSpace_name : skipSpace (name ++ rest) = name ++ rest := by
  cases name with
  | nil => exact identifier.elim
  | cons c cs =>
    have solid := isSpace_of_isNameChar (identifier.named c List.mem_cons_self)
    simp [skipSpace, solid]

theorem readName?_name : readName? (name ++ '}' :: rest) = some (name, '}' :: rest) := by
  cases name with
  | nil => exact identifier.elim
  | cons c cs =>
    have ends : isNameChar '}' = false := rfl
    have run : (cs ++ '}' :: rest).takeWhile isNameChar = cs := by
      rw [List.takeWhile_append_of_pos identifier.2]
      simp [ends]
    have left : (cs ++ '}' :: rest).dropWhile isNameChar = '}' :: rest := by
      rw [List.dropWhile_append_of_pos identifier.2]
      simp [ends]
    simp [readName?, takeRun, identifier.1, run, left]

theorem readString?_name : readString? (name ++ rest) = none := by
  cases name with
  | nil => exact identifier.elim
  | cons c cs =>
    have unquoted := isQuote_of_isNameChar (identifier.named c List.mem_cons_self)
    simp [readString?, unquoted]

theorem readInt?_name : readInt? (name ++ rest) = none := by
  cases name with
  | nil => exact identifier.elim
  | cons c cs =>
    have sign := ne_of_isNameChar (identifier.named c List.mem_cons_self)
      (show isNameChar '-' = false from rfl)
    have figure := isDigit_of_isNameStart identifier.1
    have zero : c ≠ '0' := by
      rintro rfl
      cases figure
    simp [readInt?, readDigits?, sign, zero, figure]

theorem readFloat?_name : readFloat? (name ++ rest) = none := by
  simp [readFloat?, readInt?_name identifier]

theorem readSpacedWord?_name {word : String} (absent : '}' ∉ word.toList) :
    readSpacedWord? word (name ++ '}' :: rest) = none := by
  unfold readSpacedWord?
  cases read : readWord? word (name ++ '}' :: rest) with
  | none => rfl
  | some after =>
    have whole := readExact?_eq_some.mp read
    obtain ⟨more, rfl⟩ := prefix_of_prefix_append absent ⟨after, whole.symm⟩
    rw [List.append_assoc] at whole
    obtain rfl := List.append_cancel_left whole
    -- White space has to follow the word, but here the name goes on or the tag is closed.
    cases more with
    | nil => rfl
    | cons c cs =>
      have solid := isSpace_of_isNameChar (identifier.named c (by simp))
      simp [readSpace?, solid]

theorem readNegation_name :
    readNegation (name ++ '}' :: rest) = (false, name ++ '}' :: rest) := by
  have unspaced : readSpacedWord? "not" (name ++ '}' :: rest) = none :=
    readSpacedWord?_name identifier rest (by decide)
  simp [readNegation, unspaced]

theorem readPath?_name (depth : Nat) :
    readPath? (depth + 1) (name ++ '}' :: rest) = some (name, '}' :: rest) := by
  simp [readPath?, readName?_name identifier, readParts_brace]

theorem readCall?_name (depth : Nat) : readCall? depth (name ++ '}' :: rest) = none := by
  cases depth with
  | zero => rfl
  | succ depth =>
    have solid : skipSpace ('}' :: rest) = '}' :: rest := rfl
    simp [readCall?, readName?_name identifier, solid, readNamedArguments?_brace]

theorem readExpansion?_name (depth : Nat) :
    readExpansion? depth (name ++ '}' :: rest) = none := by
  cases depth with
  | zero => rfl
  | succ depth =>
    have single : readWord? "::" (skipSpace ('}' :: rest)) = none := rfl
    simp [readExpansion?, readName?_name identifier, single]

theorem readTest?_name (depth : Nat) : readTest? depth (name ++ '}' :: rest) = none := by
  have ends : readWord? "is" (skipSpace ('}' :: rest)) = none := rfl
  rcases depth with _ | _ | depth
  · rfl
  · rfl
  · simp [readTest?, readPath?_name identifier, ends]

theorem readJoined?_name (depth : Nat) : readJoined? depth (name ++ '}' :: rest) = none := by
  rcases depth with _ | _ | depth
  · rfl
  · rfl
  · have alone : readParts? (depth + 1) ('}' :: rest) = ([], '}' :: rest) := rfl
    cases depth <;>
      simp [readJoined?, readPart?, readPath?, readCall?_name identifier,
        readFloat?_name identifier, readInt?_name identifier, readString?_name identifier,
        readName?_name identifier, readParts_brace, alone]

theorem readJoinedFiltered?_name (depth : Nat) :
    readJoinedFiltered? depth (name ++ '}' :: rest) = none := by
  cases depth with
  | zero => rfl
  | succ depth =>
    simp [readJoinedFiltered?, readJoined?_name identifier, readString?_name identifier]

section Values

variable (other : ¬BeginsLikeBoolean name)

include other

theorem readAtom?_name (depth : Nat) :
    readAtom? (depth + 2) (name ++ '}' :: rest) =
      some (.path (String.ofList name), '}' :: rest) := by
  simp [readAtom?, readOneOf?_booleans other, readTest?_name identifier,
    readExpansion?_name identifier, readCall?_name identifier, readPath?_name identifier]

theorem readBasic?_name (depth : Nat) :
    readBasic? (depth + 4) (name ++ '}' :: rest) =
      some (.path (String.ofList name), '}' :: rest) := by
  have bare : readWord? "(" (name ++ '}' :: rest) = none := readExact?_name identifier _ rfl []
  have operand : readOperand? (depth + 3) (name ++ '}' :: rest) =
      some (.path (String.ofList name), '}' :: rest) := by
    simp [readOperand?, bare, readAtom?_name identifier rest other]
  have single : readBasicRest (depth + 3) ('}' :: rest) = ([], '}' :: rest) := rfl
  simp [readBasic?, operand, single, climb]

theorem readFiltered?_name (depth : Nat) :
    readFiltered? (depth + 5) (name ++ '}' :: rest) =
      some (.ofTerm (.path (String.ofList name)), '}' :: rest) := by
  have unfiltered : readFilters (depth + 4) ('}' :: rest) = ([], '}' :: rest) := rfl
  simp [readFiltered?, readBasic?_name identifier rest other, unfiltered, Expr.ofTerm]

theorem readComparison?_name (depth : Nat) :
    readComparison? (depth + 7) (name ++ '}' :: rest) =
      some (.ofTerm (.path (String.ofList name)), '}' :: rest) := by
  have single : readFilteredRest (depth + 5) ('}' :: rest) = ([], '}' :: rest) := rfl
  have side : readSide? (depth + 6) (name ++ '}' :: rest) =
      some (.ofTerm (.path (String.ofList name)), '}' :: rest) := by
    simp [readSide?, readJoinedFiltered?_name identifier, readFiltered?_name identifier rest other,
      single, climb]
  have oneSide : readOneOf? compareOps (skipSpace ('}' :: rest)) = none := rfl
  simp [readComparison?, side, oneSide]

theorem readMembership?_name (depth : Nat) :
    readMembership? (depth + 6) (name ++ '}' :: rest) = none := by
  have ends : readNegation (skipSpace ('}' :: rest)) = (false, '}' :: rest) := rfl
  have nowhere : readWord? "in" (skipSpace ('}' :: rest)) = none := rfl
  simp [readMembership?, readJoinedFiltered?_name identifier,
    readFiltered?_name identifier rest other, ends, nowhere]

theorem readArgument?_name (depth : Nat) :
    readArgument? (depth + 10) (name ++ '}' :: rest) =
      some (.ofTerm (.path (String.ofList name)), '}' :: rest) := by
  have value : readLogicValue? (depth + 8) (name ++ '}' :: rest) =
      some (.ofTerm (.path (String.ofList name)), '}' :: rest) := by
    simp [readLogicValue?, readNegation_name identifier, readMembership?_name identifier rest other,
      readComparison?_name identifier rest other, Expr.ofTerm]
  have single : readLogicRest (depth + 8) ('}' :: rest) = ([], '}' :: rest) := rfl
  simp [readArgument?, readLogic?, value, single, climb]

theorem readPrint?_name :
    readPrint? ('\x7b' :: '\x7b' :: (name ++ '}' :: '}' :: rest)) =
      some (.print ⟨false, false⟩ (.ofTerm (.path (String.ofList name))), rest) := by
  have opens : readPrintStart? ('\x7b' :: '\x7b' :: (name ++ '}' :: '}' :: rest)) =
      some (false, name ++ '}' :: '}' :: rest) := by
    have untrimmed : readWord? "\x7b\x7b-" ('\x7b' :: '\x7b' :: (name ++ '}' :: '}' :: rest)) =
        none := readExact?_name identifier _ rfl []
    have plain : readWord? "\x7b\x7b" ('\x7b' :: '\x7b' :: (name ++ '}' :: '}' :: rest)) =
        some (name ++ '}' :: '}' :: rest) := rfl
    simp [readPrintStart?, opening, readOneOf?, untrimmed, plain]
  have closes : readPrintEnd? (skipSpace ('}' :: '}' :: rest)) = some (false, rest) := rfl
  -- On the way to a name ten readers stand inside each other; the shortest text allows sixteen.
  have deep : ∃ depth, depthFor (name ++ '}' :: '}' :: rest) = depth + 10 :=
    ⟨16 * (name ++ '}' :: '}' :: rest).length + 6, rfl⟩
  obtain ⟨depth, deep⟩ := deep
  simp [readPrint?, opens, deep, skipSpace_name identifier, readArgument?_name identifier _ other,
    closes]

end Values

end Readers

end Stencil.Template
