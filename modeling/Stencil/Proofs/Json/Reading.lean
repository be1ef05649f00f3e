import Stencil.Proofs.Json.Numerals
import Stencil.Proofs.Json.Strings

namespace Stencil.Json

theorem skipSpace_append {gap : List Char} (blank : Blank gap) (cs : List Char) :
    skipSpace (gap ++ cs) = skipSpace cs :=
  List.dropWhile_append_of_pos blank

theorem skipSpace_cons {c : Char} (solid : isSpace c = false) (cs : List Char) :
    skipSpace (c :: cs) = c :: cs := by
  simp [skipSpace, solid]

theorem skipSpace_blank {gap : List Char} (blank : Blank gap) : skipSpace gap = [] := by
  have dropped := skipSpace_append blank []
  rwa [List.append_nil] at dropped

theorem isSpace_iff (c : Char) : isSpace c = true ↔ c = ' ' ∨ c = '\n' ∨ c = '\t' ∨ c = '\r' := by
  simp [isSpace, or_assoc]

def Begins (c : Char) : Prop :=
  c ∈ ['n', 't', 'f', '"', '[', '\x7b', '-'] ∨ c.isDigit = true

theorem Begins.solid {c : Char} (begins : Begins c) : isSpace c = false := by
  rw [Bool.eq_false_iff]
  intro space
  rcases begins with known | digit
  · rcases (isSpace_iff c).mp space with rfl | rfl | rfl | rfl <;> revert known <;> decide
  · rcases (isSpace_iff c).mp space with rfl | rfl | rfl | rfl <;> revert digit <;> decide

theorem Begins.ne_bracket {c : Char} (begins : Begins c) : c ≠ ']' := by
  rintro rfl
  revert begins
  simp [Begins]

theorem Spells.begins {v : Value} {cs : List Char} (written : Spells (.value v) cs) :
    ∃ c others, cs = c :: others ∧ Begins c := by
  cases written with
  | number written inRange =>
    obtain ⟨c, others, rfl, begins⟩ := written.head
    refine ⟨c, others, rfl, ?_⟩
    rcases begins with rfl | digit
    · exact .inl (by decide)
    · exact .inr digit
  | null | yes | no | string | array | object => exact ⟨_, _, rfl, .inl (by decide)⟩

theorem Spells.length_pos {p : Part} {cs : List Char} (written : Spells p cs) : 0 < cs.length := by
  cases written with
  | number written inRange =>
    obtain ⟨c, others, rfl, -⟩ := written.head
    exact Nat.succ_pos _
  | item blank head others =>
    obtain ⟨c, tail, rfl, -⟩ := head.begins
    simp only [List.length_append, List.length_cons]
    omega
  | null | yes | no | string | array | object | noItem | noMember => simp
  | nextItem | member | nextMember =>
    simp only [List.length_append, List.length_cons]
    omega

theorem follows_space {c : Char} (space : isSpace c = true) (cs : List Char) :
    Follows (c :: cs) := by
  rcases (isSpace_iff c).mp space with rfl | rfl | rfl | rfl <;>
    exact follows_cons rfl (by decide) (by decide) (by decide) cs

theorem follows_gap {gap : List Char} (blank : Blank gap) {mark : Char}
    (known : mark ∈ [',', ']', '\x7d']) (rest : List Char) : Follows (gap ++ mark :: rest) := by
  cases gap with
  | nil =>
    simp only [List.mem_cons, List.not_mem_nil, or_false] at known
    rcases known with rfl | rfl | rfl <;>
      exact follows_cons rfl (by decide) (by decide) (by decide) _
  | cons c gap => exact follows_space (blank c List.mem_cons_self) _

theorem Spells.follows_items {vs : List Value} {cs : List Char}
    (written : Spells (.items false vs) cs) (rest : List Char) : Follows (cs ++ rest) := by
  cases written with
  | noItem blank =>
    rw [List.append_assoc]
    exact follows_gap blank (by decide) rest
  | nextItem blank others =>
    rw [List.append_assoc]
    exact follows_gap blank (by decide) _

theorem Spells.follows_members {ms : List (String × Value)} {cs : List Char}
    (written : Spells (.members false ms) cs) (rest : List Char) : Follows (cs ++ rest) := by
  cases written with
  | noMember blank =>
    rw [List.append_assoc]
    exact follows_gap blank (by decide) rest
  | nextMember blank others =>
    rw [List.append_assoc]
    exact follows_gap blank (by decide) _

theorem listSeparator_closed {gap : List Char} (blank : Blank gap) (first : Bool)
    (rest : List Char) : listSeparator first (gap ++ ']' :: rest) = .ok (.closed rest) := by
  rw [listSeparator, skipSpace_append blank, skipSpace_cons (by decide)]
  rfl

theorem listSeparator_first {gap : List Char} (blank : Blank gap) {c : Char} (begins : Begins c)
    (rest : List Char) : listSeparator true (gap ++ c :: rest) = .ok (.more (c :: rest)) := by
  have bracket := begins.ne_bracket
  simp [listSeparator, skipSpace_append blank, skipSpace_cons begins.solid]

theorem listSeparator_comma {gap gap' : List Char} (blank : Blank gap) (blank' : Blank gap')
    {c : Char} (begins : Begins c) (rest : List Char) :
    listSeparator false (gap ++ ',' :: (gap' ++ c :: rest)) =
      listSeparator true (gap' ++ c :: rest) := by
  have bracket := begins.ne_bracket
  have comma : isSpace ',' = false := rfl
  rw [listSeparator_first blank' begins]
  simp [listSeparator, skipSpace_append blank, skipSpace_cons comma, skipSpace_append blank',
    skipSpace_cons begins.solid, bracket]

theorem memberSeparator_closed {gap : List Char} (blank : Blank gap) (first : Bool)
    (rest : List Char) : memberSeparator first (gap ++ '\x7d' :: rest) = .ok (.closed rest) := by
  rw [memberSeparator, skipSpace_append blank, skipSpace_cons (by decide)]
  rfl

theorem memberSeparator_first {gap : List Char} (blank : Blank gap) (rest : List Char) :
    memberSeparator true (gap ++ '"' :: rest) = .ok (.more rest) := by
  rw [memberSeparator, skipSpace_append blank, skipSpace_cons (by decide)]
  rfl

theorem memberSeparator_comma {gap gap' : List Char} (blank : Blank gap) (blank' : Blank gap')
    (rest : List Char) :
    memberSeparator false (gap ++ ',' :: (gap' ++ '"' :: rest)) =
      memberSeparator true (gap' ++ '"' :: rest) := by
  have comma : isSpace ',' = false := rfl
  have quote : isSpace '"' = false := rfl
  rw [memberSeparator_first blank']
  simp [memberSeparator, skipSpace_append blank, skipSpace_cons comma, skipSpace_append blank',
    skipSpace_cons quote]

theorem readColon_append {gap : List Char} (blank : Blank gap) (rest : List Char) :
    readColon (gap ++ ':' :: rest) = .ok rest := by
  rw [readColon, skipSpace_append blank, skipSpace_cons (by decide)]
  rfl

theorem readEnd_blank {gap : List Char} (blank : Blank gap) : readEnd gap = .ok () := by
  rw [readEnd, skipSpace_blank blank]

mutual

def Value.tabled : Value → Value
  | .array items => .array (tabledItems items)
  | .object members => .ofPairs (tabledMembers members)
  | v => v

def Value.tabledItems : List Value → List Value
  | [] => []
  | v :: vs => v.tabled :: tabledItems vs

def Value.tabledMembers : List (String × Value) → List (String × Value)
  | [] => []
  | (name, v) :: ms => (name, v.tabled) :: tabledMembers ms

end

def Part.ReadAs (depth : Nat) (cs rest : List Char) : Part → Prop
  | .value v => readValueWithin depth cs = .ok (v.tabled, rest) ∧ skipValue depth cs = .ok rest
  | .items first vs =>
    readItemsWithin depth first cs = .ok (Value.tabledItems vs, rest) ∧
      skipItems depth first cs = .ok rest
  | .members first ms =>
    readMembersWithin depth first cs = .ok (Value.tabledMembers ms, rest) ∧
      skipMembers depth first cs = .ok rest

theorem skipValue_gap {gap : List Char} (blank : Blank gap) (depth : Nat) (cs : List Char) :
    skipValue depth (gap ++ cs) = skipValue depth cs := by
  cases depth with
  | zero => simp only [skipValue]
  | succ depth => simp only [skipValue, skipSpace_append blank]

theorem readValueWithin_gap {gap : List Char} (blank : Blank gap) (depth : Nat) (cs : List Char) :
    readValueWithin depth (gap ++ cs) = readValueWithin depth cs := by
  cases depth with
  | zero => simp only [readValueWithin]
  | succ depth => simp only [readValueWithin, skipSpace_append blank]

theorem numeral_distinct {c : Char} (numeral : c = '-' ∨ c.isDigit = true) :
    isSpace c = false ∧ c ≠ 'n' ∧ c ≠ 't' ∧ c ≠ 'f' ∧ c ≠ '"' ∧ c ≠ '[' ∧ c ≠ '\x7b' := by
  rcases numeral with rfl | digit
  · decide
  · exact ⟨Begins.solid (.inr digit), digit_ne digit rfl, digit_ne digit rfl, digit_ne digit rfl,
      digit_ne digit rfl, digit_ne digit rfl, digit_ne digit rfl⟩

theorem readAs_number {n : Numeral} {x : Number} {cs rest : List Char}
    (written : NumeralText n cs) (inRange : n.value? = some x) (follows : Follows rest)
    (depth : Nat) : (Part.value (.number x)).ReadAs (depth + 1) (cs ++ rest) rest := by
  have read := readNumber_append written inRange follows
  have skip := skipNumber_append written follows
  obtain ⟨c, others, rfl, numeral⟩ := written.head
  obtain ⟨solid, isNull, isTrue, isFalse, isString, isArray, isObject⟩ := numeral_distinct numeral
  simp only [List.cons_append] at read skip ⊢
  constructor
  · simp [readValueWithin, skipSpace_cons solid, numeral, read, Value.tabled, bind, Except.bind]
  · simp [skipValue, skipSpace_cons solid, numeral, skip]

theorem readAs_string {s cs : List Char} (written : StringText s cs) (rest : List Char)
    (depth : Nat) :
    (Part.value (.string (String.ofList s))).ReadAs (depth + 1) ('"' :: (cs ++ '"' :: rest))
      rest := by
  have quote : isSpace '"' = false := rfl
  constructor
  · simp [readValueWithin, skipSpace_cons quote, written.read, Value.tabled, bind, Except.bind]
  · simp [skipValue, skipSpace_cons quote, written.skip]

theorem readAs_array {vs : List Value} {depth : Nat} {cs rest : List Char}
    (inside : (Part.items true vs).ReadAs depth cs rest) :
    (Part.value (.array vs)).ReadAs (depth + 1) ('[' :: cs) rest := by
  have bracket : isSpace '[' = false := rfl
  obtain ⟨read, skip⟩ := inside
  constructor
  · simp [readValueWithin, skipSpace_cons bracket, read, Value.tabled, bind, Except.bind]
  · simp [skipValue, skipSpace_cons bracket, skip]

theorem readAs_object {ms : List (String × Value)} {depth : Nat} {cs rest : List Char}
    (inside : (Part.members true ms).ReadAs depth cs rest) :
    (Part.value (.object ms)).ReadAs (depth + 1) ('\x7b' :: cs) rest := by
  have brace : isSpace '\x7b' = false := rfl
  obtain ⟨read, skip⟩ := inside
  constructor
  · simp [readValueWithin, skipSpace_cons brace, read, Value.tabled, bind, Except.bind]
  · simp [skipValue, skipSpace_cons brace, skip]

theorem readAs_item {v : Value} {vs : List Value} {depth : Nat} {gap cs rest rest' : List Char}
    (blank : Blank gap) (written : Spells (.value v) cs)
    (head : (Part.value v).ReadAs depth (cs ++ rest) rest)
    (others : (Part.items false vs).ReadAs depth rest rest') :
    (Part.items true (v :: vs)).ReadAs (depth + 1) (gap ++ (cs ++ rest)) rest' := by
  obtain ⟨c, tail, rfl, begins⟩ := written.begins
  have found := listSeparator_first blank begins (tail ++ rest)
  obtain ⟨readHead, skipHead⟩ := head
  obtain ⟨readOthers, skipOthers⟩ := others
  simp only [List.cons_append] at readHead skipHead ⊢
  constructor
  · simp [readItemsWithin, found, readHead, readOthers, Value.tabledItems, bind, Except.bind]
  · simp [skipItems, found, skipHead, skipOthers, bind, Except.bind]

theorem readAs_member {name : List Char} {v : Value} {ms : List (String × Value)} {depth : Nat}
    {gap ns gap' gap'' cs rest : List Char} (blank : Blank gap) (named : StringText name ns)
    (blank' : Blank gap') (blank'' : Blank gap'')
    (head : (Part.value v).ReadAs depth cs rest) {rest' : List Char}
    (others : (Part.members false ms).ReadAs depth rest rest') :
    (Part.members true ((String.ofList name, v) :: ms)).ReadAs (depth + 1)
      (gap ++ '"' :: (ns ++ '"' :: (gap' ++ ':' :: (gap'' ++ cs)))) rest' := by
  have found := memberSeparator_first blank (ns ++ '"' :: (gap' ++ ':' :: (gap'' ++ cs)))
  have readName := named.read (gap' ++ ':' :: (gap'' ++ cs))
  have skipName := named.skip (gap' ++ ':' :: (gap'' ++ cs))
  have colon := readColon_append blank' (gap'' ++ cs)
  obtain ⟨readHead, skipHead⟩ := head
  obtain ⟨readOthers, skipOthers⟩ := others
  rw [← readValueWithin_gap blank''] at readHead
  rw [← skipValue_gap blank''] at skipHead
  constructor
  · simp [readMembersWithin, found, readName, colon, readHead, readOthers, Value.tabledMembers,
      bind, Except.bind]
  · simp [skipMembers, found, skipName, colon, skipHead, skipOthers, bind, Except.bind]

theorem readAs_nextItem {vs : List Value} {depth : Nat} {gap gap' cs rest : List Char} {c : Char}
    (blank : Blank gap) (blank' : Blank gap') (begins : Begins c)
    (read : (Part.items true vs).ReadAs (depth + 1) (gap' ++ c :: cs) rest) :
    (Part.items false vs).ReadAs (depth + 1) (gap ++ ',' :: (gap' ++ c :: cs)) rest := by
  have found := listSeparator_comma blank blank' begins cs
  simp only [Part.ReadAs, readItemsWithin, skipItems, found] at read ⊢
  exact read

theorem readAs_nextMember {ms : List (String × Value)} {depth : Nat}
    {gap gap' cs rest : List Char} (blank : Blank gap) (blank' : Blank gap')
    (read : (Part.members true ms).ReadAs (depth + 1) (gap' ++ '"' :: cs) rest) :
    (Part.members false ms).ReadAs (depth + 1) (gap ++ ',' :: (gap' ++ '"' :: cs)) rest := by
  have found := memberSeparator_comma blank blank' cs
  simp only [Part.ReadAs, readMembersWithin, skipMembers, found] at read ⊢
  exact read

/-- Every part is read as what it spells. Each nested reader takes at least one character, and each
further item or member as well, so twice the length of the text is deep enough. -/
theorem Spells.read {p : Part} {cs : List Char} (written : Spells p cs) {depth : Nat}
    (deep : 2 * cs.length ≤ depth) {rest : List Char} (follows : Follows rest) :
    p.ReadAs depth (cs ++ rest) rest := by
  have positive := written.length_pos
  obtain ⟨depth, rfl⟩ : ∃ d, depth = d + 1 := ⟨depth - 1, by omega⟩
  induction written generalizing depth rest with
  | null | yes | no => constructor <;> rfl
  | number written inRange => exact readAs_number written inRange follows depth
  | @string s cs written =>
    have read := readAs_string written rest depth
    simpa using read
  | array inside ih =>
    have innerPositive := inside.length_pos
    simp only [List.length_cons] at deep
    obtain ⟨depth, rfl⟩ : ∃ d, depth = d + 1 := ⟨depth - 1, by omega⟩
    exact readAs_array (ih follows innerPositive depth (by omega))
  | object inside ih =>
    have innerPositive := inside.length_pos
    simp only [List.length_cons] at deep
    obtain ⟨depth, rfl⟩ : ∃ d, depth = d + 1 := ⟨depth - 1, by omega⟩
    exact readAs_object (ih follows innerPositive depth (by omega))
  | @noItem first gap blank =>
    have found := listSeparator_closed blank first rest
    simp [Part.ReadAs, readItemsWithin, skipItems, found, Value.tabledItems]
  | @item v vs gap cs others blank head tail ihHead ihTail =>
    have headPositive := head.length_pos
    have tailPositive := tail.length_pos
    simp only [List.length_append] at deep
    obtain ⟨depth, rfl⟩ : ∃ d, depth = d + 1 := ⟨depth - 1, by omega⟩
    have readHead := ihHead (tail.follows_items rest) headPositive depth (by omega)
    have readTail := ihTail follows tailPositive depth (by omega)
    have read := readAs_item blank head readHead readTail
    simpa using read
  | @nextItem v vs gap cs blank others ih =>
    have othersPositive := others.length_pos
    simp only [List.length_append, List.length_cons] at deep
    have read := ih follows othersPositive depth (by omega)
    cases others with
    | item blank' head tail =>
      obtain ⟨c, cs, rfl, begins⟩ := head.begins
      simp only [List.append_assoc, List.cons_append] at read ⊢
      exact readAs_nextItem blank blank' begins read
  | @noMember first gap blank =>
    have found := memberSeparator_closed blank first rest
    simp [Part.ReadAs, readMembersWithin, skipMembers, found, Value.tabledMembers]
  | @member name v ms gap gap' gap'' ns cs others blank named blank' blank'' head tail ihHead
      ihTail =>
    have headPositive := head.length_pos
    have tailPositive := tail.length_pos
    simp only [List.length_append, List.length_cons] at deep
    obtain ⟨depth, rfl⟩ : ∃ d, depth = d + 1 := ⟨depth - 1, by omega⟩
    have readHead := ihHead (tail.follows_members rest) headPositive depth (by omega)
    have readTail := ihTail follows tailPositive depth (by omega)
    have read := readAs_member blank named blank' blank'' readHead readTail
    simpa using read
  | nextMember blank others ih =>
    have othersPositive := others.length_pos
    simp only [List.length_append, List.length_cons] at deep
    have read := ih follows othersPositive depth (by omega)
    cases others with
    | member blank' named _ _ head tail =>
      simp only [List.append_assoc, List.cons_append] at read ⊢
      exact readAs_nextMember blank blank' read

end Stencil.Json
