import Stencil.Proofs.Json.Grammar

namespace Stencil.Json

def Follows (rest : List Char) : Prop :=
  ∀ c ∈ rest.head?, c.isDigit = false ∧ c ≠ '.' ∧ c ≠ 'e' ∧ c ≠ 'E'

theorem follows_nil : Follows [] := nofun

theorem follows_cons {c : Char} (digit : c.isDigit = false) (point : c ≠ '.') (small : c ≠ 'e')
    (large : c ≠ 'E') (rest : List Char) : Follows (c :: rest) := by
  intro d head
  obtain rfl : c = d := by simpa using head
  exact ⟨digit, point, small, large⟩

theorem digit_ne {c d : Char} (digit : c.isDigit = true) (other : d.isDigit = false) : c ≠ d := by
  rintro rfl
  rw [digit] at other
  cases other

theorem takeDigits_append {ds rest : List Char} (digits : ∀ d ∈ ds, d.isDigit = true)
    (ended : ∀ c ∈ rest.head?, c.isDigit = false) : takeDigits (ds ++ rest) = (ds, rest) := by
  rw [takeDigits, List.takeWhile_append_of_pos digits, List.dropWhile_append_of_pos digits]
  cases rest with
  | nil => simp
  | cons c rest =>
    have stop := ended c rfl
    simp [stop]

theorem readSomeDigits_append {ds rest : List Char} (early : Fault) (digits : Digits ds)
    (ended : ∀ c ∈ rest.head?, c.isDigit = false) :
    readSomeDigits early (ds ++ rest) = .ok (ds, rest) := by
  rw [readSomeDigits, takeDigits_append digits.2 ended]
  cases ds with
  | nil => exact absurd rfl digits.1
  | cons d ds => rfl

theorem readWhole_append {ds rest : List Char} (early : Fault) (proper : WholeText ds)
    (ended : ∀ c ∈ rest.head?, c.isDigit = false) :
    readWhole early (ds ++ rest) = .ok (ds, rest) := by
  obtain ⟨⟨nonempty, digits⟩, alone⟩ := proper
  cases ds with
  | nil => exact absurd rfl nonempty
  | cons d ds =>
    by_cases zero : d = '0'
    · subst zero
      obtain rfl : ds = [] := by simpa using alone rfl
      cases rest with
      | nil => rfl
      | cons c rest =>
        have stop := ended c rfl
        simp [readWhole, stop]
    · have digit := digits d List.mem_cons_self
      have taken := takeDigits_append digits ended
      simp only [List.cons_append] at taken
      simp [readWhole, digit, taken]

theorem fraction_head {f : Option (List Char)} {fs rest : List Char} (written : FractionText f fs)
    (ended : ∀ c ∈ rest.head?, c.isDigit = false) :
    ∀ c ∈ (fs ++ rest).head?, c.isDigit = false := by
  cases written with
  | none => exact ended
  | some digits =>
    intro c head
    obtain rfl : '.' = c := by simpa using head
    rfl

theorem exponent_head {e : Option (Bool × List Char)} {es rest : List Char}
    (written : ExponentText e es) (follows : Follows rest) :
    ∀ c ∈ (es ++ rest).head?, c.isDigit = false ∧ c ≠ '.' := by
  cases written with
  | none => exact fun c head => ⟨(follows c head).1, (follows c head).2.1⟩
  | @some mark _ _ _ known signed digits =>
    intro c head
    obtain rfl : mark = c := by simpa using head
    rcases known with rfl | rfl <;> decide

theorem readFraction_append {f : Option (List Char)} {fs rest : List Char} (early : Fault)
    (written : FractionText f fs) (ended : ∀ c ∈ rest.head?, c.isDigit = false ∧ c ≠ '.') :
    readFraction early (fs ++ rest) = .ok (f, rest) := by
  cases written with
  | none =>
    cases rest with
    | nil => rfl
    | cons c rest =>
      have other := (ended c rfl).2
      simp [readFraction, other]
  | some digits =>
    have taken := readSomeDigits_append early digits fun c head => (ended c head).1
    simp only [readFraction, List.cons_append, taken]
    rfl

theorem readExponent_append {e : Option (Bool × List Char)} {es rest : List Char} (early : Fault)
    (written : ExponentText e es) (follows : Follows rest) :
    readExponent early (es ++ rest) = .ok (e, rest) := by
  cases written with
  | none =>
    cases rest with
    | nil => rfl
    | cons c rest =>
      obtain ⟨_, _, small, large⟩ := follows c rfl
      simp [readExponent, small, large]
  | @some mark negative sign ds known signed digits =>
    have taken := readSomeDigits_append early digits fun c head => (follows c head).1
    simp only [List.cons_append, List.append_assoc, readExponent, known, if_true]
    cases signed with
    | plus => simp only [List.cons_append, List.nil_append, taken]; rfl
    | minus => simp only [List.cons_append, List.nil_append, taken]; rfl
    | none =>
      -- Without a sign the first digit stands where the sign would.
      obtain ⟨d, others, rfl⟩ := List.exists_cons_of_ne_nil digits.1
      have digit := digits.2 d List.mem_cons_self
      have plus : d ≠ '+' := digit_ne digit rfl
      have minus : d ≠ '-' := digit_ne digit rfl
      simp only [List.cons_append] at taken
      simp [plus, minus, taken]
      rfl

theorem NumeralText.read {n : Numeral} {cs rest : List Char} (written : NumeralText n cs)
    (early : Fault) (follows : Follows rest) :
    readNumeral early (cs ++ rest) = .ok (n, rest) := by
  cases written with
  | @mk negative whole fs es fraction exponent proper fractional exponential =>
    have afterFraction := exponent_head exponential follows
    have afterWhole := fraction_head fractional fun c head => (afterFraction c head).1
    have readW := readWhole_append early proper afterWhole
    have readF := readFraction_append early fractional afterFraction
    have readE := readExponent_append early exponential follows
    cases negative with
    | true =>
      simp only [readNumeral, if_true, List.cons_append, List.nil_append, List.append_assoc, readW,
        readF, readE, bind, Except.bind]
    | false =>
      obtain ⟨d, others, rfl⟩ := List.exists_cons_of_ne_nil proper.1.1
      have digit := proper.1.2 d List.mem_cons_self
      have minus : d ≠ '-' := digit_ne digit rfl
      simp only [List.cons_append] at readW
      simp [readNumeral, minus, readW, readF, readE, bind, Except.bind]

theorem NumeralText.head {n : Numeral} {cs : List Char} (written : NumeralText n cs) :
    ∃ c others, cs = c :: others ∧ (c = '-' ∨ c.isDigit = true) := by
  cases written with
  | @mk negative whole _ _ _ _ proper _ _ =>
    cases negative with
    | true => exact ⟨'-', _, rfl, .inl rfl⟩
    | false =>
      obtain ⟨d, others, rfl⟩ := List.exists_cons_of_ne_nil proper.1.1
      exact ⟨d, _, rfl, .inr (proper.1.2 d List.mem_cons_self)⟩

theorem readNumber_append {n : Numeral} {x : Number} {cs rest : List Char}
    (written : NumeralText n cs) (inRange : n.value? = some x) (follows : Follows rest) :
    readNumber (cs ++ rest) = .ok (x, rest) := by
  simp only [readNumber, written.read .truncated follows, bind, Except.bind, inRange]

theorem skipNumber_append {n : Numeral} {cs rest : List Char} (written : NumeralText n cs)
    (follows : Follows rest) : skipNumber (cs ++ rest) = .ok rest := by
  simp only [skipNumber, written.read .malformed follows, bind, Except.bind]

end Stencil.Json
