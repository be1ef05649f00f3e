import Stencil.Json.Shape
import Stencil.Proofs.Json.Reading

namespace Stencil.Json

def shaped {α : Type} (found : Option α) (rest : List Char) : Except Fault (α × List Char) :=
  match found with
  | some x => .ok (x, rest)
  | none => .error .mismatched

def Value.strings? (v : Value) : Option (List String) :=
  v.array?.bind (·.mapM Value.string?)

theorem strings?_ofStrings (ss : List String) : (Value.ofStrings ss).strings? = some ss := by
  induction ss with
  | nil => rfl
  | cons s ss ih =>
    simp only [Value.strings?, Value.ofStrings, Value.array?, Option.bind_some] at ih ⊢
    simp [Value.string?, ih]

theorem strings?_eq_some {v : Value} {ss : List String} (texts : v.strings? = some ss) :
    v = .ofStrings ss := by
  cases v with
  | array items =>
    simp only [Value.strings?, Value.array?, Option.bind_some] at texts
    simp only [Value.ofStrings, Value.array.injEq]
    induction items generalizing ss with
    | nil =>
      obtain rfl : ss = [] := by simpa using texts.symm
      rfl
    | cons item items ih =>
      simp only [List.mapM_cons, Option.bind_eq_bind, Option.bind_eq_some_iff, Option.pure_def,
        Option.some.injEq] at texts
      obtain ⟨s, isText, others, isTexts, rfl⟩ := texts
      rw [ih isTexts, List.map_cons]
      cases item <;> simp_all [Value.string?]
  | null | bool | number | string | object => cases texts

theorem string?_eq_some {v : Value} {s : String} (text : v.string? = some s) : v = .string s := by
  cases v with
  | string t => simpa [Value.string?] using text
  | null | bool | number | array | object => cases text

theorem mismatchAt_value {v : Value} {cs : List Char} (written : Spells (.value v) cs)
    {rest : List Char} (follows : Follows rest) : mismatchAt (cs ++ rest) = .mismatched := by
  cases written with
  | null | yes | no | array | object => rfl
  | @string s cs written =>
    have read := written.read rest
    simp [mismatchAt, read]
  | number written inRange =>
    have read := readNumber_append written inRange follows
    obtain ⟨c, others, rfl, numeral⟩ := written.head
    obtain ⟨solid, isNull, isTrue, isFalse, isString, isArray, isObject⟩ := numeral_distinct numeral
    simp only [List.cons_append] at read ⊢
    simp [mismatchAt, numeral, read]

theorem Spells.ne_quote {v : Value} {c : Char} {cs : List Char}
    (written : Spells (.value v) (c :: cs)) (other : v.string? = none) : c ≠ '"' := by
  cases written with
  | number written inRange =>
    obtain ⟨_, _, same, numeral⟩ := written.head
    cases same
    exact (numeral_distinct numeral).2.2.2.2.1
  | string written => cases other
  | null | yes | no | array | object => decide

theorem Spells.ne_bracket {v : Value} {c : Char} {cs : List Char}
    (written : Spells (.value v) (c :: cs)) (other : v.array? = none) : c ≠ '[' := by
  cases written with
  | number written inRange =>
    obtain ⟨_, _, same, numeral⟩ := written.head
    cases same
    exact (numeral_distinct numeral).2.2.2.2.2.1
  | array inside => cases other
  | null | yes | no | string | object => decide

theorem wantString_gap {gap : List Char} (blank : Blank gap) (cs : List Char) :
    wantString (gap ++ cs) = wantString cs := by
  simp only [wantString, skipSpace_append blank]

theorem wantString_value {v : Value} {cs : List Char} (written : Spells (.value v) cs)
    {rest : List Char} (follows : Follows rest) :
    wantString (cs ++ rest) = shaped v.string? rest := by
  have mismatched := mismatchAt_value written follows
  obtain ⟨c, others, rfl, begins⟩ := written.begins
  cases found : v.string? with
  | none =>
    have quote := written.ne_quote found
    simp only [List.cons_append] at mismatched ⊢
    rw [wantString, skipSpace_cons begins.solid]
    split
    · rename_i same
      cases same
      exact absurd rfl quote
    · rw [mismatched, shaped]
  | some s =>
    obtain rfl := string?_eq_some found
    cases written with
    | @string s cs written =>
      have read := written.read rest
      simp only [List.cons_append, List.append_assoc, List.nil_append]
      rw [wantString, skipSpace_cons begins.solid]
      simp [read, shaped, bind, Except.bind]

theorem wantStringItems_items {vs : List Value} {first : Bool} {cs : List Char}
    (written : Spells (.items first vs) cs) {bound : Nat} (enough : cs.length ≤ bound)
    (rest : List Char) :
    wantStringItems bound first (cs ++ rest) = shaped (vs.mapM Value.string?) rest := by
  have positive := written.length_pos
  obtain ⟨bound, rfl⟩ : ∃ b, bound = b + 1 := ⟨bound - 1, by omega⟩
  induction vs generalizing first cs bound with
  | nil =>
    cases written with
    | noItem blank =>
      have closed := listSeparator_closed blank first rest
      simp [wantStringItems, closed, shaped]
  | cons v vs ih =>
    have items : ∀ {cs : List Char}, Spells (.items true (v :: vs)) cs → cs.length ≤ bound + 1 →
        wantStringItems (bound + 1) true (cs ++ rest) =
          shaped ((v :: vs).mapM Value.string?) rest := by
      intro cs written enough
      cases written with
      | @item _ _ gap cs others blank head tail =>
        have headPositive := head.length_pos
        have tailPositive := tail.length_pos
        simp only [List.length_append] at enough
        have wanted := wantString_value head (tail.follows_items rest)
        obtain ⟨bound, rfl⟩ : ∃ b, bound = b + 1 := ⟨bound - 1, by omega⟩
        have tailRead := ih tail tailPositive bound (by omega)
        obtain ⟨c, cs, rfl, begins⟩ := head.begins
        have next := listSeparator_first blank begins (cs ++ (others ++ rest))
        simp only [List.append_assoc, List.cons_append] at wanted ⊢
        rw [wantStringItems, next, List.mapM_cons]
        cases text : v.string? with
        | none => simp [wanted, text, shaped, bind, Except.bind]
        | some s =>
          cases texts : vs.mapM Value.string? <;>
            simp [wanted, text, tailRead, texts, shaped, bind, Except.bind]
    cases written with
    | item blank head tail => exact items (.item blank head tail) enough
    | @nextItem _ _ gap cs blank others =>
      cases others with
      | @item _ _ gap' cs others blank' head tail =>
        simp only [List.length_append, List.length_cons] at enough
        have read := items (.item blank' head tail) (by simp only [List.length_append]; omega)
        obtain ⟨c, cs, rfl, begins⟩ := head.begins
        have next := listSeparator_comma blank blank' begins (cs ++ (others ++ rest))
        simp only [List.append_assoc, List.cons_append] at read ⊢
        rw [← read, wantStringItems, wantStringItems, next]

theorem wantStrings_value {v : Value} {gap cs : List Char} (blank : Blank gap)
    (written : Spells (.value v) cs) {rest : List Char} (follows : Follows rest) :
    wantStrings (gap ++ (cs ++ rest)) = shaped v.strings? rest := by
  have mismatched := mismatchAt_value written follows
  obtain ⟨c, others, rfl, begins⟩ := written.begins
  rw [wantStrings, skipSpace_append blank]
  simp only [List.cons_append] at mismatched ⊢
  rw [skipSpace_cons begins.solid]
  cases found : v.array? with
  | none =>
    have bracket := written.ne_bracket found
    have other : v.strings? = none := by rw [Value.strings?, found, Option.bind_none]
    rw [other]
    split
    · rename_i same
      cases same
      exact absurd rfl bracket
    · rw [mismatched, shaped]
  | some items =>
    cases written with
    | array inside =>
      cases found
      have enough : others.length ≤ depthFor (gap ++ '[' :: (others ++ rest)) := by
        simp only [depthFor, List.length_append, List.length_cons]
        omega
      exact wantStringItems_items inside enough rest
    | null | yes | no | number | string | object => cases found

end Stencil.Json
