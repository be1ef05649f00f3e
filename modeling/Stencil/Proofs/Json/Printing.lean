import Stencil.Json.Printer
import Stencil.Proofs.Json.Grammar
import Stencil.Proofs.Text.Split

namespace Stencil.Json

theorem unitText_control : ∀ n < 0x20,
    UnitText n (List.replicate (4 - (Text.hexDigits n).length) '0' ++ Text.hexDigits n) := by
  unfold UnitText
  decide

theorem charText_escapeChar (c : Char) : CharText c (escapeChar c) := by
  unfold escapeChar
  split
  · exact .short rfl
  · exact .short rfl
  · exact .short rfl
  · exact .short rfl
  · exact .short rfl
  · exact .short rfl
  · exact .short rfl
  · rename_i quote slash _ _ _ _ _
    split
    · rename_i control
      have written : CharText (Char.ofNat c.toNat) (controlEscape c) := by
        refine .unit (unitText_control c.toNat control) ?_ ?_
        · simp only [isLowUnit, Bool.and_eq_false_iff, decide_eq_false_iff_not]
          omega
        · simp only [isHighUnit, Bool.and_eq_false_iff, decide_eq_false_iff_not]
          omega
      rwa [Char.ofNat_toNat] at written
    · rename_i large
      exact .plain ⟨quote, slash, Nat.not_lt.mp large⟩

theorem stringText_flatMap (cs : List Char) : StringText cs (cs.flatMap escapeChar) := by
  induction cs with
  | nil => exact .nil
  | cons c cs ih => exact .cons (charText_escapeChar c) ih

theorem spells_string (s : String) : Spells (.value (.string s)) (stringText s) := by
  have written := Spells.string (stringText_flatMap s.toList)
  rwa [String.ofList_toList] at written

theorem digits_toDigits (n : Nat) : Digits (Nat.toDigits 10 n) :=
  ⟨Nat.toDigits_ne_nil, fun _ member => Nat.isDigit_of_mem_toDigits (by decide) (by decide) member⟩

theorem digitChar_ne_zero : ∀ n < 10, 0 < n → n.digitChar ≠ '0' := by
  decide

theorem head_toDigits {n : Nat} (positive : 0 < n) : (Nat.toDigits 10 n).head? ≠ some '0' := by
  induction n using Nat.strongRecOn with
  | _ n ih =>
    by_cases small : n < 10
    · rw [Nat.toDigits_of_lt_base small]
      have other := digitChar_ne_zero n small positive
      simpa using other
    · rw [Nat.toDigits_of_base_le (by decide) (by omega)]
      have nonempty : Nat.toDigits 10 (n / 10) ≠ [] := Nat.toDigits_ne_nil
      obtain ⟨d, ds, same⟩ := List.exists_cons_of_ne_nil nonempty
      have other := ih (n / 10) (by omega) (by omega)
      rw [same] at other ⊢
      exact other

theorem wholeText_toDigits (n : Nat) : WholeText (Nat.toDigits 10 n) := by
  refine ⟨digits_toDigits n, fun zero => ?_⟩
  rcases Nat.eq_zero_or_pos n with rfl | positive
  · rfl
  · exact absurd zero (head_toDigits positive)

theorem le_ofDigitChars (ds : List Char) (start : Nat) : start ≤ Nat.ofDigitChars 10 ds start := by
  induction ds generalizing start with
  | nil => simp
  | cons d ds ih =>
    rw [Nat.ofDigitChars_cons]
    exact Nat.le_trans (by omega) (ih _)

theorem fittingDigits_eq {ds : List Char} {start : Nat}
    (fits : Nat.ofDigitChars 10 ds start < Number.unsignedLimit) :
    fittingDigits start ds = (Nat.ofDigitChars 10 ds start, 0) := by
  induction ds generalizing start with
  | nil => simp [fittingDigits]
  | cons d ds ih =>
    rw [Nat.ofDigitChars_cons] at fits ⊢
    have next : start * 10 + digitValue d = 10 * start + (d.toNat - '0'.toNat) := by
      rw [digitValue, Nat.mul_comm]
    have below := Nat.lt_of_le_of_lt (le_ofDigitChars ds _) fits
    rw [fittingDigits, next, if_pos below, ih fits]

theorem fittingDigits_toDigits {n : Nat} (fits : n < Number.unsignedLimit) :
    fittingDigits 0 (Nat.toDigits 10 n) = (n, 0) := by
  have same := Nat.ofDigitChars_ten_toDigits (n := n)
  rw [fittingDigits_eq (by rw [same]; exact fits), same]

theorem numeralText_toDigits (negative : Bool) (n : Nat) :
    NumeralText ⟨negative, Nat.toDigits 10 n, none, none⟩
      ((if negative then ['-'] else []) ++ Nat.toDigits 10 n) := by
  have written := @NumeralText.mk negative _ _ _ _ _ (wholeText_toDigits n) .none .none
  simpa using written

theorem intText_ofNat (n : Nat) : intText (Int.ofNat n) = Nat.toDigits 10 n := by
  show (Nat.repr n).toList = _
  exact Nat.toList_repr

theorem intText_negSucc (n : Nat) :
    intText (Int.negSucc n) = '-' :: Nat.toDigits 10 (n + 1) := by
  show ("-" ++ Nat.repr (n + 1)).toList = _
  simp

theorem spells_int (n : Whole) : Spells (.value (.number (.int n))) (intText n) := by
  obtain ⟨n, least, greatest⟩ := n
  cases n with
  | ofNat n =>
    have fits : n < Number.unsignedLimit := by simpa using greatest
    have whole : Whole.ofInt? n = some ⟨n, least, greatest⟩ := Whole.ofInt?_eq least greatest
    have value : Numeral.value? ⟨false, Nat.toDigits 10 n, none, none⟩ =
        (Whole.ofInt? n).map .int := by
      simp [Numeral.value?, fittingDigits_toDigits fits]
    rw [intText_ofNat]
    refine .number (numeralText_toDigits false n) ?_
    rw [value, whole]
    rfl
  | negSucc n =>
    have small : n + 1 ≤ Number.signedLimit := by omega
    have fits : n + 1 < Number.unsignedLimit := Nat.lt_of_le_of_lt small (by decide)
    have notLarger : ¬Number.signedLimit < n + 1 := Nat.not_lt.mpr small
    have whole : Whole.ofInt? (-(n + 1 : Nat)) = some ⟨Int.negSucc n, least, greatest⟩ :=
      Whole.ofInt?_eq least greatest
    have value : Numeral.value? ⟨true, Nat.toDigits 10 (n + 1), none, none⟩ =
        (Whole.ofInt? (-(n + 1 : Nat))).map .int := by
      simp [Numeral.value?, fittingDigits_toDigits fits, notLarger]
    rw [intText_negSucc]
    refine .number (numeralText_toDigits true (n + 1)) ?_
    rw [value, whole]
    rfl

namespace Value

mutual

def Exact : Value → Prop
  | .number (.float _ _) => False
  | .array items => ExactItems items
  | .object members => ExactMembers members
  | _ => True

def ExactItems : List Value → Prop
  | [] => True
  | v :: vs => v.Exact ∧ ExactItems vs

def ExactMembers : List (String × Value) → Prop
  | [] => True
  | (_, v) :: ms => v.Exact ∧ ExactMembers ms

end

end Value

theorem blank_nil : Blank [] := nofun

theorem spells_item {v : Value} {vs : List Value} {cs rest : List Char}
    (head : Spells (.value v) cs) (others : Spells (.items false vs) rest) :
    Spells (.items true (v :: vs)) (cs ++ rest) :=
  .item blank_nil head others

theorem spells_member {name : String} {v : Value} {ms : List (String × Value)}
    {cs rest : List Char} (head : Spells (.value v) cs) (others : Spells (.members false ms) rest) :
    Spells (.members true ((name, v) :: ms)) (stringText name ++ ':' :: (cs ++ rest)) := by
  have named := stringText_flatMap name.toList
  have written := Spells.member blank_nil named blank_nil blank_nil head others
  simpa [stringText] using written

mutual

theorem spells_text (v : Value) (sound : v.Exact) : Spells (.value v) v.text := by
  match v with
  | .null => exact .null
  | .bool true => exact .yes
  | .bool false => exact .no
  | .number (.int n) => exact spells_int n
  | .string s => exact spells_string s
  | .array items => exact .array (spells_itemsText items sound)
  | .object members => exact .object (spells_membersText members sound)

theorem spells_itemsText (vs : List Value) (sound : Value.ExactItems vs) :
    Spells (.items true vs) (Value.itemsText vs) := by
  match vs with
  | [] => exact .noItem blank_nil
  | [v] => exact spells_item (spells_text v sound.1) (.noItem blank_nil)
  | v :: w :: vs =>
    have others := spells_itemsText (w :: vs) sound.2
    exact spells_item (spells_text v sound.1) (.nextItem blank_nil others)

theorem spells_membersText (ms : List (String × Value)) (sound : Value.ExactMembers ms) :
    Spells (.members true ms) (Value.membersText ms) := by
  match ms with
  | [] => exact .noMember blank_nil
  | [(_, v)] => exact spells_member (spells_text v sound.1) (.noMember blank_nil)
  | (_, v) :: m :: ms =>
    have others := spells_membersText (m :: ms) sound.2
    exact spells_member (spells_text v sound.1) (.nextMember blank_nil others)

end

theorem objectText_print {ms : List (String × Value)} (sound : Value.ExactMembers ms) :
    ObjectText (Value.object ms).print ms := by
  have written := spells_text (.object ms) sound
  exact ⟨[], _, [], blank_nil, blank_nil, written, by simp [Value.print]⟩

theorem exact_ofStrings (ss : List String) : (Value.ofStrings ss).Exact := by
  induction ss with
  | nil => trivial
  | cons s ss ih => exact ⟨trivial, ih⟩

def Clean (cs : List Char) : Prop :=
  ∀ c ∈ cs, 0x20 ≤ c.toNat

instance (cs : List Char) : Decidable (Clean cs) :=
  decidable_of_iff (cs.all fun c => 0x20 ≤ c.toNat) (by simp [Clean])

theorem clean_nil : Clean [] := nofun

theorem clean_cons {c : Char} {cs : List Char} (head : 0x20 ≤ c.toNat) (tail : Clean cs) :
    Clean (c :: cs) := by
  intro d member
  rcases List.mem_cons.mp member with rfl | inside
  · exact head
  · exact tail d inside

theorem clean_append {left right : List Char} (cleanLeft : Clean left) (cleanRight : Clean right) :
    Clean (left ++ right) := by
  intro c member
  rcases List.mem_append.mp member with inside | inside
  · exact cleanLeft c inside
  · exact cleanRight c inside

theorem clean_control : ∀ n < 0x20,
    Clean (List.replicate (4 - (Text.hexDigits n).length) '0' ++ Text.hexDigits n) := by
  decide

theorem clean_escapeChar (c : Char) : Clean (escapeChar c) := by
  unfold escapeChar
  split
  case h_8 =>
    split
    · rename_i control
      exact clean_cons (by decide) (clean_cons (by decide) (clean_control c.toNat control))
    · rename_i large
      exact clean_cons (Nat.not_lt.mp large) clean_nil
  all_goals exact clean_cons (by decide) (clean_cons (by decide) clean_nil)

theorem clean_stringText (s : String) : Clean (stringText s) := by
  refine clean_cons (by decide) (clean_append ?_ (clean_cons (by decide) clean_nil))
  intro d member
  obtain ⟨c, -, inside⟩ := List.mem_flatMap.mp member
  exact clean_escapeChar c d inside

theorem clean_toDigits (n : Nat) : Clean (Nat.toDigits 10 n) := by
  intro d member
  have digit := (digits_toDigits n).2 d member
  simp only [Char.isDigit, Bool.and_eq_true, decide_eq_true_eq, ge_iff_le] at digit
  have least : '0'.val.toNat ≤ d.val.toNat := UInt32.le_iff_toNat_le.mp digit.1
  exact Nat.le_trans (by decide) least

theorem clean_intText (n : Int) : Clean (intText n) := by
  cases n with
  | ofNat n =>
    rw [intText_ofNat]
    exact clean_toDigits n
  | negSucc n =>
    rw [intText_negSucc]
    exact clean_cons (by decide) (clean_toDigits (n + 1))

mutual

theorem clean_text (v : Value) (sound : v.Exact) : Clean v.text := by
  match v with
  | .null => exact (by decide : Clean ['n', 'u', 'l', 'l'])
  | .bool true => exact (by decide : Clean ['t', 'r', 'u', 'e'])
  | .bool false => exact (by decide : Clean ['f', 'a', 'l', 's', 'e'])
  | .number (.int n) => exact clean_intText n
  | .string s => exact clean_stringText s
  | .array items => exact clean_cons (by decide) (clean_itemsText items sound)
  | .object members => exact clean_cons (by decide) (clean_membersText members sound)

theorem clean_itemsText (vs : List Value) (sound : Value.ExactItems vs) :
    Clean (Value.itemsText vs) := by
  match vs with
  | [] => exact clean_cons (by decide) clean_nil
  | [v] => exact clean_append (clean_text v sound.1) (clean_cons (by decide) clean_nil)
  | v :: w :: vs =>
    have others := clean_itemsText (w :: vs) sound.2
    exact clean_append (clean_text v sound.1) (clean_cons (by decide) others)

theorem clean_membersText (ms : List (String × Value)) (sound : Value.ExactMembers ms) :
    Clean (Value.membersText ms) := by
  match ms with
  | [] => exact clean_cons (by decide) clean_nil
  | [(name, v)] =>
    have value : Clean (v.text ++ ['\x7d']) :=
      clean_append (clean_text v sound.1) (clean_cons (by decide) clean_nil)
    exact clean_append (clean_stringText name) (clean_cons (by decide) value)
  | (name, v) :: m :: ms =>
    have others := clean_membersText (m :: ms) sound.2
    have value : Clean (v.text ++ ',' :: Value.membersText (m :: ms)) :=
      clean_append (clean_text v sound.1) (clean_cons (by decide) others)
    exact clean_append (clean_stringText name) (clean_cons (by decide) value)

end

theorem lines_of_clean {text : String} (clean : Clean text.toList) (nonempty : text ≠ "") :
    Text.lines text = [text] := by
  have whole : text.toList.splitOnP (· == '\n') = [text.toList] := by
    refine List.splitOnP_eq_singleton fun c member => ?_
    rw [beq_eq_false_iff_ne]
    rintro rfl
    exact absurd (clean '\n' member) (by decide)
  have solid : text.toList ≠ [] := fun empty => nonempty (String.toList_eq_nil_iff.mp empty)
  simp [Text.lines, Text.piecesFrom_eq, whole, solid]

end Stencil.Json
