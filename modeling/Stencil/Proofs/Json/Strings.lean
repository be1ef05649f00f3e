import Stencil.Proofs.Json.Grammar

namespace Stencil.Json

theorem lessThanFourBytes_four (a b c d : Char) (rest : List Char) :
    lessThanFourBytes (a :: b :: c :: d :: rest) = false := by
  have ha := a.utf8Size_pos
  have hb := b.utf8Size_pos
  have hc := c.utf8Size_pos
  have hd := d.utf8Size_pos
  simp only [lessThanFourBytes, List.take_succ_cons, List.take_zero, String.ofList_cons,
    String.ofList_nil, String.utf8ByteSize_append, String.utf8ByteSize_singleton,
    String.utf8ByteSize_empty, decide_eq_false_iff_not]
  omega

theorem UnitText.digits {n : Nat} {ds : List Char} (unit : UnitText n ds) :
    ∃ a b c d w x y z, ds = [a, b, c, d] ∧ hexValue? a = some w ∧ hexValue? b = some x ∧
      hexValue? c = some y ∧ hexValue? d = some z ∧ n = (((w * 16 + x) * 16 + y) * 16 + z) := by
  obtain ⟨four, number⟩ := unit
  match ds, four with
  | [a, b, c, d], _ =>
    simp only [hexNumber?, List.foldlM_cons, List.foldlM_nil, Option.bind_eq_bind,
      Option.bind_eq_some_iff, Option.map_eq_some_iff, Option.pure_def, Option.some.injEq] at number
    obtain ⟨_, ⟨w, hw, rfl⟩, _, ⟨x, hx, rfl⟩, _, ⟨y, hy, rfl⟩, _, ⟨z, hz, rfl⟩, rfl⟩ := number
    exact ⟨a, b, c, d, w, x, y, z, rfl, hw, hx, hy, hz, by omega⟩

theorem readStringFrom_unit {n : Nat} {ds : List Char} (unit : UnitText n ds) (high : Option Nat)
    (rest : List Char) :
    readStringFrom (.digits 4 0 high) (ds ++ rest) =
      match unitMeaning high n with
      | .error fault => .error fault
      | .ok (.inr high) => readStringFrom (.betweenUnits high) rest
      | .ok (.inl d) => readStringFrom .plain rest >>= fun read => .ok (d :: read.1, read.2) := by
  obtain ⟨a, b, c, d, w, x, y, z, rfl, hw, hx, hy, hz, rfl⟩ := unit.digits
  rcases meaning : unitMeaning high (((w * 16 + x) * 16 + y) * 16 + z) with fault | (c | h) <;>
    simp [readStringFrom, hw, hx, hy, hz, meaning]

theorem skipStringFrom_unit {n : Nat} {ds : List Char} (unit : UnitText n ds) (rest : List Char) :
    skipStringFrom (.digits 4 0 none) (ds ++ rest) = skipStringFrom .plain rest := by
  obtain ⟨a, b, c, d, w, x, y, z, rfl, hw, hx, hy, hz, -⟩ := unit.digits
  simp [skipStringFrom, hw, hx, hy, hz]

theorem lessThanFourBytes_unit {n : Nat} {ds : List Char} (unit : UnitText n ds)
    (rest : List Char) : lessThanFourBytes (ds ++ rest) = false := by
  obtain ⟨a, b, c, d, _, _, _, _, rfl, -⟩ := unit.digits
  exact lessThanFourBytes_four a b c d rest

theorem simpleEscape?_u : simpleEscape? 'u' = none := rfl

theorem CharText.read {c : Char} {text : List Char} (written : CharText c text)
    (rest : List Char) :
    readStringFrom .plain (text ++ rest) =
      readStringFrom .plain rest >>= fun read => .ok (c :: read.1, read.2) := by
  cases written with
  | plain free =>
    obtain ⟨quote, slash, large⟩ := free
    have sound : ¬c.toNat < 0x20 := Nat.not_lt.mpr large
    simp [readStringFrom, quote, slash, sound]
  | @short letter _ stands =>
    have other : letter ≠ 'u' := fun same => by simp [same, simpleEscape?_u] at stands
    simp [readStringFrom, other, stands]
  | unit number low high =>
    simp only [List.cons_append]
    rw [readStringFrom, if_neg (by decide), if_pos rfl, readStringFrom, if_pos rfl,
      lessThanFourBytes_unit number, if_neg (by decide), readStringFrom_unit number]
    simp [unitMeaning, low, high]
  | @pair h l ds es first second high low =>
    have notLow : isLowUnit h = false := by
      simp only [isHighUnit, Bool.and_eq_true, decide_eq_true_eq] at high
      simp only [isLowUnit, Bool.and_eq_false_iff, decide_eq_false_iff_not]
      omega
    simp only [List.cons_append, List.append_assoc]
    rw [readStringFrom, if_neg (by decide), if_pos rfl, readStringFrom, if_pos rfl,
      lessThanFourBytes_unit first, if_neg (by decide), readStringFrom_unit first]
    simp only [unitMeaning, notLow, high]
    simp only [Bool.false_eq_true, if_false, if_true]
    rw [readStringFrom, if_pos rfl, readStringFrom, if_pos rfl, lessThanFourBytes_unit second,
      if_neg (by decide), readStringFrom_unit second]
    simp [unitMeaning, low]

theorem CharText.skip {c : Char} {text : List Char} (written : CharText c text)
    (rest : List Char) : skipStringFrom .plain (text ++ rest) = skipStringFrom .plain rest := by
  cases written with
  | plain free =>
    obtain ⟨quote, slash, large⟩ := free
    have sound : ¬c.toNat < 0x20 := Nat.not_lt.mpr large
    simp [skipStringFrom, quote, slash, sound]
  | @short letter _ stands =>
    have other : letter ≠ 'u' := fun same => by simp [same, simpleEscape?_u] at stands
    simp [skipStringFrom, other, stands]
  | unit number low high =>
    simp [skipStringFrom, lessThanFourBytes_unit number, skipStringFrom_unit number]
  | pair first second high low =>
    simp [skipStringFrom, lessThanFourBytes_unit first, skipStringFrom_unit first,
      lessThanFourBytes_unit second, skipStringFrom_unit second]

theorem StringText.read {s text : List Char} (written : StringText s text) (rest : List Char) :
    readString (text ++ '"' :: rest) = .ok (s, rest) := by
  induction written with
  | nil => simp [readString, readStringFrom]
  | cons first others ih =>
    rw [readString] at ih ⊢
    rw [List.append_assoc, first.read, ih]
    rfl

theorem StringText.skip {s text : List Char} (written : StringText s text) (rest : List Char) :
    skipString (text ++ '"' :: rest) = .ok rest := by
  induction written with
  | nil => simp [skipString, skipStringFrom]
  | cons first others ih =>
    rw [skipString] at ih ⊢
    rw [List.append_assoc, first.skip, ih]

end Stencil.Json
