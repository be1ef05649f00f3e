import Stencil.Proofs.Text.Split

namespace Stencil.Text

theorem intercalate_splitOnP (c : Char) (new cs : List Char) :
    new.intercalate (cs.splitOnP (· == c)) = cs.flatMap fun d => if d = c then new else [d] := by
  induction cs with
  | nil => simp
  | cons d cs ih =>
    rw [List.splitOnP_cons_eq_if_modifyHead, List.flatMap_cons, ← ih]
    have parts := List.splitOnP_ne_nil (· == c) cs
    by_cases same : d = c
    · simp [same, List.intercalate_cons_of_ne_nil parts]
    · obtain ⟨part, rest, split⟩ := List.exists_cons_of_ne_nil parts
      cases rest <;> simp [same, split]

theorem toList_replace (s new : String) (c : Char) :
    (replace s (String.singleton c) new).toList =
      s.toList.flatMap fun d => if d = c then new.toList else [d] := by
  have cut : pieces [c] s.toList = s.toList.splitOnP (· == c) := piecesFrom_eq c s.toList
  rw [replace, joinWith, String.toList_intercalate, split, String.toList_singleton, cut,
    List.map_map, ← intercalate_splitOnP]
  simp [Function.comp_def]

def expand : List (Char × String) → Char → List Char
  | [], c => [c]
  | (d, new) :: rest, c => (if c = d then new.toList else [c]).flatMap (expand rest)

theorem toList_replaceAll (replaced : List (Char × String)) (s : String) :
    (replaced.foldl (fun s pair => replace s (String.singleton pair.1) pair.2) s).toList =
      s.toList.flatMap (expand replaced) := by
  induction replaced generalizing s with
  | nil => exact (List.flatMap_singleton' s.toList).symm
  | cons pair rest ih =>
    obtain ⟨c, new⟩ := pair
    rw [List.foldl_cons, ih, toList_replace, List.flatMap_assoc]
    rfl

theorem expand_of_notMem {replaced : List (Char × String)} {c : Char}
    (kept : c ∉ replaced.map Prod.fst) : expand replaced c = [c] := by
  induction replaced with
  | nil => rfl
  | cons pair rest ih =>
    obtain ⟨d, new⟩ := pair
    rw [List.map_cons, List.mem_cons, not_or] at kept
    rw [expand, if_neg kept.1, List.flatMap_cons, ih kept.2]
    rfl

theorem piecesFrom_absent {c : Char} {pattern cs : List Char} (absent : c ∉ cs) :
    piecesFrom (c :: pattern) 0 cs = [cs] := by
  induction cs with
  | nil => rfl
  | cons d cs ih =>
    rw [List.mem_cons, not_or] at absent
    simp [piecesFrom, ih absent.2, absent.1]

theorem replace_absent {s old new : String} {c : Char} {rest : List Char}
    (begins : old.toList = c :: rest) (absent : c ∉ s.toList) : replace s old new = s := by
  simp [replace, split, pieces, begins, piecesFrom_absent absent, joinWith]

theorem mem_intercalate {c : Char} {sep : String} (apart : c ∉ sep.toList) (parts : List String) :
    c ∈ (sep.intercalate parts).toList ↔ ∃ part ∈ parts, c ∈ part.toList := by
  induction parts with
  | nil => simp
  | cons part rest ih =>
    cases rest with
    | nil => simp
    | cons next rest =>
      rw [String.intercalate_cons_cons, String.toList_append, String.toList_append, List.mem_append,
        List.mem_append, ih]
      simp [apart]

end Stencil.Text
