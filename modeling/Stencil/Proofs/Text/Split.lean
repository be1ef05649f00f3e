import Stencil.Text.OsText
import Stencil.Text.Search

namespace Stencil

variable {α β : Type}

theorem splitOnP_map (f : β → α) (p : α → Bool) (cs : List β) :
    (cs.map f).splitOnP p = (cs.splitOnP (p ∘ f)).map (List.map f) := by
  induction cs with
  | nil => simp
  | cons c cs ih =>
    rw [List.map_cons, List.splitOnP_cons_eq_if_modifyHead, List.splitOnP_cons_eq_if_modifyHead, ih]
    by_cases here : p (f c) = true
    · simp [here]
    · cases split : cs.splitOnP (p ∘ f) with
      | nil => exact absurd split (List.splitOnP_ne_nil _ _)
      | cons part parts => simp [here]

theorem flatMap_splitOnP (p q : α → Bool) (cs : List α) :
    (cs.splitOnP p).flatMap (List.splitOnP q) = cs.splitOnP fun c => p c || q c := by
  induction cs with
  | nil => simp
  | cons c cs ih =>
    rw [List.splitOnP_cons_eq_if_modifyHead, List.splitOnP_cons_eq_if_modifyHead, ← ih]
    by_cases first : p c = true
    · simp [first]
    · cases split : cs.splitOnP p with
      | nil => exact absurd split (List.splitOnP_ne_nil _ _)
      | cons part parts =>
        by_cases second : q c = true
        · simp [first, second, List.splitOnP_cons_eq_if_modifyHead]
        · cases inner : part.splitOnP q with
          | nil => exact absurd inner (List.splitOnP_ne_nil _ _)
          | cons piece pieces => simp [first, second, List.splitOnP_cons_eq_if_modifyHead, inner]

/-- A list that stands between separators, or at an end, and has none inside. -/
structure Between (p : α → Bool) (part cs : List α) : Prop where
  clean : ∀ c ∈ part, p c = false
  placed : ∃ before after, cs = before ++ part ++ after ∧
    (∀ c ∈ before.getLast?, p c = true) ∧ ∀ c ∈ after.head?, p c = true

theorem Between.later {p : α → Bool} {part cs : List α} (between : Between p part cs)
    (first : List α) {sep : α} (separates : p sep = true) :
    Between p part (first ++ sep :: cs) := by
  obtain ⟨before, after, rfl, ended, begun⟩ := between.placed
  refine ⟨between.clean, first ++ sep :: before, after, by simp, ?_, begun⟩
  intro c last
  cases before with
  | nil =>
    have same : sep = c := by simpa using last
    rw [← same]
    exact separates
  | cons b bs =>
    have lastToo : c ∈ (b :: bs).getLast? := by simpa [List.getLast?_append] using last
    exact ended c lastToo

theorem between_of_mem {p : α → Bool} {part : List α} (first cs : List α)
    (clean : ∀ c ∈ first, p c = false) (member : part ∈ (first ++ cs).splitOnP p) :
    Between p part (first ++ cs) := by
  induction cs generalizing first with
  | nil =>
    rw [List.append_nil] at member ⊢
    rw [List.splitOnP_eq_singleton clean] at member
    obtain rfl := List.mem_singleton.mp member
    exact ⟨clean, [], [], by simp, nofun, nofun⟩
  | cons c cs ih =>
    by_cases separates : p c = true
    · rw [List.splitOnP_append_cons_of_forall_mem clean c separates] at member
      rcases List.mem_cons.mp member with rfl | among
      · refine ⟨clean, [], c :: cs, rfl, nofun, ?_⟩
        intro next head
        cases head
        exact separates
      · exact (ih [] nofun among).later first separates
    · rw [List.append_cons] at member ⊢
      refine ih (first ++ [c]) (fun d inside => ?_) member
      rcases List.mem_append.mp inside with early | last
      · exact clean d early
      · obtain rfl := List.mem_singleton.mp last
        exact Bool.eq_false_iff.mpr separates

theorem mem_splitOnP (p : α → Bool) (part cs : List α) :
    part ∈ cs.splitOnP p ↔ Between p part cs := by
  constructor
  · exact between_of_mem [] cs nofun
  · rintro ⟨clean, before, after, rfl, ended, begun⟩
    have tail : part ∈ (part ++ after).splitOnP p := by
      cases after with
      | nil =>
        rw [List.append_nil, List.splitOnP_eq_singleton clean]
        exact List.mem_singleton_self part
      | cons sep later =>
        rw [List.splitOnP_append_cons_of_forall_mem clean sep (begun sep rfl)]
        exact List.mem_cons_self
    rcases List.eq_nil_or_concat before with rfl | ⟨first, sep, rfl⟩
    · exact tail
    · have separates : p sep = true := ended sep (by simp)
      have member := List.mem_append_right (first.splitOnP p) tail
      rw [← List.splitOnP_append_cons first _ separates] at member
      simpa using member

namespace Text

theorem piecesFrom_eq (sep : Char) (cs : List Char) :
    piecesFrom [sep] 0 cs = cs.splitOnP (· == sep) := by
  induction cs with
  | nil => rfl
  | cons c cs ih =>
    rw [List.splitOnP_cons_eq_if_modifyHead, ← ih]
    by_cases same : c = sep
    · simp [piecesFrom, same]
    · have differ : ¬sep = c := Ne.symm same
      cases pieces : piecesFrom [sep] 0 cs with
      | nil =>
        rw [ih] at pieces
        exact absurd pieces (List.splitOnP_ne_nil _ _)
      | cons piece rest => simp [piecesFrom, same, differ, pieces]

theorem splitChar_eq (sep : Char) (s : String) :
    splitChar sep s = (s.toList.splitOnP (· == sep)).map String.ofList := by
  rw [splitChar, piecesFrom_eq]

end Text

namespace OsText

theorem split_eq (sep : Char) (t : OsText) : split sep t = t.splitOnP (· == .char sep) := by
  induction t with
  | nil => simp
  | cons u us ih =>
    rw [List.splitOnP_cons_eq_if_modifyHead, ← ih]
    by_cases same : u = .char sep
    · simp [same]
    · cases parts : split sep us with
      | nil => exact absurd parts (split_ne_nil sep us)
      | cons part rest => simp [split, same, parts]

theorem split_append (sep : Char) (left right : OsText) :
    split sep (left ++ .char sep :: right) = split sep left ++ split sep right := by
  rw [split_eq, split_eq, split_eq]
  exact List.splitOnP_append_cons left right (beq_self_eq_true _)

theorem split_ofString (sep : Char) (s : String) :
    split sep (ofString s) = (Text.splitChar sep s).map ofString := by
  have units : (fun u : OsChar => u == .char sep) ∘ OsChar.char = fun c => c == sep := by
    funext c
    rw [Bool.eq_iff_iff, Function.comp_apply, beq_iff_eq, beq_iff_eq, OsChar.char.injEq]
  rw [split_eq, ofString, splitOnP_map, units, Text.splitChar_eq, List.map_map]
  simp only [ofString, Function.comp_def, String.toList_ofList]

end OsText

end Stencil
