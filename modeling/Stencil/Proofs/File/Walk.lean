import Stencil.File.Tree
import Stencil.Proofs.Text.Split

namespace Stencil

namespace Path

variable {base p : Path}

theorem segments_ne_nil (p : Path) : p.segments ≠ [] :=
  OsText.split_ne_nil '/' p

theorem isAbsolute_join (relative : p.isAbsolute = false) :
    (join base p).isAbsolute = base.isAbsolute := by
  unfold join
  rw [relative, if_neg Bool.false_ne_true]
  cases base with
  | nil => exact relative
  | cons u us => split <;> rfl

end Path

namespace File

namespace Place

theorem walk_append (p : Place) (before after : List OsText) :
    p.walk (before ++ after) = (p.walk before).bind fun q => q.walk after := by
  induction before generalizing p with
  | nil => rfl
  | cons segment before ih =>
    simp only [List.cons_append, walk]
    cases step (.error .notFound) p segment with
    | error e => rfl
    | ok next => exact ih next

theorem walk_empty (p : Place) {segments : List OsText} (others : segments ≠ []) :
    p.walk ([] :: segments) = p.walk segments := by
  cases segments with
  | nil => exact absurd rfl others
  | cons segment segments =>
    obtain ⟨node, above⟩ := p
    cases node with
    | file content => rfl
    | dir entries => rfl

theorem walk_join (place : Place) (base : Path) {p : Path} (relative : p.isAbsolute = false) :
    place.walk (base.join p).segments =
      (place.walk base.segments).bind fun q => q.walk p.segments := by
  rw [← walk_append]
  unfold Path.join
  rw [relative, if_neg Bool.false_ne_true]
  split
  · rename_i bare
    rcases List.eq_nil_or_concat base with rfl | ⟨start, last, rfl⟩
    · exact (place.walk_empty p.segments_ne_nil).symm
    · rw [List.concat_eq_append] at bare ⊢
      have slash : last = .char '/' := by simpa [Path.slash] using bare
      have front : Path.segments (start ++ [last]) = Path.segments start ++ [[]] := by
        rw [slash]
        exact OsText.split_append '/' start []
      have whole : Path.segments (start ++ [last] ++ p) = Path.segments start ++ p.segments := by
        rw [slash, List.append_assoc]
        exact OsText.split_append '/' start p
      rw [front, whole, List.append_assoc, walk_append, walk_append]
      congr 1
      funext q
      exact (q.walk_empty p.segments_ne_nil).symm
  · exact congrArg place.walk (OsText.split_append '/' base p)

theorem walk_error {p : Place} {segments : List OsText} {e : Error}
    (failed : p.walk segments = .error e) :
    e = .notADirectory ∨ e = .nameTooLong ∨ e = .notFound := by
  induction segments generalizing p with
  | nil => cases failed
  | cons segment segments ih =>
    simp only [walk] at failed
    split at failed
    · rename_i stopped
      cases failed
      unfold step at stopped
      split at stopped
      · cases stopped
        exact .inl rfl
      · split at stopped
        · cases stopped
        · split at stopped
          · cases stopped
          · split at stopped
            · cases stopped
              exact .inr (.inl rfl)
            · split at stopped
              · cases stopped
              · cases stopped
                exact .inr (.inr rfl)
    · exact ih failed

end Place

namespace Node

def beneath (n : Node) : List OsText → Option Node
  | [] => some n
  | name :: names =>
    match n with
    | .file _ => none
    | .dir entries => (entries.lookup name).bind fun next => next.beneath names

def content? : Node → Option ByteArray
  | .file content => some content
  | .dir _ => none

/-- The same names lead to files of the same bytes, to directories, and to nothing. -/
def Same (n m : Node) : Prop :=
  ∀ names, (n.beneath names).map content? = (m.beneath names).map content?

theorem Same.refl (n : Node) : n.Same n := fun _ => rfl

theorem Same.content_eq {n m : Node} (same : n.Same m) : n.content? = m.content? :=
  Option.some.inj (same [])

theorem Same.lookup {entries others : List (OsText × Node)}
    (same : (dir entries).Same (dir others)) (name : OsText) :
    (entries.lookup name = none ∧ others.lookup name = none) ∨
      ∃ n m, entries.lookup name = some n ∧ others.lookup name = some m ∧ n.Same m := by
  have here := same [name]
  cases left : entries.lookup name with
  | none =>
    cases right : others.lookup name with
    | none => exact .inl ⟨rfl, rfl⟩
    | some m => simp [beneath, left, right] at here
  | some n =>
    cases right : others.lookup name with
    | none => simp [beneath, left, right] at here
    | some m =>
      refine .inr ⟨n, m, rfl, rfl, fun names => ?_⟩
      have deeper := same (name :: names)
      simpa only [beneath, left, right, Option.bind_some] using deeper

end Node

inductive Alike : Except Error Place → Except Error Place → Prop where
  | found {p q : Place} : p.node.Same q.node → Alike (.ok p) (.ok q)
  | failed (e : Error) : Alike (.error e) (.error e)

namespace Place

variable {p q : Place} {segment : OsText} {segments : List OsText}

theorem step_alike (same : p.node.Same q.node) (down : segment ≠ Path.dotDot) :
    Alike (step (.error .notFound) p segment) (step (.error .notFound) q segment) := by
  obtain ⟨node, above⟩ := p
  obtain ⟨other, aboveToo⟩ := q
  have kind := same.content_eq
  cases node with
  | file content =>
    cases other with
    | file content => exact .failed _
    | dir others => cases kind
  | dir entries =>
    cases other with
    | file content => cases kind
    | dir others =>
      simp only [step, if_neg down]
      split
      · exact .found same
      · split
        · exact .failed _
        · rcases same.lookup segment with ⟨left, right⟩ | ⟨n, m, left, right, deeper⟩
          · rw [left, right]
            exact .failed _
          · rw [left, right]
            exact .found deeper

theorem walk_alike (same : p.node.Same q.node) (down : Path.dotDot ∉ segments) :
    Alike (p.walk segments) (q.walk segments) := by
  induction segments generalizing p q with
  | nil => exact .found same
  | cons segment segments ih =>
    rw [List.mem_cons, not_or] at down
    have first := step_alike same (Ne.symm down.1)
    simp only [walk]
    generalize step (.error .notFound) p segment = here at first
    generalize step (.error .notFound) q segment = there at first
    cases first with
    | found next => exact ih next down.2
    | failed e => exact .failed e

end Place

namespace Tree

variable {t u : Tree} {p root : Path}

/-- Where a path leads, whether it may be opened or not. -/
def reach (t : Tree) (p : Path) : Except Error Place :=
  (t.start p).walk p.segments

theorem find_eq (t : Tree) (p : Path) :
    t.find p = (checkPath p).bind fun _ => (t.reach p).map Place.node := by
  unfold find reach
  cases checkPath p with
  | error e => rfl
  | ok _ => cases (t.start p).walk p.segments <;> rfl

theorem reach_join (t : Tree) (root : Path) (relative : p.isAbsolute = false) :
    t.reach (root.join p) = (t.reach root).bind fun q => q.walk p.segments := by
  have start : t.start (root.join p) = t.start root := by
    unfold Tree.start
    rw [Path.isAbsolute_join relative]
  rw [reach, start]
  exact Place.walk_join _ root relative

/-- A path leads to a directory with these entries. -/
def Opens (t : Tree) (p : Path) (entries : List (OsText × Node)) : Prop :=
  (t.reach p).map Place.node = .ok (.dir entries)

theorem opens_of_find {entries : List (OsText × Node)} (found : t.find p = .ok (.dir entries)) :
    t.Opens p entries := by
  rw [find_eq] at found
  cases checked : checkPath p with
  | error e =>
    rw [checked] at found
    cases found
  | ok _ =>
    rw [checked] at found
    exact found

theorem readText_alike (alike : Alike (t.reach p) (u.reach p)) : t.readText p = u.readText p := by
  unfold readText
  rw [find_eq, find_eq]
  cases checkPath p with
  | error e => rfl
  | ok _ =>
    generalize t.reach p = here at alike
    generalize u.reach p = there at alike
    cases alike with
    | failed e => rfl
    | @found q r same =>
      have kind := same.content_eq
      obtain ⟨node, above⟩ := q
      obtain ⟨other, aboveToo⟩ := r
      cases node <;> cases other <;> cases kind <;> rfl

theorem checkPath_error {e : Error} (failed : checkPath p = .error e) :
    e = .unexpectedNul ∨ e = .notFound ∨ e = .nameTooLong := by
  unfold checkPath at failed
  split at failed
  · cases failed
    exact .inl rfl
  · split at failed
    · cases failed
      exact .inr (.inl rfl)
    · split at failed
      · cases failed
        exact .inr (.inr rfl)
      · cases failed

theorem readText_error {e : Error} (failed : t.readText p = .error e) :
    e ∈ [.unexpectedNul, .notFound, .nameTooLong, .notADirectory, .isADirectory, .notText] := by
  unfold readText at failed
  rw [find_eq] at failed
  cases checked : checkPath p with
  | error fault =>
    rw [checked] at failed
    cases failed
    rcases checkPath_error checked with rfl | rfl | rfl <;> decide
  | ok _ =>
    rw [checked] at failed
    cases reached : t.reach p with
    | error fault =>
      rw [reached] at failed
      cases failed
      rcases Place.walk_error reached with rfl | rfl | rfl <;> decide
    | ok place =>
      rw [reached] at failed
      obtain ⟨node, above⟩ := place
      cases node with
      | dir entries =>
        cases failed
        decide
      | file content =>
        simp only [Except.bind, Except.map, Bind.bind] at failed
        split at failed
        · cases failed
        · cases failed
          decide

end Tree

end File

end Stencil
