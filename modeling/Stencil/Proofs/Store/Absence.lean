import Stencil.Proofs.File.Lead
import Stencil.Proofs.Store.Chain
import Stencil.Proofs.Store.Confined

namespace Stencil

open File (Tree Node Outcome)

theorem fromUTF8?_eq_some_iff {content : ByteArray} {text : String} :
    String.fromUTF8? content = some text ↔ content = text.toUTF8 := by
  unfold String.fromUTF8?
  constructor
  · intro decoded
    split at decoded
    · cases decoded
      rfl
    · cases decoded
  · rintro rfl
    have valid : text.toUTF8.IsValidUTF8 := text.isValidUTF8
    rw [dif_pos valid]
    rfl

namespace Store

variable {files : Tree} {root : Path} {name : String} {entries : List (OsText × Node)}

theorem clean_ofString (safe : ¬Escaping name) : OsChar.char '\x00' ∉ Path.ofString name := by
  intro member
  obtain ⟨c, inside, same⟩ := List.mem_map.mp member
  rw [OsChar.char.inj same] at inside
  exact safe (.nul inside)

def told : Except File.Error Node → Except File.Error (Option String)
  | .error e => if e.kind = .notFound then .ok none else .error e
  | .ok (.dir _) => .error .isADirectory
  | .ok (.file content) =>
    match String.fromUTF8? content with
    | some text => .ok (some text)
    | none => .error .notText

theorem readBelow_told (safe : ¬Escaping name) :
    readBelow root files name = told (files.find (root.join (Path.ofString name))) := by
  rw [readBelow_safe safe, Tree.readText]
  cases files.find (root.join (Path.ofString name)) with
  | error e => rfl
  | ok node =>
    cases node with
    | dir entries => rfl
    | file content =>
      simp only [Bind.bind, Except.bind, told]
      cases String.fromUTF8? content <;> rfl

inductive Truthful (stands : Node → Prop) : Except File.Error (Option String) → Prop where
  | text {text : String} : stands (.file text.toUTF8) → Truthful stands (.ok (some text))
  | absent : (∀ n, ¬stands n) → Truthful stands (.ok none)
  | dir {inside : List (OsText × Node)} : stands (.dir inside) →
      Truthful stands (.error .isADirectory)
  | garbled {content : ByteArray} : stands (.file content) →
      (∀ text : String, content ≠ text.toUTF8) → Truthful stands (.error .notText)

theorem truthful_told {stands : Node → Prop} {barred : File.Error → Prop}
    {result : Except File.Error Node} (outcome : Outcome stands barred result)
    (clear : ∀ e, ¬barred e) : Truthful stands (told result) := by
  cases outcome with
  | barred bars => exact absurd bars (clear _)
  | missing nothing => exact .absent nothing
  | @found n here =>
    cases n with
    | dir entries => exact .dir here
    | file content =>
      simp only [told]
      cases decoded : String.fromUTF8? content with
      | some text =>
        rw [fromUTF8?_eq_some_iff.mp decoded] at here
        exact .text here
      | none =>
        refine .garbled here fun text same => ?_
        rw [fromUTF8?_eq_some_iff.mpr same] at decoded
        cases decoded

theorem readBelow_truthful (safe : ¬Escaping name) (opens : files.find root = .ok (.dir entries))
    (clear : files.Clear root (Path.ofString name)) :
    Truthful (files.Stands root (Path.ofString name)) (readBelow root files name) := by
  have outcome := Tree.find_join_outcome opens (relative_ofString safe) (clean_ofString safe)
    (dotDot_notMem safe)
  rw [if_pos clear.short] at outcome
  have stands : files.Stands root (Path.ofString name) =
      (Node.dir entries).Leads (Path.ofString name).segments := by
    funext n
    exact propext (Tree.stands_iff opens)
  rw [stands, readBelow_told safe]
  exact truthful_told outcome fun e => clear.passable entries e opens

theorem readBelow_obstructed (safe : ¬Escaping name)
    (opens : files.find root = .ok (.dir entries))
    (obstructed : ¬files.Clear root (Path.ofString name)) :
    (readBelow root files name = .error .notADirectory ∨
      readBelow root files name = .error .nameTooLong) ∧
    ((Node.dir entries).Named → OsText.size (root.join (Path.ofString name)) < Tree.pathBound →
      ∀ n, ¬files.Stands root (Path.ofString name) n) := by
  have outcome := Tree.find_join_outcome opens (relative_ofString safe) (clean_ofString safe)
    (dotDot_notMem safe)
  rw [readBelow_told safe]
  by_cases short : OsText.size (root.join (Path.ofString name)) < Tree.pathBound
  · rw [if_pos short] at outcome
    obtain ⟨e, barred⟩ : ∃ e, (Node.dir entries).Barred (Path.ofString name).segments e := by
      refine Classical.byContradiction fun clear => obstructed ⟨short, fun others e opensToo => ?_⟩
      rw [opens] at opensToo
      cases opensToo
      exact fun barred => clear ⟨e, barred⟩
    refine ⟨?_, fun named _ n stands => ?_⟩
    · generalize files.find (root.join (Path.ofString name)) = result at outcome
      cases outcome with
      | found _ clear | missing _ clear => exact absurd barred (clear e)
      | barred barred =>
        obtain ⟨_, _, _, _, _, _, bars⟩ := barred
        cases bars with
        | file => exact .inl rfl
        | long => exact .inr rfl
    · exact Node.not_leads_of_barred named barred ((Tree.stands_iff opens).mp stands)
  · rw [if_neg short] at outcome
    rw [outcome]
    exact ⟨.inr rfl, fun _ shortToo => absurd shortToo short⟩

namespace Truthful

variable {stands : Node → Prop} {answer : Except File.Error (Option String)}

theorem absent_iff (truthful : Truthful stands answer) :
    answer = .ok none ↔ ∀ n, ¬stands n := by
  cases truthful with
  | absent nothing => exact ⟨fun _ => nothing, fun _ => rfl⟩
  | text there | dir there | garbled there => exact ⟨nofun, fun nothing => absurd there (nothing _)⟩

variable (truthful : Truthful stands answer) (unique : ∀ n m, stands n → stands m → n = m)

include truthful unique

theorem text_iff (text : String) : answer = .ok (some text) ↔ stands (.file text.toUTF8) := by
  cases truthful with
  | absent nothing => exact ⟨nofun, fun here => absurd here (nothing _)⟩
  | dir there => exact ⟨nofun, fun here => nomatch unique _ _ here there⟩
  | garbled there garbled =>
    exact ⟨nofun, fun here => absurd (Node.file.inj (unique _ _ there here)) (garbled text)⟩
  | @text other there =>
    constructor
    · intro same
      cases same
      exact there
    · intro here
      have bytes : other.toByteArray = text.toByteArray := Node.file.inj (unique _ _ there here)
      rw [String.toByteArray_inj.mp bytes]

theorem error_iff (e : File.Error) : answer = .error e ↔
    (∃ entries, stands (.dir entries)) ∧ e = .isADirectory ∨
      (∃ content, stands (.file content) ∧ ∀ text : String, content ≠ text.toUTF8) ∧
        e = .notText := by
  cases truthful with
  | absent nothing =>
    refine ⟨nofun, ?_⟩
    rintro (⟨⟨_, here⟩, -⟩ | ⟨⟨_, here, -⟩, -⟩) <;> exact absurd here (nothing _)
  | @text text there =>
    refine ⟨nofun, ?_⟩
    rintro (⟨⟨_, here⟩, -⟩ | ⟨⟨content, here, garbled⟩, -⟩)
    · cases unique _ _ here there
    · exact absurd (Node.file.inj (unique _ _ here there)) (garbled text)
  | dir there =>
    constructor
    · intro same
      cases same
      exact .inl ⟨⟨_, there⟩, rfl⟩
    · rintro (⟨-, rfl⟩ | ⟨⟨_, here, -⟩, -⟩)
      · rfl
      · cases unique _ _ here there
  | garbled there garbled =>
    constructor
    · intro same
      cases same
      exact .inr ⟨⟨_, there, garbled⟩, rfl⟩
    · rintro (⟨⟨_, here⟩, -⟩ | ⟨-, rfl⟩)
      · cases unique _ _ here there
      · rfl

end Truthful

/-- On a safe name that can be followed, a store below a directory gives the text of the file that
stands there, says that there is nothing if nothing is, and fails on directories and on files that
are no text; so a chain comes to a later directory that has the file. A name that cannot be followed
is an error, also where nothing stands. -/
theorem read_stands (files : Tree) (name : String) (safe : ¬Escaping name) :
    (∀ root entries, files.find root = .ok (.dir entries) →
      let answer := ((directory root).read files name).1
      let stands := files.Stands root (Path.ofString name)
      (files.Clear root (Path.ofString name) →
        (∀ text : String, answer = .ok (some text) ↔ stands (.file text.toUTF8)) ∧
        (answer = .ok none ↔ ∀ n, ¬stands n) ∧
        ∀ e, answer = .error e ↔
          (∃ inside, stands (.dir inside)) ∧ e = .isADirectory ∨
          (∃ content, stands (.file content) ∧ ∀ text : String, content ≠ text.toUTF8) ∧
            e = .notText) ∧
      (¬files.Clear root (Path.ofString name) →
        (answer = .error .notADirectory ∨ answer = .error .nameTooLong) ∧
        ((Node.dir entries).Named →
          OsText.size (root.join (Path.ofString name)) < Tree.pathBound → ∀ n, ¬stands n))) ∧
    ∀ (front : List Path) (root : Path) (back : List Path) (text : String),
      (∀ dir ∈ front, (∃ entries, files.find dir = .ok (.dir entries)) ∧
        files.Clear dir (Path.ofString name) ∧ ∀ n, ¬files.Stands dir (Path.ofString name) n) →
      files.Clear root (Path.ofString name) →
      files.Stands root (Path.ofString name) (.file text.toUTF8) →
      ((chain ((front ++ root :: back).map directory)).read files name).1 = .ok (some text) := by
  have unique (root : Path) (n m : Node) (stands : files.Stands root (Path.ofString name) n)
      (standsToo : files.Stands root (Path.ofString name) m) : n = m := stands.unique standsToo
  refine ⟨fun root entries opens => ⟨fun clear => ?_, readBelow_obstructed safe opens⟩, ?_⟩
  · have truthful := readBelow_truthful safe opens clear
    exact ⟨truthful.text_iff (unique root), truthful.absent_iff,
      truthful.error_iff (unique root)⟩
  · intro front root back text vacant clear stands
    have silent : ∀ store ∈ front.map directory, store.Silent files name := by
      intro store member
      obtain ⟨dir, inside, rfl⟩ := List.mem_map.mp member
      obtain ⟨⟨entries, opens⟩, passable, nothing⟩ := vacant dir inside
      exact ((readBelow_truthful safe opens passable).absent_iff).mpr nothing
    obtain ⟨entries, opens, -⟩ := id stands
    have given : readBelow root files name = .ok (some text) :=
      ((readBelow_truthful safe opens clear).text_iff (unique root) text).mpr stands
    have spoken : ¬(directory root).Silent files name := by
      intro silent
      cases given.symm.trans silent
    show (readFirst files name ((front ++ root :: back).map directory)).1 = _
    rw [List.map_append, List.map_cons, readFirst_append silent, readFirst_answered spoken]
    exact given

def shadowed : Tree :=
  let file (text : String) : Node := .file text.toUTF8
  let a := Path.ofString "a"
  ⟨.dir [(Path.ofString "r", .dir [(a, file "x")]),
    (Path.ofString "s", .dir [(a, .dir [(Path.ofString "b", file "y")])]),
    (Path.ofString "t", .dir [])], []⟩

theorem safe_shadowed : ¬Escaping "a/b" :=
  mt (isUnsafe_iff "a/b").mpr (by decide)

theorem read_stands_shadowed :
    let name := Path.ofString "a/b"
    let root := Path.ofString "/s"
    let empty := Path.ofString "/t"
    let blocked := Path.ofString "/r"
    ¬Escaping "a/b" ∧ shadowed.Clear root name ∧ shadowed.Clear empty name ∧
      ((directory root).read shadowed "a/b").1 = .ok (some "y") ∧
      ((directory empty).read shadowed "a/b").1 = .ok none ∧
      ((chain ([empty, root, blocked].map directory)).read shadowed "a/b").1 = .ok (some "y") := by
  intro name root empty blocked
  have safe := safe_shadowed
  have opens : shadowed.find root = .ok (.dir _) := rfl
  have opensToo : shadowed.find empty = .ok (.dir _) := rfl
  obtain ⟨there, stands⟩ := Tree.clear_of_find opens (relative_ofString safe)
    (clean_ofString safe) (dotDot_notMem safe) ⟨nofun, nofun⟩
  obtain ⟨nowhere, vacant⟩ := Tree.clear_of_find opensToo (relative_ofString safe)
    (clean_ofString safe) (dotDot_notMem safe) ⟨nofun, nofun⟩
  have nothing : ∀ n, ¬shadowed.Stands empty name n := fun n here => nomatch (vacant n).mpr here
  have file : shadowed.Stands root name (.file "y".toUTF8) := (stands _).mp rfl
  have both := read_stands shadowed "a/b" safe
  refine ⟨safe, there, nowhere, ?_, ?_, ?_⟩
  · exact (((both.1 root _ rfl).1 there).1 "y").mpr file
  · exact (((both.1 empty _ rfl).1 nowhere).2.1).mpr nothing
  · refine both.2 [empty] root [blocked] "y" (fun dir member => ?_) there file
    obtain rfl := List.mem_singleton.mp member
    exact ⟨⟨_, rfl⟩, nowhere, nothing⟩

/-- Nothing stands under the name in the first directory, which is told as an error all the same, so
that the file in the second one is not found. -/
theorem file_hides_later :
    let name := Path.ofString "a/b"
    let first := Path.ofString "/r"
    let second := Path.ofString "/s"
    ¬Escaping "a/b" ∧ (∀ n, ¬shadowed.Stands first name n) ∧
      shadowed.Stands second name (.file "y".toUTF8) ∧
      ((directory first).read shadowed "a/b").1 = .error .notADirectory ∧
      ((chain [directory first, directory second]).read shadowed "a/b").1 =
        .error .notADirectory := by
  intro name first second
  have safe := safe_shadowed
  have opens : shadowed.find second = .ok (.dir _) := rfl
  obtain ⟨-, stands⟩ := Tree.clear_of_find opens (relative_ofString safe) (clean_ofString safe)
    (dotDot_notMem safe) ⟨nofun, nofun⟩
  refine ⟨safe, ?_, (stands _).mp rfl, rfl, rfl⟩
  rintro n ⟨entries, opens, leads⟩
  cases opens
  cases leads with
  | step down rest =>
    cases down with
    | idle idle => cases idle
    | entry _ found =>
      cases found
      cases rest with
      | step deeper => cases deeper

end Store

end Stencil
