import Stencil.Proofs.Json.Printing
import Stencil.Proofs.Json.Shape
import Stencil.Subject

namespace Stencil.Subject

open Json

/-- What stands under a name, in the order in which it is written. -/
def valuesOf (name : String) (ms : List (String × Value)) : List Value :=
  (ms.filter (·.1 == name)).map (·.2)

def known (ms : List (String × Value)) : List (String × Value) :=
  ms.filter fun m => m.1 == "canonical_name" || m.1 == "annotations"

structure Describes (ms : List (String × Value)) (s : Subject) : Prop where
  name : valuesOf "canonical_name" ms = [.string s.canonicalName]
  annotations : valuesOf "annotations" ms = [] ∧ s.annotations = [] ∨
    valuesOf "annotations" ms = [.ofStrings s.annotations]

theorem valuesOf_cons (name : String) (m : String × Value) (ms : List (String × Value)) :
    valuesOf name (m :: ms) = if m.1 = name then m.2 :: valuesOf name ms else valuesOf name ms := by
  by_cases same : m.1 = name <;> simp [valuesOf, same]

theorem valuesOf_known {name : String} (isKnown : name = "canonical_name" ∨ name = "annotations")
    (ms : List (String × Value)) : valuesOf name (known ms) = valuesOf name ms := by
  rw [valuesOf, valuesOf, known, List.filter_filter]
  congr 2
  funext m
  rcases isKnown with rfl | rfl <;>
    cases m.1 == "canonical_name" <;> cases m.1 == "annotations" <;> rfl

namespace Draft

def take (d : Draft) (m : String × Value) : Option Draft :=
  if m.1 = "canonical_name" then
    if d.canonicalName.isSome then none
    else m.2.string?.map fun name => { d with canonicalName := some name }
  else if m.1 = "annotations" then
    if d.annotations.isSome then none
    else m.2.strings?.map fun annotations => { d with annotations := some annotations }
  else some d

end Draft

theorem readMember_value {name : String} {v : Value} {gap gap' cs rest : List Char} (d : Draft)
    (blank : Blank gap) (blank' : Blank gap') (written : Spells (.value v) cs)
    (follows : Follows rest) :
    readMember name d (gap ++ ':' :: (gap' ++ (cs ++ rest))) = shaped (d.take (name, v)) rest := by
  have colon := readColon_append blank (gap' ++ (cs ++ rest))
  simp only [readMember, Draft.take]
  by_cases isName : name = "canonical_name"
  · have wanted := wantString_value written follows
    rw [← wantString_gap blank'] at wanted
    simp only [isName, if_true, colon]
    cases d.canonicalName with
    | some _ => rfl
    | none =>
      cases text : v.string? <;> simp [wanted, text, shaped, bind, Except.bind]
  by_cases isAnnotations : name = "annotations"
  · have wanted := wantStrings_value blank' written follows
    simp only [isAnnotations, if_true, colon]
    cases d.annotations with
    | some _ => rfl
    | none =>
      cases texts : v.strings? <;> simp [wanted, texts, shaped, bind, Except.bind]
  · have deep : 2 * cs.length ≤ depthFor (gap' ++ (cs ++ rest)) := by
      simp only [depthFor, List.length_append]
      omega
    have skip := (written.read deep follows).2
    rw [← skipValue_gap blank'] at skip
    simp [isName, isAnnotations, colon, skip, shaped, bind, Except.bind]

theorem readMembers_members {ms : List (String × Value)} {first : Bool} {cs : List Char}
    (written : Spells (.members first ms) cs) {bound : Nat} (enough : cs.length ≤ bound)
    (d : Draft) (rest : List Char) :
    readMembers bound first d (cs ++ rest) = shaped (ms.foldlM Draft.take d) rest := by
  have positive := written.length_pos
  obtain ⟨bound, rfl⟩ : ∃ b, bound = b + 1 := ⟨bound - 1, by omega⟩
  induction ms generalizing first cs bound d with
  | nil =>
    cases written with
    | noMember blank =>
      have closed := memberSeparator_closed blank first rest
      simp [readMembers, closed, shaped]
  | cons m ms ih =>
    have members : ∀ {cs : List Char}, Spells (.members true (m :: ms)) cs →
        cs.length ≤ bound + 1 → readMembers (bound + 1) true d (cs ++ rest) =
          shaped ((m :: ms).foldlM Draft.take d) rest := by
      intro cs written enough
      cases written with
      | @member name v _ gap gap' gap'' ns cs others blank named blank' blank'' head tail =>
        have headPositive := head.length_pos
        have tailPositive := tail.length_pos
        simp only [List.length_append, List.length_cons] at enough
        obtain ⟨bound, rfl⟩ : ∃ b, bound = b + 1 := ⟨bound - 1, by omega⟩
        have tailRead := fun d => ih tail d tailPositive bound (by omega)
        have next := memberSeparator_first blank
          (ns ++ '"' :: (gap' ++ ':' :: (gap'' ++ (cs ++ (others ++ rest)))))
        have readName := named.read (gap' ++ ':' :: (gap'' ++ (cs ++ (others ++ rest))))
        have readHead := @readMember_value (String.ofList name) v gap' gap'' cs (others ++ rest) d
          blank' blank'' head (tail.follows_members rest)
        simp only [List.append_assoc, List.cons_append]
        rw [readMembers, next, List.foldlM_cons]
        simp only [readName]
        cases taken : d.take (String.ofList name, v) <;>
          simp [readHead, taken, tailRead, shaped, bind, Except.bind]
    cases written with
    | member blank named blank' blank'' head tail =>
      exact members (.member blank named blank' blank'' head tail) enough
    | @nextMember _ _ gap cs blank others =>
      cases others with
      | member blank' named inner inner' head tail =>
        simp only [List.length_append, List.length_cons] at enough
        have read := members (.member blank' named inner inner' head tail)
          (by simp only [List.length_append, List.length_cons]; omega)
        simp only [List.append_assoc, List.cons_append] at read ⊢
        rw [← read, readMembers, readMembers, memberSeparator_comma blank blank']

/-- The subject that the members of an object describe, if they describe one. -/
def describe? (ms : List (String × Value)) : Option Subject := do
  let d ← ms.foldlM Draft.take {}
  let name ← d.canonicalName
  some ⟨name, d.annotations.getD []⟩

theorem parse_object {text : String} {ms : List (String × Value)} (written : ObjectText text ms) :
    parse text =
      match describe? ms with
      | some s => .ok s
      | none => .error .mismatched := by
  obtain ⟨before, cs, after, blank, blank', spelled, whole⟩ := written
  cases spelled with
  | @object _ cs inside =>
    have brace : isSpace '\x7b' = false := rfl
    have enough : cs.length ≤ depthFor (cs ++ after) := by
      simp only [depthFor, List.length_append]
      omega
    have read := readMembers_members inside enough {} after
    have ended := readEnd_blank blank'
    rw [parse, whole, skipSpace_append blank, List.cons_append, skipSpace_cons brace]
    simp only [read]
    cases taken : ms.foldlM Draft.take {} with
    | none => simp [describe?, taken, shaped, bind, Except.bind]
    | some d =>
      cases named : d.canonicalName <;>
        simp [describe?, taken, shaped, bind, Except.bind, Draft.finish, named, ended]

section

variable {α : Type} {read : Value → Option α}

/-- How a field stands after the values under its name: as before if there are none, and filled if
there is one, which may be read, and the field was free. -/
def Filled (read : Value → Option α) (before : Option α) (vs : List Value) (after : Option α) :
    Prop :=
  vs = [] ∧ after = before ∨ ∃ v x, vs = [v] ∧ before = none ∧ read v = some x ∧ after = some x

theorem filled_nil (before after : Option α) : Filled read before [] after ↔ after = before := by
  simp [Filled]

theorem filled_cons (before : Option α) (v : Value) (vs : List Value) (after : Option α) :
    Filled read before (v :: vs) after ↔
      before = none ∧ ∃ x, read v = some x ∧ Filled read (some x) vs after := by
  constructor
  · rintro (⟨empty, -⟩ | ⟨w, x, single, free, shape, rfl⟩)
    · cases empty
    · cases single
      exact ⟨free, x, shape, .inl ⟨rfl, rfl⟩⟩
  · rintro ⟨free, x, shape, ⟨rfl, rfl⟩ | ⟨_, _, _, filled, -⟩⟩
    · exact .inr ⟨v, x, rfl, free, shape, rfl⟩
    · cases filled

end

theorem foldlM_take_iff (ms : List (String × Value)) (d d' : Draft) :
    ms.foldlM Draft.take d = some d' ↔
      Filled Value.string? d.canonicalName (valuesOf "canonical_name" ms) d'.canonicalName ∧
        Filled Value.strings? d.annotations (valuesOf "annotations" ms) d'.annotations := by
  induction ms generalizing d with
  | nil =>
    obtain ⟨name, annotations⟩ := d
    obtain ⟨name', annotations'⟩ := d'
    have empty : ∀ name, valuesOf name [] = [] := fun _ => rfl
    simp only [List.foldlM_nil, Option.pure_def, Option.some.injEq, empty, filled_nil,
      Draft.mk.injEq]
    exact ⟨fun same => ⟨same.1.symm, same.2.symm⟩, fun same => ⟨same.1.symm, same.2.symm⟩⟩
  | cons m ms ih =>
    obtain ⟨name, v⟩ := m
    obtain ⟨canonicalName, annotations⟩ := d
    simp only [List.foldlM_cons, valuesOf_cons, Draft.take]
    by_cases isName : name = "canonical_name"
    · subst isName
      simp only [if_true, String.reduceEq, if_false, filled_cons]
      cases canonicalName with
      | some _ => simp
      | none => cases text : v.string? <;> simp [ih]
    by_cases isAnnotations : name = "annotations"
    · subst isAnnotations
      simp only [if_true, String.reduceEq, if_false, filled_cons]
      cases annotations with
      | some _ => simp
      | none => cases texts : v.strings? <;> simp [ih]
    · simp [isName, isAnnotations, ih]

theorem describe?_eq_some_iff (ms : List (String × Value)) (s : Subject) :
    describe? ms = some s ↔ Describes ms s := by
  obtain ⟨name, annotations⟩ := s
  constructor
  · intro described
    simp only [describe?, Option.bind_eq_bind, Option.bind_eq_some_iff,
      Option.some.injEq] at described
    obtain ⟨d, taken, name', named, same⟩ := described
    cases same
    obtain ⟨nameFilled, annotationsFilled⟩ := (foldlM_take_iff ms {} d).mp taken
    constructor
    · rcases nameFilled with ⟨-, unfilled⟩ | ⟨v, x, single, -, text, filled⟩
      · rw [unfilled] at named
        cases named
      · rw [filled] at named
        cases named
        rw [single, string?_eq_some text]
    · rcases annotationsFilled with ⟨none, unfilled⟩ | ⟨v, x, single, -, texts, filled⟩
      · exact .inl ⟨none, by simp [unfilled]⟩
      · rw [filled, single, strings?_eq_some texts]
        exact .inr rfl
  · rintro ⟨named, annotated⟩
    have nameFilled : Filled Value.string? none (valuesOf "canonical_name" ms) (some name) :=
      .inr ⟨_, _, named, rfl, rfl, rfl⟩
    rcases annotated with ⟨none, rfl⟩ | single
    · have taken := (foldlM_take_iff ms {} ⟨some name, Option.none⟩).mpr
        ⟨nameFilled, .inl ⟨none, rfl⟩⟩
      simp [describe?, taken]
    · have taken := (foldlM_take_iff ms {} ⟨some name, some annotations⟩).mpr
        ⟨nameFilled, .inr ⟨_, _, single, rfl, strings?_ofStrings annotations, rfl⟩⟩
      simp [describe?, taken]

theorem Describes.unique {ms : List (String × Value)} {s t : Subject} (described : Describes ms s)
    (describedToo : Describes ms t) : s = t := by
  rw [← describe?_eq_some_iff] at described describedToo
  rw [described] at describedToo
  exact Option.some.inj describedToo

theorem Describes.of_perm {ms others : List (String × Value)} {s : Subject}
    (same : (known ms).Perm (known others)) (described : Describes ms s) : Describes others s := by
  have values : ∀ {name : String}, name = "canonical_name" ∨ name = "annotations" →
      (valuesOf name ms).Perm (valuesOf name others) := by
    intro name isKnown
    rw [← valuesOf_known isKnown ms, ← valuesOf_known isKnown others]
    exact (same.filter _).map _
  obtain ⟨named, annotated⟩ := described
  constructor
  · have names := values (.inl rfl)
    rw [named] at names
    exact List.singleton_perm.mp names |>.symm
  · have annotations := values (.inr rfl)
    rcases annotated with ⟨none, empty⟩ | single
    · rw [none] at annotations
      exact .inl ⟨List.nil_perm.mp annotations, empty⟩
    · rw [single] at annotations
      exact .inr (List.singleton_perm.mp annotations |>.symm)

/-- A subject is read from an object text exactly where its members describe one, and otherwise the
text is refused as one of another shape. Other members and the order make no difference. -/
theorem parse_iff_describes {text other : String} {ms others : List (String × Value)}
    (written : ObjectText text ms) (writtenToo : ObjectText other others) :
    (∀ s, parse text = .ok s ↔ Describes ms s) ∧
      ((∀ s, ¬Describes ms s) → parse text = .error .mismatched) ∧
      ((known ms).Perm (known others) → parse text = parse other) := by
  have read := parse_object written
  have readToo := parse_object writtenToo
  refine ⟨fun s => ?_, fun refused => ?_, fun same => ?_⟩
  · rw [read, ← describe?_eq_some_iff]
    cases describe? ms <;> simp
  · cases described : describe? ms with
    | none => rw [read, described]
    | some s => exact absurd ((describe?_eq_some_iff ms s).mp described) (refused s)
  · have alike : describe? ms = describe? others := by
      refine Option.ext fun s => ?_
      rw [describe?_eq_some_iff, describe?_eq_some_iff]
      exact ⟨Describes.of_perm same, Describes.of_perm same.symm⟩
    rw [read, readToo, alike]

theorem stringText_append {left right text text' : List Char} (first : StringText left text)
    (second : StringText right text') : StringText (left ++ right) (text ++ text') := by
  induction first with
  | nil => exact second
  | cons head others ih =>
    rw [List.append_assoc]
    exact .cons head ih

def sampleText : String :=
  " \x7b\"x\":[\x7b\x7d],\"canonical_nam\\u0065\":\"A\"\x7d"

def sampleMembers : List (String × Value) :=
  [("x", .array [.object []]), ("canonical_name", .string "A")]

theorem objectText_sample : ObjectText sampleText sampleMembers := by
  have unit : UnitText 0x65 ['0', '0', '6', '5'] := ⟨rfl, by decide⟩
  have letter : StringText ['e'] "\\u0065".toList := .cons (.unit unit rfl rfl) .nil
  have named : StringText "canonical_name".toList "canonical_nam\\u0065".toList :=
    stringText_append (stringText_flatMap "canonical_nam".toList) letter
  have inner : Spells (.value (.array [.object []])) "[\x7b\x7d]".toList :=
    .array (.item blank_nil (.object (.noMember blank_nil)) (.noItem blank_nil))
  have last := Spells.member blank_nil named blank_nil blank_nil (spells_string "A")
    (.noMember blank_nil)
  have first := @spells_member "x" _ _ _ _ inner (.nextMember blank_nil last)
  have gap : Blank [' '] := by
    intro c member
    cases List.mem_singleton.mp member
    rfl
  exact ⟨[' '], _, [], gap, blank_nil, .object first, by decide⟩

theorem parse_iff_describes_sample :
    ObjectText sampleText sampleMembers ∧
      ObjectText (Value.object (known sampleMembers)).print (known sampleMembers) ∧
      parse sampleText = .ok ⟨"A", []⟩ ∧
      parse (Value.object (known sampleMembers)).print = parse sampleText := by
  have printed : ObjectText (Value.object (known sampleMembers)).print (known sampleMembers) :=
    objectText_print ⟨trivial, trivial⟩
  have read := parse_iff_describes objectText_sample printed
  have same := parse_iff_describes printed objectText_sample
  exact ⟨objectText_sample, printed, (read.1 ⟨"A", []⟩).mpr ⟨rfl, .inl ⟨rfl, rfl⟩⟩,
    same.2.2 (.refl _)⟩

end Stencil.Subject
