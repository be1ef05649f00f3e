import Stencil.Subject

namespace Stencil.Subject

theorem cutAtLastDot_dotless {cs : List Char} (dotless : '.' ∉ cs) : cutAtLastDot cs = none := by
  induction cs with
  | nil => rfl
  | cons c cs ih =>
    rw [List.mem_cons, not_or] at dotless
    have differ : c ≠ '.' := Ne.symm dotless.1
    simp [cutAtLastDot, ih dotless.2, differ]

theorem cutAtLastDot_append (before : List Char) {after : List Char} (dotless : '.' ∉ after) :
    cutAtLastDot (before ++ '.' :: after) = some (before, after) := by
  induction before with
  | nil => simp [cutAtLastDot, cutAtLastDot_dotless dotless]
  | cons c before ih =>
    rw [List.cons_append, cutAtLastDot, ih]

theorem exists_last_dot {cs : List Char} (dotted : '.' ∈ cs) :
    ∃ before after, cs = before ++ '.' :: after ∧ '.' ∉ after := by
  rcases List.eq_append_cons_of_mem (List.mem_reverse.mpr dotted) with ⟨after, before, split, dotless⟩
  refine ⟨before.reverse, after.reverse, ?_, mt List.mem_reverse.mp dotless⟩
  rw [← List.reverse_reverse cs, split]
  simp

/-- The name falls into a package and a simple name: at a dot with none after it, if there is one.
-/
structure Divides (name package simple : String) : Prop where
  simple_dotless : '.' ∉ simple.toList
  dotted : '.' ∈ name.toList → package ++ "." ++ simple = name
  dotless : '.' ∉ name.toList → package = "" ∧ simple = name

variable {s : Subject} {package simple : String}

theorem toList_dotted (package simple : String) :
    (package ++ "." ++ simple).toList = package.toList ++ '.' :: simple.toList := by
  simp

theorem parts_of_dotless (dotless : '.' ∉ s.canonicalName.toList) :
    s.packageName = "" ∧ s.simpleName = s.canonicalName := by
  have cut := cutAtLastDot_dotless dotless
  simp [packageName, simpleName, cut]

theorem parts_of_dotted (dotless : '.' ∉ simple.toList)
    (name : s.canonicalName = package ++ "." ++ simple) :
    s.packageName = package ∧ s.simpleName = simple := by
  have cut : cutAtLastDot s.canonicalName.toList = some (package.toList, simple.toList) := by
    rw [name, toList_dotted, cutAtLastDot_append _ dotless]
  simp [packageName, simpleName, cut]

theorem divides_parts (s : Subject) : Divides s.canonicalName s.packageName s.simpleName := by
  by_cases dotted : '.' ∈ s.canonicalName.toList
  · rcases exists_last_dot dotted with ⟨before, after, split, dotless⟩
    have name : s.canonicalName = String.ofList before ++ "." ++ String.ofList after := by
      apply String.toList_injective
      rw [split, toList_dotted, String.toList_ofList, String.toList_ofList]
    have clean : '.' ∉ (String.ofList after).toList := by rwa [String.toList_ofList]
    rcases parts_of_dotted clean name with ⟨package, simple⟩
    rw [package, simple]
    exact ⟨clean, fun _ => name.symm, fun dotless => absurd dotted dotless⟩
  · rcases parts_of_dotless dotted with ⟨package, simple⟩
    rw [package, simple]
    exact ⟨dotted, fun member => absurd member dotted, fun _ => ⟨rfl, rfl⟩⟩

theorem Divides.unique (divides : Divides s.canonicalName package simple) :
    package = s.packageName ∧ simple = s.simpleName := by
  by_cases dotted : '.' ∈ s.canonicalName.toList
  · have name := (divides.dotted dotted).symm
    rcases parts_of_dotted divides.simple_dotless name with ⟨same, sameToo⟩
    exact ⟨same.symm, sameToo.symm⟩
  · rcases divides.dotless dotted with ⟨rfl, rfl⟩
    rcases parts_of_dotless dotted with ⟨same, sameToo⟩
    exact ⟨same.symm, sameToo.symm⟩

/-- The two parts of a name are the only ones that it falls into, and parts that are put together
come back, however many dots the first one holds and wherever they stand. -/
theorem divides_iff (s : Subject) :
    (∀ package simple, Divides s.canonicalName package simple ↔
      package = s.packageName ∧ simple = s.simpleName) ∧
    ∀ package simple annotations, '.' ∉ simple.toList →
      (⟨package ++ "." ++ simple, annotations⟩ : Subject).packageName = package ∧
      (⟨package ++ "." ++ simple, annotations⟩ : Subject).simpleName = simple := by
  constructor
  · intro package simple
    constructor
    · exact Divides.unique
    · rintro ⟨rfl, rfl⟩
      exact divides_parts s
  · intro package simple annotations dotless
    exact parts_of_dotted dotless rfl

theorem divides_iff_dots :
    ((⟨"com..User", []⟩ : Subject).packageName = "com." ∧
      (⟨"com..User", []⟩ : Subject).simpleName = "User") ∧
    ((⟨".", ["Domain"]⟩ : Subject).packageName = "" ∧
      (⟨".", ["Domain"]⟩ : Subject).simpleName = "") ∧
    ¬Divides "com..User" "com" ".User" := by
  have doubled : (⟨"com..User", []⟩ : Subject).packageName = "com." ∧
      (⟨"com..User", []⟩ : Subject).simpleName = "User" :=
    (divides_iff ⟨"com..User", []⟩).2 "com." "User" [] (by decide)
  have lone := (divides_iff ⟨".", ["Domain"]⟩).2 "" "" ["Domain"] (by decide)
  refine ⟨doubled, lone, fun divides => ?_⟩
  have same := ((divides_iff ⟨"com..User", []⟩).1 "com" ".User").mp divides
  rw [doubled.1] at same
  exact absurd same.1 (by decide)

end Stencil.Subject
