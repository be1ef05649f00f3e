import Stencil.Text.Blank

namespace Stencil.Text

def Blank (s : String) : Prop :=
  ∀ c ∈ s.toList, isBlank c = true

def Solid (s : String) : Prop :=
  ∀ c ∈ s.toList, isBlank c = false

instance : DecidablePred Solid := fun s =>
  decidable_of_iff (s.toList.all (!isBlank ·) = true) (by simp [Solid])

/-- The text is a word with nothing but blanks around it; the size of letters does not matter. -/
def Wraps (text word : String) : Prop :=
  ∃ before core after, text = before ++ core ++ after ∧ Blank before ∧ Blank after ∧
    lowerAscii core = word

theorem toList_lowerAscii (s : String) : (lowerAscii s).toList = s.toList.map Char.toLower := by
  simp [lowerAscii]

theorem isBlank_of_between {c : Char} (above : 0x20 < c.toNat) (below : c.toNat < 0x85) :
    isBlank c = false := by
  simp only [isBlank, Bool.or_eq_false_iff, Bool.and_eq_false_iff, decide_eq_false_iff_not,
    beq_eq_false_iff_ne]
  omega

theorem isBlank_toLower (c : Char) : isBlank c.toLower = isBlank c := by
  by_cases large : c.val ≥ 'A'.val ∧ c.val ≤ 'Z'.val
  · have low : 65 ≤ c.toNat := large.1
    have high : c.toNat ≤ 90 := large.2
    have moved : c.toLower.toNat = c.toNat + 32 := by
      have lower : c.toLower.val = c.val + ('a'.val - 'A'.val) :=
        congrArg Char.val (dif_pos large)
      have number := congrArg UInt32.toNat lower
      rw [UInt32.toNat_add] at number
      exact number.trans (Nat.mod_eq_of_lt (show c.toNat + 32 < 2 ^ 32 by omega))
    rw [isBlank_of_between (by omega) (by omega), isBlank_of_between (by omega) (by omega)]
  · have same : c.toLower = c := dif_neg large
    rw [same]

theorem solid_lowerAscii {s : String} : Solid (lowerAscii s) ↔ Solid s := by
  simp [Solid, toList_lowerAscii, isBlank_toLower]

theorem dropBlanks_solid {cs : List Char} (solid : ∀ c ∈ cs, isBlank c = false) (rest : List Char)
    (some : cs ≠ []) : dropBlanks (cs ++ rest) = cs ++ rest := by
  obtain ⟨c, cs, rfl⟩ := List.exists_cons_of_ne_nil some
  have first := solid c List.mem_cons_self
  exact List.dropWhile_cons_of_neg (by simp [first])

theorem dropBlanks_split (cs : List Char) :
    ∃ blanks, cs = blanks ++ dropBlanks cs ∧ ∀ c ∈ blanks, isBlank c = true :=
  ⟨cs.takeWhile isBlank, List.takeWhile_append_dropWhile.symm,
    List.all_eq_true.mp List.all_takeWhile⟩

theorem dropTrailingBlanks_split (cs : List Char) :
    ∃ blanks, cs = dropTrailingBlanks cs ++ blanks ∧ ∀ c ∈ blanks, isBlank c = true := by
  obtain ⟨blanks, split, blank⟩ := dropBlanks_split cs.reverse
  refine ⟨blanks.reverse, ?_, fun c member => blank c (List.mem_reverse.mp member)⟩
  rw [dropTrailingBlanks, ← List.reverse_append, ← split, List.reverse_reverse]

theorem trim_split (s : String) :
    ∃ before after, s = before ++ trim s ++ after ∧ Blank before ∧ Blank after := by
  obtain ⟨before, split, blank⟩ := dropBlanks_split s.toList
  obtain ⟨after, splitToo, blankToo⟩ := dropTrailingBlanks_split (dropBlanks s.toList)
  refine ⟨String.ofList before, String.ofList after, ?_, by simpa [Blank] using blank,
    by simpa [Blank] using blankToo⟩
  apply String.toList_injective
  rw [String.toList_append, String.toList_append, trim, String.toList_ofList, String.toList_ofList,
    String.toList_ofList, List.append_assoc, ← splitToo, ← split]

theorem dropBlanks_blank {cs : List Char} (blank : ∀ c ∈ cs, isBlank c = true) (rest : List Char) :
    dropBlanks (cs ++ rest) = dropBlanks rest :=
  List.dropWhile_append_of_pos blank

theorem dropTrailingBlanks_append {cs blanks : List Char} (solid : ∀ c ∈ cs, isBlank c = false)
    (blank : ∀ c ∈ blanks, isBlank c = true) : dropTrailingBlanks (cs ++ blanks) = cs := by
  rw [dropTrailingBlanks, List.reverse_append, dropBlanks_blank (by simpa using blank)]
  cases cs with
  | nil => rfl
  | cons c cs =>
    have solidToo : ∀ d ∈ (c :: cs).reverse, isBlank d = false :=
      fun d member => solid d (List.mem_reverse.mp member)
    have kept := dropBlanks_solid solidToo [] (by simp)
    rw [List.append_nil] at kept
    rw [kept, List.reverse_reverse]

theorem trim_solid {before core after : String} (blank : Blank before) (solid : Solid core)
    (blankToo : Blank after) : trim (before ++ core ++ after) = core := by
  rw [trim, String.toList_append, String.toList_append, List.append_assoc, dropBlanks_blank blank]
  by_cases none : core = ""
  · subst none
    have gone : dropBlanks after.toList = [] := by
      have whole := dropBlanks_blank blankToo []
      rw [List.append_nil] at whole
      exact whole
    rw [String.toList_empty, List.nil_append, gone]
    rfl
  · rw [dropBlanks_solid solid _ (mt String.toList_eq_nil_iff.mp none),
      dropTrailingBlanks_append solid blankToo, String.ofList_toList]

theorem lowerAscii_trim {text word : String} (solid : Solid word) :
    lowerAscii (trim text) = word ↔ Wraps text word := by
  constructor
  · intro same
    obtain ⟨before, after, split, blank, blankToo⟩ := trim_split text
    exact ⟨before, trim text, after, split, blank, blankToo, same⟩
  · rintro ⟨before, core, after, rfl, blank, blankToo, rfl⟩
    rw [trim_solid blank (solid_lowerAscii.mp solid) blankToo]

end Stencil.Text
