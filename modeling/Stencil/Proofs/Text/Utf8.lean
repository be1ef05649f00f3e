import Stencil.Proofs.Text.Bytes

namespace Stencil

namespace Text

def bytes (s : String) : List UInt8 :=
  s.toUTF8.data.toList

theorem bytes_eq (s : String) : bytes s = s.toList.flatMap String.utf8EncodeChar := by
  obtain ⟨cs, rfl⟩ : ∃ cs, s = String.ofList cs := ⟨s.toList, String.ofList_toList.symm⟩
  simp [bytes, String.toByteArray_ofList, List.utf8Encode]

end Text

def OsChar.bytes : OsChar → List UInt8
  | .char c => String.utf8EncodeChar c
  | .stray bytes => bytes

namespace OsText

def bytes (t : OsText) : List UInt8 :=
  t.flatMap OsChar.bytes

theorem bytes_ofString (s : String) : bytes (ofString s) = Text.bytes s := by
  rw [Text.bytes_eq, bytes, ofString, List.flatMap_map]
  rfl

inductive Continues : (missing least greatest : Nat) → List UInt8 → Prop where
  | done {least greatest : Nat} : Continues 0 least greatest []
  | next {missing least greatest : Nat} {b : UInt8} {more : List UInt8} : least ≤ b.toNat →
      b.toNat ≤ greatest → Continues missing 0x80 0xBF more →
      Continues (missing + 1) least greatest (b :: more)

def number (bits : Nat) (more : List UInt8) : Nat :=
  more.foldl (fun bits b => bits * 64 + (b.toNat - 0x80)) bits

/-- Whatever an open character goes on with, the bytes are those of the character it comes to. -/
structure Partial.Sound (p : Partial) : Prop where
  missing : 0 < p.missing
  spelled : ∀ more, Continues p.missing p.least p.greatest more →
    String.utf8EncodeChar (Char.ofNat (number p.bits more)) = p.bytes ++ more

theorem toNat_ofNat {n : Nat} (valid : n.isValidChar) : (Char.ofNat n).val.toNat = n := by
  have kept : Char.ofNat n = Char.ofNatAux n valid := dif_pos valid
  rw [kept]
  rfl

theorem encode_two {n : Nat} {b c : UInt8} (least : 0x80 ≤ n) (greatest : n < 0x800)
    (first : b.toNat = n / 64 + 0xC0) (second : c.toNat = n % 64 + 0x80) :
    String.utf8EncodeChar (Char.ofNat n) = [b, c] := by
  have valid : n.isValidChar := by unfold Nat.isValidChar; omega
  unfold String.utf8EncodeChar
  rw [toNat_ofNat valid]
  dsimp only
  rw [if_neg (by omega), if_pos (by omega)]
  simp only [List.cons.injEq, ← UInt8.toNat_inj, UInt8.toNat_ofNat', and_true]
  omega

theorem encode_three {n : Nat} {b c d : UInt8} (valid : n.isValidChar) (least : 0x800 ≤ n)
    (greatest : n < 0x10000) (first : b.toNat = n / 4096 + 0xE0)
    (second : c.toNat = n / 64 % 64 + 0x80) (third : d.toNat = n % 64 + 0x80) :
    String.utf8EncodeChar (Char.ofNat n) = [b, c, d] := by
  unfold String.utf8EncodeChar
  rw [toNat_ofNat valid]
  dsimp only
  rw [if_neg (by omega), if_neg (by omega), if_pos (by omega)]
  simp only [List.cons.injEq, ← UInt8.toNat_inj, UInt8.toNat_ofNat', and_true]
  omega

theorem encode_four {n : Nat} {b c d e : UInt8} (least : 0x10000 ≤ n) (greatest : n < 0x110000)
    (first : b.toNat = n / 262144 + 0xF0) (second : c.toNat = n / 4096 % 64 + 0x80)
    (third : d.toNat = n / 64 % 64 + 0x80) (fourth : e.toNat = n % 64 + 0x80) :
    String.utf8EncodeChar (Char.ofNat n) = [b, c, d, e] := by
  have valid : n.isValidChar := by unfold Nat.isValidChar; omega
  unfold String.utf8EncodeChar
  rw [toNat_ofNat valid]
  dsimp only
  rw [if_neg (by omega), if_neg (by omega), if_neg (by omega)]
  simp only [List.cons.injEq, ← UInt8.toNat_inj, UInt8.toNat_ofNat', and_true]
  omega

section FirstBytes

variable {b : UInt8} {bits least greatest : Nat}

theorem sound_one (first : b.toNat = bits + 0xC0) (proper : 2 ≤ bits) (small : bits < 32)
    (low : 0x80 ≤ least) (high : greatest ≤ 0xBF) :
    (⟨[b], bits, 1, least, greatest⟩ : Partial).Sound := by
  refine ⟨Nat.one_pos, fun more (continues : Continues 1 least greatest more) => ?_⟩
  cases continues with
  | next above below rest =>
    cases rest
    simp only [number, List.foldl_cons, List.foldl_nil]
    refine encode_two ?_ ?_ ?_ ?_ <;> omega

theorem sound_two (first : b.toNat = bits + 0xE0) (small : bits < 16) (low : 0x80 ≤ least)
    (high : greatest ≤ 0xBF) (proper : 0x20 ≤ bits * 64 + (least - 0x80))
    (scalar : bits = 0xD → greatest ≤ 0x9F) :
    (⟨[b], bits, 2, least, greatest⟩ : Partial).Sound := by
  refine ⟨Nat.two_pos, fun more (continues : Continues 2 least greatest more) => ?_⟩
  cases continues with
  | next above below rest =>
    cases rest with
    | next aboveToo belowToo rest =>
      cases rest
      simp only [number, List.foldl_cons, List.foldl_nil]
      refine encode_three ?_ ?_ ?_ ?_ ?_ ?_
      -- Nothing but the greatest value of the second byte keeps surrogates away.
      · unfold Nat.isValidChar
        omega
      all_goals omega

theorem sound_three (first : b.toNat = bits + 0xF0) (small : bits ≤ 4) (low : 0x80 ≤ least)
    (high : greatest ≤ 0xBF) (proper : 0x10 ≤ bits * 64 + (least - 0x80))
    (scalar : bits = 4 → greatest ≤ 0x8F) :
    (⟨[b], bits, 3, least, greatest⟩ : Partial).Sound := by
  refine ⟨Nat.succ_pos 2, fun more (continues : Continues 3 least greatest more) => ?_⟩
  cases continues with
  | next above below rest =>
    cases rest with
    | next aboveToo belowToo rest =>
      cases rest with
      | next aboveLast belowLast rest =>
        cases rest
        simp only [number, List.foldl_cons, List.foldl_nil]
        refine encode_four ?_ ?_ ?_ ?_ ?_ ?_ <;> omega

theorem sound_begins {missing : Nat} (begins : Start.ofByte b = .begins missing least greatest bits) :
    (⟨[b], bits, missing, least, greatest⟩ : Partial).Sound := by
  simp only [Start.ofByte, beq_iff_eq] at begins
  repeat' split at begins
  all_goals cases begins
  · refine sound_one ?_ ?_ ?_ ?_ ?_ <;> omega
  · refine sound_two ?_ ?_ ?_ ?_ ?_ ?_ <;> omega
  · refine sound_two ?_ ?_ ?_ ?_ ?_ ?_ <;> omega
  · refine sound_two ?_ ?_ ?_ ?_ ?_ ?_ <;> omega
  · refine sound_three ?_ ?_ ?_ ?_ ?_ ?_ <;> omega
  · refine sound_three ?_ ?_ ?_ ?_ ?_ ?_ <;> omega
  · refine sound_three ?_ ?_ ?_ ?_ ?_ ?_ <;> omega

end FirstBytes

section Reading

def pending : Option Partial → List UInt8
  | none => []
  | some p => p.bytes

variable {state : Option Partial}

theorem sound_begin (b : UInt8) : ∀ p ∈ (begin b).2, p.Sound := by
  intro p opened
  unfold begin at opened
  cases start : Start.ofByte b with
  | ascii | invalid =>
    rw [start] at opened
    cases opened
  | begins missing least greatest bits =>
    rw [start] at opened
    cases opened
    exact sound_begins start

theorem Partial.Sound.next {p : Partial} (sound : p.Sound) {b : UInt8} (above : p.least ≤ b.toNat)
    (below : b.toNat ≤ p.greatest) (open_ : 1 < p.missing) :
    (⟨p.bytes ++ [b], p.bits * 64 + (b.toNat - 0x80), p.missing - 1, 0x80, 0xBF⟩ : Partial).Sound := by
  refine ⟨Nat.sub_pos_of_lt open_, fun more continues => ?_⟩
  have whole : Continues p.missing p.least p.greatest (b :: more) := by
    have counted : p.missing = p.missing - 1 + 1 := by omega
    rw [counted]
    exact .next above below continues
  rw [List.append_assoc, List.singleton_append, ← sound.spelled _ whole, number, number,
    List.foldl_cons]

theorem Partial.Sound.last {p : Partial} (sound : p.Sound) {b : UInt8} (above : p.least ≤ b.toNat)
    (below : b.toNat ≤ p.greatest) (closes : p.missing ≤ 1) :
    String.utf8EncodeChar (Char.ofNat (p.bits * 64 + (b.toNat - 0x80))) = p.bytes ++ [b] := by
  have whole : Continues p.missing p.least p.greatest [b] := by
    have counted : p.missing = 0 + 1 := by
      have positive := sound.missing
      omega
    rw [counted]
    exact .next above below .done
  rw [← sound.spelled _ whole, number, List.foldl_cons, List.foldl_nil]

theorem sound_step (sound : ∀ p ∈ state, p.Sound) (b : UInt8) : ∀ p ∈ (step state b).2, p.Sound := by
  cases state with
  | none => exact sound_begin b
  | some p =>
    have here := sound p rfl
    simp only [step]
    split
    · rename_i continues
      simp only [Bool.and_eq_true, decide_eq_true_eq] at continues
      split
      · intro q closed
        cases closed
      · rename_i more
        intro q opened
        cases opened
        exact here.next continues.1 continues.2 (by omega)
    · exact sound_begin b

theorem bytes_begin (b : UInt8) : bytes (begin b).1 ++ pending (begin b).2 = [b] := by
  unfold begin
  cases start : Start.ofByte b with
  | ascii =>
    have small : b.toNat < 0x80 := by
      simp only [Start.ofByte, beq_iff_eq] at start
      repeat' split at start
      all_goals first | assumption | cases start
    have valid : b.toNat.isValidChar := by unfold Nat.isValidChar; omega
    have spelled : String.utf8EncodeChar (Char.ofNat b.toNat) = [b] := by
      unfold String.utf8EncodeChar
      rw [toNat_ofNat valid]
      dsimp only
      rw [if_pos (by omega), UInt8.ofNat_toNat]
    simp [bytes, OsChar.bytes, pending, spelled]
  | begins | invalid => rfl

theorem bytes_step (sound : ∀ p ∈ state, p.Sound) (b : UInt8) :
    bytes (step state b).1 ++ pending (step state b).2 = pending state ++ [b] := by
  cases state with
  | none => exact bytes_begin b
  | some p =>
    have here := sound p rfl
    simp only [step]
    split
    · rename_i continues
      simp only [Bool.and_eq_true, decide_eq_true_eq] at continues
      split
      · rename_i closes
        have spelled := here.last continues.1 continues.2 closes
        simp [bytes, OsChar.bytes, pending, spelled]
      · rfl
    · have fresh := bytes_begin b
      simp only [bytes, List.flatMap_cons, OsChar.bytes, List.append_assoc, pending] at fresh ⊢
      rw [fresh]

theorem bytes_read (sound : ∀ p ∈ state, p.Sound) (bs : List UInt8) :
    bytes (read state bs) = pending state ++ bs := by
  induction bs generalizing state with
  | nil => cases state <;> simp [read, bytes, pending, OsChar.bytes]
  | cons b bs ih =>
    have here := bytes_step sound b
    have later := ih (sound_step sound b)
    rw [read_cons, bytes, List.flatMap_append, ← bytes, ← bytes, later, ← List.append_assoc, here]
    simp

theorem bytes_ofBytes (bs : List UInt8) : bytes (ofBytes bs) = bs := by
  have nothing : ∀ p ∈ (none : Option Partial), p.Sound := nofun
  exact bytes_read nothing bs

theorem read_continues {p : Partial} {more : List UInt8}
    (continues : Continues p.missing p.least p.greatest more) (open_ : 0 < p.missing)
    (rest : List UInt8) :
    read (some p) (more ++ rest) = .char (Char.ofNat (number p.bits more)) :: read none rest := by
  induction more generalizing p with
  | nil =>
    generalize p.missing = missing at continues open_
    cases continues
    cases open_
  | cons b more ih =>
    generalize counted : p.missing = missing at continues open_
    cases continues with
    | next above below continues =>
      rename_i missing
      have within : (decide (p.least ≤ b.toNat) && decide (b.toNat ≤ p.greatest)) = true := by
        simp [above, below]
      rw [List.cons_append, read_cons]
      simp only [step, within, if_true, counted]
      cases missing with
      | zero =>
        cases continues
        rfl
      | succ missing =>
        have later := ih (p := ⟨p.bytes ++ [b], p.bits * 64 + (b.toNat - 0x80), missing + 1, 0x80,
          0xBF⟩) continues (Nat.succ_pos _)
        rw [if_neg (by omega), number, List.foldl_cons, ← number]
        exact later

inductive Leads (c : Char) : List UInt8 → Prop where
  | alone {b : UInt8} : Start.ofByte b = .ascii → b.toNat = c.val.toNat → Leads c [b]
  | first {b : UInt8} {more : List UInt8} {missing least greatest bits : Nat} :
      Start.ofByte b = .begins missing least greatest bits → 0 < missing →
      Continues missing least greatest more → number bits more = c.val.toNat → Leads c (b :: more)

theorem leads_two {c : Char} {b d : UInt8} (first : b.toNat = c.val.toNat / 64 + 0xC0)
    (second : d.toNat = c.val.toNat % 64 + 0x80) (least : 0x80 ≤ c.val.toNat)
    (greatest : c.val.toNat < 0x800) : Leads c [b, d] := by
  have start : Start.ofByte b = .begins 1 0x80 0xBF (b.toNat - 0xC0) := by
    simp only [Start.ofByte]
    rw [if_neg (by omega), if_neg (by omega), if_pos (by omega)]
  refine .first start Nat.one_pos (.next (by omega) (by omega) .done) ?_
  simp only [number, List.foldl_cons, List.foldl_nil]
  omega

theorem leads_three {c : Char} {b d e : UInt8} (first : b.toNat = c.val.toNat / 4096 + 0xE0)
    (second : d.toNat = c.val.toNat / 64 % 64 + 0x80) (third : e.toNat = c.val.toNat % 64 + 0x80)
    (least : 0x800 ≤ c.val.toNat) (greatest : c.val.toNat < 0x10000) : Leads c [b, d, e] := by
  have valid : c.val.toNat < 0xD800 ∨ 0xDFFF < c.val.toNat ∧ c.val.toNat < 0x110000 := c.valid
  have whole : ∀ bits, bits + 0xE0 = b.toNat → number bits [d, e] = c.val.toNat := by
    intro bits same
    simp only [number, List.foldl_cons, List.foldl_nil]
    omega
  have last : Continues 1 0x80 0xBF [e] := .next (by omega) (by omega) .done
  by_cases lowest : b.toNat = 0xE0
  · have start : Start.ofByte b = .begins 2 0xA0 0xBF 0 := by
      simp [Start.ofByte, lowest]
    exact .first start Nat.two_pos (.next (by omega) (by omega) last) (whole 0 lowest.symm)
  by_cases surrogates : b.toNat = 0xED
  · have start : Start.ofByte b = .begins 2 0x80 0x9F 0xD := by
      simp [Start.ofByte, surrogates]
    exact .first start Nat.two_pos (.next (by omega) (by omega) last) (whole 0xD surrogates.symm)
  · have start : Start.ofByte b = .begins 2 0x80 0xBF (b.toNat - 0xE0) := by
      simp only [Start.ofByte, beq_iff_eq]
      rw [if_neg (by omega), if_neg (by omega), if_neg (by omega), if_neg lowest,
        if_neg surrogates, if_pos (by omega)]
    exact .first start Nat.two_pos (.next (by omega) (by omega) last) (whole _ (by omega))

theorem leads_four {c : Char} {b d e f : UInt8} (first : b.toNat = c.val.toNat / 262144 + 0xF0)
    (second : d.toNat = c.val.toNat / 4096 % 64 + 0x80)
    (third : e.toNat = c.val.toNat / 64 % 64 + 0x80) (fourth : f.toNat = c.val.toNat % 64 + 0x80)
    (least : 0x10000 ≤ c.val.toNat) : Leads c [b, d, e, f] := by
  have valid : c.val.toNat < 0xD800 ∨ 0xDFFF < c.val.toNat ∧ c.val.toNat < 0x110000 := c.valid
  have whole : ∀ bits, bits + 0xF0 = b.toNat → number bits [d, e, f] = c.val.toNat := by
    intro bits same
    simp only [number, List.foldl_cons, List.foldl_nil]
    omega
  have last : Continues 2 0x80 0xBF [e, f] :=
    .next (by omega) (by omega) (.next (by omega) (by omega) .done)
  by_cases lowest : b.toNat = 0xF0
  · have start : Start.ofByte b = .begins 3 0x90 0xBF 0 := by
      simp [Start.ofByte, lowest]
    exact .first start (Nat.succ_pos 2) (.next (by omega) (by omega) last) (whole 0 lowest.symm)
  by_cases highest : b.toNat = 0xF4
  · have start : Start.ofByte b = .begins 3 0x80 0x8F 4 := by
      simp [Start.ofByte, highest]
    exact .first start (Nat.succ_pos 2) (.next (by omega) (by omega) last) (whole 4 highest.symm)
  · have start : Start.ofByte b = .begins 3 0x80 0xBF (b.toNat - 0xF0) := by
      simp only [Start.ofByte, beq_iff_eq]
      rw [if_neg (by omega), if_neg (by omega), if_neg (by omega), if_neg (by omega),
        if_neg (by omega), if_neg (by omega), if_neg lowest, if_pos (by omega)]
    exact .first start (Nat.succ_pos 2) (.next (by omega) (by omega) last) (whole _ (by omega))

theorem leads_encode (c : Char) : Leads c (String.utf8EncodeChar c) := by
  have valid : c.val.toNat < 0xD800 ∨ 0xDFFF < c.val.toNat ∧ c.val.toNat < 0x110000 := c.valid
  unfold String.utf8EncodeChar
  dsimp only
  split
  · have same : (UInt8.ofNat c.val.toNat).toNat = c.val.toNat := by
      rw [UInt8.toNat_ofNat']
      omega
    refine .alone ?_ same
    simp only [Start.ofByte, same]
    exact if_pos (by omega)
  split
  · refine leads_two ?_ ?_ (by omega) (by omega) <;> rw [UInt8.toNat_ofNat'] <;> omega
  split
  · refine leads_three ?_ ?_ ?_ (by omega) (by omega) <;> rw [UInt8.toNat_ofNat'] <;> omega
  · refine leads_four ?_ ?_ ?_ ?_ (by omega) <;> rw [UInt8.toNat_ofNat'] <;> omega

theorem read_encode (c : Char) (rest : List UInt8) :
    read none (String.utf8EncodeChar c ++ rest) = .char c :: read none rest := by
  have known (n : Nat) (same : n = c.val.toNat) : Char.ofNat n = c := by
    rw [same]
    exact Char.ofNat_toNat c
  have leads := leads_encode c
  generalize String.utf8EncodeChar c = bytes at leads
  cases leads with
  | @alone b start same =>
    rw [List.singleton_append, read_cons, step, begin, start]
    simp [known b.toNat same]
  | @first b more missing least greatest bits start open_ continues same =>
    rw [List.cons_append, read_cons, step, begin, start]
    simp only [List.nil_append]
    rw [read_continues continues open_, known _ same]

theorem ofBytes_bytes (s : String) : ofBytes (Text.bytes s) = ofString s := by
  rw [Text.bytes_eq, ofBytes, ofString]
  induction s.toList with
  | nil => rfl
  | cons c cs ih => rw [List.flatMap_cons, read_encode, ih, List.map_cons]

theorem eq_ofString_of_text? {t : OsText} {s : String} (text : text? t = some s) :
    t = ofString s := by
  obtain ⟨cs, units, rfl⟩ := Option.map_eq_some_iff.mp text
  rw [ofString, String.toList_ofList]
  clear text
  induction t generalizing cs with
  | nil =>
    obtain rfl : cs = [] := by simpa using units.symm
    rfl
  | cons u us ih =>
    cases u with
    | stray => simp [List.mapM_cons, OsChar.char?] at units
    | char c =>
      simp only [List.mapM_cons, OsChar.char?, Option.pure_def, Option.bind_eq_bind,
        Option.bind_some, Option.bind_eq_some_iff, Option.some.injEq] at units
      obtain ⟨others, later, rfl⟩ := units
      rw [List.map_cons, ← ih others later]

theorem text?_ofBytes {bs : List UInt8} {s : String} :
    text? (ofBytes bs) = some s ↔ bs = Text.bytes s := by
  constructor
  · intro text
    rw [← bytes_ofBytes bs, eq_ofString_of_text? text, bytes_ofString]
  · rintro rfl
    rw [ofBytes_bytes, text?_ofString]

end Reading

end OsText

theorem Text.bytes_inj {s t : String} : Text.bytes s = Text.bytes t ↔ s = t := by
  refine ⟨fun same => ?_, congrArg Text.bytes⟩
  have text := OsText.text?_ofBytes.mpr same
  rw [OsText.ofBytes_bytes, OsText.text?_ofString] at text
  exact Option.some.inj text

end Stencil
