import Stencil.Proofs.Text.Split

namespace Stencil.OsText

def begin (b : UInt8) : OsText × Option Partial :=
  match Start.ofByte b with
  | .ascii => ([.char (Char.ofNat b.toNat)], none)
  | .begins missing least greatest bits => ([], some ⟨[b], bits, missing, least, greatest⟩)
  | .invalid => ([.stray [b]], none)

def step : Option Partial → UInt8 → OsText × Option Partial
  | none, b => begin b
  | some p, b =>
    if p.least ≤ b.toNat && b.toNat ≤ p.greatest then
      let bits := p.bits * 64 + (b.toNat - 0x80)
      if p.missing ≤ 1 then ([.char (Char.ofNat bits)], none)
      else ([], some ⟨p.bytes ++ [b], bits, p.missing - 1, 0x80, 0xBF⟩)
    else (.stray p.bytes :: (begin b).1, (begin b).2)

theorem read_cons (state : Option Partial) (b : UInt8) (bs : List UInt8) :
    read state (b :: bs) = (step state b).1 ++ read (step state b).2 bs := by
  cases state with
  | none =>
    rw [read, step, begin]
    cases Start.ofByte b <;> rfl
  | some p =>
    rw [read, step]
    split
    · dsimp only
      split <;> rfl
    · rw [begin]
      cases Start.ofByte b <;> rfl

structure Partial.Proper (p : Partial) : Prop where
  least : 0x80 ≤ p.least
  number : 2 ≤ p.bits * 64 + (p.least - 0x80)
  last : p.missing ≤ 1 → 0x80 ≤ p.bits * 64 + (p.least - 0x80)

theorem proper_none : ∀ p ∈ (none : Option Partial), p.Proper :=
  nofun

theorem proper_begins {b : UInt8} {missing least greatest bits : Nat}
    (begins : Start.ofByte b = .begins missing least greatest bits) :
    (⟨[b], bits, missing, least, greatest⟩ : Partial).Proper := by
  simp only [Start.ofByte, beq_iff_eq] at begins
  repeat' split at begins
  all_goals
    cases begins
  all_goals
    constructor <;> dsimp only <;> omega

theorem proper_begin (b : UInt8) : ∀ p ∈ (begin b).2, p.Proper := by
  intro p opened
  unfold begin at opened
  cases start : Start.ofByte b with
  | ascii | invalid =>
    rw [start] at opened
    cases opened
  | begins missing least greatest bits =>
    rw [start] at opened
    cases opened
    exact proper_begins start

variable {state : Option Partial} {b : UInt8}

theorem proper_step (proper : ∀ p ∈ state, p.Proper) (b : UInt8) :
    ∀ p ∈ (step state b).2, p.Proper := by
  cases state with
  | none => exact proper_begin b
  | some p =>
    obtain ⟨least, number, -⟩ := proper p rfl
    simp only [step]
    split
    · rename_i continues
      simp only [Bool.and_eq_true, decide_eq_true_eq] at continues
      split
      · nofun
      · intro q opened
        cases opened
        constructor <;> dsimp only <;> omega
    · exact proper_begin b

theorem step_colon (proper : ∀ p ∈ state, p.Proper) :
    step state 0x3A = (read state [] ++ [.char ':'], none) := by
  cases state with
  | none => rfl
  | some p =>
    have least := (proper p rfl).least
    have ends : ¬(p.least ≤ (0x3A : UInt8).toNat ∧ (0x3A : UInt8).toNat ≤ p.greatest) :=
      fun within => absurd within.1 (Nat.not_le.mpr (Nat.lt_of_lt_of_le (by decide) least))
    have other : (decide (p.least ≤ (0x3A : UInt8).toNat) &&
        decide ((0x3A : UInt8).toNat ≤ p.greatest)) = false := by
      simpa using ends
    simp only [step, other]
    rfl

theorem char_ofNat_ne_colon {n : Nat} (other : n ≠ 0x3A) : Char.ofNat n ≠ ':' := by
  intro same
  have number : (Char.ofNat n).toNat = 0x3A := congrArg Char.toNat same
  by_cases valid : n.isValidChar
  · have kept : Char.ofNat n = Char.ofNatAux n valid := dif_pos valid
    rw [kept] at number
    exact other number
  · have null : Char.ofNat n = '\x00' := dif_neg valid
    rw [null] at number
    cases number

theorem colon_notMem_begin (other : b ≠ 0x3A) : .char ':' ∉ (begin b).1 := by
  unfold begin
  cases Start.ofByte b with
  | ascii =>
    have number : b.toNat ≠ 0x3A := fun same => other (UInt8.toNat_inj.mp same)
    simpa using (char_ofNat_ne_colon number).symm
  | begins | invalid => simp

theorem colon_notMem_step (proper : ∀ p ∈ state, p.Proper) (other : b ≠ 0x3A) :
    .char ':' ∉ (step state b).1 := by
  cases state with
  | none => exact colon_notMem_begin other
  | some p =>
    obtain ⟨least, -, enough⟩ := proper p rfl
    simp only [step]
    split
    · rename_i continues
      simp only [Bool.and_eq_true, decide_eq_true_eq] at continues
      split
      · rename_i last
        have number : p.bits * 64 + (b.toNat - 0x80) ≠ 0x3A := by
          have bound := enough last
          omega
        simpa using (char_ofNat_ne_colon number).symm
      · simp
    · simpa using colon_notMem_begin other

theorem read_colon (proper : ∀ p ∈ state, p.Proper) (before after : List UInt8) :
    read state (before ++ 0x3A :: after) = read state before ++ .char ':' :: read none after := by
  induction before generalizing state with
  | nil =>
    rw [List.nil_append, read_cons, step_colon proper, List.append_assoc, List.singleton_append]
  | cons b before ih =>
    rw [List.cons_append, read_cons, read_cons, ih (proper_step proper b), List.append_assoc]

theorem colon_notMem_read (proper : ∀ p ∈ state, p.Proper) {bytes : List UInt8}
    (clean : 0x3A ∉ bytes) : .char ':' ∉ read state bytes := by
  induction bytes generalizing state with
  | nil => cases state <;> simp [read]
  | cons b bytes ih =>
    obtain ⟨other, rest⟩ := List.ne_and_not_mem_of_not_mem_cons clean
    rw [read_cons]
    exact List.not_mem_append (colon_notMem_step proper (Ne.symm other))
      (ih (proper_step proper b) rest)

theorem ofBytes_colon (before after : List UInt8) :
    ofBytes (before ++ 0x3A :: after) = ofBytes before ++ .char ':' :: ofBytes after :=
  read_colon proper_none before after

theorem ofBytes_intercalate (parts : List (List UInt8)) :
    ofBytes (List.intercalate [0x3A] parts) =
      List.intercalate [.char ':'] (parts.map ofBytes) := by
  induction parts with
  | nil => rfl
  | cons part parts ih =>
    cases parts with
    | nil => simp
    | cons next others =>
      rw [List.intercalate_cons_cons, List.append_assoc, List.singleton_append, ofBytes_colon, ih]
      simp only [List.map_cons, List.intercalate_cons_cons, List.append_assoc,
        List.singleton_append]

theorem split_intercalate {parts : List (List UInt8)} (nonempty : parts ≠ [])
    (clean : ∀ part ∈ parts, 0x3A ∉ part) :
    split ':' (ofBytes (List.intercalate [0x3A] parts)) = parts.map ofBytes := by
  have cleanToo : ∀ t ∈ parts.map ofBytes, OsChar.char ':' ∉ t := by
    intro t member
    obtain ⟨part, among, rfl⟩ := List.mem_map.mp member
    exact colon_notMem_read proper_none (clean part among)
  rw [ofBytes_intercalate, split_eq]
  exact List.splitOn_intercalate (OsChar.char ':') cleanToo (by simpa using nonempty)

theorem split_ofBytes (bytes : List UInt8) :
    split ':' (ofBytes bytes) = (bytes.splitOn 0x3A).map ofBytes := by
  have clean : ∀ part ∈ bytes.splitOn 0x3A, 0x3A ∉ part := by
    intro part member inside
    have between := (mem_splitOnP _ part bytes).mp member
    exact absurd (between.clean _ inside) (by simp)
  have nonempty : bytes.splitOn 0x3A ≠ [] := List.splitOnP_ne_nil _ _
  have split := split_intercalate nonempty clean
  rwa [List.intercalate_splitOn] at split

theorem read_some_ne_nil (p : Partial) (bytes : List UInt8) : read (some p) bytes ≠ [] := by
  induction bytes generalizing p with
  | nil => simp [read]
  | cons b bytes ih =>
    rw [read_cons]
    simp only [step]
    split
    · split
      · exact List.cons_ne_nil _ _
      · exact ih _
    · exact List.cons_ne_nil _ _

theorem ofBytes_eq_nil {bytes : List UInt8} : ofBytes bytes = [] ↔ bytes = [] := by
  refine ⟨fun empty => ?_, fun empty => by rw [empty]; rfl⟩
  cases bytes with
  | nil => rfl
  | cons b bytes =>
    rw [ofBytes, read_cons, step, begin] at empty
    cases start : Start.ofByte b with
    | ascii | invalid => simp [start] at empty
    | begins => simp [start, read_some_ne_nil] at empty

theorem isEmpty_ofBytes (bytes : List UInt8) : (ofBytes bytes).isEmpty = bytes.isEmpty := by
  rw [Bool.eq_iff_iff, List.isEmpty_iff, List.isEmpty_iff, ofBytes_eq_nil]

end Stencil.OsText
