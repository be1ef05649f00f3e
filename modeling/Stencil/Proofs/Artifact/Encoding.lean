import Stencil.Artifact
import Stencil.Data
import Stencil.Proofs.Json.Documents
import Stencil.Proofs.Json.Printing

namespace Stencil.Artifact

open Json

def payload : Artifact → String × Value
  | source a => ("source_text", .string a.text)
  | resource a => ("content", .array (a.content.map fun b => .ofNat b.toNat))

/-- An artifact as a host hands it over: its fields after the word for its kind. -/
def data (a : Artifact) : Data :=
  .table [(.text "type", .value a.kind.value), (.text "name", .value (.string a.name)),
    match a with
    | source a => (.text "source_text", .value (.string a.text))
    | resource a => (.text "content", .list (a.content.map fun b => .int b.toNat))]

theorem members_eq (a : Artifact) :
    a.members = [("type", a.kind.value), ("name", .string a.name), a.payload] := by
  cases a <;> rfl

theorem byte_fits (b : UInt8) :
    -(Number.signedLimit : Int) ≤ b.toNat ∧ (b.toNat : Int) < Number.unsignedLimit := by
  have small := b.toNat_lt
  constructor
  · simp only [Number.signedLimit]
    omega
  · simp only [Number.unsignedLimit]
    omega

theorem ofNat_byte (b : UInt8) :
    Value.ofNat b.toNat = .number (.int ⟨b.toNat, (byte_fits b).1, (byte_fits b).2⟩) := by
  rw [Value.ofNat, Value.ofInt, Whole.nearest_eq]

theorem exact_bytes (bytes : List UInt8) :
    (Value.array (bytes.map fun b => .ofNat b.toNat)).Exact := by
  induction bytes with
  | nil => trivial
  | cons b bytes ih => exact ⟨trivial, ih⟩

theorem exact_members (a : Artifact) : Value.ExactMembers a.members := by
  cases a with
  | source a => exact ⟨trivial, trivial, trivial, trivial⟩
  | resource a => exact ⟨trivial, trivial, exact_bytes a.content, trivial⟩

theorem tabledItems_bytes (bytes : List UInt8) :
    Value.tabledItems (bytes.map fun b => .ofNat b.toNat) =
      bytes.map fun b => .ofNat b.toNat := by
  induction bytes with
  | nil => rfl
  | cons b bytes ih =>
    rw [List.map_cons, Value.tabledItems, ih]
    rfl

theorem tabledMembers_members (a : Artifact) : Value.tabledMembers a.members = a.members := by
  cases a with
  | source a => rfl
  | resource a =>
    simp [members, kind, Kind.value, Value.tabledMembers, Value.tabled, tabledItems_bytes]

theorem itemsToValues_bytes (bytes : List UInt8) :
    Data.itemsToValues (bytes.map fun b => .int b.toNat) =
      .ok (bytes.map fun b => .ofNat b.toNat) := by
  induction bytes with
  | nil => rfl
  | cons b bytes ih =>
    have whole := Whole.ofInt?_eq (byte_fits b).1 (byte_fits b).2
    rw [List.map_cons, Data.itemsToValues, ih, Data.toValue, whole, List.map_cons, ofNat_byte]
    rfl

theorem toValue_data (a : Artifact) : a.data.toValue = .ok a.value := by
  cases a with
  | source a => rfl
  | resource a =>
    have bytes := itemsToValues_bytes a.content
    simp [data, value, members, Data.toValue, Data.entriesToMembers, Data.Key.print, bytes, bind,
      Except.bind, Except.map]

theorem bytes_injective {bytes others : List UInt8}
    (same : bytes.map (fun b => Value.ofNat b.toNat) = others.map fun b => .ofNat b.toNat) :
    bytes = others := by
  refine (List.map_inj_right fun b c alike => ?_).mp same
  rw [ofNat_byte, ofNat_byte] at alike
  simp only [Value.number.injEq, Number.int.injEq, Whole.mk.injEq, Int.natCast_inj] at alike
  exact UInt8.toNat_inj.mp alike

theorem members_injective {a b : Artifact} (same : a.members = b.members) : a = b := by
  rw [members_eq, members_eq] at same
  simp only [List.cons.injEq, Prod.mk.injEq, Value.string.injEq, true_and, and_true] at same
  obtain ⟨kind, name, payload⟩ := same
  cases a with
  | source a =>
    cases b with
    | source b =>
      have text : a.text = b.text := by simpa [Artifact.payload] using payload
      obtain ⟨_, _⟩ := a
      cases name
      cases text
      rfl
    | resource b => exact absurd kind (by simp [Artifact.kind, Kind.value, Kind.text])
  | resource a =>
    cases b with
    | source b => exact absurd kind (by simp [Artifact.kind, Kind.value, Kind.text])
    | resource b =>
      have listed : a.content.map (fun b => Value.ofNat b.toNat) =
          b.content.map fun b => .ofNat b.toNat := by
        simpa only [Artifact.payload, Prod.mk.injEq, Value.array.injEq, true_and] using payload
      have content := bytes_injective listed
      obtain ⟨_, _⟩ := a
      cases name
      cases content
      rfl

theorem objectText_print (a : Artifact) : ObjectText a.print a.members :=
  Json.objectText_print a.exact_members

theorem parseMembers_print (a : Artifact) : parseMembers a.print = .ok a.members := by
  rw [parseMembers_objectText a.objectText_print, tabledMembers_members]

theorem parse_print (a : Artifact) : Value.parse a.print = .ok a.value := by
  rw [parse_objectText a.objectText_print, tabledMembers_members]
  rfl

theorem print_injective {a b : Artifact} (same : a.print = b.print) : a = b := by
  have read := a.parseMembers_print
  rw [same, b.parseMembers_print] at read
  exact members_injective (Except.ok.inj read).symm

/-- The text of an artifact tells the artifact, and is the value that stands for it among
variables. -/
theorem print_encodes (a b : Artifact) (c : Context) (name : String) :
    ObjectText a.print [("type", a.kind.value), ("name", .string a.name), a.payload] ∧
    parseMembers a.print = .ok [("type", a.kind.value), ("name", .string a.name), a.payload] ∧
    (a.print = b.print ↔ a = b) ∧ (∀ s r, (source s).print ≠ (resource r).print) ∧
    ∃ v, Value.parse a.print = .ok v ∧ c.insertData name a.data = .ok (c.insert name v) ∧
      (c.insert name v).get? name = some v := by
  rw [← members_eq]
  refine ⟨a.objectText_print, a.parseMembers_print, ⟨print_injective, congrArg print⟩,
    fun s r same => ?_, a.value,
    a.parse_print, ?_, Table.get?_insert_self name a.value c.entries⟩
  · cases print_injective same
  · rw [Context.insertData, toValue_data]
    rfl

end Stencil.Artifact
