import Stencil.Json.Shape
import Stencil.Proofs.Json.Reading

namespace Stencil.Json

def parseMembers (text : String) : Except Fault (List (String × Value)) :=
  match skipSpace text.toList with
  | '\x7b' :: rest => do
    let (members, rest) ← readMembersWithin (depthFor rest) true rest
    readEnd rest
    .ok members
  | other => .error (mismatchAt other)

theorem follows_of_blank {gap : List Char} (blank : Blank gap) : Follows gap := by
  cases gap with
  | nil => exact follows_nil
  | cons c gap => exact follows_space (blank c List.mem_cons_self) gap

theorem parseMembers_objectText {text : String} {ms : List (String × Value)}
    (written : ObjectText text ms) : parseMembers text = .ok (Value.tabledMembers ms) := by
  obtain ⟨before, cs, after, blank, blank', spelled, whole⟩ := written
  cases spelled with
  | @object _ cs inside =>
    have brace : isSpace '\x7b' = false := rfl
    have deep : 2 * cs.length ≤ depthFor (cs ++ after) := by
      simp only [depthFor, List.length_append]
      omega
    have read := (inside.read deep (follows_of_blank blank')).1
    have ended := readEnd_blank blank'
    rw [parseMembers, whole, skipSpace_append blank, List.cons_append, skipSpace_cons brace]
    simp [read, ended, bind, Except.bind]

theorem parse_objectText {text : String} {ms : List (String × Value)}
    (written : ObjectText text ms) :
    Value.parse text = .ok (.ofPairs (Value.tabledMembers ms)) := by
  obtain ⟨before, cs, after, blank, blank', spelled, whole⟩ := written
  have deep : 2 * cs.length ≤ depthFor (before ++ (cs ++ after)) := by
    simp only [depthFor, List.length_append]
    omega
  have read := (spelled.read deep (follows_of_blank blank')).1
  have ended := readEnd_blank blank'
  rw [← readValueWithin_gap blank] at read
  simp [Value.parse, readValue, whole, read, ended, Value.tabled, bind, Except.bind]

end Stencil.Json
