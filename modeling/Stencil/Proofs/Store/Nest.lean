import Stencil.Proofs.Store
import Stencil.Proofs.Store.Chain

namespace Stencil

open File (Tree)

def Reader.readAll {ω : Type} (read : Reader ω) :
    List String → ω → List (Except File.Error (Option String)) × ω
  | [], w => ([], w)
  | name :: names, w =>
    let (answer, w) := read name w
    let (answers, w) := readAll read names w
    (answer :: answers, w)

/-- Chains in chains, and at the leaves ways of reading one world. The same leaf may stand in
several places. -/
inductive Nest (ω : Type) where
  | leaf (read : Reader ω)
  | chain (parts : List (Nest ω))

namespace Nest

variable {ω : Type} {name : String} {w v : ω} {first : Reader ω} {readers : List (Reader ω)}
  {told : Except File.Error (Option String) × ω}

mutual

def leaves : Nest ω → List (Reader ω)
  | leaf read => [read]
  | chain parts => leavesAll parts

def leavesAll : List (Nest ω) → List (Reader ω)
  | [] => []
  | part :: parts => part.leaves ++ leavesAll parts

end

def orNext (told : Except File.Error (Option String) × ω)
    (next : ω → Except File.Error (Option String) × ω) : Except File.Error (Option String) × ω :=
  match told with
  | (.ok none, w) => next w
  | told => told

mutual

def read (name : String) : Nest ω → ω → Except File.Error (Option String) × ω
  | leaf read, w => read name w
  | chain parts, w => readFirst name parts w

def readFirst (name : String) : List (Nest ω) → ω → Except File.Error (Option String) × ω
  | [], w => (.ok none, w)
  | part :: parts, w => orNext (part.read name w) fun w => readFirst name parts w

end

def reader (nest : Nest ω) : Reader ω := fun name w => nest.read name w

def ofLeaves (readers : List (Reader ω)) : Nest ω :=
  chain (readers.map leaf)

/-- Leaves that are asked one after the other, all of which say nothing, and the world after that.
-/
inductive Passes (name : String) : ω → List (Reader ω) → ω → Prop where
  | nil {w : ω} : Passes name w [] w
  | cons {w v u : ω} {first : Reader ω} {readers : List (Reader ω)} :
      first name w = (.ok none, v) → Passes name v readers u → Passes name w (first :: readers) u

theorem orNext_silent (w : ω) (next : ω → Except File.Error (Option String) × ω) :
    orNext (.ok none, w) next = next w :=
  rfl

theorem orNext_spoken {answer : Except File.Error (Option String)} (spoken : answer ≠ .ok none)
    (w : ω) (next : ω → Except File.Error (Option String) × ω) :
    orNext (answer, w) next = (answer, w) := by
  obtain _ | _ | text := answer
  · rfl
  · exact absurd rfl spoken
  · rfl

theorem orNext_nothing : orNext told (fun w => (.ok none, w)) = told := by
  unfold orNext
  split <;> rfl

theorem orNext_assoc (next after : ω → Except File.Error (Option String) × ω) :
    orNext (orNext told next) after = orNext told fun w => orNext (next w) after := by
  obtain ⟨_ | _ | text, w⟩ := told <;> rfl

theorem readFirst_append (front back : List (Nest ω)) (w : ω) :
    readFirst name (front ++ back) w =
      orNext (readFirst name front w) fun w => readFirst name back w := by
  induction front generalizing w with
  | nil => rfl
  | cons part front ih => simp only [List.cons_append, readFirst, ih, orNext_assoc]

theorem read_ofLeaves_cons (name : String) (first : Reader ω) (readers : List (Reader ω)) (w : ω) :
    (ofLeaves (first :: readers)).read name w =
      orNext (first name w) fun w => (ofLeaves readers).read name w :=
  rfl

theorem read_ofLeaves_append (name : String) (front back : List (Reader ω)) (w : ω) :
    (ofLeaves (front ++ back)).read name w =
      orNext ((ofLeaves front).read name w) fun w => (ofLeaves back).read name w := by
  unfold ofLeaves
  rw [List.map_append]
  exact readFirst_append _ _ w

mutual

theorem read_leaves (name : String) :
    ∀ (nest : Nest ω) (w : ω), (ofLeaves nest.leaves).read name w = nest.read name w
  | leaf _, _ => orNext_nothing
  | chain parts, w => readFirst_leaves name parts w

theorem readFirst_leaves (name : String) :
    ∀ (parts : List (Nest ω)) (w : ω),
      (ofLeaves (leavesAll parts)).read name w = readFirst name parts w
  | [], _ => rfl
  | part :: parts, w => by
    have rest : (fun w => (ofLeaves (leavesAll parts)).read name w) = readFirst name parts :=
      funext fun w => readFirst_leaves name parts w
    rw [leavesAll, read_ofLeaves_append, read_leaves name part w, rest]
    rfl

end

theorem passes_iff :
    Passes name w readers v ↔ (ofLeaves readers).read name w = (.ok none, v) := by
  constructor
  · intro passes
    induction passes with
    | nil => rfl
    | cons silent _ ih =>
      rw [read_ofLeaves_cons, silent, orNext_silent]
      exact ih
  · intro same
    induction readers generalizing w with
    | nil =>
      cases same
      exact .nil
    | cons first readers ih =>
      rw [read_ofLeaves_cons] at same
      rcases asked : first name w with ⟨answer, u⟩
      rw [asked] at same
      by_cases silent : answer = .ok none
      · subst silent
        exact .cons asked (ih same)
      · rw [orNext_spoken silent] at same
        exact absurd (congrArg Prod.fst same) silent

theorem ofLeaves_answered (spoken : ((ofLeaves readers).read name w).1 ≠ .ok none) :
    ∃ front speaker back v, readers = front ++ speaker :: back ∧ Passes name w front v ∧
      speaker name v = (ofLeaves readers).read name w := by
  induction readers generalizing w with
  | nil => exact absurd rfl spoken
  | cons first readers ih =>
    rw [read_ofLeaves_cons] at spoken ⊢
    rcases asked : first name w with ⟨answer, u⟩
    rw [asked] at spoken
    by_cases silent : answer = .ok none
    · subst silent
      obtain ⟨front, speaker, back, v, rfl, passes, answers⟩ := ih spoken
      exact ⟨first :: front, speaker, back, v, rfl, .cons asked passes, answers⟩
    · rw [orNext_spoken silent]
      exact ⟨[], first, readers, w, rfl, .nil, asked⟩

end Nest

namespace Store

mutual

/-- The stores of a chain and of the chains in it, from the left. -/
def leaves : Store → List Store
  | chain stores => leavesAll stores
  | store => [store]

def leavesAll : List Store → List Store
  | [] => []
  | store :: stores => store.leaves ++ leavesAll stores

end

def atPlace (files : Tree) (place : Nat) : Reader (List Store) := fun name stores =>
  match stores[place]? with
  | some store =>
    let (answer, store) := store.read files name
    (answer, stores.set place store)
  | none => (.ok none, stores)

mutual

/-- A store as a nest, its leaves being in the places of a list from `place` on. -/
def nest (files : Tree) (place : Nat) : Store → Nest (List Store)
  | chain stores => .chain (nestAll files place stores)
  | _ => .leaf (atPlace files place)

def nestAll (files : Tree) (place : Nat) : List Store → List (Nest (List Store))
  | [] => []
  | store :: stores => store.nest files place :: nestAll files (place + store.leaves.length) stores

end

variable (files : Tree) (name : String)

theorem atPlace_read (store : Store) (front back : List Store) :
    atPlace files front.length name (front ++ [store] ++ back) =
      ((store.read files name).1, front ++ [(store.read files name).2] ++ back) := by
  simp [atPlace]

mutual

theorem length_leaves_read : ∀ store : Store,
    (store.read files name).2.leaves.length = store.leaves.length
  | embedded _ | directory _ | failing _ | flaky 0 _ _ | flaky (_ + 1) _ _ => rfl
  | chain stores => length_leavesAll_readFirst stores

theorem length_leavesAll_readFirst : ∀ stores : List Store,
    (leavesAll (readFirst files name stores).2).length = (leavesAll stores).length
  | [] => rfl
  | store :: stores => by
    have here := length_leaves_read store
    have rest := length_leavesAll_readFirst stores
    by_cases silent : store.Silent files name
    · rw [readFirst_silent silent]
      simp only [leavesAll, List.length_append, here, rest]
    · rw [readFirst_answered silent]
      simp only [leavesAll, List.length_append, here]

end

mutual

theorem read_nest : ∀ (store : Store) (front back : List Store),
    (store.nest files front.length).read name (front ++ store.leaves ++ back) =
      ((store.read files name).1, front ++ (store.read files name).2.leaves ++ back)
  | embedded _, front, back | directory _, front, back | failing _, front, back
  | flaky 0 _ _, front, back | flaky (_ + 1) _ _, front, back => atPlace_read files name _ front back
  | chain stores, front, back => readFirst_nest stores front back

theorem readFirst_nest : ∀ (stores front back : List Store),
    Nest.readFirst name (nestAll files front.length stores) (front ++ leavesAll stores ++ back) =
      ((readFirst files name stores).1,
        front ++ leavesAll (readFirst files name stores).2 ++ back)
  | [], _, _ => rfl
  | store :: stores, front, back => by
    have here := read_nest store front (leavesAll stores ++ back)
    have rest := readFirst_nest stores (front ++ (store.read files name).2.leaves) back
    rw [List.length_append, length_leaves_read] at rest
    simp only [nestAll, leavesAll, Nest.readFirst, List.append_assoc] at here rest ⊢
    rw [here]
    by_cases silent : store.Silent files name
    · rw [readFirst_silent silent, show (store.read files name).1 = .ok none from silent,
        Nest.orNext_silent, rest]
      simp only [leavesAll, List.append_assoc]
    · rw [readFirst_answered silent, Nest.orNext_spoken silent]
      simp only [leavesAll, List.append_assoc]

end

mutual

theorem leaves_nest : ∀ (store : Store) (place : Nat),
    (store.nest files place).leaves = (List.range' place store.leaves.length).map (atPlace files)
  | embedded _, _ | directory _, _ | failing _, _ | flaky _ _ _, _ => rfl
  | chain stores, place => leavesAll_nest stores place

theorem leavesAll_nest : ∀ (stores : List Store) (place : Nat),
    Nest.leavesAll (nestAll files place stores) =
      (List.range' place (leavesAll stores).length).map (atPlace files)
  | [], _ => rfl
  | store :: stores, place => by
    have here := leaves_nest store place
    have rest := leavesAll_nest stores (place + store.leaves.length)
    simp only [nestAll, leavesAll, Nest.leavesAll, here, rest, List.length_append, ← List.map_append,
      List.range'_append_1]

end

mutual

theorem leaves_of_mem_leaves : ∀ (store : Store), ∀ leaf ∈ store.leaves, leaf.leaves = [leaf]
  | embedded _, _, member | directory _, _, member | failing _, _, member
  | flaky _ _ _, _, member => by
    obtain rfl := List.mem_singleton.mp member
    rfl
  | chain stores, leaf, member => leaves_of_mem_leavesAll stores leaf member

theorem leaves_of_mem_leavesAll : ∀ (stores : List Store), ∀ leaf ∈ leavesAll stores,
    leaf.leaves = [leaf]
  | [], _, member => by cases member
  | store :: stores, leaf, member => by
    rcases List.mem_append.mp member with here | later
    · exact leaves_of_mem_leaves store leaf here
    · exact leaves_of_mem_leavesAll stores leaf later

end

theorem leavesAll_leaves (store : Store) : leavesAll store.leaves = store.leaves := by
  have alone : ∀ stores : List Store, (∀ leaf ∈ stores, leaf.leaves = [leaf]) →
      leavesAll stores = stores := by
    intro stores single
    induction stores with
    | nil => rfl
    | cons leaf stores ih =>
      obtain ⟨first, rest⟩ := List.forall_mem_cons.mp single
      rw [leavesAll, first, ih rest]
      rfl
  exact alone store.leaves (leaves_of_mem_leaves store)

theorem read_nest_leaves (store : Store) :
    (store.nest files 0).read name store.leaves =
      ((store.read files name).1, (store.read files name).2.leaves) := by
  have read := read_nest files name store [] []
  simpa only [List.length_nil, List.nil_append, List.append_nil] using read

def reader : Reader Store := fun name store => store.read files name

variable {s t : Store}

theorem read_alike (same : s.leaves = t.leaves) :
    (s.read files name).1 = (t.read files name).1 ∧
      (s.read files name).2.leaves = (t.read files name).2.leaves := by
  have nested : (s.nest files 0).leaves = (t.nest files 0).leaves := by
    rw [leaves_nest, leaves_nest, same]
  have alike : (s.nest files 0).read name s.leaves = (t.nest files 0).read name t.leaves := by
    rw [← Nest.read_leaves name (s.nest files 0), ← Nest.read_leaves name (t.nest files 0), nested,
      same]
  rw [read_nest_leaves, read_nest_leaves] at alike
  exact Prod.mk.inj alike

theorem readAll_alike (names : List String) (same : s.leaves = t.leaves) :
    ((reader files).readAll names s).1 = ((reader files).readAll names t).1 ∧
      ((reader files).readAll names s).2.leaves = ((reader files).readAll names t).2.leaves := by
  induction names generalizing s t with
  | nil => exact ⟨rfl, same⟩
  | cons name names ih =>
    obtain ⟨answer, after⟩ := read_alike files name same
    obtain ⟨answers, leaves⟩ := ih after
    exact ⟨List.cons_eq_cons.mpr ⟨answer, answers⟩, leaves⟩

end Store

/-- Chains in chains read like the one chain of their leaves, answer by answer and with the same
effect on the world, and so do stores that are chains in chains, with the same effect on each leaf.
A reading goes over the leaves from the left: past all of them if each says nothing, and otherwise
up to the first that says anything, whose answer it gives. -/
theorem Nest.flattens :
    (∀ (ω : Type) (nest : Nest ω) (names : List String) (w : ω),
      (ofLeaves nest.leaves).reader.readAll names w = nest.reader.readAll names w) ∧
    (∀ (ω : Type) (nest : Nest ω) (name : String) (w : ω),
      ((nest.read name w).1 = .ok none ↔ Passes name w nest.leaves (nest.read name w).2) ∧
      ((nest.read name w).1 = .ok none ∨
        ∃ front speaker back v, nest.leaves = front ++ speaker :: back ∧ Passes name w front v ∧
          speaker name v = nest.read name w ∧ (speaker name v).1 ≠ .ok none)) ∧
    ∀ (files : Tree) (store : Store) (names : List String),
      let flat := Store.chain store.leaves
      let read := Store.reader files
      (read.readAll names flat).1 = (read.readAll names store).1 ∧
      (read.readAll names flat).2.leaves = (read.readAll names store).2.leaves ∧
      ∀ name, (store.nest files 0).read name store.leaves =
        ((store.read files name).1, (store.read files name).2.leaves) := by
  refine ⟨fun ω nest names w => ?_, fun ω nest name w => ?_, fun files store names => ?_⟩
  · have same : (ofLeaves nest.leaves).reader = nest.reader :=
      funext fun name => funext fun w => read_leaves name nest w
    rw [same]
  · rw [← read_leaves name nest w]
    refine ⟨?_, ?_⟩
    · rw [passes_iff]
      exact ⟨fun silent => Prod.ext silent rfl, congrArg Prod.fst⟩
    · by_cases silent : ((ofLeaves nest.leaves).read name w).1 = .ok none
      · exact .inl silent
      · obtain ⟨front, speaker, back, v, split, passes, answers⟩ := ofLeaves_answered silent
        exact .inr ⟨front, speaker, back, v, split, passes, answers, answers ▸ silent⟩
  · have same : (Store.chain store.leaves).leaves = store.leaves := Store.leavesAll_leaves store
    obtain ⟨answers, leaves⟩ := Store.readAll_alike files names same
    exact ⟨answers, leaves, fun name => Store.read_nest_leaves files name store⟩

example :
    let store : Store := .chain [.chain [], .chain [.embedded [], .flaky 1 .notText
      (.embedded [("a", "first")])], .embedded [("a", "second")]]
    ((Store.reader ⟨.empty, []⟩).readAll ["a", "a", "b"] store).1 =
      [.error .notText, .ok (some "first"), .ok none] :=
  rfl

end Stencil
