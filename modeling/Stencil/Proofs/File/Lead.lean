import Stencil.Proofs.File.Walk

namespace Stencil.File

namespace Node

/-- A segment leads from a directory to its entry of that name; an idle one leads nowhere else. -/
inductive Next : Node → OsText → Node → Prop where
  | idle {entries segment} : Path.isIdle segment = true →
      Next (.dir entries) segment (.dir entries)
  | entry {entries segment node} : Path.isIdle segment = false →
      entries.lookup segment = some node → Next (.dir entries) segment node

inductive Leads : Node → List OsText → Node → Prop where
  | here (n : Node) : Leads n [] n
  | step {n next m segment segments} : Next n segment next → Leads next segments m →
      Leads n (segment :: segments) m

/-- Whatever its entries are, a segment is not looked up in a node. -/
inductive Bars : Node → OsText → Error → Prop where
  | file {content segment} : Bars (.file content) segment .notADirectory
  | long {entries segment} : Place.nameBound < OsText.size segment →
      Bars (.dir entries) segment .nameTooLong

/-- Segments lead to a node in which the next segment is not looked up. -/
def Barred (n : Node) (segments : List OsText) (e : Error) : Prop :=
  ∃ before segment after m,
    segments = before ++ segment :: after ∧ n.Leads before m ∧ m.Bars segment e

variable {n m next : Node} {segment : OsText} {segments : List OsText} {e : Error}

theorem Next.unique (first : n.Next segment m) (second : n.Next segment next) : m = next := by
  cases first with
  | idle idle =>
    cases second with
    | idle => rfl
    | entry named => simp [idle] at named
  | entry named found =>
    cases second with
    | idle idle => simp [idle] at named
    | entry _ foundToo => exact Option.some.inj (found.symm.trans foundToo)

theorem leads_cons (first : n.Next segment next) :
    n.Leads (segment :: segments) m ↔ next.Leads segments m := by
  constructor
  · intro leads
    cases leads with
    | step firstToo rest =>
      rw [first.unique firstToo]
      exact rest
  · exact .step first

theorem Leads.unique (first : n.Leads segments m) (second : n.Leads segments next) : m = next := by
  induction first with
  | here =>
    cases second
    rfl
  | step leads _ ih => exact ih ((leads_cons leads).mp second)

theorem leads_append {before after : List OsText} :
    n.Leads (before ++ after) m ↔ ∃ k, n.Leads before k ∧ k.Leads after m := by
  constructor
  · intro leads
    induction before generalizing n with
    | nil => exact ⟨n, .here n, leads⟩
    | cons segment before ih =>
      cases leads with
      | step first rest =>
        obtain ⟨k, leads, leadsToo⟩ := ih rest
        exact ⟨k, .step first leads, leadsToo⟩
  · rintro ⟨k, leads, leadsToo⟩
    induction leads with
    | here => exact leadsToo
    | step first _ ih => exact .step first (ih leadsToo)

/-- The entries of all directories have names that are not too long. -/
def Named (n : Node) : Prop :=
  ∀ segments entries name node, n.Leads segments (.dir entries) →
    entries.lookup name = some node → OsText.size name ≤ Place.nameBound

theorem barred_cons (first : n.Next segment next) (clear : ¬n.Bars segment e) :
    n.Barred (segment :: segments) e ↔ next.Barred segments e := by
  constructor
  · rintro ⟨before, last, after, m, whole, leads, bars⟩
    cases before with
    | nil =>
      obtain ⟨rfl, -⟩ := List.cons_eq_cons.mp whole
      cases leads
      exact absurd bars clear
    | cons start before =>
      obtain ⟨rfl, rest⟩ := List.cons_eq_cons.mp whole
      exact ⟨before, last, after, m, rest, (leads_cons first).mp leads, bars⟩
  · rintro ⟨before, last, after, m, rfl, leads, bars⟩
    exact ⟨segment :: before, last, after, m, rfl, .step first leads, bars⟩

theorem not_barred_cons (stuck : ∀ next, ¬n.Next segment next) (clear : ¬n.Bars segment e) :
    ¬n.Barred (segment :: segments) e := by
  rintro ⟨before, last, after, m, whole, leads, bars⟩
  cases before with
  | nil =>
    obtain ⟨rfl, -⟩ := List.cons_eq_cons.mp whole
    cases leads
    exact clear bars
  | cons start before =>
    obtain ⟨rfl, -⟩ := List.cons_eq_cons.mp whole
    cases leads with
    | step first => exact stuck _ first

theorem size_le_of_idle (idle : Path.isIdle segment = true) :
    OsText.size segment ≤ Place.nameBound := by
  unfold Path.isIdle at idle
  rw [Bool.or_eq_true, List.isEmpty_iff, beq_iff_eq] at idle
  rcases idle with rfl | rfl <;> decide

theorem not_leads_of_barred (named : n.Named) (barred : n.Barred segments e) :
    ¬n.Leads segments m := by
  obtain ⟨before, segment, after, k, rfl, leads, bars⟩ := barred
  intro whole
  obtain ⟨kToo, leadsToo, rest⟩ := leads_append.mp whole
  rw [leadsToo.unique leads] at rest
  cases rest with
  | step next =>
    cases bars with
    | file => cases next
    | long long =>
      refine absurd long (Nat.not_lt.mpr ?_)
      cases next with
      | idle idle => exact size_le_of_idle idle
      | entry _ found => exact named _ _ _ _ leads found

end Node

inductive Outcome (leads : Node → Prop) (barred : Error → Prop) : Except Error Node → Prop where
  | found {n} : leads n → (∀ e, ¬barred e) → Outcome leads barred (.ok n)
  | missing : (∀ n, ¬leads n) → (∀ e, ¬barred e) → Outcome leads barred (.error .notFound)
  | barred {e} : barred e → Outcome leads barred (.error e)

namespace Place

variable {segment : OsText} {segments : List OsText}

theorem step_outcome (p : Place) (down : segment ≠ Path.dotDot) :
    Outcome (p.node.Next segment) (p.node.Bars segment)
      ((step (.error .notFound) p segment).map Place.node) := by
  obtain ⟨node, above⟩ := p
  cases node with
  | file content => exact .barred .file
  | dir entries =>
    have clear (short : OsText.size segment ≤ nameBound) (e : Error) :
        ¬(Node.dir entries).Bars segment e := by
      intro bars
      cases bars with
      | long long => exact absurd long (Nat.not_lt.mpr short)
    unfold step
    cases idle : Path.isIdle segment with
    | true => exact .found (.idle idle) (clear (Node.size_le_of_idle idle))
    | false =>
      simp only [Bool.false_eq_true, if_false, if_neg down]
      by_cases long : nameBound < OsText.size segment
      · rw [if_pos long]
        exact .barred (.long long)
      · rw [if_neg long]
        have short := clear (Nat.not_lt.mp long)
        cases found : entries.lookup segment with
        | some node => exact .found (.entry idle found) short
        | none =>
          refine .missing (fun n first => ?_) short
          cases first with
          | idle named => simp [idle] at named
          | entry _ foundToo => simp [found] at foundToo

theorem walk_outcome (p : Place) (down : Path.dotDot ∉ segments) :
    Outcome (p.node.Leads segments) (p.node.Barred segments)
      ((p.walk segments).map Place.node) := by
  induction segments generalizing p with
  | nil =>
    refine .found (.here _) ?_
    rintro e ⟨before, segment, after, m, whole, -⟩
    simp at whole
  | cons segment segments ih =>
    rw [List.mem_cons, not_or] at down
    have first := step_outcome p (Ne.symm down.1)
    unfold walk
    cases stepped : step (.error .notFound) p segment with
    | error e =>
      rw [stepped] at first
      cases first with
      | missing stuck clear =>
        refine .missing (fun n leads => ?_) fun e => Node.not_barred_cons stuck (clear e)
        cases leads with
        | step first => exact stuck _ first
      | barred bars => exact .barred ⟨[], segment, segments, p.node, rfl, .here _, bars⟩
    | ok next =>
      rw [stepped] at first
      cases first with
      | found leads clear =>
        have rest := ih next down.2
        dsimp only
        generalize (next.walk segments).map Place.node = result at rest
        cases rest with
        | found leadsToo clearToo =>
          exact .found ((Node.leads_cons leads).mpr leadsToo)
            fun e barred => clearToo e ((Node.barred_cons leads (clear e)).mp barred)
        | missing stuck clearToo =>
          exact .missing (fun n leadsToo => stuck n ((Node.leads_cons leads).mp leadsToo))
            fun e barred => clearToo e ((Node.barred_cons leads (clear e)).mp barred)
        | barred barred => exact .barred ((Node.barred_cons leads (clear _)).mpr barred)

end Place

namespace Tree

variable {t : Tree} {root p : Path} {entries : List (OsText × Node)} {n : Node} {e : Error}

/-- A node stands under a path below a directory. -/
def Stands (t : Tree) (root p : Path) (n : Node) : Prop :=
  ∃ entries, t.find root = .ok (.dir entries) ∧ (Node.dir entries).Leads p.segments n

/-- Nothing keeps a path below a directory from being followed to its end, or to where it finds
nothing. -/
structure Clear (t : Tree) (root p : Path) : Prop where
  short : OsText.size (root.join p) < pathBound
  passable : ∀ entries e, t.find root = .ok (.dir entries) →
    ¬(Node.dir entries).Barred p.segments e

theorem stands_iff (opens : t.find root = .ok (.dir entries)) :
    t.Stands root p n ↔ (Node.dir entries).Leads p.segments n := by
  constructor
  · rintro ⟨others, opensToo, leads⟩
    rw [opens] at opensToo
    cases opensToo
    exact leads
  · exact fun leads => ⟨entries, opens, leads⟩

theorem Stands.unique {m : Node} (stands : t.Stands root p n) (standsToo : t.Stands root p m) :
    n = m := by
  obtain ⟨entries, opens, leads⟩ := stands
  exact leads.unique ((stands_iff opens).mp standsToo)

theorem checkPath_ok : checkPath p = .ok () ↔
    OsChar.char '\x00' ∉ p ∧ p ≠ [] ∧ OsText.size p < pathBound := by
  unfold checkPath
  by_cases nul : OsChar.char '\x00' ∈ p
  · simp [nul]
  · by_cases empty : p = []
    · simp [empty]
    · by_cases long : pathBound ≤ OsText.size p <;>
        simp [nul, empty, long, Nat.not_le.mp]

theorem checkPath_join (checked : checkPath root = .ok ()) (relative : p.isAbsolute = false)
    (clean : OsChar.char '\x00' ∉ p) :
    checkPath (root.join p) =
      if OsText.size (root.join p) < pathBound then .ok () else .error .nameTooLong := by
  obtain ⟨cleanRoot, nonempty, -⟩ := checkPath_ok.mp checked
  have cleanToo : OsChar.char '\x00' ∉ root.join p := by
    unfold Path.join
    rw [relative, if_neg Bool.false_ne_true]
    split <;> simp [cleanRoot, clean, Path.slash]
  have nonemptyToo : root.join p ≠ [] := by
    unfold Path.join
    rw [relative, if_neg Bool.false_ne_true]
    split <;> simp [nonempty]
  split
  · rename_i short
    exact checkPath_ok.mpr ⟨cleanToo, nonemptyToo, short⟩
  · rename_i long
    unfold checkPath
    rw [if_neg (mt List.contains_iff_mem.mp cleanToo), if_neg (mt List.isEmpty_iff.mp nonemptyToo),
      if_pos (Nat.not_lt.mp long)]

theorem find_checked (found : t.find p = .ok n) : checkPath p = .ok () ∧
    ∃ place, t.reach p = .ok place ∧ place.node = n := by
  rw [find_eq] at found
  cases checked : checkPath p with
  | error e => simp [checked, Except.bind] at found
  | ok _ =>
    cases reached : t.reach p with
    | error e => simp [checked, reached, Except.bind, Except.map] at found
    | ok place =>
      rw [checked, reached] at found
      exact ⟨rfl, place, rfl, Except.ok.inj found⟩

theorem find_join_outcome (opens : t.find root = .ok (.dir entries))
    (relative : p.isAbsolute = false) (clean : OsChar.char '\x00' ∉ p)
    (down : Path.dotDot ∉ p.segments) :
    if OsText.size (root.join p) < pathBound then
      Outcome ((Node.dir entries).Leads p.segments) ((Node.dir entries).Barred p.segments)
        (t.find (root.join p))
    else t.find (root.join p) = .error .nameTooLong := by
  obtain ⟨checked, place, reached, node⟩ := find_checked opens
  have outcome := place.walk_outcome down
  have checkedToo := checkPath_join checked relative clean
  rw [node] at outcome
  rw [find_eq, reach_join t root relative, reached, checkedToo]
  split
  · exact outcome
  · rfl

theorem clear_of_find (opens : t.find root = .ok (.dir entries)) (relative : p.isAbsolute = false)
    (clean : OsChar.char '\x00' ∉ p) (down : Path.dotDot ∉ p.segments)
    (answered : t.find (root.join p) ≠ .error .notADirectory ∧
      t.find (root.join p) ≠ .error .nameTooLong) :
    t.Clear root p ∧ ∀ n, t.find (root.join p) = .ok n ↔ t.Stands root p n := by
  have outcome := find_join_outcome opens relative clean down
  split at outcome
  · rename_i short
    generalize t.find (root.join p) = result at answered outcome
    have clear : ∀ e, ¬(Node.dir entries).Barred p.segments e := by
      cases outcome with
      | found _ clear | missing _ clear => exact clear
      | barred barred =>
        obtain ⟨_, _, _, _, _, _, bars⟩ := barred
        cases bars with
        | file => exact absurd rfl answered.1
        | long => exact absurd rfl answered.2
    refine ⟨⟨short, fun others e opensToo => ?_⟩, fun n => ?_⟩
    · rw [opens] at opensToo
      cases opensToo
      exact clear e
    · rw [stands_iff opens]
      cases outcome with
      | barred barred => exact absurd barred (clear _)
      | missing nothing => exact ⟨nofun, fun here => absurd here (nothing n)⟩
      | found here =>
        constructor
        · intro same
          cases same
          exact here
        · exact fun hereToo => congrArg _ (here.unique hereToo)
  · exact absurd outcome answered.2

end Tree

end Stencil.File
