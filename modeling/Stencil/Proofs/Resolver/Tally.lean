import Stencil.Proofs.Resolver.Resolve

namespace Stencil

open Template (Compiled)

structure Tally where
  has : String → Bool
  stats : Stats

namespace Tally

def request (made : String → Bool) (t : Tally) (name : String) : Tally :=
  if t.has name then { t with stats := { t.stats with hits := t.stats.hits + 1 } }
  else if made name then
    { has query := query == name || t.has query
      stats :=
        { t.stats with
          entries := t.stats.entries + 1
          misses := t.stats.misses + 1
          compilations := t.stats.compilations + 1 } }
  else
    { t with
      stats :=
        { t.stats with misses := t.stats.misses + 1, failures := t.stats.failures + 1 } }

variable {made : String → Bool} {t : Tally} {name : String}

theorem request_hit (has : t.has name = true) :
    t.request made name = ⟨t.has, { t.stats with hits := t.stats.hits + 1 }⟩ := by
  rw [request, if_pos has]

theorem request_filled (new : t.has name = false) (succeeds : made name = true) :
    t.request made name =
      ⟨fun query => query == name || t.has query,
        { t.stats with
          entries := t.stats.entries + 1
          misses := t.stats.misses + 1
          compilations := t.stats.compilations + 1 }⟩ := by
  rw [request, if_neg (Bool.eq_false_iff.mp new), if_pos succeeds]

theorem request_failed (new : t.has name = false) (fails : made name = false) :
    t.request made name =
      ⟨t.has, { t.stats with misses := t.stats.misses + 1, failures := t.stats.failures + 1 }⟩ := by
  rw [request, if_neg (Bool.eq_false_iff.mp new), if_neg (Bool.eq_false_iff.mp fails)]

theorem request_comm (made : String → Bool) (t : Tally) (first second : String) :
    (t.request made first).request made second = (t.request made second).request made first := by
  by_cases same : first = second
  · rw [same]
  · have apart : (second == first) = false := beq_eq_false_iff_ne.mpr (Ne.symm same)
    have apartToo : (first == second) = false := beq_eq_false_iff_ne.mpr same
    unfold request
    cases has : t.has first <;> cases hasToo : t.has second <;>
      cases made first <;> cases made second <;> simp [has, hasToo, apart, apartToo]
    funext query
    exact Bool.or_left_comm _ _ _

theorem requests_perm (made : String → Bool) (t : Tally) {names others : List String}
    (permuted : names.Perm others) :
    names.foldl (request made) t = others.foldl (request made) t :=
  permuted.foldl_eq' (fun first _ second _ t => request_comm made t first second) t

end Tally

namespace Resolver

variable {ω : Type} {r : Resolver ω} {answer : String → Except File.Error (Option String)}
  {d after : Depot ω} {name : String} {result : Except Failure Edition} {supply : ω}

theorem Steady.answers (steady : r.Steady supply answer) (name : String) :
    (r.read name supply).1 = answer name :=
  steady [] name

theorem Steady.read (steady : r.Steady supply answer) (name : String) :
    r.Steady (r.read name supply).2 answer :=
  fun before query => steady (name :: before) query

def tally (r : Resolver ω) (d : Depot ω) : Tally :=
  ⟨(d.cacheOf r).contains, (d.cacheOf r).stats⟩

def finds (r : Resolver ω) (answer : String → Except File.Error (Option String)) (d : Depot ω)
    (name : String) : Except Failure Compiled :=
  match (d.cacheOf r).get? name with
  | some edition => .ok edition.template
  | none => r.engine.make answer name

structure Offers (r : Resolver ω) (answer : String → Except File.Error (Option String))
    (found : String → Except Failure Compiled) (d : Depot ω) : Prop where
  within : r.Within d
  steady : r.Steady d.workshop.supply answer
  finds (query) : r.finds answer d query = found query

variable {found : String → Except Failure Compiled}

theorem finds_kept {edition : Edition} (kept : (d.cacheOf r).get? name = some edition) :
    r.finds answer d name = .ok edition.template := by
  rw [finds, kept]

theorem finds_absent (absent : (d.cacheOf r).get? name = none) :
    r.finds answer d name = r.engine.make answer name := by
  rw [finds, absent]

namespace Offers

theorem result_eq (offers : r.Offers answer found d)
    (resolves : r.Resolves d name result after) : result.map (·.template) = found name := by
  rw [← offers.finds]
  cases kept : (d.cacheOf r).get? name with
  | some edition =>
    rw [(resolves.of_kept kept).1, finds_kept kept]
    rfl
  | none =>
    have answers : (fun query => (r.read query d.workshop.supply).1) = answer :=
      funext offers.steady.answers
    rw [(resolves.of_absent kept).1, finds_absent kept, answers]

theorem steady_after (offers : r.Offers answer found d)
    (resolves : r.Resolves d name result after) : r.Steady after.workshop.supply answer := by
  cases kept : (d.cacheOf r).get? name with
  | some edition =>
    rw [(resolves.of_kept kept).2]
    exact offers.steady
  | none =>
    rw [(resolves.of_absent kept).2]
    exact offers.steady.read name

theorem resolves (offers : r.Offers answer found d) (resolves : r.Resolves d name result after) :
    r.Offers answer found after := by
  refine ⟨resolves.within offers.within, offers.steady_after resolves, fun query => ?_⟩
  have kept := resolves.get? offers.within query
  by_cases same : query = name
  · subst same
    have given := offers.result_eq resolves
    rw [if_pos rfl] at kept
    cases result with
    | ok edition =>
      rw [finds_kept kept, ← given]
      rfl
    | error failure =>
      cases before : (d.cacheOf r).get? query with
      | some edition => cases (resolves.of_kept before).1
      | none => rw [finds_absent kept, ← offers.finds query, finds_absent before]
  · rw [if_neg same] at kept
    rw [← offers.finds query, Resolver.finds, kept, Resolver.finds]

theorem tally_resolves (offers : r.Offers answer found d)
    (resolves : r.Resolves d name result after) :
    r.tally after = (r.tally d).request (fun query => (found query).isOk) name := by
  have within := offers.within
  have given := offers.result_eq resolves
  have reserved : Table.Ascending ((d.cacheOf r).reserve name).slots :=
    Cache.ascending_reserve within.ascending
  cases resolves with
  | kept found =>
    have has : (r.tally d).has name = true := by simp [tally, Cache.contains, found]
    rw [Tally.request_hit has, tally, cacheOf_put within.own]
    rfl
  | @filled edition _ absent compiled =>
    have new : (r.tally d).has name = false := by simp [tally, Cache.contains, absent]
    have succeeds : (found name).isOk = true := by rw [← given]; rfl
    have absentToo : ((d.cacheOf r).reserve name).get? name = none :=
      (Cache.get?_reserve name).trans absent
    have longer := Cache.length_fill reserved absentToo edition
    rw [Cache.length_reserve within.ascending absent] at longer
    rw [Tally.request_filled new succeeds, tally, cacheOf_put within.own]
    congr 1
    · funext query
      rw [Cache.contains, Cache.get?_fill, Cache.get?_reserve]
      by_cases same : query = name <;> simp [same, tally, Cache.contains]
    · rw [Cache.stats, longer]
      rfl
  | released absent compiled =>
    have new : (r.tally d).has name = false := by simp [tally, Cache.contains, absent]
    have fails : (found name).isOk = false := by rw [← given]; rfl
    have absentToo : ((d.cacheOf r).reserve name).get? name = none :=
      (Cache.get?_reserve name).trans absent
    have same := Cache.length_release absentToo
    rw [Cache.length_reserve within.ascending absent] at same
    rw [Tally.request_failed new fails, tally, cacheOf_put within.own]
    congr 1
    · funext query
      rw [Cache.contains, Cache.get?_release reserved, Cache.get?_reserve]
      rfl
    · rw [Cache.stats, same]
      rfl

end Offers

end Resolver

end Stencil
