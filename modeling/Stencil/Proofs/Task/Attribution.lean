import Stencil.Proofs.Resolver.Resolve
import Stencil.Proofs.Task.Execute
import Stencil.Proofs.Template.Compile

namespace Stencil

open Template (Compiled)

variable {ω : Type}

namespace Failure

/-- A failure to resolve a name is about that name, and is of the kind of what was answered when the
name was read. -/
structure Blames (f : Failure) (e : Engine) (name : String)
    (answer : Except File.Error (Option String)) : Prop where
  template : f.template? = some name
  stage : f.kind = .read ∨ f.kind = .notFound ∨ f.kind = .parse
  read (cause) : f.kind = .read ∧ f.cause? = some cause ↔ answer = .error cause
  notFound : f.kind = .notFound ↔ answer = .ok none
  parse : f.kind = .parse ↔ ∃ source defect, answer = .ok (some source) ∧
    Template.compile e.escaping name source = .error defect

end Failure

namespace Engine

variable {e : Engine} {name source : String} {answer : String → Except File.Error (Option String)}

theorem make_name {template : Compiled} (made : e.make answer name = .ok template) :
    template.name = name := by
  unfold make at made
  split at made
  · cases made
  · cases made
  · exact Template.compile_name (of_compile_ok made)

theorem make_blames {f : Failure} (failed : e.make answer name = .error f) :
    f.Blames e name (answer name) := by
  unfold make at failed
  split at failed
  · rename_i cause answered
    cases failed
    rw [answered]
    exact ⟨rfl, .inl rfl, by simp [Failure.kind, Failure.cause?], by simp [Failure.kind],
      by simp [Failure.kind]⟩
  · rename_i answered
    cases failed
    rw [answered]
    exact ⟨rfl, .inr (.inl rfl), by simp [Failure.kind], by simp [Failure.kind],
      by simp [Failure.kind]⟩
  · rename_i source answered
    obtain ⟨defect, found, rfl⟩ := of_compile_error failed
    rw [answered]
    refine ⟨rfl, .inr (.inr rfl), by simp [Failure.kind], by simp [Failure.kind], ?_⟩
    exact ⟨fun _ => ⟨source, defect, rfl, found⟩, fun _ => rfl⟩

end Engine

theorem Template.Compiled.render_blames {t : Compiled} {context : Context} {f : Failure}
    (failed : t.render context = .error f) : f.kind = .render ∧ f.template? = some t.name := by
  unfold Compiled.render at failed
  split at failed
  · cases failed
  · cases failed
    exact ⟨rfl, rfl⟩

structure Cache.Labelled (c : Cache Edition) : Prop where
  ascending : Table.Ascending c.slots
  label {name edition} : c.get? name = some edition → edition.template.name = name

namespace Cache.Labelled

variable {c : Cache Edition} {name : String}

theorem empty : (Cache.empty : Cache Edition).Labelled :=
  ⟨List.Pairwise.nil, nofun⟩

theorem countHit (labelled : c.Labelled) : c.countHit.Labelled :=
  ⟨labelled.ascending, labelled.label⟩

theorem reserve (labelled : c.Labelled) : (c.reserve name).Labelled := by
  refine ⟨ascending_reserve labelled.ascending, fun found => labelled.label ?_⟩
  rwa [get?_reserve] at found

theorem fill (labelled : c.Labelled) {edition : Edition}
    (own : edition.template.name = name) : (c.fill name edition).Labelled := by
  refine ⟨ascending_fill labelled.ascending edition, fun {query another} found => ?_⟩
  rw [get?_fill] at found
  split at found
  · rename_i same
    cases found
    rw [own, same]
  · exact labelled.label found

theorem release (labelled : c.Labelled) : (c.release name).Labelled := by
  refine ⟨ascending_release labelled.ascending, fun found => labelled.label ?_⟩
  rwa [get?_release labelled.ascending] at found

end Cache.Labelled

def Depot.Labelled (d : Depot ω) : Prop :=
  ∀ c ∈ d.caches, c.Labelled

theorem Depot.Labelled.cacheOf {d : Depot ω} (labelled : d.Labelled) (r : Resolver ω) :
    (d.cacheOf r).Labelled := by
  unfold Depot.cacheOf
  cases found : d.caches[r.cache]? with
  | none => exact .empty
  | some cache => exact labelled cache (List.mem_of_getElem? found)

namespace Resolver

variable {r : Resolver ω} {d after : Depot ω} {name : String} {result : Except Failure Edition}

theorem labelled_put (labelled : d.Labelled) {cache : Cache Edition} (own : cache.Labelled)
    (workshop : Workshop ω) : (r.put d cache workshop).Labelled := by
  intro other member
  rcases List.mem_or_eq_of_mem_set member with old | new
  · exact labelled other old
  · rw [new]
    exact own

theorem compile_reads {w workshop : Workshop ω}
    (compiled : (r.compile name w).1 = (result, workshop)) : workshop.reads = w.reads + 1 := by
  have compiles := compile_compiles r name w
  rw [compiled] at compiles
  generalize (r.compile name w).2 = signals at compiles
  cases compiles with
  | unreadable | absent | defective | made => rfl

theorem Resolves.reads_of_absent (resolves : r.Resolves d name result after)
    (absent : (d.cacheOf r).get? name = none) :
    after.workshop.reads = d.workshop.reads + 1 := by
  cases resolves with
  | kept found =>
    rw [absent] at found
    cases found
  | filled _ compiled | released _ compiled => exact compile_reads compiled

theorem Resolves.label {edition : Edition} (resolves : r.Resolves d name (.ok edition) after)
    (labelled : d.Labelled) : edition.template.name = name := by
  cases found : (d.cacheOf r).get? name with
  | some kept =>
    cases (resolves.of_kept found).1
    exact (labelled.cacheOf r).label found
  | none => exact Engine.make_name (resolves.of_absent found).1.symm

theorem Resolves.labelled (resolves : r.Resolves d name result after) (labelled : d.Labelled) :
    after.Labelled := by
  have cache := labelled.cacheOf r
  cases resolves with
  | kept found => exact labelled_put labelled cache.countHit _
  | filled absent compiled =>
    have own := (Resolves.filled absent compiled).label labelled
    exact labelled_put labelled (cache.reserve.fill own) _
  | released absent compiled => exact labelled_put labelled cache.reserve.release _

theorem Resolves.blames {f : Failure} (resolves : r.Resolves d name (.error f) after) :
    f.Blames r.engine name (r.read name d.workshop.supply).1 ∧
      after.workshop.supply = (r.read name d.workshop.supply).2 ∧
      after.workshop.reads = d.workshop.reads + 1 := by
  cases found : (d.cacheOf r).get? name with
  -- What is kept does not fail.
  | some kept => cases (resolves.of_kept found).1
  | none =>
    obtain ⟨made, read⟩ := resolves.of_absent found
    exact ⟨Engine.make_blames made.symm, read, resolves.reads_of_absent found⟩

end Resolver

namespace Task

variable {ρ π : Type} {t : Task ρ π ω} {d : Depot ω}

inductive Ends (t : Task ρ π ω) (d : Depot ω) :
    Except Failure (Option Artifact) → Depot ω → Prop where
  | skipped : Ends t d (.ok none) d
  | unnamed : Ends t d (.error (.unnamed t.purpose.name)) d
  | drawn {name context answer after} :
      (t.resolver.resolve t.purpose.template d).1 = (answer, after) →
      Ends t d (draw name context (answer.map (·.template))) after

theorem execute_ends (t : Task ρ π ω) (round : ρ) (d : Depot ω) (p : π) :
    Ends t d (t.execute round (d, p)).1.1 (t.execute round (d, p)).1.2.1 := by
  rcases wanted : t.purpose.analyze round t.annotated p with ⟨wants, p'⟩
  cases wants with
  | false =>
    rw [execute_skipped wanted]
    exact .skipped
  | true =>
    rcases named : t.purpose.artifactName t.annotated p' with ⟨name, p''⟩
    by_cases nameless : name = ""
    · subst nameless
      rw [execute_unnamed wanted named]
      exact .unnamed
    · rcases resolved : (t.resolver.resolve t.purpose.template d).1 with ⟨answer, after⟩
      obtain ⟨q, drawn⟩ := execute_named wanted named nameless resolved
      rw [drawn]
      exact .drawn resolved

theorem of_draw_error {name : String} {context : Context} {answer : Except Failure Compiled}
    {f : Failure} (failed : draw name context answer = .error f) :
    answer = .error f ∨ ∃ template, answer = .ok template ∧ template.render context = .error f := by
  cases answer with
  | error g =>
    cases failed
    exact .inl rfl
  | ok template =>
    simp only [draw, Bind.bind, Except.bind] at failed
    cases rendered : template.render context with
    | error g =>
      rw [rendered] at failed
      cases failed
      exact .inr ⟨template, rfl, rendered⟩
    | ok text =>
      rw [rendered] at failed
      cases failed

variable {result : Except Failure (Option Artifact)} {after : Depot ω}

theorem Ends.labelled (ends : t.Ends d result after) (labelled : d.Labelled) : after.Labelled := by
  cases ends with
  | skipped | unnamed => exact labelled
  | drawn resolved =>
    have resolves := Resolver.resolve_resolves t.resolver d t.purpose.template
    rw [resolved] at resolves
    exact resolves.labelled labelled

theorem Ends.template {f : Failure} (ends : t.Ends d (.error f) after) (labelled : d.Labelled) :
    f.template? = if f.kind = .invalidArtifact then none else some t.purpose.template := by
  suffices about : (f.kind = .invalidArtifact ∧ f.template? = none) ∨
      (f.kind ≠ .invalidArtifact ∧ f.template? = some t.purpose.template) by
    rcases about with ⟨kind, none⟩ | ⟨kind, named⟩
    · rw [if_pos kind, none]
    · rw [if_neg kind, named]
  generalize failed : Except.error f = result at ends
  cases ends with
  | skipped => cases failed
  | unnamed =>
    cases failed
    exact .inl ⟨rfl, rfl⟩
  | @drawn name context answer after resolved =>
    have resolves := Resolver.resolve_resolves t.resolver d t.purpose.template
    rw [resolved] at resolves
    right
    cases answer with
    | error g =>
      cases failed
      have blames := resolves.blames.1
      refine ⟨fun kind => ?_, blames.template⟩
      have stage := blames.stage
      simp [kind] at stage
    | ok edition =>
      obtain impossible | ⟨template, made, unrendered⟩ := of_draw_error failed.symm
      · cases impossible
      · cases made
        obtain ⟨kind, named⟩ := Template.Compiled.render_blames unrendered
        rw [resolves.label labelled] at named
        exact ⟨by simp [kind], named⟩

end Task

namespace Depot

variable {d : Depot ω}

/-- A depot at some time: resolvers have been made, names have been resolved and tasks executed, and
at any moment the supply may have become another one. -/
inductive Arises : Depot ω → Prop where
  | new (supply : ω) : Arises (.new supply)
  | made {d : Depot ω} (engine : Engine)
      (read : String → ω → Except File.Error (Option String) × ω) :
      Arises d → Arises (d.resolver engine read).2
  | supplied {d : Depot ω} (supply : ω) : Arises d → Arises { d with workshop.supply := supply }
  | resolved {d : Depot ω} (r : Resolver ω) (name : String) :
      Arises d → Arises (r.resolve name d).1.2
  | executed {ρ π : Type} {d : Depot ω} (t : Task ρ π ω) (round : ρ) (p : π) :
      Arises d → Arises (t.execute round (d, p)).1.2.1

theorem Arises.labelled (arises : d.Arises) : d.Labelled := by
  induction arises with
  | new supply => exact nofun
  | made engine read _ labelled =>
    exact List.forall_mem_append.mpr ⟨labelled, List.forall_mem_singleton.mpr .empty⟩
  | supplied supply _ labelled => exact labelled
  | resolved r name _ labelled => exact (Resolver.resolve_resolves r _ name).labelled labelled
  | executed t round p _ labelled => exact (t.execute_ends round _ p).labelled labelled

/-- Whatever has happened before: a failure to resolve a name is about that name, and of the kind of
the answer to the one reading that has just been made; what a name is resolved to was compiled under
that name, and fails to be rendered under it; and a task fails with its own template, unless it is
for want of a name. -/
theorem failures_blamed (arises : d.Arises) :
    (∀ (r : Resolver ω) (name : String),
      let (answer, supply) := r.read name d.workshop.supply
      let (result, after) := (r.resolve name d).1
      (∀ f, result = .error f →
        f.Blames r.engine name answer ∧ after.workshop.supply = supply ∧
          after.workshop.reads = d.workshop.reads + 1) ∧
      ∀ edition, result = .ok edition →
        edition.template.name = name ∧
          ∀ context f, edition.template.render context = .error f →
            f.kind = .render ∧ f.template? = some name) ∧
    ∀ {ρ π : Type} (t : Task ρ π ω) (round : ρ) (p : π) (f : Failure),
      (t.execute round (d, p)).1.1 = .error f →
        f.template? = if f.kind = .invalidArtifact then none else some t.purpose.template := by
  refine ⟨fun r name => ?_, fun t round p f failed => ?_⟩
  · have resolves := Resolver.resolve_resolves r d name
    refine ⟨fun f failed => ?_, fun edition resolved => ?_⟩
    · rw [failed] at resolves
      exact resolves.blames
    · rw [resolved] at resolves
      have label := resolves.label arises.labelled
      refine ⟨label, fun context f failed => ?_⟩
      rw [← label]
      exact Template.Compiled.render_blames failed
  · have ends := t.execute_ends round d p
    rw [failed] at ends
    exact ends.template arises.labelled

def troubled : Library :=
  ⟨.flaky 1 .notText (.embedded [("a", "\x7b\x7b x \x7d\x7d"), ("b", "\x7b\x7b")]), .fresh []⟩

def kindOf? {α : Type} : Except Failure α → Option Failure.Kind
  | .error f => some f.kind
  | .ok _ => none

theorem of_kindOf? {α : Type} {result : Except Failure α} {kind : Failure.Kind}
    (failed : kindOf? result = some kind) : ∃ f, result = .error f ∧ f.kind = kind := by
  cases result with
  | error f => exact ⟨f, rfl, Option.some.inj failed⟩
  | ok => cases failed

theorem failures_blamed_troubled :
    let r := ((Depot.new troubled).resolver ⟨false⟩ Library.read).1
    let start := ((Depot.new troubled).resolver ⟨false⟩ Library.read).2
    let d := (r.resolve "a" start).1.2
    let t : Task Unit Unit Library := .forSubject (Task.sample "a") ⟨"User", []⟩ r
    d.Arises ∧
      (∃ f, (r.resolve "a" start).1.1 = .error f ∧ f.kind = .read ∧ f.cause? = some .notText) ∧
      (∃ f, (r.resolve "b" d).1.1 = .error f ∧ f.kind = .parse ∧ f.template? = some "b") ∧
      ∃ f, (t.execute () (d, ())).1.1 = .error f ∧ f.kind = .render ∧ f.template? = some "a" := by
  intro r start d t
  have fresh : start.Arises := .made _ _ (.new troubled)
  have later : d.Arises := .resolved r "a" fresh
  refine ⟨later, ?_, ?_, ?_⟩
  · obtain ⟨f, failed, kind⟩ : ∃ f, (r.resolve "a" start).1.1 = .error f ∧ f.kind = .read :=
      of_kindOf? (by decide +kernel)
    have blames := (((failures_blamed fresh).1 r "a").1 f failed).1
    exact ⟨f, failed, (blames.read .notText).mpr rfl⟩
  · obtain ⟨f, failed, kind⟩ : ∃ f, (r.resolve "b" d).1.1 = .error f ∧ f.kind = .parse :=
      of_kindOf? (by decide +kernel)
    have blames := (((failures_blamed later).1 r "b").1 f failed).1
    exact ⟨f, failed, kind, blames.template⟩
  · obtain ⟨f, failed, kind⟩ : ∃ f, (t.execute () (d, ())).1.1 = .error f ∧ f.kind = .render :=
      of_kindOf? (by decide +kernel)
    have named := (failures_blamed later).2 t () () f failed
    rw [kind] at named
    exact ⟨f, failed, kind, named⟩

end Depot

end Stencil
