import LinkedDocs.Proofs.Endings
import LinkedDocs.Proofs.Isolation

/-!
# When a transformation completes

A fault in the content of an entity is reported, and the others are worked on. What the relocation
and the index read of all entities is not covered by that: the full name of a type and the type that
a member extends are used as texts, and anything else in their place stops the transformation before
the first entity is revised. Nor is a revision that never ends: the transformation waits for it for
ever, whatever the limit is. Main statement: `run_completes`.
-/

namespace LinkedDocs

open LinkedDocs.Graph Relocation LinkIndex

namespace Graph

variable {g : Graph} {config : Config}

lemma exists_of_mem_listed {kind : EntityKind} {e c : Entity} (hc : c ∈ g.listed kind e)
    {ids : List Value} (hids : e.children.items = .ok ids) :
    ∃ id ∈ ids, g.expect kind id = .ok c := by
  rw [listed, getD_items hids] at hc
  obtain ⟨id, hid, hc⟩ := List.mem_filterMap.1 hc
  exact ⟨id, hid, eq_ok_of_toOption hc⟩

/-- A type that an index was built over has a text for its full name. -/
lemma fullName_of_build {index : LinkIndex} (h : build g config = .ok index) {s t : Entity}
    (hposted : .type s t ∈ g.postings) : ∃ name, t.fullName = .text name := by
  obtain ⟨a, ha, hassembly⟩ := mem_postings.1 hposted
  obtain ⟨s', hs, t', ht, rfl, rfl⟩ :
      ∃ s' ∈ g.listed .namespace a, ∃ t' ∈ g.listed .type s', s = s' ∧ t = t' := by
    simpa using hassembly
  -- Down the lists, what was registered for the whole was registered for each item.
  obtain ⟨rs, hrs, -⟩ := bind_eq_ok.1 h
  obtain ⟨parts, hparts, -⟩ := bind_eq_ok.1 hrs
  obtain ⟨_, hone⟩ := ok_of_mapM hparts ha
  obtain ⟨ids, hids, hone⟩ := bind_eq_ok.1 hone
  obtain ⟨spaces, hspaces, -⟩ := bind_eq_ok.1 hone
  obtain ⟨id, hid, hexpect⟩ := exists_of_mem_listed hs hids
  obtain ⟨_, hone⟩ := ok_of_mapM hspaces hid
  obtain ⟨s', hs', hone⟩ := bind_eq_ok.1 hone
  obtain rfl : s' = s := Except.ok.inj (hs'.symm.trans hexpect)
  obtain ⟨name, -, hone⟩ := bind_eq_ok.1 hone
  obtain ⟨ids, hids, hone⟩ := bind_eq_ok.1 hone
  obtain ⟨types, htypes, -⟩ := bind_eq_ok.1 hone
  obtain ⟨id, hid, hexpect⟩ := exists_of_mem_listed ht hids
  obtain ⟨_, hone⟩ := ok_of_mapM htypes hid
  obtain ⟨t', ht', hone⟩ := bind_eq_ok.1 hone
  obtain rfl : t' = t := Except.ok.inj (ht'.symm.trans hexpect)
  obtain ⟨site, hsite, -⟩ := bind_eq_ok.1 hone
  exact ⟨_, (siteOf_eq_ok hsite).2.1⟩

lemma hasTextNames_of_build (h : g.Sound) {index : LinkIndex}
    (hindex : build g config = .ok index) :
    HasTextNames g := by
  rintro ⟨k, e⟩ he hkind
  obtain ⟨s, hs⟩ := h.exists_type_posting he hkind
  exact fullName_of_build hindex hs

end Graph

namespace Relocation

variable {g : Graph}

lemma hasTextNames_of_namedTypes {types : List (Text × Scalar)} (h : namedTypes g = .ok types) :
    HasTextNames g := by
  rintro ⟨k, e⟩ he hkind
  obtain ⟨_, hone⟩ := ok_of_mapM h (List.mem_filter.2 ⟨he, by simpa using hkind⟩)
  obtain ⟨_, hname, -⟩ := bind_eq_ok.1 hone
  obtain ⟨name, hname, -⟩ := map_eq_ok.1 hname
  exact ⟨name, expectText_eq_ok hname⟩

end Relocation

namespace Transform

variable {g : Graph} {config : Config} {st : Stage}

/-- Only a graph whose names are texts gets as far as the work on its entities. -/
lemma hasTexts_of_prepare (h : g.Sound) (hst : prepare config g = .ok st) :
    HasTextNames g ∧ HasTextTargets g := by
  obtain ⟨hrelocate, hresolver, -⟩ := prepare_eq_ok hst
  have hnames : HasTextNames g := by
    unfold relocate at hrelocate
    split at hrelocate
    case h_1 =>
      obtain ⟨rfl, -⟩ := Relocated.mk.inj hrelocate
      obtain ⟨index, hindex, -⟩ := bind_eq_ok.1 hresolver
      exact hasTextNames_of_build h hindex
    case h_2 =>
      split at hrelocate
      · cases hrelocate
      case h_2 htypes => exact hasTextNames_of_namedTypes htypes
  refine ⟨hnames, ?_⟩
  by_contra hspelled
  obtain ⟨g', fault, hfault⟩ := (relocate_ok (h.workable hnames) config).2 hspelled
  rw [hrelocate] at hfault
  cases hfault

end Transform

/-- The report of an entity that is waited for in vain, or whose revision fails. -/
def Entity.failure? (timeout : Option Double) (standing : Standing) (resolver : Resolver)
    (e : Entity) : Option Failure :=
  if standing.isRefused timeout then some (.ofFault e.id .longWait)
  else if standing.isLate timeout then some (.ofTimeout e.id timeout)
  else
    match e.outcome? resolver with
    | some (.failed fault) => some (.ofFault e.id fault)
    | _ => none

namespace Transform

variable {g : Graph} {config : Config} {st : Stage}

/-- The course of things in which nothing is raised from outside. -/
def Course.plain (standing : Entity → Standing) : Course :=
  ⟨fun _ => none, standing⟩

lemma map_failure_harmed (st : Stage) (timeout : Option Double) (standing : Entity → Standing) :
    ((st.harmed timeout (.plain standing)).map fun y => y.2.failure timeout y.1.id) =
      st.walk.filterMap fun y => y.2.failure? timeout (standing y.2) st.resolver := by
  rw [Stage.harmed, List.map_filterMap]
  refine List.filterMap_congr ?_
  rintro ⟨k, e⟩ -
  have hstanding : (Course.plain standing).standing e = standing e := rfl
  have hraised : (Course.plain standing).raised e = none := rfl
  simp only [Entity.failure?, Course.harm?, Course.mishap?, hstanding, hraised]
  by_cases hrefused : (standing e).isRefused timeout = true
  · rw [if_pos hrefused, if_pos hrefused]
    rfl
  rw [if_neg hrefused, if_neg hrefused]
  by_cases hlate : (standing e).isLate timeout = true
  · rw [if_pos hlate, if_pos hlate]
    cases timeout <;> rfl
  · rw [if_neg hlate, if_neg hlate]
    cases e.outcome? st.resolver with
    | none => rfl
    | some outcome => cases outcome <;> rfl

/-- **A transformation completes just if the names in the graph are texts and all work ends.** It
then reports the entities that are waited for in vain or whose revision fails, each with what went
wrong and in the order of the walk, and counts the others. A revision ends if the index adds no
marks to texts and the lists in the texts of the entity can be laid out. If a full name or an
extended type is no text, the transformation ends with a fault and reports nothing. -/
theorem run_completes {data : Value} {g : Graph} (hread : ofValue data = .ok g) (config : Config)
    (standing : Entity → Standing) :
    (HasTextNames g ∧ HasTextTargets g → ∃ st, prepare config g = .ok st ∧
      ((∃ y ∈ st.walk, y.2.revise st.resolver = none) → run standing config g = none) ∧
      ((∀ y ∈ st.walk, y.2.revise st.resolver ≠ none) → ∃ final report trace,
        run standing config g = some ⟨final, .ok (report, trace)⟩ ∧
        report.failures = (st.walk.filterMap fun y =>
          y.2.failure? config.timeout (standing y.2) st.resolver) ∧
        report.processed + report.failures.length = st.walk.length) ∧
      (Markup.AddsUnmarked st.resolver → ∀ y ∈ st.walk,
        (∀ t, .text t ∈ y.2.rendered → ∃ laid,
          Markup.layOutLists (Markup.format (Markup.takenOut st.resolver t).1) = .ok laid) →
        y.2.revise st.resolver ≠ none)) ∧
    (¬(HasTextNames g ∧ HasTextTargets g) →
      ∃ g' fault, run standing config g = some ⟨g', .error fault⟩) := by
  have hsound := (reading_of_ofValue hread).sound
  refine ⟨?_, fun htexts => ?_⟩
  · rintro ⟨hnames, hspelled⟩
    obtain ⟨st, hst, -⟩ := prepare_workable config (hsound.workable hnames) hspelled
    have hendless : st.Endless (.plain standing) ↔ ∃ y ∈ st.walk, y.2.revise st.resolver = none :=
      by simp [Stage.Endless, Course.plain]
    have hcases := runWith_disturb_cases hst (.plain standing)
    refine ⟨st, hst, fun hnone => ?_, fun hsome => ?_, ?_⟩
    · rcases hcases with ⟨-, hrun⟩ | ⟨hnot, -⟩
      · exact hrun
      · exact absurd (hendless.2 hnone) hnot
    · rcases hcases with ⟨hnone, -⟩ | ⟨-, works, hends, hrun⟩
      · obtain ⟨y, hy, hrevise⟩ := hendless.1 hnone
        exact absurd hrevise (hsome y hy)
      · have hisolated := isolated_finish hsound.linked.keyed hst hends
        exact ⟨_, _, _, hrun, hisolated.failures.trans (map_failure_harmed ..), hisolated.total⟩
    · intro hadds y hy hlists hnone
      obtain ⟨t, ht, hrender⟩ := Revision.exists_endless_of_revise hnone
      exact Markup.text_render_ne_endless hadds (hlists t ht) hrender
  · cases hst : prepare config g with
    | ok st => exact absurd (hasTexts_of_prepare hsound hst) htexts
    | error y => exact ⟨y.1, y.2, runWith_of_error hst⟩

/-- A type that has a number for its summary. -/
def numberedType : List (String × Value) :=
  [("name", .text ['T']), ("summary", .int 5)]

theorem run_completes_of_number :
    let g := typesGraph [numberedType]
    ofValue (typesFile [numberedType]) = .ok g ∧ HasTextNames g ∧ HasTextTargets g ∧
      ∃ st final report trace, prepare {} g = .ok st ∧
        run (fun _ => .over) {} g = some ⟨final, .ok (report, trace)⟩ ∧
        report.failures = (st.walk.filterMap fun y => y.2.failure? none .over st.resolver) ∧
        report.processed + report.failures.length = st.walk.length ∧
        report.failures.map (·.error) =
          [ "AttributeError: 'int' object has no attribute 'strip'".toList] := by
  intro g
  have hread : ofValue (typesFile [numberedType]) = .ok g := rfl
  have hnames : HasTextNames g := by decide +kernel
  have hspelled : HasTextTargets g := by decide +kernel
  obtain ⟨st, hst, -, hends, -⟩ := (run_completes hread {} fun _ => .over).1 ⟨hnames, hspelled⟩
  obtain ⟨st', hst', hsome, herror⟩ := prepare_of_within 9 {} g
    (fun st => (∀ y ∈ st.walk, y.2.revise st.resolver ≠ none) ∧
      ((st.walk.filterMap fun y => y.2.failure? none .over st.resolver).map (·.error)) =
        [ "AttributeError: 'int' object has no attribute 'strip'".toList]) (by decide +kernel)
  obtain rfl : st = st' := Except.ok.inj (hst.symm.trans hst')
  obtain ⟨final, report, trace, hrun, hfailures, htotal⟩ := hends hsome
  exact ⟨hread, hnames, hspelled, st, final, report, trace, hst, hrun, hfailures, htotal,
    by rw [hfailures]; exact herror⟩

/-- A truth value for the full name of a type is read, and the transformation stops at it. -/
theorem run_stops_at_truth_value :
    let types := [[("name", .text ['T']), ("full_name", .bool true)]]
    let g := typesGraph types
    ofValue (typesFile types) = .ok g ∧ ∃ g', run (fun _ => .over) {} g =
      some ⟨g', .error (.lacks (.bool true) "casefold".toList)⟩ :=
  ⟨rfl, _, rfl⟩

/-- A type whose name is the token of the first text that is stashed, with a reference to itself. -/
def selfNamed : List (String × Value) :=
  [("name", .text "\x020\x03".toList), ("full_name", .text "N.X".toList),
    ("summary", .text "<see cref=\"T:N.X\"/>".toList)]

/-- The link to the type, in which its name is read as two tokens. -/
def selfLink : List (Text.Piece Nat) :=
  [.plain '['] ++ .found 0 :: "](/api-reference/".toList.map .plain ++ [.found 0, .plain ')']

/-- Whether all that is left of the summary of an entity is a token, of that link. -/
def linksItself (resolver : Resolver) (e : Entity) : Bool :=
  match e.notes.summary with
  | .scalar (.text t) => Markup.needsWork t && (Markup.laidOutWithin 2 resolver t).any fun y =>
      y.1 = Markup.token 0 && y.2.items = [Markup.Stash.written selfLink]
  | _ => false

lemma revise_of_linksItself {resolver : Resolver} {e : Entity}
    (h : linksItself resolver e = true) : e.revise resolver = none := by
  unfold linksItself at h
  split at h
  case h_2 => cases h
  case h_1 t hsummary =>
    obtain ⟨hwork, hlaid⟩ := Bool.and_eq_true_iff.1 h
    obtain ⟨⟨u, s⟩, hlaid, heq⟩ := (Option.any_eq_true _ _).1 hlaid
    obtain ⟨hu, hs⟩ := Bool.and_eq_true_iff.1 heq
    obtain rfl : u = Markup.Stash.written [.found 0] := of_decide_eq_true hu
    have hlink : Markup.Stash.FirstOnly selfLink :=
      ⟨by simp [selfLink, Markup.tokenOpen], by simp [selfLink]⟩
    have hrestore : s.restore (Markup.Stash.written [.found 0]) = .error .endless :=
      Markup.Stash.restore_endless (by rw [of_decide_eq_true hs]; rfl) hlink (by simp [selfLink])
        (by decide) ⟨by simp, by simp⟩ (by simp)
    exact Revision.revise_eq_none_of_summary hsummary
      (Markup.text_render_endless hwork (Markup.laidOut_of_within hlaid) hrestore)

/-- The transformation of a graph with such a type never ends, whatever the scheduler does. -/
theorem run_endless (standing : Entity → Standing) :
    ofValue (typesFile [selfNamed]) = .ok (typesGraph [selfNamed]) ∧
      run standing {} (typesGraph [selfNamed]) = none := by
  refine ⟨rfl, ?_⟩
  obtain ⟨st, hst, hwalk⟩ := prepare_of_within 9 {} (typesGraph [selfNamed])
    (fun st => (st.walk.any fun y => linksItself st.resolver y.2) = true) (by decide +kernel)
  obtain ⟨y, hy, hself⟩ := List.any_eq_true.1 hwalk
  refine runWith_eq_none hst hy ?_
  rw [reviseWithin, revise_of_linksItself hself]
  rfl

end Transform

end LinkedDocs
