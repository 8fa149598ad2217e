import LinkedDocs.Proofs.Persistence
import LinkedDocs.Proofs.Walks
import LinkedDocs.Proofs.Workable

/-!
# The phases of a transformation

Relocation, indexing and the walk come first; what they give is a `Stage`. The work on the entities
and its application come after that and cannot fail. So whether a transformation succeeds does not
depend on the work, and for a graph that has been read it does succeed if its type names are texts.
-/

namespace LinkedDocs

/-! ### The index of a linked graph -/

/-- Whether an entity has the names that the index makes keys of. The kind of a member is looked up
in a table, so if it is none of the kinds it can be no list and no record. -/
structure Entity.Indexable (e : Entity) : Prop where
  name : e.kind ≠ .parameter → ∃ t, e.name = .text t
  fullName : e.kind = .type → ∃ t, e.fullName = .text t
  memberKind : ∀ {v declaring isExtension extended},
    e.detail = .member (.stray v) declaring isExtension extended → ∃ s, v.identifier = .ok s

lemma Entity.Usable.indexable {e : Entity} (h : e.Usable) : e.Indexable := by
  obtain ⟨t, ht, -⟩ := h.name
  refine ⟨fun _ => ⟨t, ht⟩, h.fullName, ?_⟩
  intro v declaring isExtension extended hd
  obtain ⟨k, hk⟩ := h.memberKind hd
  cases hk

namespace LinkIndex

open LinkedDocs.Graph Relocation

variable {P : EntityKind → Prop} {g : Graph} {k : Scalar} {e : Entity} {config : Config}

/-- What a child list names is there. -/
lemma expect_child (h : g.Linked P) (he : (k, e) ∈ g.entries)
    (wanted : EntityKind) (hwanted : wanted.parentKind? = some e.kind) {v : Value}
    (hv : v ∈ e.childIds.map .scalar) :
    ∃ j c, v = .scalar j ∧ (j, c) ∈ g.entries ∧ c.kind = wanted ∧ g.expect wanted v = .ok c := by
  obtain ⟨j, hj, rfl⟩ := List.mem_map.1 hv
  obtain ⟨c, hc, hkind, -⟩ := h.child he hj
  have hcw : c.kind = wanted := by
    apply EntityKind.eq_of_depth
    rw [EntityKind.depth_parentKind hkind, EntityKind.depth_parentKind hwanted]
  refine ⟨j, c, rfl, hc, hcw, ?_⟩
  rw [expect_scalar, h.distinct.get?_eq hc]
  simp [hcw]

lemma items_of_lists (h : e.children = .list (e.childIds.map .scalar)) :
    e.children.items = .ok (e.childIds.map .scalar) := by
  rw [h]
  rfl

lemma siteOf_ok (config : Config) (h : e.Indexable) (hkind : e.kind = .type) (space : Text) :
    ∃ site, siteOf config space e = .ok site ∧ site.type = e := by
  obtain ⟨name, hname⟩ := h.name (by rw [hkind]; decide)
  obtain ⟨fullName, hfull⟩ := h.fullName hkind
  refine ⟨{ type := e, name, fullName, path := pagePath config (typePage config space name) },
    ?_, rfl⟩
  cases hlayout : config.layout <;>
    simp [siteOf, typeName, hlayout, hname, keyOfFullName, hfull, Value.expectText, bind,
      Except.bind, pure, Except.pure]

lemma memberRegistrations_ok (h : e.Indexable) (hkind : e.kind = .member) (site : TypeSite) :
    ∃ rs, memberRegistrations site e = .ok rs := by
  obtain ⟨name, hname⟩ := h.name (by rw [hkind]; decide)
  obtain ⟨kind, declaring, isExtension, extended, hd⟩ := Relocation.exists_detail hkind
  have hletter : ∃ letter, memberLetter kind = .ok letter := by
    cases kind with
    | proper kind => exact ⟨_, rfl⟩
    | stray v =>
      obtain ⟨s, hs⟩ := h.memberKind hd
      exact ⟨_, map_eq_ok.2 ⟨s, hs, rfl⟩⟩
  obtain ⟨letter, hletter⟩ := hletter
  have htext : e.name.expectText "lower".toList = .ok name := by rw [hname]; rfl
  rw [memberRegistrations, hd]
  exact ⟨_, bind_eq_ok.2 ⟨letter, hletter, bind_eq_ok.2 ⟨name, htext, rfl⟩⟩⟩

variable (hlinked : g.Linked P) (hindexable : ∀ {k e}, (k, e) ∈ g.entries → e.Indexable)

include hlinked hindexable

lemma registerType_ok (he : (k, e) ∈ g.entries) (hkind : e.kind = .namespace) (space : Text)
    {v : Value} (hv : v ∈ e.childIds.map .scalar) :
    ∃ rs, registerType g config space v = .ok rs := by
  obtain ⟨j, t, rfl, ht, htkind, hexpect⟩ :=
    expect_child hlinked he .type (by rw [hkind]; rfl) hv
  obtain ⟨site, hsite, htype⟩ := siteOf_ok config (hindexable ht) htkind space
  obtain ⟨members, hmembers⟩ := exists_mapM (l := t.childIds.map Value.scalar)
    (f := fun id => do memberRegistrations site (← g.expect .member id)) (by
      intro w hw
      obtain ⟨i, m, rfl, hm, hmkind, hexpect⟩ :=
        expect_child hlinked ht .member (by rw [htkind]; rfl) hw
      obtain ⟨rs, hrs⟩ := memberRegistrations_ok (hindexable hm) hmkind site
      exact ⟨rs, bind_eq_ok.2 ⟨m, hexpect, hrs⟩⟩)
  have hitems : site.type.children.items = .ok (t.childIds.map .scalar) := by
    rw [htype]
    exact items_of_lists (hlinked.lists ht)
  exact ⟨typeRegistrations site ++ members.flatten, bind_eq_ok.2 ⟨t, hexpect, bind_eq_ok.2 ⟨site,
    hsite, bind_eq_ok.2 ⟨_, hitems, bind_eq_ok.2 ⟨members, hmembers, rfl⟩⟩⟩⟩⟩

lemma registerNamespace_ok (he : (k, e) ∈ g.entries) (hkind : e.kind = .assembly)
    {v : Value} (hv : v ∈ e.childIds.map .scalar) :
    ∃ rs, registerNamespace g config v = .ok rs := by
  obtain ⟨j, s, rfl, hs, hskind, hexpect⟩ :=
    expect_child hlinked he .namespace (by rw [hkind]; rfl) hv
  obtain ⟨name, hname⟩ := (hindexable hs).name (by rw [hskind]; decide)
  have hspace : ∃ t, spaceName s.name = .ok t := by
    rw [hname]
    by_cases hne : (Value.text name).holds = true
    · exact ⟨name, by simp [spaceName, hne, Value.expectText]⟩
    · exact ⟨[], by simp [spaceName, hne]⟩
  obtain ⟨title, htitle⟩ := hspace
  obtain ⟨types, htypes⟩ := exists_mapM (l := s.childIds.map Value.scalar)
    (f := registerType g config title)
    fun w hw => registerType_ok hlinked hindexable hs hskind title hw
  exact ⟨namespaceRegistrations config s title ++ types.flatten, bind_eq_ok.2 ⟨s, hexpect,
    bind_eq_ok.2 ⟨title, htitle, bind_eq_ok.2 ⟨_, items_of_lists (hlinked.lists hs),
      bind_eq_ok.2 ⟨types, htypes, rfl⟩⟩⟩⟩⟩

/-- A linked graph whose entities have names has an index. -/
theorem exists_index (config : Config) : ∃ index, build g config = .ok index := by
  obtain ⟨rs, hrs⟩ := exists_mapM (l := g.assemblies) (f := registerAssembly g config) (by
    intro a ha
    obtain ⟨hmem, hkind⟩ := List.mem_filter.1 ha
    obtain ⟨⟨k, a⟩, hk, rfl⟩ := List.mem_map.1 hmem
    have hkind : a.kind = .assembly := by simpa using hkind
    obtain ⟨spaces, hspaces⟩ := exists_mapM (l := a.childIds.map Value.scalar)
      (f := registerNamespace g config)
      fun v hv => registerNamespace_ok hlinked hindexable hk hkind hv
    exact ⟨assemblyRegistrations config a ++ spaces.flatten, bind_eq_ok.2 ⟨_,
      items_of_lists (hlinked.lists hk), bind_eq_ok.2 ⟨spaces, hspaces, rfl⟩⟩⟩)
  exact ⟨_, bind_eq_ok.2 ⟨_, bind_eq_ok.2 ⟨rs, hrs, rfl⟩, rfl⟩⟩

omit hlinked hindexable in
/-- A workable graph has an index. -/
theorem build_ok (h : g.Workable) (config : Config) : ∃ index, build g config = .ok index :=
  exists_index h.linked (fun he => (h.usable he).indexable) config

end LinkIndex

/-! ### Walks over a linked graph -/

namespace Graph

variable {P : EntityKind → Prop} {g : Graph}

lemma Linked.keyed (h : g.Linked P) : g.Keyed :=
  fun _ hy => h.id_eq hy

lemma WellLinked.keyed (h : g.WellLinked) : g.Keyed :=
  fun _ hy => h.id_eq hy

lemma Linked.visitFrom_ok (h : g.Linked P) (seen stack : List Scalar) :
    ∃ visits, g.visitFrom seen stack = .ok visits := by
  fun_induction visitFrom g seen stack with
  | case1 => exact ⟨[], rfl⟩
  | case2 _ _ _ _ ih => exact ih
  | case3 _ key _ e hget fault hid =>
    obtain ⟨j, hj, -⟩ := h.keyed.id_of_get? hget
    simp [hj, Value.identifier] at hid
  | case4 _ _ _ _ _ _ _ _ ih => exact ih
  | case5 _ key _ e hget _ _ _ fault hkeys =>
    obtain ⟨j, hj, -⟩ := exists_of_get? hget
    rw [childKeys_eq (h.lists hj)] at hkeys
    cases hkeys
  | case6 _ _ _ _ _ _ _ _ _ _ ih =>
    obtain ⟨visits, hvisits⟩ := ih
    exact ⟨_, map_eq_ok.2 ⟨visits, hvisits, rfl⟩⟩

end Graph

namespace Relocation

variable {g : Graph}

/-- The types of a relocated graph have texts for names if those of the graph before had. -/
lemma HasTextNames.relocates {config : Config} {g' : Graph} {placeholder : Text → Scalar}
    {target? : Scalar → Option Scalar} {r : Relocation} (hnames : HasTextNames g)
    (h : Relocates config g placeholder target? g' r) : HasTextNames g' := by
  rintro ⟨k, t⟩ ht hkind
  rcases h.types ht hkind with ⟨t', ht', hkind', hkept⟩ | ⟨n, hn, rfl⟩
  · rw [h.linked.distinct.entity_unique ht (h.kept ht' hkind' hkept)]
    exact hnames (k, t') ht' hkind'
  · obtain ⟨-, id, name, space, remark, -, hmade⟩ := h.placeholders hn
    rw [h.linked.distinct.entity_unique ht hmade]
    exact ⟨n, rfl⟩

end Relocation

/-! ### Stages -/

namespace Transform

open LinkedDocs.Graph Relocation

variable {g : Graph} {config : Config} {st : Stage}

/-- What is to be worked on is in the graph. -/
lemma get?_of_mem_walk (h : prepare config g = .ok st) {y : Scalar × Entity} (hy : y ∈ st.walk) :
    st.graph.get? y.1 = some y.2 :=
  get?_of_mem_visitFrom (prepare_eq_ok h).2.2 hy

lemma keyed_stage (hkeyed : g.Keyed) (h : prepare config g = .ok st) : st.graph.Keyed := by
  have hrelocated := hkeyed.relocate config
  rwa [(prepare_eq_ok h).1] at hrelocated

/-- Nothing is worked on twice. -/
lemma walk_distinct (hkeyed : g.Keyed) (h : prepare config g = .ok st) :
    st.walk.Pairwise fun a b => a.1.same b.1 = false :=
  ((keyed_stage hkeyed h).visitFrom (prepare_eq_ok h).2.2).2

/-! ### Applying results -/

end Transform

/-- What finished work does to an entity; other work does nothing. -/
def Work.change (work : Work) (e : Entity) : Entity :=
  match work.outcome with
  | .finished revision => revision.apply e
  | _ => e

namespace Transform

open LinkedDocs.Graph Relocation

variable {g : Graph} {config : Config} {timeout : Option Double} {state : Graph × Report}
  {k : Scalar} {st : Stage}

lemma applyOne_fst (job : Job) :
    (applyOne timeout state job).1 = state.1.modify job.key job.work.change := by
  have hid : state.1.modify job.key (fun e => e) = state.1 := by
    rw [modify_eq_mapEntries]
    exact mapEntries_eq_self fun _ _ _ => by split <;> rfl
  obtain ⟨g, report⟩ := state
  unfold applyOne
  cases houtcome : job.work.outcome with
  | finished revision =>
    have hchange : job.work.change = revision.apply := by
      funext e
      simp [Work.change, houtcome]
    rw [hchange]
  | failed fault =>
    have hchange : job.work.change = fun e => e := by
      funext e
      simp [Work.change, houtcome]
    rw [hchange, hid]
  | timedOut =>
    have hchange : job.work.change = fun e => e := by
      funext e
      simp [Work.change, houtcome]
    rw [hchange, hid]

/-- The work that some jobs do on the entity under a key. -/
def changeAt (jobs : List Job) (k : Scalar) (e : Entity) : Entity :=
  match jobs.find? (·.key.same k) with
  | some job => job.work.change e
  | none => e

lemma changeAt_of_ne {jobs : List Job} (h : ∀ job ∈ jobs, job.key.same k = false) (e : Entity) :
    changeAt jobs k e = e := by
  have hnone : jobs.find? (·.key.same k) = none := by
    rw [List.find?_eq_none]
    intro job hjob
    simp [h job hjob]
  simp [changeAt, hnone]

/-- Jobs on different entities do not disturb each other. -/
lemma get?_applyAll {jobs : List Job} (h : jobs.Pairwise fun a b => a.key.same b.key = false)
    (k : Scalar) :
    (applyAll timeout state jobs).1.get? k = (state.1.get? k).map (changeAt jobs k) := by
  induction jobs generalizing state with
  | nil =>
    have hid : changeAt [] k = id := rfl
    rw [hid, Option.map_id]
    rfl
  | cons job jobs ih =>
    obtain ⟨hne, h⟩ := List.pairwise_cons.1 h
    have hstep := @ih (applyOne timeout state job) h
    rw [applyOne_fst, get?_modify, Option.map_map] at hstep
    refine hstep.trans ?_
    congr 1
    funext e
    by_cases hk : job.key.same k = true
    · have hrest : ∀ other ∈ jobs, other.key.same k = false := by
        intro other hother
        rw [Scalar.same_comm, Scalar.same, ← Scalar.same_iff.1 hk]
        exact hne other hother
      have hk' : k.same job.key = true := by rwa [Scalar.same_comm]
      have hfound : changeAt (job :: jobs) k e = job.work.change e := by simp [changeAt, hk]
      rw [hfound, Function.comp_apply, if_pos hk', changeAt_of_ne hrest]
    · have hk' : k.same job.key = false := by
        rw [Scalar.same_comm]
        simpa using hk
      simp [changeAt, hk, hk']

lemma jobs_distinct (hkeyed : g.Keyed) (h : prepare config g = .ok st)
    (works : Resolver → Entity → Work) :
    (st.jobs works).Pairwise fun a b => a.key.same b.key = false :=
  List.pairwise_map.2 (walk_distinct hkeyed h)

/-! ### Success -/

/-- A workable graph in which extended types are texts can be prepared, whatever its ids are. -/
theorem prepare_workable (config : Config) (h : g.Workable) (hspelled : HasTextTargets g) :
    ∃ st, prepare config g = .ok st ∧ st.graph.Workable := by
  obtain ⟨g₁, r, events, hrelocate, h₁⟩ := (relocate_ok h config).1 hspelled
  obtain ⟨index, hindex⟩ := LinkIndex.build_ok h₁ config
  have hresolver : Resolver.ofGraph g₁ config = .ok ⟨index, config⟩ :=
    bind_eq_ok.2 ⟨index, hindex, rfl⟩
  obtain ⟨walk, hwalk⟩ := h₁.linked.visitFrom_ok [] g₁.assemblyKeys
  exact ⟨_, prepare_of hrelocate hresolver hwalk, h₁⟩

/-- The stage before the work, after a walk of so many steps at most. -/
def stageWithin (n : Nat) (config : Config) (g : Graph) : Option Stage :=
  match g.relocate config with
  | ⟨g, .ok (relocation, events)⟩ => do
    let resolver ← (Resolver.ofGraph g config).toOption
    let walk ← g.visitWithin n [] g.assemblyKeys
    return ⟨g, relocation, events, resolver, walk⟩
  | _ => none

/-- A test of the stage that can be evaluated. -/
lemma prepare_of_within (n : Nat) (config : Config) (g : Graph) (P : Stage → Prop)
    [DecidablePred P] (h : (stageWithin n config g).any (fun st => decide (P st)) = true) :
    ∃ st, prepare config g = .ok st ∧ P st := by
  obtain ⟨st, hst, hP⟩ := (Option.any_eq_true _ _).1 h
  refine ⟨st, ?_, of_decide_eq_true hP⟩
  unfold stageWithin at hst
  split at hst
  case h_1 g₁ relocation events hrelocate =>
    obtain ⟨resolver, hresolver, hst⟩ := Option.bind_eq_some_iff.1 hst
    obtain ⟨walk, hwalk, hst⟩ := Option.bind_eq_some_iff.1 hst
    obtain rfl := Option.some.inj hst
    exact prepare_of hrelocate (eq_ok_of_toOption hresolver) (visitFrom_of_within hwalk)
  · cases hst

/-- A graph file with six entities. One of them is moved and has a note with a reference. -/
def notedFile : Value :=
  extensionFile [(.text "summary".toList, .text "<see cref=\"T:N.H\"/>".toList)]
    [.map [(.text "name".toList, .text ['y'])]]

def notedGraph : Graph :=
  (ofValue notedFile).toOption.getD empty

lemma ofValue_notedFile : ofValue notedFile = .ok notedGraph :=
  rfl

lemma prepare_notedGraph : ∃ st, prepare {} notedGraph = .ok st := by
  have hsound := (reading_of_ofValue ofValue_notedFile).sound
  obtain ⟨st, hst, -⟩ := prepare_workable {} (hsound.workable (by decide +kernel))
    (by decide +kernel)
  exact ⟨st, hst⟩

end Transform

end LinkedDocs
