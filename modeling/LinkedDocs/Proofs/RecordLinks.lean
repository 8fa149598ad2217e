import LinkedDocs.Proofs.Completion
import LinkedDocs.Proofs.PrimaryIds
import LinkedDocs.Proofs.Reach

/-!
# No dangling links

After a transformation, the records of every entity that was revised say what has become of them:
a record without a target is unresolved, and one that leads to an entity leads to one that the final
graph still has and walks over, at the address of its page there. Main statement: `records_linked`.
-/

namespace LinkedDocs

open Text LinkedDocs.Graph Relocation LinkIndex

lemma Text.lower_ne_nil {t : Text} (h : t ≠ []) : lower t ≠ [] := by
  cases t with
  | nil => exact absurd rfl h
  | cons c t =>
    rw [lower, lowerAfter, lowerChar]
    split
    · split <;> simp
    · split
      · simp
      · split <;> simp

/-! ### Addresses -/

namespace Posting

/-- The page of the symbol; that of a member has its name in lower case for an anchor. -/
def address (config : Config) : Posting → Text
  | .assembly _ => pagePath config []
  | .space s => pagePath config (namespacePage config (spaceText s))
  | .type s t => typePath config s t
  | .member s t m => typePath config s t ++ '#' :: lower m.name.toText

lemma href_target (config : Config) {p : Posting}
    (hname : ∀ s t m, p = .member s t m → m.name.toText ≠ []) :
    (p.target config).href = p.address config := by
  cases p with
  | member s t m =>
    obtain ⟨c, cs, hcons⟩ := List.exists_cons_of_ne_nil (lower_ne_nil (hname s t m rfl))
    rw [target, LinkTarget.href, address, hcons]
  | _ => rfl

lemma target_eq_of_bare {p q : Posting} {config : Config} (h : q.bare = p.bare) :
    q.target config = p.target config := by
  have hbare : ∀ p : Posting, p.bare.target config = p.target config := by
    intro p
    cases p <;> rfl
  rw [← hbare q, h, hbare p]

/-- The kind of entity that is posted so. -/
def kind : Posting → EntityKind
  | .assembly _ => .assembly
  | .space _ => .namespace
  | .type .. => .type
  | .member .. => .member

end Posting

namespace Graph

variable {g : Graph} {p : Posting}

lemma kind_of_mem_postings (hp : p ∈ g.postings) : p.entity.kind = p.kind := by
  obtain ⟨a, ha, rfl | ⟨s, hs, rfl | ⟨t, ht, rfl | ⟨m, hm, rfl⟩⟩⟩⟩ := mem_postings.1 hp
  · obtain ⟨k, -, hkind⟩ := mem_assemblies.1 ha
    exact hkind
  · exact kind_of_mem_listed hs
  · exact kind_of_mem_listed ht
  · exact kind_of_mem_listed hm

lemma Workable.href_target (h : g.Workable) (config : Config) (hp : p ∈ g.postings) :
    (p.target config).href = p.address config := by
  refine Posting.href_target config ?_
  rintro s t m rfl hnil
  obtain ⟨visits, hvisits⟩ := h.linked.visitFrom_ok [] g.assemblyKeys
  obtain ⟨j, hj⟩ := h.linked.exists_visit hvisits hp
  obtain ⟨k, hk, -⟩ := exists_of_get? (get?_of_mem_visitFrom hvisits hj)
  obtain ⟨name, hname, hempty⟩ := (h.usable hk).name
  change m.name = .text name at hname
  rw [hname] at hnil
  exact hempty hnil (kind_of_mem_postings hp)

end Graph

/-! ### What a resolution says -/

/-- The parts of a resolution agree, and where it leads to an entity, `IsAddress` says so. -/
structure Resolution.Consistent (IsAddress : Value → Text → Prop) (r : Resolution) : Prop where
  target : r.target = none ↔ r.state = .unresolved
  external : r.state ≠ .resolvedInternal → r.targetId = .null
  internal : r.state = .resolvedInternal → ∃ address, r.target = some address ∧
    IsAddress r.targetId address

namespace Resolver

variable {IsAddress : Value → Text → Prop} {resolver : Resolver} {g : Graph} {config : Config}

lemma consistent_resolveLink (url label : Text) : (resolveLink url label).Consistent IsAddress := by
  constructor <;> simp [resolveLink]

lemma consistent_resolveLabelled {url : Text} {label : Value} {r : Resolution}
    (h : resolveLabelled url label = .ok r) : r.Consistent IsAddress := by
  unfold resolveLabelled at h
  split at h
  · obtain rfl := Except.ok.inj h
    exact consistent_resolveLink ..
  · dsimp only at h
    split at h
    · obtain rfl := Except.ok.inj h
      exact consistent_resolveLink ..
    · obtain rfl := Except.ok.inj h
      constructor <;> simp [resolveLink]
  · split at h
    · cases h
    · obtain rfl := Except.ok.inj h
      exact consistent_resolveLink ..

lemma consistent_resolveKeyword (keyword : Text) :
    (resolveKeyword keyword).Consistent IsAddress := by
  unfold resolveKeyword
  cases hurl : Keyword.url? (Keyword.canonical keyword) <;> constructor <;> simp [hurl]

/-- A symbol that leads to an entity leads to one that is posted. -/
lemma consistent_resolveSymbol (h : ofGraph g config = .ok resolver) (payload : Text) :
    (resolver.resolveSymbol payload).Consistent fun id address =>
      ∃ p ∈ g.postings, p.entity.id = id ∧ (p.target config).href = address := by
  unfold resolveSymbol
  dsimp only
  split
  · constructor <;> simp
  · split
    · exact consistent_resolveLink ..
    · rw [lookup?_ofGraph h]
      cases hfound : (candidates (strip payload)).findSome? g.posted? with
      | some p =>
        obtain ⟨key, -, hkey⟩ := List.exists_of_findSome?_eq_some hfound
        have hp := List.mem_of_find?_eq_some hkey
        constructor
        · simp [resolvedInternal]
        · simp [resolvedInternal]
        · intro _
          exact ⟨_, rfl, p, hp, (Posting.entityId_target config p).symm, rfl⟩
      | none =>
        dsimp only [Option.map_none]
        split <;> constructor <;> simp [resolvedExternal, unresolved]

/-- A record that has been resolved has the parts of a resolution, whatever it had before. -/
lemma consistent_resolveRecord (h : ofGraph g config = .ok resolver) {record r : Reference}
    (hr : resolver.resolveRecord record = .ok r) :
    ∃ resolution : Resolution, r = withResolution record resolution ∧
      resolution.Consistent fun id address =>
        ∃ p ∈ g.postings, p.entity.id = id ∧ (p.target config).href = address := by
  obtain ⟨raw, -, hr⟩ := bind_eq_ok.1 hr
  dsimp only at hr
  split at hr
  · obtain ⟨resolution, hresolution, hr⟩ := bind_eq_ok.1 hr
    exact ⟨_, (Except.ok.inj hr).symm, consistent_resolveLabelled hresolution⟩
  · exact ⟨_, (Except.ok.inj hr).symm, consistent_resolveKeyword ..⟩
  · exact ⟨_, (Except.ok.inj hr).symm, consistent_resolveSymbol h _⟩

end Resolver

namespace Revision

variable {resolver : Resolver} {r : Reference}

lemma exists_record_of_reviseReferences {records references : List Reference}
    (h : (reviseReferences resolver records).1 = .ok references) (hr : r ∈ references) :
    ∃ record, resolver.resolveRecord record = .ok r := by
  induction records generalizing references with
  | nil =>
    obtain rfl := Except.ok.inj h
    cases hr
  | cons record records ih =>
    rw [reviseReferences] at h
    split at h
    · cases h
    case h_2 resolved hresolved =>
      obtain ⟨rest, hrest, rfl⟩ := map_eq_ok.1 h
      rcases List.mem_cons.1 hr with rfl | hr
      · exact ⟨record, hresolved⟩
      · exact ih hrest hr

lemma exists_record_of_revise {e : Entity} {revision : Revision}
    (h : e.outcome? resolver = some (.finished revision)) (hr : r ∈ revision.references) :
    ∃ record, resolver.resolveRecord record = .ok r := by
  unfold Entity.outcome? Entity.revise at h
  split at h
  case h_1 cause met _ => exact absurd h (outcome_work?_ne cause)
  · split at h
    · cases h
    · split at h
      case h_1 cause met _ => exact absurd h (outcome_work?_ne cause)
      · dsimp only at h
        split at h
        · cases h
        case h_2 references _ =>
          cases hreferences : (reviseReferences resolver references).1 with
          | error fault =>
            rw [hreferences] at h
            cases h
          | ok resolved =>
            rw [hreferences] at h
            obtain rfl := WorkOutcome.finished.inj (Option.some.inj h)
            exact exists_record_of_reviseReferences hreferences hr

end Revision

/-! ### Records after a transformation -/

/-- The parts of a record agree, and one that leads to an entity leads to an assembly, a namespace,
a type or a member that is walked over, at its address in the graph. -/
structure Reference.Linked (config : Config) (g : Graph) (walk : List Entity) (r : Reference) :
    Prop where
  state : r.state.isSome
  target : r.target = .null ↔ r.state = some .unresolved
  internal : r.state = some .resolvedInternal ↔ r.targetId ≠ .null
  address : r.state = some .resolvedInternal → ∃ p ∈ g.postings, p.entity ∈ walk ∧
    p.entity.kind ≠ .parameter ∧ p.entity.id = r.targetId ∧ r.target = .text (p.address config)

namespace Transform

variable {g : Graph} {config : Config} {st : Stage} {k : Scalar} {e : Entity}
  {walk : List (Scalar × Entity)}

lemma linked_of_consistent {g' : Graph} (h : g'.Workable) (hshape : g'.shape = g.shape)
    (hvisits : g'.visits = .ok walk) (record : Reference) {resolution : Resolution}
    (hconsistent : resolution.Consistent fun id address =>
      ∃ p ∈ g.postings, p.entity.id = id ∧ (p.target config).href = address) :
    (Resolver.withResolution record resolution).Linked config g' (walk.map (·.2)) := by
  -- The entity that the resolution leads to, in the graph as it is now.
  have hinternal : resolution.state = .resolvedInternal → ∃ k, ∃ p ∈ g'.postings,
      (k, p.entity) ∈ walk ∧ p.entity.id = resolution.targetId ∧
        resolution.target = some (p.address config) := by
    intro hstate
    obtain ⟨_, htarget, p, hp, hid, rfl⟩ := hconsistent.internal hstate
    obtain ⟨q, hq, hbare⟩ := exists_of_mem_postings hshape hp
    obtain ⟨k, hk⟩ := h.linked.exists_visit hvisits hq
    refine ⟨k, q, hq, hk, ?_, ?_⟩
    · rw [← hid, ← Posting.entityId_target config q, ← Posting.entityId_target config p,
        Posting.target_eq_of_bare hbare]
    · rw [htarget, ← h.href_target config hq, Posting.target_eq_of_bare hbare]
  constructor
  case state => rfl
  case target =>
    rw [Resolver.withResolution, Option.some.injEq, ← hconsistent.target]
    cases resolution.target <;> simp [Value.ofText?]
  case internal =>
    rw [Resolver.withResolution, Option.some.injEq]
    constructor
    · intro hstate hnull
      obtain ⟨k, p, -, hk, hid, -⟩ := hinternal hstate
      obtain ⟨j, hj, -⟩ := exists_of_get? (get?_of_mem_visitFrom hvisits hk)
      have hkey : Value.scalar j = .null := by
        rw [← h.linked.id_eq hj, hid]
        exact hnull
      exact h.key_ne_null hj (Value.scalar.inj hkey)
    · intro hid
      by_contra hstate
      exact hid (hconsistent.external hstate)
  case address =>
    rw [Resolver.withResolution, Option.some.injEq]
    intro hstate
    obtain ⟨k, p, hp, hk, hid, htarget⟩ := hinternal hstate
    refine ⟨p, hp, List.mem_map_of_mem hk, ?_, hid, by rw [htarget]; rfl⟩
    rw [kind_of_mem_postings hp]
    cases p <;> simp [Posting.kind]

/-- What is walked over in the end was walked over before, and has the outcome of its work. -/
lemma exists_of_mem_final (hkeyed : g.Keyed) (hst : prepare config g = .ok st)
    {works : Resolver → Entity → Work} {timeout : Option Double}
    (hvisits : (st.finish works timeout).1.visits = .ok walk) (he : (k, e) ∈ walk) :
    ∃ x, (k, x) ∈ st.walk ∧ e = (works st.resolver x).change x ∧ x.id = e.id := by
  obtain ⟨x, hx, hbare⟩ :=
    exists_of_mem_visits (shape_applyAll _) (prepare_eq_ok hst).2.2 hvisits he
  have hget := get?_of_mem_visitFrom hvisits he
  rw [get?_finish_of_mem hkeyed hst works hx] at hget
  exact ⟨x, hx, (Option.some.inj hget).symm, (congrArg Entity.id hbare :)⟩

/-- What has come to harm is among the failures. -/
lemma Isolated.exists_failure {timeout : Option Double} {course : Course} {final : Graph × Report}
    (h : Isolated timeout st course final) {m : Mishap} (hx : (k, e) ∈ st.walk)
    (hm : course.harm? timeout st.resolver e = some m) :
    ∃ f ∈ final.2.failures, f.entityId = e.id := by
  rw [h.failures]
  refine ⟨_, List.mem_map_of_mem (a := (e, m)) (List.mem_filterMap.2 ⟨_, hx, by simp [hm]⟩), ?_⟩
  cases m <;> rfl

/-- **No dangling links.** Let a graph be read whose full names and extended types are texts. The
transformation of it completes in any course of things (that of `run` is a plain one), unless some
revision is endless, and in the graph that it leaves, every record of an entity that is walked over
and is not among the failures says what has become of it, and leads to what is there. -/
theorem records_linked {data : Value} (hread : ofValue data = .ok g) (hnames : HasTextNames g)
    (hspelled : HasTextTargets g) (config : Config) (course : Course) :
    ∃ st, prepare config g = .ok st ∧
      (st.Endless course → runWith (disturb config.timeout course) config g = none) ∧
      (¬st.Endless course → ∃ final report trace walk,
        runWith (disturb config.timeout course) config g = some ⟨final, .ok (report, trace)⟩ ∧
        final.walk = .ok walk ∧ ∀ e ∈ walk, (∀ f ∈ report.failures, f.entityId ≠ e.id) →
          ∃ records, e.references = .proper records ∧
            ∀ r ∈ records, r.Linked config final walk) := by
  have hsound := (reading_of_ofValue hread).sound
  obtain ⟨st, hst, hworkable⟩ := prepare_workable config (hsound.workable hnames) hspelled
  rcases runWith_disturb_cases hst course with ⟨hendless, hnone⟩ | ⟨hends, works, hworks, hrun⟩
  · exact ⟨st, hst, fun _ => hnone, fun hnot => absurd hendless hnot⟩
  refine ⟨st, hst, fun hendless => absurd hendless hends, fun _ => ?_⟩
  have hresolver := (prepare_eq_ok hst).2.1
  have hisolated := isolated_finish hsound.linked.keyed hst hworks
  have hshape : (st.finish works config.timeout).1.shape = st.graph.shape := shape_applyAll _
  have hfinal := workable_shape.1 (hshape ▸ workable_shape.2 hworkable)
  obtain ⟨visits, hvisits⟩ := hfinal.linked.visitFrom_ok [] _
  refine ⟨_, _, _, visits.map (·.2), hrun, map_eq_ok.2 ⟨visits, hvisits, rfl⟩, ?_⟩
  intro e he hfailed
  obtain ⟨⟨k, e⟩, hk, rfl⟩ := List.mem_map.1 he
  obtain ⟨x, hx, hchange, hid⟩ := exists_of_mem_final hsound.linked.keyed hst hvisits hk
  rcases disturb_cases (hworks _ hx) with ⟨m, hm, -⟩ | ⟨revision, -, hfinished, houtcome⟩
  · obtain ⟨f, hf, hfid⟩ := hisolated.exists_failure hx hm
    exact absurd (hfid.trans hid) (hfailed f hf)
  · simp only [Work.change, houtcome] at hchange
    refine ⟨revision.references, by rw [hchange]; rfl, ?_⟩
    intro r hr
    obtain ⟨record, hrecord⟩ := Revision.exists_record_of_revise hfinished hr
    obtain ⟨resolution, rfl, hconsistent⟩ := Resolver.consistent_resolveRecord hresolver hrecord
    exact linked_of_consistent hfinal hshape hvisits record hconsistent

/-- A record that leads to the member it is attached to, once the member has been moved. -/
def movedRecord : List (Scalar × Value) :=
  [(.text "references".toList,
    .list [.map [(.text "raw".toList, .text "M:N.T.x".toList)]])]

/-- The work on the assembly takes longer than a second, and that on entities with notes raises a
fault. -/
def assemblyHangs : Course where
  raised e := if e.rendered.all (·.isNull) then none else some .bytesNotText
  standing e := if e.kind = .assembly then .underWay (.zero false) (.zero false) false else .over

theorem records_linked_of_moved :
    let g := extensionGraph movedRecord []
    let config : Config := { timeout := some (.ofInt 1) }
    ofValue (extensionFile movedRecord []) = .ok g ∧ HasTextNames g ∧ HasTextTargets g ∧
      ∃ final report trace walk,
        runWith (disturb config.timeout assemblyHangs) config g =
          some ⟨final, .ok (report, trace)⟩ ∧
        final.walk = .ok walk ∧ ∀ e ∈ walk, (∀ f ∈ report.failures, f.entityId ≠ e.id) →
          ∃ records, e.references = .proper records ∧
            ∀ r ∈ records, r.Linked config final walk := by
  intro g config
  have hread : ofValue (extensionFile movedRecord []) = .ok g := rfl
  have hnames : HasTextNames g := by decide +kernel
  have hspelled : HasTextTargets g := by decide +kernel
  obtain ⟨st, -, -, hends⟩ := records_linked hread hnames hspelled config assemblyHangs
  refine ⟨hread, hnames, hspelled, hends ?_⟩
  rintro ⟨y, -, hraised, hnone⟩
  obtain ⟨t, ht, -⟩ := Revision.exists_endless_of_revise hnone
  have hnull : ∀ v ∈ y.2.rendered, v.isNull = true := by simpa [assemblyHangs] using hraised
  cases hnull _ ht

end Transform

end LinkedDocs
