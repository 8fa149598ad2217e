import LinkedDocs.Proofs.Histories
import LinkedDocs.Proofs.RelocationEffect
import LinkedDocs.Proofs.RoundTrip

/-!
# Graphs that can be written and read again

A graph that has been read is sound, and it stays sound when members are relocated and when its
entities are revised. So it can be written at any time, and what is written describes the same
entities, as long as every type has a name.
-/

namespace LinkedDocs

namespace Graph

variable {g g' b : Graph} {k j : Scalar} {e x y : Entity} {ks : List Scalar}
  {moves : List (Scalar × Scalar)} {created : List (Text × Scalar)}

/-! ### Changes that keep a graph sound -/

/-- An entity that has been changed in a way in which a sound graph may change. -/
structure Changes (x x' : Entity) : Prop where
  kind : x'.kind = x.kind
  parent : x'.parent = x.parent ∨ x.kind = .member ∧ x'.parent ≠ .null
  readable : x.Readable → x'.Readable

lemma Changes.refl (x : Entity) : Changes x x :=
  ⟨rfl, .inl rfl, id⟩

lemma Changes.withChildren (h : Changes x y) (ids : List Scalar) :
    Changes x (y.withChildren ids) :=
  ⟨h.kind, h.parent, fun hx => (h.readable hx).withChildren ids⟩

lemma Sound.of_changes (h : g.Sound) (hlinked : g'.WellLinked)
    (hchanges : ∀ {k x'}, (k, x') ∈ g'.entries → ∃ x, (k, x) ∈ g.entries ∧ Changes x x') :
    g'.Sound where
  linked := hlinked
  holds := by
    intro k x' hx'
    obtain ⟨x, hx, -⟩ := hchanges hx'
    exact h.holds hx
  rooted := by
    intro k x' hx' hkind
    obtain ⟨x, hx, hchange⟩ := hchanges hx'
    rw [hchange.kind] at hkind
    have hset := h.rooted hx hkind
    refine ⟨by rw [hchange.kind]; exact hset.1, ?_⟩
    rcases hchange.parent with hparent | ⟨-, hparent⟩
    · rw [hparent]
      exact hset.2
    · exact hparent
  root := by
    intro k x' hx' hkind
    obtain ⟨x, hx, hchange⟩ := hchanges hx'
    rw [hchange.kind] at hkind
    rcases hchange.parent with hparent | ⟨hmember, -⟩
    · rw [hparent]
      exact h.root hx hkind
    · rw [hkind] at hmember
      cases hmember
  readable := by
    intro k x' hx'
    obtain ⟨x, hx, hchange⟩ := hchanges hx'
    exact hchange.readable (h.readable hx)

lemma changes_losing (ks : List Scalar) (h : Changes x y) :
    Changes x (ks.foldl Entity.losing y) := by
  induction ks generalizing y with
  | nil => exact h
  | cons k ks ih =>
    refine ih ?_
    unfold Entity.losing
    split
    · exact h.withChildren _
    · exact h

lemma Sound.prune (h : g.Sound) (hlinked : (g.prune ks).WellLinked) : (g.prune ks).Sound := by
  refine h.of_changes hlinked ?_
  intro k x' hx'
  obtain ⟨-, x, hx, rfl⟩ := mem_prune.1 hx'
  exact ⟨x, hx, changes_losing ks (.refl x)⟩

lemma changes_rehomed {v : Value} (hkind : x.kind = .member) (hv : v ≠ .null) :
    Changes x (Relocation.rehomed x v) where
  kind := Relocation.kind_rehomed
  parent := .inr ⟨hkind, by rwa [Relocation.parent_rehomed hkind]⟩
  readable := by
    intro h
    obtain ⟨kind, declaring, isExtension, extended, hd⟩ := Relocation.exists_detail hkind
    have hdetail := h.detail
    rw [hd] at hdetail
    simp only [Relocation.rehomed, hd]
    refine ⟨?_, h.references, h.exceptions, ?_, h.further⟩
    · obtain ⟨t, ht, hnameless⟩ := h.name
      refine ⟨t, ht, ?_⟩
      rw [hkind] at hnameless
      exact hnameless
    · unfold Detail.Readable at hdetail
      split at hdetail <;> simp_all [Detail.Readable]

lemma Sound.spread (h : g.Sound) (hlinked : (g.spread moves).WellLinked)
    (htargets : ∀ y ∈ moves, y.2 ∈ g.keys) : (g.spread moves).Sound := by
  refine h.of_changes hlinked ?_
  intro k x' hx'
  obtain ⟨x, hx, rfl⟩ := mem_spread.1 hx'
  refine ⟨x, hx, ?_⟩
  unfold spreadOne
  split
  case h_1 => exact (Changes.refl x).withChildren _
  case h_2 hkind =>
    split
    case h_1 tk hlookup =>
      refine changes_rehomed hkind ?_
      obtain ⟨before, after, rfl, -⟩ := List.lookup_eq_some_iff.1 hlookup
      have htk : tk ∈ g.keys := htargets (k, tk) (by simp)
      intro hnull
      rw [Value.scalar.inj hnull] at htk
      exact not_mem_keys_of_free h.contains_null htk
    case h_2 => exact .refl x
  case h_3 => exact .refl x

/-! ### Placeholders -/

/-- A sound graph with an entity has an assembly. -/
lemma Sound.assemblies_ne_nil (h : g.Sound) (he : (k, e) ∈ g.entries) : g.assemblies ≠ [] := by
  intro hnil
  obtain ⟨a, ha, -⟩ := List.mem_flatMap.1 ((mem_listing h).2 ⟨e, he, rfl⟩)
  obtain ⟨x, hx, hkind⟩ := mem_assemblyKeys.1 ha
  exact assemblies_eq_nil.1 hnil hx hkind

lemma assemblies_attach (h : g.assemblies ≠ []) : (g.attach k e).assemblies ≠ [] := by
  intro hnil
  refine h (assemblies_eq_nil.2 ?_)
  intro j x hx hkind
  refine assemblies_eq_nil.1 hnil (mem_attach.2 (.inl ⟨x, hx, rfl⟩)) ?_
  split <;> exact hkind

/-- Placeholders keep a graph sound that has an assembly for them. -/
lemma Grown.sound (hgrown : Grown g created b) (h : g.Sound) (hassembly : g.assemblies ≠ [])
    (hnames : ∀ y ∈ created, y.1 ≠ []) : b.Sound ∧ b.assemblies ≠ [] := by
  induction hgrown with
  | refl => exact ⟨h, hassembly⟩
  | issue n _ ih =>
    obtain ⟨hb, hne⟩ := ih hnames
    exact ⟨⟨hb.linked.issue n, hb.holds, hb.rooted, hb.root, hb.readable⟩, hne⟩
  | space _ hid hfree hadmits hnull ih =>
    obtain ⟨hb, hne⟩ := ih hnames
    refine ⟨hb.attach rfl hfree rfl hadmits ?_ ?_ (by rintro ⟨⟩) ?_, assemblies_attach hne⟩
    · simpa [Scalar.holds] using hid
    · exact fun _ => ⟨rfl, fun hunset => hne (hnull hunset)⟩
    · exact ⟨⟨_, rfl, fun _ => .inl rfl⟩, ⟨[], rfl, by simp⟩, ⟨[], rfl, by simp⟩, trivial, rfl⟩
  | @placeholder created b id name fullName space remark _ hid hfree hadmits hspace hremark ih =>
    obtain ⟨hb, hne⟩ := ih fun y hy => hnames y (List.mem_append_left _ hy)
    refine ⟨hb.attach rfl hfree rfl hadmits ?_ ?_ (by rintro ⟨⟩) ?_, assemblies_attach hne⟩
    · simpa [Scalar.holds] using hid
    · exact fun _ => ⟨rfl, hspace⟩
    · have hfullName : fullName ≠ [] := hnames (fullName, .text id) (by simp)
      refine ⟨⟨_, rfl, fun _ => .inr rfl⟩, ⟨[], rfl, by simp⟩, ⟨[], rfl, by simp⟩, ?_, rfl⟩
      show (Value.text fullName).holds = true
      simpa [Value.holds, Scalar.holds] using hfullName

end Graph

/-! ### Relocation -/

namespace Relocation.HasDefinedIds

open LinkedDocs.Graph

variable {g b : Graph} {k : Scalar} {e : Entity} {created : List (Text × Scalar)}

lemma attach {t : Text} (h : HasDefinedIds g) : HasDefinedIds (g.attach (.text t) e) := by
  rintro ⟨j, x⟩ hx hkind
  rcases mem_attach.1 hx with ⟨y, hy, rfl⟩ | ⟨rfl, -⟩
  · refine h (j, y) hy ?_
    revert hkind
    split <;> exact id
  · rfl

lemma grown (h : HasDefinedIds g) (hgrown : Grown g created b) : HasDefinedIds b := by
  induction hgrown with
  | refl => exact h
  | issue n _ ih => exact ih
  | space _ _ _ _ _ ih => exact ih.attach
  | placeholder _ _ _ _ _ _ ih => exact ih.attach

lemma candidates (h : HasDefinedIds g) (hk : k ∈ Relocation.candidates g) :
    k.isUndefined = false := by
  obtain ⟨m, hm, hcandidate⟩ := mem_candidates.1 hk
  exact h _ hm (.inr (kind_of_isCandidate hcandidate))

end Relocation.HasDefinedIds

namespace Graph

variable {g : Graph}

open Relocation in
/-- A relocation keeps a graph sound, also where it fails. -/
theorem relocate_sound (config : Config) (h : g.Sound) (hdefined : HasDefinedIds g) :
    (g.relocate config).graph.Sound ∧ HasDefinedIds (g.relocate config).graph := by
  cases hcandidates : candidates g with
  | nil =>
    have hunchanged : (g.relocate config).graph = g := by simp [Graph.relocate, hcandidates]
    rw [hunchanged]
    exact ⟨h, hdefined⟩
  | cons mk rest =>
    obtain ⟨m, hm, -⟩ := mem_candidates.1 (show mk ∈ candidates g by simp [hcandidates])
    obtain ⟨types, done, created, base, p, ks, hrun, hgraph, hlinked⟩ :=
      relocate_graph config h.linked h.contains_null hdefined.candidates
    have hbase : base.Sound := by
      refine (hrun.grown.sound h (h.assemblies_ne_nil hm) ?_).1
      intro y hy
      obtain ⟨-, -, _, _, -, -, -, hne⟩ := hrun.created_names hy
      exact hne
    have hspread : p.graph.Sound := by
      have hpass := hrun.linked
      rw [hrun.graph_eq] at hpass ⊢
      exact hbase.spread hpass hrun.targets_mem
    rw [hgraph]
    refine ⟨hspread.prune hlinked, ?_⟩
    rintro ⟨k, x'⟩ hx' hkind
    obtain ⟨-, x, hx, rfl⟩ := mem_prune.1 hx'
    rw [hrun.graph_eq] at hx
    obtain ⟨y, hy, rfl⟩ := mem_spread.1 hx
    simp only [kind_foldl_losing, kind_spreadOne] at hkind
    exact hdefined.grown hrun.grown (k, y) hy hkind

end Graph

/-! ### Revision -/

namespace Revision

variable {resolver : Resolver} {e : Entity}

/-- Whether a revision names references and exceptions by texts. -/
structure Proper (r : Revision) : Prop where
  references : ∀ x ∈ r.references, ∃ t, x.raw = .text t
  exceptions : ∀ x ∈ r.exceptions, ∃ t, x.type = .text t

lemma raw_of_resolveRecord {r r' : Reference} (h : resolver.resolveRecord r = .ok r') :
    r'.raw = r.raw := by
  obtain ⟨raw, -, h⟩ := bind_eq_ok.1 h
  dsimp only at h
  split at h
  · obtain ⟨label, -, h⟩ := bind_eq_ok.1 h
    rw [← Except.ok.inj h]
    rfl
  · rw [← Except.ok.inj h]
    rfl
  · rw [← Except.ok.inj h]
    rfl

lemma raw_of_reviseReferences {rs rs' : List Reference}
    (h : (reviseReferences resolver rs).1 = .ok rs') : rs'.map (·.raw) = rs.map (·.raw) := by
  induction rs generalizing rs' with
  | nil =>
    obtain rfl : [] = rs' := Except.ok.inj h
    rfl
  | cons r rs ih =>
    unfold reviseReferences at h
    cases hone : resolver.resolveRecord r with
    | error fault => simp [hone] at h
    | ok resolved =>
      simp only [hone] at h
      obtain ⟨more, hmore, rfl⟩ := map_eq_ok.1 h
      simp [raw_of_resolveRecord hone, ih hmore]

lemma type_of_reviseExceptions {xs xs' : List Thrown}
    (h : (reviseExceptions resolver xs).1 = .ok xs') : xs'.map (·.type) = xs.map (·.type) := by
  induction xs generalizing xs' with
  | nil =>
    obtain rfl : [] = xs' := Except.ok.inj h
    rfl
  | cons x xs ih =>
    unfold reviseExceptions at h
    split at h
    · cases h
    · obtain ⟨more, hmore, rfl⟩ := map_eq_ok.1 h
      simp [ih hmore]

lemma eq_ok_of_finished {x : Except Fault Revision} {r : Revision}
    (h : WorkOutcome.ofExcept x = .finished r) : x = .ok r := by
  cases x with
  | error fault => cases h
  | ok r' => rw [WorkOutcome.finished.inj h]

/-- Work that has no result is not finished. -/
lemma outcome_work?_ne (cause : NoResult) {missing : List Text} {r : Revision} :
    (cause.work? missing).map (·.outcome) ≠ some (.finished r) := by
  cases cause <;> simp [NoResult.work?]

/-- The revision of a readable entity can be read again. -/
lemma proper_of_revise {r : Revision} (he : e.Readable)
    (h : e.outcome? resolver = some (.finished r)) : r.Proper := by
  obtain ⟨rs, hrs, hraw⟩ := he.references
  obtain ⟨ts, hts, htype⟩ := he.exceptions
  unfold Entity.outcome? Entity.revise at h
  split at h
  case h_1 cause met _ => exact absurd h (outcome_work?_ne cause)
  · rw [hts] at h
    simp only [recordsIn] at h
    split at h
    case h_1 cause met _ => exact absurd h (outcome_work?_ne cause)
    case h_2 exceptions met hexceptions =>
      rw [hrs] at h
      obtain ⟨references, hreferences, rfl⟩ := map_eq_ok.1 (eq_ok_of_finished (Option.some.inj h))
      constructor
      · intro x hx
        have hmem : x.raw ∈ references.map (·.raw) := List.mem_map_of_mem hx
        rw [raw_of_reviseReferences hreferences] at hmem
        obtain ⟨y, hy, hyx⟩ := List.mem_map.1 hmem
        rw [← hyx]
        exact hraw y hy
      · intro x hx
        have hmem : x.type ∈ exceptions.map (·.type) := List.mem_map_of_mem hx
        rw [type_of_reviseExceptions (by rw [hexceptions])] at hmem
        obtain ⟨y, hy, hyx⟩ := List.mem_map.1 hmem
        rw [← hyx]
        exact htype y hy

lemma Proper.changes {r : Revision} (h : r.Proper) : Graph.Changes e (r.apply e) where
  kind := rfl
  parent := .inl rfl
  readable he :=
    ⟨he.name, ⟨_, rfl, h.references⟩, ⟨_, rfl, h.exceptions⟩, he.detail, he.further⟩

end Revision

/-! ### Transformation -/

/-- What is visited is in the graph. -/
lemma Graph.get?_of_mem_visitFrom {g : Graph} {seen stack : List Scalar}
    {visits : List (Scalar × Entity)} (h : g.visitFrom seen stack = .ok visits)
    {y : Scalar × Entity} (hy : y ∈ visits) : g.get? y.1 = some y.2 := by
  fun_induction visitFrom g seen stack generalizing visits with
  | case1 =>
    rw [← Except.ok.inj h] at hy
    cases hy
  | case2 _ _ _ _ ih => exact ih h hy
  | case3 => cases h
  | case4 _ _ _ _ _ _ _ _ ih => exact ih h hy
  | case5 => cases h
  | case6 seen key stack e hget _ _ _ keys _ ih =>
    obtain ⟨rest, hrest, rfl⟩ := map_eq_ok.1 h
    rcases List.mem_cons.1 hy with rfl | hy
    · exact hget
    · exact ih hrest hy

namespace Transform

open LinkedDocs.Graph Relocation

variable {g : Graph}

/-- Whether all work on entities that is finished revises them. -/
def IsFaithful (worker : Resolver → Entity → Option Work) : Prop :=
  ∀ resolver e work revision, worker resolver e = some work → work.outcome = .finished revision →
    e.outcome? resolver = some (.finished revision)

lemma modify_apply_sound {b : Graph} {k : Scalar} {revision : Revision} (hr : revision.Proper)
    (h : b.Sound) (hdefined : HasDefinedIds b) :
    (b.modify k revision.apply).Sound ∧ HasDefinedIds (b.modify k revision.apply) := by
  have hchanges : ∀ {j x'}, (j, x') ∈ (b.modify k revision.apply).entries →
      ∃ x, (j, x) ∈ b.entries ∧ Changes x x' := by
    intro j x' hx'
    rw [modify_eq_mapEntries] at hx'
    obtain ⟨x, hx, rfl⟩ := mem_mapEntries.1 hx'
    refine ⟨x, hx, ?_⟩
    split
    · exact hr.changes
    · exact .refl x
  refine ⟨h.of_changes (modify_apply_wellLinked h.linked k revision) hchanges, ?_⟩
  rintro ⟨j, x'⟩ hx' hkind
  obtain ⟨x, hx, hchange⟩ := hchanges hx'
  rw [hchange.kind] at hkind
  exact hdefined (j, x) hx hkind

/-- A transformation keeps a graph sound. -/
theorem runWith_sound {worker : Resolver → Entity → Option Work} (hworker : IsFaithful worker)
    {config : Config} {outcome : Outcome} (hrun : runWith worker config g = some outcome)
    (h : g.Sound) (hdefined : HasDefinedIds g) :
    outcome.graph.Sound ∧ HasDefinedIds outcome.graph := by
  have hrelocated := relocate_sound config h hdefined
  refine runWith_keeps (P := fun b => b.Sound ∧ HasDefinedIds b) hrun hrelocated ?_
  rintro st y work revision b hst hy hwork houtcome ⟨hb, hdefined⟩
  obtain ⟨hrelocate, -, hvisits⟩ := prepare_eq_ok hst
  rw [hrelocate] at hrelocated
  obtain ⟨k, hk, -⟩ := exists_of_get? (get?_of_mem_visitFrom hvisits hy)
  have hproper := Revision.proper_of_revise (hrelocated.1.readable hk)
    (hworker _ _ _ _ hwork houtcome)
  exact modify_apply_sound hproper hb hdefined

end Transform

/-! ### Writing and reading again -/

/-- Whether details are the same but for values that do not count as given. Such a value is null in
the second detail, and a declaring type is the parent of the member. -/
def Detail.Agrees (parent : Value) : Detail → Detail → Prop
  | .assembly, .assembly => True
  | .namespace, .namespace => True
  | .type fullName kind isExternal, .type fullName' kind' isExternal' =>
    fullName' = fullName ∧ kind' = kind ∧ isExternal' = isExternal
  | .member kind declaring isExtension extended, .member kind' declaring' isExtension' extended' =>
    kind' = kind ∧ isExtension' = isExtension ∧ extended' = Graph.given extended ∧
      if declaring.holds then
        declaring' = declaring ∨ declaring' = parent ∧ declaring.equals parent = true
      else declaring' = parent
  | .parameter typeName, .parameter typeName' => typeName' = Graph.given typeName
  | _, _ => False

/-- Whether entities are the same but for values that do not count as given. -/
structure Entity.Agrees (e e' : Entity) : Prop where
  id : e'.id = e.id
  name : e'.name = e.name
  parent : e'.parent = e.parent
  children : e'.children = e.children
  notes : e'.notes = e.notes
  references : e'.references = e.references
  exceptions : e'.exceptions = e.exceptions
  detail : e.detail.Agrees e.parent e'.detail

lemma Entity.agrees_restored (e : Entity) : e.Agrees e.restored where
  id := rfl
  name := rfl
  parent := rfl
  children := rfl
  notes := rfl
  references := rfl
  exceptions := rfl
  detail := by
    cases hd : e.detail with
    | assembly | «namespace» => simp [Entity.restored, hd, Detail.Agrees]
    | type | parameter => simp [Entity.restored, hd, Detail.Agrees]
    | member kind declaring isExtension extended =>
      simp only [Entity.restored, hd, Detail.Agrees, true_and]
      by_cases hgiven : declaring.holds = true
      · cases hequals : declaring.equals e.parent <;> simp [hgiven]
      · simp [hgiven]

namespace Graph

open Relocation Transform

variable {g g' : Graph}

/-- The graphs that come of a graph by relocations and transformations. -/
inductive Processed (g : Graph) : Graph → Prop where
  | refl : Processed g g
  | relocate {b} (config : Config) : Processed g b → Processed g (b.relocate config).graph
  | transform {b worker outcome} (config : Config) : IsFaithful worker → Processed g b →
      runWith worker config b = some outcome → Processed g outcome.graph

lemma Processed.sound (h : Processed g g') (hg : g.Sound) (hdefined : HasDefinedIds g) :
    g'.Sound ∧ HasDefinedIds g' := by
  induction h with
  | refl => exact ⟨hg, hdefined⟩
  | relocate config _ ih => exact relocate_sound config ih.1 ih.2
  | transform config hworker _ hrun ih => exact runWith_sound hworker hrun ih.1 ih.2

/-- A graph that has been read can be written and read again, also once it has been relocated and
transformed, if no type and no member has the undefined number for its id and every type has a
name. The graph that is read has the same entities, and is written in the same way. -/
theorem dump_reload {data : Value} (hread : ofValue data = .ok g) (hdefined : HasDefinedIds g)
    (hprocessed : Processed g g') (hnamed : g' = g ∨ g'.HasTypeNames) :
    ∃ v g₂, g'.dump = .ok v ∧ ofValue v = .ok g₂ ∧ g₂.keys.Perm g'.keys ∧
      (∀ k e e₂, (k, e) ∈ g'.entries → (k, e₂) ∈ g₂.entries → e.Agrees e₂) ∧
      g₂.dump = .ok v := by
  have hreading := reading_of_ofValue hread
  obtain ⟨hsound, hdefined'⟩ := hprocessed.sound hreading.sound hdefined
  have hnames : g'.HasTypeNames := by
    rcases hnamed with rfl | hnames
    · exact hreading.named
    · exact hnames
  obtain ⟨v, hdump, hload⟩ := ofValue_dump hsound hnames
  have hreloaded := (reading_of_ofValue hload).sound.linked.distinct
  refine ⟨v, g'.reloaded, hdump, hload, ?_, ?_, ?_⟩
  · rw [List.perm_ext_iff_of_nodup hreloaded.nodup hsound.linked.distinct.nodup]
    intro k
    rw [mem_keys, mem_keys]
    constructor
    · rintro ⟨x, hx⟩
      obtain ⟨e, he, -⟩ := (mem_reloaded hsound).1 hx
      exact ⟨e, he⟩
    · rintro ⟨e, he⟩
      exact ⟨_, (mem_reloaded hsound).2 ⟨e, he, rfl⟩⟩
  · intro k e e₂ he he₂
    obtain ⟨e', he', rfl⟩ := (mem_reloaded hsound).1 he₂
    rw [hsound.linked.distinct.entity_unique he he']
    exact e'.agrees_restored
  · rw [dump_reloaded hsound hnames fun hk hkind => hdefined' _ hk (.inl hkind), hdump]

/-- The member `x` has been moved to the type `T`, and remembers the type that declared it. -/
theorem dump_reload_of_extension :
    let g' := ((extensionGraph [] [.map [(.text "name".toList, .text ['y'])]]).relocate {}).graph
    ∃ v g₂, g'.dump = .ok v ∧ ofValue v = .ok g₂ ∧ g₂.keys.Perm g'.keys ∧
      (∀ k e e₂, (k, e) ∈ g'.entries → (k, e₂) ∈ g₂.entries → e.Agrees e₂) ∧
      g₂.dump = .ok v :=
  dump_reload
    (show ofValue (extensionFile [] [.map [(.text "name".toList, .text ['y'])]]) =
      .ok (extensionGraph [] [.map [(.text "name".toList, .text ['y'])]]) from rfl)
    (by decide +kernel) (.relocate {} .refl) (.inr (by decide +kernel))

/-- A member that has the undefined number for its id is written twice once it has been moved, and
cannot be read again. -/
theorem not_reload_of_undefined :
    let g := extensionGraph [(.text "id".toList, .double .nan)] []
    let g' := (g.relocate {}).graph
    ofValue (extensionFile [(.text "id".toList, .double .nan)] []) = .ok g ∧ Processed g g' ∧
      g'.HasTypeNames ∧ ¬∃ v g₂, g'.dump = .ok v ∧ ofValue v = .ok g₂ := by
  intro g g'
  refine ⟨rfl, .relocate {} .refl, by decide +kernel, ?_⟩
  rintro ⟨v, g₂, hdump, hread⟩
  have hfails : (g'.dump.toOption.bind fun v => (ofValue v).toOption).isNone = true := by
    decide +kernel
  rw [hdump] at hfails
  simp [Except.toOption, hread] at hfails

end Graph

end LinkedDocs
