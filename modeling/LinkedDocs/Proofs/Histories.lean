import LinkedDocs.Proofs.RelocationEffect
import LinkedDocs.Proofs.Runs

/-!
# What a graph can go through

A graph is empty or has been read at first. Then entities are added and removed, ids are made up,
members are relocated and the whole graph is transformed, in any order. A graph whose ids are texts
is well linked all the time, and an addition that is refused changes nothing.
-/

namespace LinkedDocs

namespace Graph

variable {g g' : Graph} {k j : Scalar} {e x : Entity}

/-- Every key is a text. -/
def TextKeys (g : Graph) : Prop :=
  ∀ k ∈ g.keys, ∃ t, k = .text t

lemma TextKeys.of_subset (h : g.TextKeys) (hsub : g'.keys ⊆ g.keys) : g'.TextKeys :=
  fun k hk => h k (hsub hk)

lemma TextKeys.contains_null (h : g.TextKeys) : g.contains .null = false := by
  rw [contains_eq_false]
  intro k hk
  obtain ⟨t, rfl⟩ := h k hk
  rfl

lemma TextKeys.isUndefined (h : g.TextKeys) (hk : k ∈ g.keys) : k.isUndefined = false := by
  obtain ⟨t, rfl⟩ := h k hk
  rfl

lemma TextKeys.attach {t : Text} (h : g.TextKeys) : (g.attach (.text t) e).TextKeys := by
  intro k hk
  rw [keys_attach] at hk
  rcases List.mem_append.1 hk with hk | hk
  · exact h k hk
  · exact ⟨t, List.mem_singleton.1 hk⟩

lemma TextKeys.grown {created : List (Text × Scalar)} (h : g.TextKeys)
    (hgrown : Grown g created g') : g'.TextKeys := by
  induction hgrown with
  | refl => exact h
  | issue n _ ih => exact ih
  | space _ _ _ _ _ ih => exact ih.attach
  | placeholder _ _ _ _ _ _ ih => exact ih.attach

/-! ### Each operation -/

/-- Whether an entity can be added: its id is a text, it names its parent by a text if it names one,
and it lists nothing. -/
structure IsAddable (e : Entity) : Prop where
  id : ∃ t, e.id = .text t
  parent : e.HasParent → ∃ t, e.parent = .text t
  children : e.children = .list []

lemma IsAddable.cases (he : IsAddable e) (h : g.WellLinked) {t : Text} (hid : e.id = .text t) :
    (g.contains (.text t) = true ∧ g.add e = (g, some (.duplicateId e.id))) ∨
    (g.contains (.text t) = false ∧ ¬g.Admits e ∧ ∃ wanted, e.kind.parentKind? = some wanted ∧
      g.add e = (g, some (.wrongKind e.parent wanted.title))) ∨
    (g.contains (.text t) = false ∧ g.Admits e ∧ g.add e = (g.attach (.text t) e, none)) := by
  refine add_cases h hid ?_
  intro hset
  obtain ⟨s, hs⟩ := he.parent hset
  exact ⟨.text s, hs, fun j _ hsame => Scalar.same_text.1 hsame⟩

lemma add_keeps (h : g.WellLinked) (htext : g.TextKeys) (he : IsAddable e) :
    (g.add e).1.WellLinked ∧ (g.add e).1.TextKeys := by
  obtain ⟨t, hid⟩ := he.id
  rcases he.cases h hid with ⟨-, hadd⟩ | ⟨-, -, wanted, -, hadd⟩ | ⟨hfree, hadmits, hadd⟩
  · rw [hadd]
    exact ⟨h, htext⟩
  · rw [hadd]
    exact ⟨h, htext⟩
  · rw [hadd]
    exact ⟨h.attach hid hfree he.children hadmits, htext.attach⟩

lemma remove_keeps (h : g.WellLinked) (htext : g.TextKeys) (id : Value) :
    (g.remove id).1.WellLinked ∧ (g.remove id).1.TextKeys := by
  cases hid : id.identifier with
  | error fault =>
    have hremove : (g.remove id).1 = g := by
      rw [remove, removeWithin]
      simp only [hid]
    rw [hremove]
    exact ⟨h, htext⟩
  | ok s =>
    obtain rfl : id = .scalar s := by
      cases id <;> simp_all [Value.identifier]
    cases hget : g.get? s with
    | none =>
      rw [remove_of_free (get?_eq_none.1 hget)]
      exact ⟨h, htext⟩
    | some e =>
      obtain ⟨k, hk, hsame⟩ := exists_of_get? hget
      obtain ⟨ks, hremove, hlinked, -⟩ := remove_detaches h htext.contains_null hk hsame
      rw [hremove]
      exact ⟨hlinked,
        htext.of_subset (keys_sublist_of_outline (outline_detachAll g ks)).subset⟩

lemma relocate_keeps (h : g.WellLinked) (htext : g.TextKeys) (config : Config) :
    (g.relocate config).graph.WellLinked ∧ (g.relocate config).graph.TextKeys := by
  have hdefined : ∀ {k}, k ∈ Relocation.candidates g → k.isUndefined = false := by
    intro k hk
    obtain ⟨m, hm, -⟩ := Relocation.mem_candidates.1 hk
    exact htext.isUndefined (mem_keys_of_mem hm)
  obtain ⟨types, done, created, base, p, ks, hrun, hgraph, hlinked⟩ :=
    Relocation.relocate_graph config h htext.contains_null hdefined
  rw [hgraph]
  refine ⟨hlinked, (htext.grown hrun.grown).of_subset ?_⟩
  rw [keys_prune, hrun.graph_eq, keys_spread]
  exact List.filter_sublist.subset

end Graph

namespace Transform

open LinkedDocs.Graph

variable {g : Graph}

/-- A revision changes no links. -/
lemma modify_apply_wellLinked (h : g.WellLinked) (k : Scalar) (revision : Revision) :
    (g.modify k revision.apply).WellLinked := by
  rw [modify_eq_mapEntries]
  refine h.mapEntries ?_ ?_ ?_ ?_ <;> intro j x <;> split <;> rfl

/-- A transformation relocates members and changes no links after that. -/
lemma keeps_runWith {worker : Resolver → Entity → Option Work} {config : Config}
    {outcome : Outcome} (hrun : runWith worker config g = some outcome) (h : g.WellLinked)
    (htext : g.TextKeys) : outcome.graph.WellLinked ∧ outcome.graph.TextKeys := by
  refine runWith_keeps (P := fun b => b.WellLinked ∧ b.TextKeys) hrun
    (relocate_keeps h htext config) ?_
  rintro _ y _ revision b - - - - ⟨hlinked, htext⟩
  refine ⟨modify_apply_wellLinked hlinked y.1 revision, ?_⟩
  intro k hk
  rw [keys_modify] at hk
  exact htext k hk

end Transform

/-! ### Histories -/

/-- What can be done to a graph. -/
inductive Operation where
  | add (e : Entity)
  | freshId (stem : Text)
  | remove (id : Value)
  | relocate (config : Config)
  | transform (worker : Resolver → Entity → Option Work) (config : Config)

namespace Operation

/-- The graph after an operation, whether or not it fails. If the work of a transformation never
ends, the graph stays as it is when that work begins. -/
def run (g : Graph) : Operation → Graph
  | .add e => (g.add e).1
  | .freshId stem => (g.freshId stem).2
  | .remove id => (g.remove id).1
  | .relocate config => (g.relocate config).graph
  | .transform worker config =>
    match Transform.runWith worker config g with
    | some outcome => outcome.graph
    | none => (g.relocate config).graph

/-- Only entities without children are added. -/
def IsAllowed : Operation → Prop
  | .add e => Graph.IsAddable e
  | _ => True

end Operation

/-- The graphs that are empty or have been read, with texts for ids, and those that come of them by
operations. -/
inductive Graph.Reachable : Graph → Prop where
  | empty : Reachable Graph.empty
  | read {data g} : Graph.ofValue data = .ok g → g.TextKeys → Reachable g
  | step {g} (op : Operation) : Reachable g → op.IsAllowed → Reachable (op.run g)

namespace Graph

lemma step_keeps {op : Operation} {g : Graph} (h : g.WellLinked) (htext : g.TextKeys)
    (hop : op.IsAllowed) : (op.run g).WellLinked ∧ (op.run g).TextKeys := by
  cases op with
  | add e => exact add_keeps h htext hop
  | freshId stem => exact ⟨h.issue _, htext⟩
  | remove id => exact remove_keeps h htext id
  | relocate config => exact relocate_keeps h htext config
  | transform worker config =>
    unfold Operation.run
    dsimp only
    split
    case h_1 hrun => exact Transform.keeps_runWith hrun h htext
    case h_2 => exact relocate_keeps h htext config

lemma Reachable.keeps {g : Graph} (h : g.Reachable) : g.WellLinked ∧ g.TextKeys := by
  induction h with
  | empty => exact ⟨wellLinked_empty, by simp [TextKeys, keys, Graph.empty]⟩
  | read hread htext => exact ⟨(reading_of_ofValue hread).sound.linked, htext⟩
  | step op _ hop ih => exact step_keeps ih.1 ih.2 hop

/-- A reachable graph is well linked, and so is every graph that it goes through. An entity is
refused for an id that is taken, or for a parent that is missing or of the wrong kind, and then
nothing changes. -/
theorem reachable_wellLinked {g : Graph} (h : g.Reachable) :
    g.WellLinked ∧ ∀ e t, IsAddable e → e.id = .text t →
      (g.contains (.text t) = true →
        ∃ fault, g.add e = (g, some fault) ∧ fault.label = "ValueError".toList) ∧
      (g.contains (.text t) = false → ¬g.Admits e →
        ∃ fault, g.add e = (g, some fault) ∧ fault.label = "KeyError".toList) ∧
      (g.contains (.text t) = false → g.Admits e → ∃ g', g.add e = (g', none)) := by
  obtain ⟨hlinked, -⟩ := h.keeps
  refine ⟨hlinked, ?_⟩
  intro e t he hid
  rcases he.cases hlinked hid with
    ⟨htaken, hadd⟩ | ⟨hfree, hrefused, wanted, -, hadd⟩ | ⟨hfree, hadmits, hadd⟩
  · refine ⟨fun _ => ⟨_, hadd, rfl⟩, ?_, ?_⟩ <;>
      intro hfree <;> rw [htaken] at hfree <;> cases hfree
  · refine ⟨?_, fun _ _ => ⟨_, hadd, rfl⟩, fun _ hadmits => absurd hadmits hrefused⟩
    intro htaken
    rw [hfree] at htaken
    cases htaken
  · refine ⟨?_, fun _ hrefused => absurd hadmits hrefused, fun _ _ => ⟨_, hadd⟩⟩
    intro htaken
    rw [hfree] at htaken
    cases htaken

/-- A graph in which the type `H` has an extension member and another one. -/
def twoMembers : Graph :=
  extensionGraph [] [.map [(.text "name".toList, .text ['y'])]]

lemma reachable_twoMembers : twoMembers.Reachable := by
  have hread : ofValue (extensionFile [] [.map [(.text "name".toList, .text ['y'])]]) =
      .ok twoMembers := rfl
  refine .read hread ?_
  have hkeys : twoMembers.keys = [ "A:A", "N:N", "T:N.T", "T:N.H", "M:N.H.x", "M:N.H.y"].map
      fun key => Scalar.text key.toList := by
    decide +kernel
  intro k hk
  rw [hkeys] at hk
  obtain ⟨key, -, rfl⟩ := List.mem_map.1 hk
  exact ⟨_, rfl⟩

/-- A namespace is added, an id is made up, and the extension member is moved to the type that it
extends. The namespace cannot be added again. -/
theorem reachable_wellLinked_of_moved :
    let space : Entity :=
      { id := .text "N:M".toList, name := .text ['M'], detail := .namespace,
        parent := .text "A:A".toList }
    let g := Operation.run (Operation.run (Operation.run twoMembers (.add space)) (.freshId ['N']))
      (.relocate {})
    let holder? (g : Graph) := (g.get? (.text "M:N.H.x".toList)).bind (·.holder?)
    g.WellLinked ∧ holder? twoMembers = some (.text "T:N.H".toList) ∧
      holder? g = some (.text "T:N.T".toList) ∧
      ∃ fault, g.add space = (g, some fault) ∧ fault.label = "ValueError".toList := by
  intro space g holder?
  have hspace : IsAddable space := ⟨⟨_, rfl⟩, fun _ => ⟨_, rfl⟩, rfl⟩
  have hreachable : g.Reachable :=
    .step (.relocate {}) (.step (.freshId ['N']) (.step (.add space) reachable_twoMembers hspace)
      trivial) trivial
  obtain ⟨hlinked, hadd⟩ := reachable_wellLinked hreachable
  exact ⟨hlinked, by decide +kernel, by decide +kernel,
    (hadd space "N:M".toList hspace rfl).1 (by decide +kernel)⟩

end Graph

end LinkedDocs
