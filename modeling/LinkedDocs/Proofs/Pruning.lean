import LinkedDocs.Proofs.RelocationRun

/-!
# How a relocation ends

The types that have lost all their members are dropped from the graph. Together with the pass over
the members this is what a relocation does: `relocate_eq` is for graphs whose type names are texts,
for which a relocation always succeeds, and `relocate_graph` is for every graph.
-/

namespace LinkedDocs

namespace Graph

variable {g : Graph} {k j : Scalar} {e x : Entity} {ks ids : List Scalar}

/-- The graph without some entities, which no list has any more. -/
def prune (g : Graph) (ks : List Scalar) : Graph :=
  ks.foldl detach g

lemma entries_prune (g : Graph) (ks : List Scalar) : (g.prune ks).entries =
    (g.mapEntries fun _ x => ks.foldl Entity.losing x).entries.filter (·.1 ∉ ks) := by
  induction ks generalizing g with
  | nil => simp [prune, mapEntries]
  | cons k ks ih =>
    have hstep : g.prune (k :: ks) = (g.detach k).prune ks := rfl
    rw [hstep, ih]
    simp only [mapEntries, detach, List.filter_map, List.map_map, List.filter_filter,
      List.foldl_cons, Function.comp_def, List.mem_cons, not_or]
    congr 1
    refine List.filter_congr ?_
    intro y _
    by_cases hy : y.1 = k <;> simp [hy]

lemma mem_prune : (j, x) ∈ (g.prune ks).entries ↔
    j ∉ ks ∧ ∃ y, (j, y) ∈ g.entries ∧ x = ks.foldl Entity.losing y := by
  rw [entries_prune, List.mem_filter, mem_mapEntries, and_comm]
  simp

lemma keys_prune : (g.prune ks).keys = g.keys.filter (· ∉ ks) := by
  rw [keys, entries_prune]
  simp [keys, mapEntries, List.filter_map, Function.comp_def]

/-- The types among some entities that list nothing. -/
def emptied (g : Graph) (ids : List Scalar) : List Scalar :=
  ids.filter fun i =>
    match g.get? i with
    | some t => t.kind = .type && t.childIds.isEmpty
    | none => false

lemma mem_emptied : k ∈ g.emptied ids ↔
    k ∈ ids ∧ ∃ t, g.get? k = some t ∧ t.kind = .type ∧ t.childIds = [] := by
  rw [emptied, List.mem_filter]
  cases g.get? k <;> simp

/-- A type that goes takes nothing from the lists of other types. -/
lemma emptied_detach (h : g.WellLinked) (hx : (k, x) ∈ g.entries) (hkind : x.kind = .type)
    (hids : ∀ i ∈ ids, i ∈ g.keys) (hk : k ∉ ids) : (g.detach k).emptied ids = g.emptied ids := by
  refine List.filter_congr ?_
  intro i hi
  obtain ⟨y, hy⟩ := mem_keys.1 (hids i hi)
  have hik : i ≠ k := by
    rintro rfl
    exact hk hi
  have hd : (g.detach k).Distinct := by
    rw [Distinct, keys_detach]
    exact List.Pairwise.filter _ h.distinct
  rw [h.distinct.get?_eq hy, hd.get?_eq (mem_detach.2 ⟨hik, y, hy, rfl⟩)]
  simp only [Entity.kind_losing]
  by_cases hykind : y.kind = .type
  · rw [Entity.losing_of_not_mem]
    intro hmem
    obtain ⟨c, hc, hckind, -⟩ := h.child hy hmem
    rw [h.distinct.entity_unique hc hx, hkind, hykind] at hckind
    cases hckind
  · simp [hykind]

end Graph

namespace Relocation

open LinkedDocs.Graph

/-- The types that have lost all their members are removed, and nothing else is. -/
theorem removeEmptied_eq {p : Pass} (ids : List Scalar) (h : p.graph.WellLinked)
    (hnull : p.graph.contains .null = false) (hids : ∀ i ∈ ids, i ∈ p.graph.keys)
    (hnodup : ids.Nodup) :
    removeEmptied p (ids.map .scalar) = ({ p with
      graph := p.graph.prune (p.graph.emptied ids)
      result := { p.result with
        containersRemoved :=
          p.result.containersRemoved ++ (p.graph.emptied ids).map .scalar } }, none) ∧
    (p.graph.prune (p.graph.emptied ids)).WellLinked := by
  induction ids generalizing p with
  | nil => exact ⟨by simp [removeEmptied, emptied, prune], h⟩
  | cons i ids ih =>
    obtain ⟨hi, hnodup⟩ := List.nodup_cons.1 hnodup
    obtain ⟨e, he⟩ := mem_keys.1 (hids i (by simp))
    have hrest : ∀ j ∈ ids, j ∈ p.graph.keys := fun j hj => hids j (by simp [hj])
    have hget : p.graph.get? i = some e := h.distinct.get?_eq he
    have hfind : p.graph.find (.scalar i) = .ok (some e) := by
      simp [Graph.find, Value.identifier, Except.map, hget]
    have hholds : e.children.holds = !e.childIds.isEmpty := by
      rw [h.lists he]
      simp [Value.holds]
    by_cases hgone : e.kind = .type ∧ e.childIds = []
    · have hemptied : p.graph.emptied (i :: ids) = i :: p.graph.emptied ids := by
        simp [emptied, hget, hgone]
      have hdetach := emptied_detach h he hgone.1 hrest hi
      have hnull' : (p.graph.detach i).contains .null = false := by
        rw [contains_eq_false, keys_detach] at *
        exact fun j hj => hnull j (List.mem_of_mem_filter hj)
      have hrest' : ∀ j ∈ ids, j ∈ (p.graph.detach i).keys := by
        intro j hj
        rw [keys_detach, List.mem_filter]
        refine ⟨hrest j hj, ?_⟩
        have hji : j ≠ i := by
          rintro rfl
          exact hi hj
        simp [hji]
      obtain ⟨heq, hlinked⟩ := ih (p := { p with
        graph := p.graph.detach i
        result := { p.result with
          containersRemoved := p.result.containersRemoved ++ [.scalar i] } })
        (h.detach he hgone.2) hnull' hrest' hnodup
      simp only [hdetach] at heq hlinked
      rw [hemptied]
      refine ⟨?_, hlinked⟩
      rw [List.map_cons, removeEmptied]
      simp only [hfind, hholds, hgone, List.isEmpty_nil, Bool.not_true, Bool.not_false,
        decide_true, Bool.and_self, if_true,
        remove_leaf (h.linked fun _ => True) hnull he trivial hgone.2]
      rw [heq]
      simp [prune]
    · have hemptied : p.graph.emptied (i :: ids) = p.graph.emptied ids := by
        rw [emptied, List.filter_cons_of_neg]
        · rfl
        · simpa [hget] using hgone
      rw [hemptied]
      have hkeep : (decide (e.kind = .type) && !e.children.holds) = false := by
        rw [hholds]
        simpa using hgone
      rw [List.map_cons, removeEmptied]
      simp only [hfind, hkeep]
      exact ih h hnull hrest hnodup

/-! ### The whole relocation -/

/-- The name of a type, in its normal form. -/
def matchedName (t : Entity) : Text :=
  match t.fullName with
  | .scalar (.text name) => Symbol.normalize name
  | _ => []

/-- The types by name, in order of addition. -/
def typeTable (g : Graph) : List (Text × Scalar) :=
  (g.entries.filter (·.2.kind = .type)).map fun y => (matchedName y.2, y.1)

variable {config : Config} {g : Graph} {types : List (Text × Scalar)} {k : Scalar} {t m : Entity}

/-- Whether all full names of types are texts. -/
def HasTextNames (g : Graph) : Prop :=
  ∀ y ∈ g.entries, y.2.kind = .type → ∃ name, y.2.fullName = .text name

/-- Whether all extended types are given as texts. -/
def HasTextTargets (g : Graph) : Prop :=
  ∀ y ∈ g.entries, isCandidate y.2 = true → IsSpelled y.2

instance (v : Value) : Decidable (∃ t, v = .text t) :=
  decidable_of_iff ((match v with
    | .scalar (.text _) => true
    | _ => false) = true) (by split <;> simp_all)

instance (g : Graph) : Decidable (HasTextNames g) :=
  inferInstanceAs (Decidable (∀ y ∈ g.entries, y.2.kind = .type → ∃ name, y.2.fullName = .text name))

instance (g : Graph) : Decidable (HasTextTargets g) :=
  inferInstanceAs (Decidable (∀ y ∈ g.entries, isCandidate y.2 = true → IsSpelled y.2))

lemma namedTypes_eq (h : HasTextNames g) : namedTypes g = .ok (typeTable g) := by
  refine mapM_eq_ok_map ?_
  rintro ⟨k, t⟩ ht
  obtain ⟨ht, hkind⟩ := List.mem_filter.1 ht
  obtain ⟨name, hname⟩ := h _ ht (by simpa using hkind)
  simp [normalizedName, matchedName, hname, Value.expectText, Except.map, bind, Except.bind, pure,
    Except.pure]

lemma namedTypes_table (h : namedTypes g = .ok types) {y : Text × Scalar} (hy : y ∈ types) :
    ∃ t, (y.2, t) ∈ g.entries ∧ t.kind = .type := by
  obtain ⟨⟨k, t⟩, ht, hone⟩ := exists_of_mapM h hy
  obtain ⟨ht, hkind⟩ := List.mem_filter.1 ht
  obtain ⟨n, -, hn⟩ := bind_eq_ok.1 hone
  obtain rfl : (n, k) = y := Except.ok.inj hn
  exact ⟨t, ht, by simpa using hkind⟩

lemma candidates_nodup (h : g.Distinct) : (candidates g).Nodup :=
  (List.filter_sublist.map _).nodup h.nodup

/-- Once a pass is over, the types that have lost all their members are removed. -/
lemma Run.finish {done : List Scalar} {created : List (Text × Scalar)} {base : Graph} {p : Pass}
    (h : Run config g types done created base p) :
    ∃ ids : List Scalar, p.losers = ids.map .scalar ∧ ids.Nodup ∧
      (∀ i, i ∈ ids ↔
        ∃ y ∈ movesOf g p.types done, ∃ m, (y.1, m) ∈ g.entries ∧ m.holder? = some i) ∧
      removeEmptied p p.losers = ({ p with
        graph := p.graph.prune (p.graph.emptied ids)
        result := { p.result with
          containersRemoved := (p.graph.emptied ids).map .scalar } }, none) ∧
      (p.graph.prune (p.graph.emptied ids)).WellLinked := by
  obtain ⟨ids, hids, hnodup, hlost⟩ := h.losers
  have hnull : p.graph.contains .null = false := by
    rw [h.graph_eq, contains_spread]
    exact h.base_null
  have hkeys : ∀ i ∈ ids, i ∈ p.graph.keys := by
    intro i hi
    obtain ⟨y, -, x, hx, hholder⟩ := (hlost i).1 hi
    rw [h.graph_eq, keys_spread]
    exact h.grown.keys_subset (h.source.mem_keys_of_holder? hx hholder)
  obtain ⟨hremove, hlinked⟩ := removeEmptied_eq ids h.linked hnull hkeys hnodup
  rw [← hids, h.removed, List.nil_append] at hremove
  exact ⟨ids, hids, hnodup, hlost, hremove, hlinked⟩

/-- Relocation in a graph whose type names are all texts: it deals with every extension member and
then removes the types that have lost all their members. -/
theorem relocate_eq (config : Config) (hlinked : g.WellLinked) (hnull : g.contains .null = false)
    (hdefined : ∀ {k}, k ∈ candidates g → k.isUndefined = false)
    (htypes : HasTextNames g) (hspelled : HasTextTargets g) :
    ∃ created base p ids events, Run config g (typeTable g) (candidates g) created base p ∧
      ids.Nodup ∧
      (∀ i, i ∈ ids ↔ ∃ y ∈ movesOf g p.types (candidates g), ∃ m,
        (y.1, m) ∈ g.entries ∧ m.holder? = some i) ∧
      g.relocate config = ⟨p.graph.prune (p.graph.emptied ids), .ok ({ p.result with
        containersRemoved := (p.graph.emptied ids).map .scalar }, events)⟩ ∧
      (p.graph.prune (p.graph.emptied ids)).WellLinked := by
  have htable : ∀ {y}, y ∈ typeTable g → ∃ t, (y.2, t) ∈ g.entries ∧ t.kind = .type :=
    fun hy => namedTypes_table (namedTypes_eq htypes) hy
  have hstart : Run config g (typeTable g) [] [] g { graph := g, types := typeTable g } :=
    Run.start hlinked hnull hdefined htable
  have hspelled' : ∀ k ∈ candidates g, ∀ m, (k, m) ∈ g.entries → IsSpelled m := by
    intro k hk m hm
    obtain ⟨m', hm', hcandidate⟩ := mem_candidates.1 hk
    rw [hlinked.distinct.entity_unique hm hm']
    exact hspelled _ hm' hcandidate
  cases hcandidates : candidates g with
  | nil =>
    refine ⟨[], g, _, [], [], hstart, List.nodup_nil, by simp [movesOf], ?_, ?_⟩
    · simp [Graph.relocate, hcandidates, emptied, prune]
    · simpa [emptied, prune] using hlinked
  | cons k keys =>
    obtain ⟨p, fault?, done, created, base, hall, hrun, hdone, hnone⟩ :=
      hstart.moveAll (candidates g) (fun i hi => hi) (by simpa using candidates_nodup hlinked.distinct)
    obtain rfl := hnone hspelled'
    obtain rfl := hdone rfl
    obtain ⟨ids, -, hnodup, hlost, hremove, hlinked'⟩ := hrun.finish
    rw [List.nil_append] at hrun hlost
    rw [← hcandidates]
    refine ⟨created, base, p, ids, p.events ++ [.completed], hrun, hnodup, hlost, ?_, hlinked'⟩
    simp only [Graph.relocate]
    rw [hcandidates] at hall ⊢
    simp only [namedTypes_eq htypes, hall, hremove]

/-- What a relocation does to any graph, also where it fails: it is a pass over some of the
members, after which some types without members may be gone. -/
theorem relocate_graph (config : Config) (hlinked : g.WellLinked)
    (hnull : g.contains .null = false)
    (hdefined : ∀ {k}, k ∈ candidates g → k.isUndefined = false) :
    ∃ types done created base p ks, Run config g types done created base p ∧
      (g.relocate config).graph = p.graph.prune ks ∧ (p.graph.prune ks).WellLinked := by
  have hunchanged : ∃ types done created base p ks, Run config g types done created base p ∧
      g = p.graph.prune ks ∧ (p.graph.prune ks).WellLinked :=
    ⟨[], [], [], g, _, [], Run.start hlinked hnull hdefined (by simp), rfl, hlinked⟩
  cases hcandidates : candidates g with
  | nil =>
    have hrelocate : (g.relocate config).graph = g := by
      simp [Graph.relocate, hcandidates]
    rwa [hrelocate]
  | cons k keys =>
    cases htypes : namedTypes g with
    | error fault =>
      have hrelocate : (g.relocate config).graph = g := by
        simp only [Graph.relocate, htypes]
        split <;> rfl
      rwa [hrelocate]
    | ok types =>
      have hstart : Run config g types [] [] g { graph := g, types } :=
        Run.start hlinked hnull hdefined fun hy => namedTypes_table htypes hy
      obtain ⟨p, fault?, done, created, base, hall, hrun, -⟩ :=
        hstart.moveAll (candidates g) (fun i hi => hi)
          (by simpa using candidates_nodup hlinked.distinct)
      rw [hcandidates] at hall
      cases fault? with
      | some fault =>
        refine ⟨types, done, created, base, p, [], hrun, ?_, hrun.linked⟩
        simp only [Graph.relocate, hcandidates, htypes, hall]
        rfl
      | none =>
        obtain ⟨ids, -, -, -, hremove, hlinked'⟩ := hrun.finish
        refine ⟨types, done, created, base, p, _, hrun, ?_, hlinked'⟩
        simp only [Graph.relocate, hcandidates, htypes, hall, hremove]

end Relocation

end LinkedDocs
