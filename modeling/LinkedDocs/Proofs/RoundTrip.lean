import LinkedDocs.Proofs.Moves
import LinkedDocs.Proofs.Subtrees

/-!
# Writing a graph and reading it again

A subtree that is read after others is added as a block: its root is listed by its parent, and
nothing else changes. Reading what has been written of a sound graph therefore restores its
entities, and writing them once more gives the same records.
-/

namespace LinkedDocs

namespace Entity

variable {e : Entity}

@[simp] lemma kind_restored : e.restored.kind = e.kind := by
  unfold restored kind
  cases e.detail <;> rfl

@[simp] lemma childIds_restored : e.restored.childIds = e.childIds := rfl

@[simp] lemma holder?_restored : e.restored.holder? = e.holder? := by
  unfold holder?
  rw [kind_restored]
  rfl

@[simp] lemma kind_leaf : e.leaf.kind = e.kind :=
  kind_restored

@[simp] lemma childIds_leaf : e.leaf.childIds = [] :=
  childIds_withChildren

@[simp] lemma holder?_leaf : e.leaf.holder? = e.holder? :=
  holder?_restored

lemma Readable.restored (h : e.Readable) : e.restored.Readable := by
  refine ⟨?_, h.references, h.exceptions, ?_, h.further⟩
  · rw [kind_restored]
    exact h.name
  · have hdetail := h.detail
    unfold Entity.restored
    cases hd : e.detail with
    | assembly | «namespace» | parameter => trivial
    | type => rwa [hd] at hdetail
    | member kind declaring isExtension extended =>
      rw [hd] at hdetail
      unfold Detail.Readable at hdetail
      split at hdetail <;> simp_all [Detail.Readable]

end Entity

namespace Graph

variable {g acc acc' : Graph} {k j i : Scalar} {e x c : Entity} {n : Nat} {p? : Option Entity}
  {pk? : Option Scalar} {ids ids' : List Scalar} {block block' : List (Scalar × Entity)}
  {path : List Scalar}

/-! ### Blocks of entities -/

/-- The graph with a block of entities at its end, some of which the entity with a key lists. -/
def graft (g : Graph) (pk? : Option Scalar) (ids : List Scalar) (block : List (Scalar × Entity)) :
    Graph :=
  { g with
    entries := (g.mapEntries fun j x =>
      if pk? = some j then x.withChildren (x.childIds ++ ids) else x).entries ++ block }

lemma keys_graft : (g.graft pk? ids block).keys = g.keys ++ block.map (·.1) := by
  rw [keys, graft, List.map_append]
  congr 1
  exact keys_mapEntries

lemma graft_nil (h : g.WellLinked) : g.graft pk? [] [] = g := by
  have hself : (g.mapEntries fun j x =>
      if pk? = some j then x.withChildren (x.childIds ++ []) else x) = g := by
    refine mapEntries_eq_self ?_
    intro j x hx
    rw [List.append_nil, Entity.withChildren_childIds (h.lists hx), ite_self]
  rw [graft, hself, List.append_nil]

lemma graft_graft (hfresh : ∀ y ∈ block, pk? ≠ some y.1) :
    (g.graft pk? ids block).graft pk? ids' block' = g.graft pk? (ids ++ ids') (block ++ block') := by
  have hblock : (block.map fun y => (y.1, if pk? = some y.1 then
      y.2.withChildren (y.2.childIds ++ ids') else y.2)) = block := by
    rw [List.map_congr_left (g := fun y => y), List.map_id']
    intro y hy
    rw [if_neg (hfresh y hy)]
  simp only [graft, mapEntries, List.map_append, List.map_map, hblock, List.append_assoc]
  congr 2
  refine List.map_congr_left ?_
  rintro ⟨j, x⟩ -
  simp only [Function.comp_apply]
  split <;> simp

/-- An entity that is attached and then gets children has them from the start. -/
lemma attach_graft (hnew : k ∉ g.keys) : (g.attach k e).graft (some k) ids block =
    g.graft e.holder? [k] ((k, e.withChildren (e.childIds ++ ids)) :: block) := by
  simp only [attach, push, graft, mapEntries, List.map_append, List.map_map, List.map_cons,
    List.map_nil, List.append_assoc, if_true, List.singleton_append]
  congr 2
  refine List.map_congr_left ?_
  rintro ⟨j, x⟩ hx
  have hne : some k ≠ some j := by
    rintro heq
    rw [Option.some.inj heq] at hnew
    exact hnew (mem_keys_of_mem hx)
  simp only [Function.comp_apply, if_neg hne]

lemma free_of_not_mem (h : g.Distinct) (hsub : acc.keys ⊆ g.keys) (hk : k ∈ g.keys)
    (hnew : k ∉ acc.keys) : acc.contains k = false := by
  rw [contains_eq_false]
  intro j hj
  refine h.same_eq_false (hsub hj) hk ?_
  rintro rfl
  exact hnew hj

/-! ### Where reading stands -/

/-- The entity whose children are read is the last of the path. -/
def At (path : List Scalar) : Option Entity → Prop
  | none => path = []
  | some p => path.length = p.kind.depth + 1 ∧ ∃ pk, path.getLast? = some pk ∧ p.id = .scalar pk

/-- Reading a record keeps a graph as it is to be while records are read. -/
lemma Reading.loader {data : Value} (h : Reading path acc) (hat : At path p?)
    (hload : Graph.loader p? acc data = .ok acc') : Reading path acc' := by
  cases p? with
  | none =>
    obtain rfl : path = [] := hat
    exact h.loadAssembly hload
  | some p =>
    obtain ⟨hlength, pk, hlast, hid⟩ := hat
    cases hkind : p.kind with
    | assembly =>
      rw [loader_assembly hkind, hid] at hload
      exact h.loadNamespace (by rw [hlength, hkind]; rfl) hlast hload
    | «namespace» =>
      obtain ⟨name, hname⟩ := loader_namespace hkind
      rw [hname, hid] at hload
      exact h.loadType (by rw [hlength, hkind]; rfl) hlast hload
    | type =>
      obtain ⟨fullName, hfullName⟩ := loader_type hkind
      rw [hfullName, hid] at hload
      exact h.loadMember (by rw [hlength, hkind]; rfl) hlast hload
    | member =>
      rw [loader_member hkind, hid] at hload
      exact h.loadParameter (by rw [hlength, hkind]; rfl) hlast hload
    | parameter =>
      obtain rfl : acc = acc' := by
        unfold Graph.loader at hload
        cases hd : p.detail <;> simp_all [Entity.kind, Detail.kind]
      exact h

lemma fits_of_under (hat : At path p?) (hunder : Under p? e) : Reading.Fits path e := by
  cases p? with
  | none =>
    obtain rfl : path = [] := hat
    refine ⟨?_, by simp, fun _ => hunder.parent⟩
    have hkind := hunder.kind
    cases hk : e.kind <;> simp_all [EntityKind.parentKind?, EntityKind.depth]
  | some p =>
    obtain ⟨hlength, pk, hlast, hid⟩ := hat
    refine Reading.fits hlast ?_ ?_
    · rw [hunder.parent, ← hid]
      rfl
    · rw [hlength, EntityKind.depth_parentKind hunder.kind]

lemma under_leaf (hg : g.WellLinked) (he : (k, e) ∈ g.entries) (hc : (j, c) ∈ g.entries)
    (hholder : c.holder? = some k) : Under (some e.leaf) c where
  kind := by rw [hg.parentKind he hc hholder, Option.map_some, Entity.kind_leaf]
  parent := by
    rw [(Entity.holder?_eq_some.1 hholder).2.1, ← hg.id_eq he]
    rfl

/-- The parent of an entity that is read has been read. -/
lemma Reading.Fits.admits (hfits : Reading.Fits path e) (h : Reading path acc) :
    acc.Admits e := by
  intro hset
  obtain ⟨wanted, hwanted⟩ := Option.isSome_iff_exists.1 hset.1
  have hlength := EntityKind.depth_parentKind hwanted
  rw [hfits.depth] at hlength
  have hlast : path.getLast? = path[wanted.depth]? := by
    rw [List.getLast?_eq_getElem?, hlength, Nat.add_sub_cancel]
  obtain ⟨pk, hpk⟩ : ∃ pk, path[wanted.depth]? = some pk :=
    ⟨_, List.getElem?_eq_getElem (by omega)⟩
  have hmem := List.mem_of_getLast? (h.path_last hpk)
  rw [h.ordered] at hmem
  obtain ⟨x, hx, hdepth⟩ := mem_keysAt.1 hmem
  exact ⟨pk, x, hx, hset.holder? (hfits.parent (hlast.trans hpk)),
    by rw [EntityKind.eq_of_depth hdepth, hwanted]⟩

/-! ### Reading subtrees -/

lemma Sound.named (hg : g.Sound) (he : (k, e) ∈ g.entries)
    (htype : e.kind = .type → e.name.holds = true) (hspace : e.kind ≠ .namespace) :
    e.name ≠ .text [] := by
  intro hempty
  obtain ⟨t, ht, hnameless⟩ := (hg.readable he).name
  rw [hempty] at ht
  obtain rfl : [] = t := by simpa using ht
  rcases hnameless rfl with hkind | hkind
  · exact hspace hkind
  · have hholds := htype hkind
    simp [hempty, Value.holds, Scalar.holds] at hholds

lemma childIds_of_parameter (hg : g.WellLinked) (he : (k, e) ∈ g.entries)
    (hkind : e.kind = .parameter) : e.childIds = [] := by
  rw [List.eq_nil_iff_forall_not_mem]
  intro j hj
  obtain ⟨c, -, -, hheight, -⟩ := hg.child_depth he hj
  rw [hkind] at hheight
  cases hheight

/-- Subtrees that are read one after another are added as one block, if each of them is added as a
block. -/
lemma foldlM_written (hg : g.WellLinked) {d : Nat} (hids : ids.Nodup)
    (hdepth : ∀ j ∈ ids, ∃ c, (j, c) ∈ g.entries ∧ c.kind.depth = d)
    (hone : ∀ j ∈ ids, ∀ {acc}, Reading path acc → acc.keys ⊆ g.keys →
      (∀ i ∈ (g.subtree n j).map (·.1), i ∉ acc.keys) →
      loader p? acc (g.written n j) = .ok (acc.graft pk? [j] (g.subtree n j)))
    (hread : Reading path acc) (hat : At path p?) (hpk : ∀ pk, pk? = some pk → pk ∈ acc.keys)
    (hsub : acc.keys ⊆ g.keys)
    (hfresh : ∀ i ∈ (ids.flatMap (g.subtree n)).map (·.1), i ∉ acc.keys) :
    (ids.map (g.written n)).foldlM (loader p?) acc =
      .ok (acc.graft pk? ids (ids.flatMap (g.subtree n))) := by
  induction ids generalizing acc with
  | nil => rw [List.flatMap_nil, graft_nil hread.sound.linked]; rfl
  | cons j ids ih =>
    have hnodup := subtrees_nodup (n := n) hg hids hdepth
    rw [List.flatMap_cons, List.map_append, List.nodup_append'] at hnodup
    rw [List.flatMap_cons, List.map_append] at hfresh
    have hfirst : ∀ i ∈ (g.subtree n j).map (·.1), i ∉ acc.keys :=
      fun i hi => hfresh i (List.mem_append_left _ hi)
    have hload := hone j (by simp) hread hsub hfirst
    have hnext := hread.loader hat hload
    obtain ⟨c, hc, -⟩ := hdepth j (by simp)
    have hrest := ih (List.nodup_cons.1 hids).2 (fun i hi => hdepth i (by simp [hi]))
      (fun i hi => hone i (by simp [hi])) hnext
      (by
        intro pk heq
        rw [keys_graft]
        exact List.mem_append_left _ (hpk pk heq))
      (by
        rw [keys_graft, List.append_subset]
        exact ⟨hsub, fun i hi => mem_keys_of_subtree hg hc hi⟩)
      (by
        intro i hi hmem
        rw [keys_graft] at hmem
        rcases List.mem_append.1 hmem with hmem | hmem
        · exact hfresh i (List.mem_append_right _ hi) hmem
        · exact hnodup.2.2 hmem hi)
    rw [List.map_cons, List.foldlM_cons, hload, List.flatMap_cons]
    refine hrest.trans ?_
    rw [graft_graft]
    · rfl
    · intro y hy heq
      exact hfirst y.1 (List.mem_map_of_mem hy) (hpk y.1 heq)

/-- Reading what has been written of a subtree adds it as a block. -/
theorem loader_written (hg : g.Sound) (hnamed : g.HasTypeNames) (he : (k, e) ∈ g.entries)
    (hn : e.kind.height < n) (hread : Reading path acc) (hat : At path p?) (hunder : Under p? e)
    (hsub : acc.keys ⊆ g.keys) (hfresh : ∀ i ∈ (g.subtree n k).map (·.1), i ∉ acc.keys) :
    loader p? acc (g.written n k) = .ok (acc.graft e.holder? [k] (g.subtree n k)) := by
  induction n generalizing k e acc path p? with
  | zero => omega
  | succ n ih =>
    have hlinked := hg.linked
    have hid := hlinked.id_eq he
    rw [subtree_succ hlinked.distinct he, List.map_cons] at hfresh
    have hnew : k ∉ acc.keys := hfresh k (by simp)
    have hfree := free_of_not_mem hlinked.distinct hsub (mem_keys_of_mem he) hnew
    have hunder' : Under p? e.leaf := ⟨by rw [Entity.kind_leaf, hunder.kind], hunder.parent⟩
    have hwith : acc.with? e.leaf = .ok (acc.attach k e.leaf) := by
      rw [with?, add_eq_attach (e := e.leaf) (hread.sound.linked.linked fun _ => True) hid hfree
        ((fits_of_under hat hunder').admits hread)]
    have hparts : e.kind = .parameter → e.childIds.map (g.written n) = [] := by
      intro hkind
      rw [childIds_of_parameter hlinked he hkind, List.map_nil]
    obtain ⟨k', hk', hnext⟩ := hread.add hwith (fits_of_under hat hunder')
      (by
        show e.id.holds = true
        rw [hid]
        exact hg.holds he)
      rfl ((hg.readable he).restored.withChildren [])
      (by
        rw [Entity.kind_leaf]
        exact hnamed _ he)
    obtain rfl : k = k' := Value.scalar.inj (hid.symm.trans hk')
    have hat' : At (path ++ [k]) (some e.leaf) := by
      refine ⟨?_, k, by simp, hid⟩
      rw [List.length_append, List.length_singleton, (fits_of_under hat hunder').depth]
    have hloop : (e.childIds.map (g.written n)).foldlM (loader (some e.leaf)) (acc.attach k e.leaf) =
        .ok ((acc.attach k e.leaf).graft (some k) e.childIds (e.childIds.flatMap (g.subtree n))) := by
      refine foldlM_written (d := e.kind.depth + 1) hlinked (hlinked.nodup he) ?_ ?_ hnext hat' ?_ ?_ ?_
      · intro j hj
        obtain ⟨c, hc, hdepth, -⟩ := hlinked.child_depth he hj
        exact ⟨c, hc, hdepth⟩
      · intro j hj acc' hread' hsub' hfresh'
        obtain ⟨c, hc, -, hheight, -, hholder⟩ := hlinked.child_depth he hj
        rw [← hholder]
        exact ih hc (by omega) hread' hat' (under_leaf hlinked he hc hholder) hsub' hfresh'
      · intro pk heq
        rw [keys_attach, ← Option.some.inj heq]
        simp
      · rw [keys_attach, List.append_subset]
        exact ⟨hsub, by simpa using mem_keys_of_mem he⟩
      · intro i hi hmem
        rw [keys_attach] at hmem
        rcases List.mem_append.1 hmem with hmem | hmem
        · exact hfresh i (List.mem_cons_of_mem _ hi) hmem
        · rw [List.mem_singleton.1 hmem] at hi
          exact root_not_mem_below hlinked he hi
    rw [written_succ hlinked.distinct he, loader_record (hg.readable he) hid (hg.holds he)
      (hg.named he (hnamed _ he)) hunder hparts, hwith, subtree_succ hlinked.distinct he]
    refine hloop.trans ?_
    rw [attach_graft hnew, Entity.holder?_leaf, Entity.childIds_leaf, List.nil_append]
    have hlists := hlinked.lists he
    have hwhole : e.leaf.withChildren e.childIds = e.restored :=
      Entity.withChildren_childIds (e := e.restored) hlists
    rw [hwhole]

/-! ### The whole graph -/

/-- The graph that comes of writing a sound graph and reading it again. -/
def reloaded (g : Graph) : Graph :=
  { entries := g.listing }

/-- A sound graph whose types have names is read again once it is written. -/
theorem ofValue_dump (hg : g.Sound) (hnamed : g.HasTypeNames) :
    ∃ v, g.dump = .ok v ∧ ofValue v = .ok g.reloaded := by
  refine ⟨_, dump_eq hg, ?_⟩
  have hdepth : ∀ j ∈ g.assemblyKeys, ∃ c, (j, c) ∈ g.entries ∧ c.kind.depth = 0 :=
    fun j hj => depth_of_assembly hj
  have hloop : (g.assemblyKeys.map (g.written 5)).foldlM (loader none) empty =
      .ok (empty.graft none g.assemblyKeys g.listing) := by
    refine foldlM_written hg.linked ((List.filter_sublist.map _).nodup hg.linked.distinct.nodup)
      hdepth ?_ reading_empty rfl (by simp) (by simp [empty, keys]) (by simp [empty, keys])
    intro j hj acc hread hsub hfresh
    obtain ⟨c, hc, hkind⟩ := mem_assemblyKeys.1 hj
    have hholder : c.holder? = none := by
      rw [Entity.holder?, hkind]
      rfl
    rw [← hholder]
    refine loader_written hg hnamed hc (by rw [hkind]; decide) hread rfl ?_ hsub hfresh
    exact ⟨by rw [hkind]; rfl, hg.root hc hkind⟩
  have hread : read (.map [field "assemblies".toList
      (.list (g.assemblyKeys.map (g.written 5)))]) = .ok g.reloaded := by
    refine bind_eq_ok.2 ⟨_, rfl, bind_eq_ok.2 ⟨g.assemblyKeys.map (g.written 5), ?_, ?_⟩⟩
    · exact itemsUnder_of_list rfl
    · exact hloop
  rw [ofValue, hread]

lemma mem_reloaded (hg : g.Sound) :
    (k, x) ∈ g.reloaded.entries ↔ ∃ e, (k, e) ∈ g.entries ∧ x = e.restored :=
  mem_listing hg

lemma reading_reloaded (hg : g.Sound) (hnamed : g.HasTypeNames) : Reading [] g.reloaded := by
  obtain ⟨v, -, hread⟩ := ofValue_dump hg hnamed
  exact reading_of_ofValue hread

/-- Where a subtree has been read, each part of it has been. -/
lemma loader_child (hg : g.Sound) (he : (k, e) ∈ g.entries) (hkind : e.kind ≠ .type)
    (hunder : Under p? e) (hload : loader p? acc (g.written (n + 1) k) = .ok acc')
    (hj : j ∈ e.childIds) : ∃ a a', loader (some e.leaf) a (g.written n j) = .ok a' := by
  have hname := hg.named he fun htype => absurd htype hkind
  have hparts : e.kind = .parameter → e.childIds.map (g.written n) = [] := by
    intro hparameter
    rw [childIds_of_parameter hg.linked he hparameter, List.map_nil]
  rw [written_succ hg.linked.distinct he, loader_record (hg.readable he) (hg.linked.id_eq he)
    (hg.holds he) hname hunder hparts] at hload
  obtain ⟨a, -, hload⟩ := bind_eq_ok.1 hload
  exact exists_of_foldlM hload (List.mem_map_of_mem hj)

lemma name_of_loader {p t : Entity} (hg : g.Sound) (ht : (k, t) ∈ g.entries)
    (hp : p.kind = .namespace) (hload : loader (some p) acc (g.written (n + 1) k) = .ok acc') :
    t.name.holds = true := by
  obtain ⟨space, hspace⟩ := loader_namespace hp
  rw [hspace, written_succ hg.linked.distinct ht] at hload
  obtain ⟨fields, hfields, hload⟩ := bind_eq_ok.1 hload
  obtain ⟨name, hname, -⟩ := bind_eq_ok.1 hload
  obtain rfl := Except.ok.inj hfields
  obtain ⟨hget, hne⟩ := readName_eq_ok hname
  have hcontent := get_content (e := t) (keys_nodup t (t.childIds.map (g.written n)))
    (List.mem_of_getElem? (i := 1) rfl)
  rw [← hcontent, hget]
  simpa [Value.holds, Scalar.holds] using hne

/-- A sound graph that can be read again has names for its types. -/
lemma hasTypeNames_of_reload {v : Value} {g₂ : Graph} (hg : g.Sound) (hdump : g.dump = .ok v)
    (hload : ofValue v = .ok g₂) : g.HasTypeNames := by
  rintro ⟨k, t⟩ ht hkind
  obtain ⟨pk, s, hs, hholder, hk⟩ := hg.linked.parent ht (hg.rooted ht (by simp [hkind]))
  have hskind := hg.linked.parentKind hs ht hholder
  rw [hkind] at hskind
  have hskind : s.kind = .namespace := (Option.some.inj hskind).symm
  obtain ⟨ak, a, ha, hholder', hpk⟩ := hg.linked.parent hs (hg.rooted hs (by simp [hskind]))
  have hakind := hg.linked.parentKind ha hs hholder'
  rw [hskind] at hakind
  have hakind : a.kind = .assembly := (Option.some.inj hakind).symm
  rw [dump_eq hg, Except.ok.injEq] at hdump
  subst hdump
  unfold ofValue at hload
  split at hload
  case h_1 g' hread =>
    obtain ⟨fields, hfields, hread⟩ := bind_eq_ok.1 hread
    obtain ⟨items, hitems, hread⟩ := bind_eq_ok.1 hread
    obtain rfl := Except.ok.inj hfields
    rw [itemsUnder_of_list rfl, Except.ok.injEq] at hitems
    subst hitems
    obtain ⟨_, _, hassembly⟩ := exists_of_foldlM hread
      (List.mem_map_of_mem (mem_assemblyKeys.2 ⟨a, ha, hakind⟩))
    have hunder : Under none a := ⟨by rw [hakind]; rfl, hg.root ha hakind⟩
    obtain ⟨_, _, hspace⟩ := loader_child hg ha (by simp [hakind]) hunder hassembly hpk
    obtain ⟨_, _, htype⟩ := loader_child hg hs (by simp [hskind])
      (under_leaf hg.linked ha hs hholder') hspace hk
    exact name_of_loader hg ht (by simpa using hskind) htype
  case h_2 => cases hload

lemma assemblyKeys_reloaded (hg : g.Sound) : g.reloaded.assemblyKeys = g.assemblyKeys := by
  have hone : ∀ k ∈ g.assemblyKeys,
      ((g.subtree 5 k).filter (·.2.kind = .assembly)).map (·.1) = [k] := by
    intro k hk
    obtain ⟨e, he, hkind⟩ := mem_assemblyKeys.1 hk
    rw [subtree_succ hg.linked.distinct he, List.filter_cons_of_pos (by simpa using hkind),
      List.map_cons, List.cons_eq_cons]
    refine ⟨rfl, ?_⟩
    rw [List.map_eq_nil_iff, List.filter_eq_nil_iff]
    rintro ⟨i, x⟩ hx hassembly
    obtain ⟨j, hj, hx⟩ := List.mem_flatMap.1 hx
    obtain ⟨c, hc, hdepth, -⟩ := hg.linked.child_depth he hj
    obtain ⟨y, hy, rfl, hroot⟩ := exists_of_mem_subtree hg.linked hc hx
    rw [Entity.kind_restored, decide_eq_true_eq] at hassembly
    rcases hroot with rfl | hlt
    · rw [hg.linked.distinct.entity_unique hc hy, hassembly] at hdepth
      cases hdepth
    · rw [hassembly] at hlt
      cases hlt
  rw [assemblyKeys, reloaded, listing, List.filter_flatMap, List.map_flatMap,
    List.flatMap_congr hone, List.flatMap_singleton']

lemma exists_of_mem_layer (hg : g.WellLinked) (hk : k ∈ g.layer n) :
    ∃ e, (k, e) ∈ g.entries ∧ e.kind.depth = n := by
  induction n generalizing k with
  | zero => exact depth_of_assembly hk
  | succ n ih =>
    obtain ⟨j, hj, hk⟩ := List.mem_flatMap.1 hk
    obtain ⟨e, he, hdepth⟩ := ih hj
    rw [childrenAt_of_mem hg.distinct he] at hk
    obtain ⟨c, hc, hcdepth, -⟩ := hg.child_depth he hk
    exact ⟨c, hc, by omega⟩

/-- The entities are listed in the same order once they are read again. -/
lemma layer_reloaded (hg : g.Sound) (hnamed : g.HasTypeNames) (n : Nat) :
    g.reloaded.layer n = g.layer n := by
  have hd := (reading_reloaded hg hnamed).sound.linked.distinct
  induction n with
  | zero => exact assemblyKeys_reloaded hg
  | succ n ih =>
    rw [layer, layer, ih]
    refine List.flatMap_congr ?_
    intro k hk
    obtain ⟨e, he, -⟩ := exists_of_mem_layer hg.linked hk
    rw [childrenAt_of_mem hg.linked.distinct he,
      childrenAt_of_mem hd ((mem_reloaded hg).2 ⟨e, he, rfl⟩), Entity.childIds_restored]

/-- The restored entity has the same record, if the id of its parent compares as equal to itself. -/
lemma record_restored {parts : List Value}
    (h : ∀ pk, e.holder? = some pk → e.kind = .member → pk.isUndefined = false)
    (hset : e.kind = .member → e.holder?.isSome) :
    record e.restored parts = record e parts := by
  have hgiven : ∀ v, given (given v) = given v := by
    intro v
    by_cases hv : v.holds = true
    · simp [given, hv]
    · simp [given, hv, Value.holds, Scalar.holds]
  have hown : ownFields e.restored parts = ownFields e parts := by
    cases hd : e.detail with
    | assembly | «namespace» | type => simp only [ownFields, Entity.restored, hd]
    | parameter typeName => simp only [ownFields, Entity.restored, hd, hgiven]
    | member kind declaring isExtension extended =>
      have hkind : e.kind = .member := by rw [Entity.kind, hd]; rfl
      obtain ⟨pk, hpk⟩ := Option.isSome_iff_exists.1 (hset hkind)
      have hself : e.parent.equals e.parent = true := by
        rw [(Entity.holder?_eq_some.1 hpk).2.1]
        simp [Value.equals_scalar, h pk hpk hkind, Scalar.same_self]
      have hforeign : foreignType e.parent
          (if declaring.holds && !declaring.equals e.parent then declaring else e.parent) =
          foreignType e.parent declaring := by
        by_cases hd : (declaring.holds && !declaring.equals e.parent) = true
        · rw [if_pos hd]
        · rw [if_neg hd, foreignType, foreignType, if_neg hd, if_neg (by simp [hself])]
      simp only [ownFields, Entity.restored, hd, hgiven, hforeign]
  rw [record, record, hown]
  rfl

/-- Writing the graph once more gives the same records. -/
theorem dump_reloaded (hg : g.Sound) (hnamed : g.HasTypeNames)
    (hdefined : ∀ {k e}, (k, e) ∈ g.entries → e.kind = .type → k.isUndefined = false) :
    g.reloaded.dump = g.dump := by
  have hsound := (reading_reloaded hg hnamed).sound
  have hrecord : ∀ n k, k ∈ g.keys → g.reloaded.written n k = g.written n k := by
    intro n
    induction n with
    | zero => exact fun _ _ => rfl
    | succ n ih =>
      intro k hk
      obtain ⟨e, he⟩ := mem_keys.1 hk
      have he' : (k, e.restored) ∈ g.reloaded.entries := (mem_reloaded hg).2 ⟨e, he, rfl⟩
      have hchildren : e.childIds.map (g.reloaded.written n) = e.childIds.map (g.written n) :=
        List.map_congr_left fun j hj => ih j (hg.linked.mem_keys_of_listed he hj)
      rw [written_succ hsound.linked.distinct he', written_succ hg.linked.distinct he,
        Entity.childIds_restored, hchildren, record_restored]
      · intro pk hholder hkind
        obtain ⟨p, hp, -, hpkind⟩ := hg.linked.exists_parent he hholder
        rw [hkind] at hpkind
        exact hdefined hp (Option.some.inj hpkind).symm
      · intro hkind
        obtain ⟨pk, p, -, hholder, -⟩ := hg.linked.parent he (hg.rooted he (by simp [hkind]))
        rw [hholder]
        rfl
  rw [dump_eq hsound, dump_eq hg, assemblyKeys_reloaded hg]
  have hall : g.assemblyKeys.map (g.reloaded.written 5) = g.assemblyKeys.map (g.written 5) := by
    refine List.map_congr_left ?_
    intro k hk
    obtain ⟨e, he, -⟩ := mem_assemblyKeys.1 hk
    exact hrecord 5 k (mem_keys_of_mem he)
  rw [hall]

end Graph

end LinkedDocs
