import LinkedDocs.Proofs.Forests
import LinkedDocs.Proofs.RoundTrip
import LinkedDocs.Proofs.Sites

/-!
# Which graph files are accepted

A record and the records below it are read as a tree of entities that follows what has been read
before. Main statement: a graph file is accepted if and only if all of its records are valid and
their ids are distinct; the graph then has the entities in the order of the file.
-/

namespace LinkedDocs.Graph

variable {p : Place} {s : Site} {e : Entity} {acc acc' acc₁ : Graph} {path : List Scalar}
  {data : Value} {items : List Value} {roots roots' all all' : List Site} {n d : Nat}

/-- The key of the entity that a record describes. -/
def Site.key (s : Site) : Scalar :=
  .text s.id

/-! ### Adding one entity -/

/-- The entity that holds those at a place is the last of the path. -/
structure Place.At (p : Place) (path : List Scalar) : Prop where
  length : path.length = p.kind.depth
  owner : ∀ {pk}, path.getLast? = some pk → pk = .text p.owner

namespace Place.At

lemma last (hat : p.At path) (hkind : p.kind ≠ .assembly) :
    path.getLast? = some (.text p.owner) := by
  cases hpk : path.getLast? with
  | none =>
    rw [List.getLast?_eq_none_iff] at hpk
    have hdepth : p.kind.depth = 0 := by rw [← hat.length, hpk, List.length_nil]
    exact absurd (EntityKind.eq_of_depth hdepth) hkind
  | some pk => rw [hat.owner hpk]

lemma path_eq_nil (hat : p.At path) (hkind : p.kind = .assembly) : path = [] := by
  rw [← List.length_eq_zero_iff, hat.length, hkind]
  rfl

lemma getLast?_eq (hat : s.At path) (hmakes : s.Makes e) : path.getLast? = e.holder? := by
  by_cases hkind : s.kind = .assembly
  · rw [hat.path_eq_nil hkind, Entity.holder?, hmakes.kind, hkind]
    rfl
  · have hparent : e.parent = .text s.owner := by
      rw [hmakes.parent, Place.parent]
      cases hk : s.kind <;> first | rfl | exact absurd hk hkind
    rw [hat.last hkind, eq_comm, Entity.holder?_eq_some]
    refine ⟨?_, hparent, by simp⟩
    rw [hmakes.kind]
    cases hk : s.kind <;> first | rfl | exact absurd hk hkind

lemma fits (hat : s.At path) (hmakes : s.Makes e) : Reading.Fits path e where
  depth := by rw [hmakes.kind, hat.length]
  parent := by
    intro pk hpk
    rw [hat.getLast?_eq hmakes] at hpk
    exact (Entity.holder?_eq_some.1 hpk).2.1
  root := by
    intro hpath
    have hdepth : s.kind.depth = 0 := by rw [← hat.length, hpath, List.length_nil]
    have hkind : s.kind = .assembly := EntityKind.eq_of_depth hdepth
    rw [hmakes.parent, Place.parent, hkind]

lemma inside (hat : s.At path) (hitems : s.items ≠ []) : s.inside.At (path ++ [s.key]) where
  length := by
    rw [List.length_append, hat.length, Site.inside]
    cases hkind : s.kind with
    | parameter => simp [Site.items, hkind, EntityKind.partsKey?] at hitems
    | assembly | «namespace» | type | member => rfl
  owner := by
    intro pk hpk
    rw [List.getLast?_concat, Option.some.injEq] at hpk
    rw [← hpk, Site.key, Site.inside]
    cases s.kind <;> rfl

end Place.At

/-- Reading a record keeps a graph as it is to be while records are read. -/
lemma Reading.load (h : Reading path acc) (hat : p.At path)
    (hload : p.load acc data = .ok acc') : Reading path acc' := by
  have hlength := hat.length
  unfold Place.load at hload
  cases hkind : p.kind with
  | assembly =>
    rw [hkind] at hload
    obtain rfl := hat.path_eq_nil hkind
    exact h.loadAssembly hload
  | «namespace» =>
    rw [hkind] at hload hlength
    exact h.loadNamespace hlength (hat.last (by rw [hkind]; decide)) hload
  | type =>
    rw [hkind] at hload hlength
    exact h.loadType hlength (hat.last (by rw [hkind]; decide)) hload
  | member =>
    rw [hkind] at hload hlength
    exact h.loadMember hlength (hat.last (by rw [hkind]; decide)) hload
  | parameter =>
    rw [hkind] at hload hlength
    exact h.loadParameter hlength (hat.last (by rw [hkind]; decide)) hload

/-- An entity that is read can be added if and only if its id is new. -/
lemma with?_eq_ok_iff (hread : Reading path acc) (hat : s.At path) (hmakes : s.Makes e) :
    acc.with? e = .ok acc' ↔ s.key ∉ acc.keys ∧ acc' = acc.attach s.key e := by
  have hattach (hnew : s.key ∉ acc.keys) : acc.with? e = .ok (acc.attach s.key e) := by
    have hfree : acc.contains s.key = false := by
      rw [contains_eq_false]
      intro j hj
      rw [Bool.eq_false_iff, Ne, Site.key, Scalar.same_text]
      rintro rfl
      exact hnew hj
    rw [with?, add_eq_attach (hread.sound.linked.linked fun _ => True) hmakes.id hfree
      ((hat.fits hmakes).admits hread)]
    rfl
  constructor
  · intro h
    have hnew : s.key ∉ acc.keys := by
      intro hmem
      simp [with?, add, admission, hmakes.id, Value.identifier, bind, Except.bind,
        contains_of_mem (show Scalar.text s.id ∈ acc.keys from hmem)] at h
    rw [hattach hnew] at h
    exact ⟨hnew, (Except.ok.inj h).symm⟩
  · rintro ⟨hnew, rfl⟩
    exact hattach hnew

lemma Reading.attach (hread : Reading path acc) (hat : s.At path) (hmakes : s.Makes e)
    (hnew : s.key ∉ acc.keys) : Reading (path ++ [s.key]) (acc.attach s.key e) := by
  have hholds : e.id.holds = true := by
    rw [hmakes.id]
    simpa [Value.holds, Scalar.holds] using s.id_ne_nil
  obtain ⟨k, hk, hnext⟩ := hread.add ((with?_eq_ok_iff hread hat hmakes).2 ⟨hnew, rfl⟩)
    (hat.fits hmakes) hholds hmakes.children hmakes.readable hmakes.named
  obtain rfl : s.key = k := Value.scalar.inj (hmakes.id.symm.trans hk)
  exact hnext

/-! ### Trees of entities -/

/-- The graph has grown by the entities that the records in `all` describe, as trees with the
roots. -/
def Planted (path : List Scalar) (d : Nat) (roots all : List Site) (acc acc' : Graph) : Prop :=
  ∃ block, Forest d (roots.map Site.key) block ∧ block.map (·.1) = all.map Site.key ∧
    acc' = acc.graft path.getLast? (roots.map Site.key) block

namespace Planted

lemma keys (h : Planted path d roots all acc acc') :
    acc'.keys = acc.keys ++ all.map Site.key := by
  obtain ⟨block, -, hblock, rfl⟩ := h
  rw [keys_graft, hblock]

lemma nil (h : acc.WellLinked) : Planted path d [] [] acc acc :=
  ⟨[], .nil, rfl, (graft_nil h).symm⟩

lemma append (h : Planted path d roots all acc acc₁) (h' : Planted path d roots' all' acc₁ acc')
    (hread : Reading path acc) (hread₁ : Reading path acc₁) :
    Planted path d (roots ++ roots') (all ++ all') acc acc' := by
  have hnodup := hread₁.sound.linked.distinct.nodup
  obtain ⟨block, hforest, hblock, rfl⟩ := h
  obtain ⟨block', hforest', hblock', rfl⟩ := h'
  refine ⟨block ++ block', ?_, ?_, ?_⟩
  · rw [List.map_append]
    exact hforest.append hforest'
  · rw [List.map_append, List.map_append, hblock, hblock']
  · rw [List.map_append, graft_graft]
    intro y hy heq
    rw [keys_graft, List.nodup_append'] at hnodup
    exact hnodup.2.2 (hread.mem_keys heq) (List.mem_map_of_mem hy)

lemma root (hat : s.At path) (hmakes : s.Makes e) (hnew : s.key ∉ acc.keys)
    (h : Planted (path ++ [s.key]) (s.kind.depth + 1) roots all (acc.attach s.key e) acc') :
    Planted path s.kind.depth [s] (s :: all) acc acc' := by
  obtain ⟨block, hforest, hblock, rfl⟩ := h
  refine ⟨(s.key, e.withChildren (roots.map Site.key)) :: block, ?_, ?_, ?_⟩
  · rw [← List.append_nil (_ :: block)]
    refine .cons ?_ ?_ .nil
    · rw [← hmakes.kind]
      rfl
    · rwa [Entity.childIds_withChildren]
  · rw [List.map_cons, List.map_cons, hblock]
  · have hchildren : e.childIds = [] := by simp [Entity.childIds, hmakes.children]
    rw [List.getLast?_concat, attach_graft hnew, hchildren, List.nil_append,
      hat.getLast?_eq hmakes]
    rfl

end Planted

/-! ### Reading trees -/

/-- What a record must be for it to be read. -/
def Site.Readable (s : Site) : Prop :=
  s.Valid ∧ s.Showable

lemma mem_sites : s ∈ p.sites items ↔ s.toPlace = p ∧ ∃ v ∈ items, v.fields? = some s.fields := by
  simp only [Place.sites, List.mem_map, List.mem_filterMap]
  constructor
  · rintro ⟨fields, ⟨v, hv, hfields⟩, rfl⟩
    exact ⟨rfl, v, hv, hfields⟩
  · rintro ⟨rfl, v, hv, hfields⟩
    exact ⟨s.fields, ⟨v, hv, hfields⟩, rfl⟩

lemma sites_cons {fields : List (Scalar × Value)} (h : data.fields? = some fields) :
    p.sites (data :: items) = ⟨p, fields⟩ :: p.sites items := by
  rw [Place.sites, List.filterMap_cons_some h]
  rfl

/-- Records that are read one after another are read as trees, if each of them is. -/
lemma Place.planted_of_foldlM (hat : items ≠ [] → p.At path)
    (hitems : ∀ v ∈ items, v.fields?.isSome = true)
    (hone : ∀ s ∈ p.sites items, ∀ {acc data acc'}, data.fields? = some s.fields →
      Reading path acc → s.load acc data = .ok acc' →
      (∀ t ∈ s.below n, t.Readable) ∧ Planted path d [s] (s.below n) acc acc')
    (hread : Reading path acc) (h : items.foldlM p.load acc = .ok acc') :
    (∀ t ∈ (p.sites items).flatMap (Site.below n), t.Readable) ∧
      Planted path d (p.sites items) ((p.sites items).flatMap (Site.below n)) acc acc' := by
  induction items generalizing acc with
  | nil =>
    obtain rfl : acc = acc' := by simpa [pure, Except.pure] using h
    exact ⟨by simp [Place.sites], .nil hread.sound.linked⟩
  | cons data items ih =>
    obtain ⟨fields, hfields⟩ := Option.isSome_iff_exists.1 (hitems data (by simp))
    rw [List.foldlM_cons] at h
    obtain ⟨acc₁, hfirst, h⟩ := bind_eq_ok.1 h
    rw [sites_cons hfields] at hone ⊢
    have hat := hat (by simp)
    have hread₁ := hread.load hat hfirst
    obtain ⟨hvalid, hplanted⟩ := hone ⟨p, fields⟩ (by simp) hfields hread hfirst
    obtain ⟨hvalid', hplanted'⟩ := ih (fun _ => hat) (fun v hv => hitems v (by simp [hv]))
      (fun s hs => hone s (by simp [hs])) hread₁ h
    rw [List.flatMap_cons]
    refine ⟨?_, hplanted.append hplanted' hread hread₁⟩
    intro t ht
    rcases List.mem_append.1 ht with ht | ht
    · exact hvalid t ht
    · exact hvalid' t ht

/-- Where the records below a record stand. -/
lemma Place.At.of_mem {t : Site} (hat : s.At path) (ht : t ∈ s.inside.sites s.items) :
    t.At (path ++ [s.key]) ∧ t.kind.depth = s.kind.depth + 1 ∧ t.kind.height + 1 = s.kind.height := by
  obtain ⟨hplace, v, hv, -⟩ := mem_sites.1 ht
  have hinside := hat.inside (List.ne_nil_of_mem hv)
  rw [← hplace] at hinside
  have hdepth : t.kind.depth = s.kind.depth + 1 := by
    rw [← hinside.length, List.length_append, hat.length]
    rfl
  refine ⟨hinside, hdepth, ?_⟩
  revert hdepth
  cases t.kind <;> cases s.kind <;> decide

lemma isSome_of_mem_items (hshaped : s.Shaped) : ∀ v ∈ s.items, v.fields?.isSome = true := by
  cases hkey : s.kind.partsKey? with
  | none => simp [Site.items, hkey]
  | some key => exact (Site.itemsUnder_eq hshaped hkey).2

/-- A record that can be read is valid, as are those below it, and they are read as a tree. -/
theorem Site.planted_of_load (hn : s.kind.height < n) (hshaped : ∀ t ∈ s.below n, t.Shaped)
    (hdata : data.fields? = some s.fields) (hread : Reading path acc) (hat : s.At path)
    (h : s.load acc data = .ok acc') :
    (∀ t ∈ s.below n, t.Readable) ∧ Planted path s.kind.depth [s] (s.below n) acc acc' := by
  induction n generalizing s path acc acc' data with
  | zero => omega
  | succ n ih =>
    rw [Site.below] at hshaped ⊢
    have hself := hshaped s (by simp)
    have hvalid := valid_of_load hdata hself h
    obtain ⟨e, hmakes, hload⟩ := exists_readAs hdata hself hvalid.1 hvalid.2
    rw [hload] at h
    obtain ⟨acc₁, hwith, h⟩ := bind_eq_ok.1 h
    obtain ⟨hnew, rfl⟩ := (with?_eq_ok_iff hread hat hmakes).1 hwith
    -- The entity stands before what it holds, so its tree is a block of the entries.
    obtain ⟨hbelow, hplanted⟩ := Place.planted_of_foldlM (d := s.kind.depth + 1) hat.inside
      (isSome_of_mem_items hself) (by
        intro t ht acc data acc' hdata hread hload
        obtain ⟨hat', hdepth, hheight⟩ := hat.of_mem ht
        rw [← hdepth]
        refine ih (by omega) ?_ hdata hread hat' hload
        intro u hu
        exact hshaped u (List.mem_cons_of_mem _ (List.mem_flatMap.2 ⟨t, ht, hu⟩)))
      (hread.attach hat hmakes hnew) h
    refine ⟨?_, hplanted.root hat hmakes hnew⟩
    intro t ht
    rcases List.mem_cons.1 ht with rfl | ht
    · exact hvalid
    · exact hbelow t ht

/-- Records with new ids can be read one after another, if each of them can. -/
lemma Place.exists_foldlM (hat : items ≠ [] → p.At path)
    (hitems : ∀ v ∈ items, v.fields?.isSome = true)
    (hone : ∀ s ∈ p.sites items, ∀ {acc data}, data.fields? = some s.fields → Reading path acc →
      ((s.below n).map Site.key).Nodup → (∀ k ∈ (s.below n).map Site.key, k ∉ acc.keys) →
      ∃ acc', s.load acc data = .ok acc' ∧ acc'.keys = acc.keys ++ (s.below n).map Site.key)
    (hread : Reading path acc)
    (hnodup : (((p.sites items).flatMap (Site.below n)).map Site.key).Nodup)
    (hfresh : ∀ k ∈ ((p.sites items).flatMap (Site.below n)).map Site.key, k ∉ acc.keys) :
    ∃ acc', items.foldlM p.load acc = .ok acc' := by
  induction items generalizing acc with
  | nil => exact ⟨acc, rfl⟩
  | cons data items ih =>
    obtain ⟨fields, hfields⟩ := Option.isSome_iff_exists.1 (hitems data (by simp))
    rw [sites_cons hfields] at hone hnodup hfresh
    rw [List.flatMap_cons, List.map_append] at hnodup hfresh
    rw [List.nodup_append'] at hnodup
    obtain ⟨hfirst, hrest, hdisjoint⟩ := hnodup
    have hat := hat (by simp)
    obtain ⟨acc₁, hload, hkeys⟩ := hone ⟨p, fields⟩ (by simp) hfields hread hfirst
      (fun k hk => hfresh k (List.mem_append_left _ hk))
    obtain ⟨acc', h⟩ := ih (fun _ => hat) (fun v hv => hitems v (by simp [hv]))
      (fun s hs => hone s (by simp [hs])) (hread.load hat hload) hrest (by
        intro k hk hmem
        rw [hkeys] at hmem
        rcases List.mem_append.1 hmem with hmem | hmem
        · exact hfresh k (List.mem_append_right _ hk) hmem
        · exact hdisjoint hmem hk)
    exact ⟨acc', by rw [List.foldlM_cons]; exact bind_eq_ok.2 ⟨acc₁, hload, h⟩⟩

/-- A valid record with new ids can be read. -/
theorem Site.exists_load (hn : s.kind.height < n) (hshaped : ∀ t ∈ s.below n, t.Shaped)
    (hvalid : ∀ t ∈ s.below n, t.Readable) (hdata : data.fields? = some s.fields)
    (hread : Reading path acc) (hat : s.At path) (hnodup : ((s.below n).map Site.key).Nodup)
    (hfresh : ∀ k ∈ (s.below n).map Site.key, k ∉ acc.keys) :
    ∃ acc', s.load acc data = .ok acc' ∧ acc'.keys = acc.keys ++ (s.below n).map Site.key := by
  induction n generalizing s path acc data with
  | zero => omega
  | succ n ih =>
    have hself := hshaped s (by simp [Site.below])
    obtain ⟨hsvalid, hsshow⟩ := hvalid s (by simp [Site.below])
    obtain ⟨e, hmakes, hload⟩ := exists_readAs hdata hself hsvalid hsshow
    obtain ⟨acc', h⟩ : ∃ acc', s.load acc data = .ok acc' := by
      rw [Site.below, List.map_cons] at hnodup hfresh
      obtain ⟨hroot, hrest⟩ := List.nodup_cons.1 hnodup
      have hnew := hfresh s.key (by simp)
      obtain ⟨acc', h⟩ := Place.exists_foldlM hat.inside (isSome_of_mem_items hself) (by
          intro t ht acc data hdata hread hnodup hfresh
          obtain ⟨hat', hdepth, hheight⟩ := hat.of_mem ht
          have hbelow (u : Site) (hu : u ∈ t.below n) : u ∈ s.below (n + 1) :=
            List.mem_cons_of_mem _ (List.mem_flatMap.2 ⟨t, ht, hu⟩)
          exact ih (by omega) (fun u hu => hshaped u (hbelow u hu))
            (fun u hu => hvalid u (hbelow u hu)) hdata hread hat' hnodup hfresh)
        (hread.attach hat hmakes hnew) hrest (by
          intro k hk hmem
          rw [keys_attach] at hmem
          rcases List.mem_append.1 hmem with hmem | hmem
          · exact hfresh k (List.mem_cons_of_mem _ hk) hmem
          · rw [List.mem_singleton.1 hmem] at hk
            exact hroot hk)
      refine ⟨acc', ?_⟩
      rw [hload]
      exact bind_eq_ok.2 ⟨_, (with?_eq_ok_iff hread hat hmakes).2 ⟨hnew, rfl⟩, h⟩
    -- Which keys are new follows from the record having been read.
    exact ⟨acc', h, (Site.planted_of_load hn hshaped hdata hread hat h).2.keys⟩

/-! ### The whole file -/

/-- The shape of a graph file. -/
structure Documented (data : Value) (file : List (Scalar × Value)) : Prop where
  fields : data.fields? = some file
  assemblies : (Value.get file "assemblies".toList).isListOf (·.fields?.isSome) = true
  shaped : ∀ s ∈ sites file, s.Shaped

/-- Where the assemblies stand. -/
def top : Place :=
  { kind := .assembly }

lemma at_top : top.At [] :=
  ⟨rfl, by simp⟩

section

variable {file : List (Scalar × Value)} {g : Graph}

lemma read_eq (h : Documented data file) :
    read data = (Value.get file "assemblies".toList).listed.foldlM top.load empty := by
  simp only [read, entries_of_fields? h.fields, (itemsUnder_of_isListOf h.assemblies).1, bind,
    Except.bind]
  rfl

lemma top_of_mem (hs : s ∈ top.sites (Value.get file "assemblies".toList).listed) :
    s.toPlace = top ∧ s.kind.height < 5 ∧ ∀ t ∈ s.below 5, t ∈ sites file := by
  have hplace := (mem_sites.1 hs).1
  refine ⟨hplace, ?_, fun t ht => List.mem_flatMap.2 ⟨s, hs, ht⟩⟩
  rw [hplace]
  decide

/-- A file that can be read has valid records, and their entities are a forest. -/
lemma planted_of_read (h : Documented data file) (hg : read data = .ok g) :
    (∀ s ∈ sites file, s.Readable) ∧
      ∃ roots, Planted [] 0 roots (sites file) empty g := by
  rw [read_eq h] at hg
  obtain ⟨hvalid, hplanted⟩ := Place.planted_of_foldlM (d := 0) (fun _ => at_top)
    (itemsUnder_of_isListOf h.assemblies).2 (by
      intro s hs acc data acc' hdata hread hload
      obtain ⟨hplace, hheight, hbelow⟩ := top_of_mem hs
      have hdepth : s.kind.depth = 0 := by rw [hplace]; rfl
      rw [← hdepth]
      exact Site.planted_of_load hheight (fun t ht => h.shaped t (hbelow t ht)) hdata hread
        (hplace ▸ at_top) hload)
    reading_empty hg
  exact ⟨hvalid, _, hplanted⟩

/-- A file of valid records with distinct ids can be read. -/
lemma exists_read (h : Documented data file) (hvalid : ∀ s ∈ sites file, s.Readable)
    (hnodup : ((sites file).map Site.key).Nodup) : ∃ g, read data = .ok g := by
  rw [read_eq h]
  refine Place.exists_foldlM (fun _ => at_top) (itemsUnder_of_isListOf h.assemblies).2 ?_
    reading_empty hnodup (by simp [empty, keys])
  intro s hs acc data hdata hread hdistinct hfresh
  obtain ⟨hplace, hheight, hbelow⟩ := top_of_mem hs
  exact Site.exists_load hheight (fun t ht => h.shaped t (hbelow t ht))
    (fun t ht => hvalid t (hbelow t ht)) hdata hread (hplace ▸ at_top) hdistinct hfresh

lemma ofValue_eq_ok : ofValue data = .ok g ↔ read data = .ok g := by
  unfold ofValue
  split <;> simp_all

lemma label_of_ofValue {fault : Fault} (h : ofValue data = .error fault) :
    fault.label = "GraphLoadError".toList := by
  unfold ofValue at h
  split at h
  · cases h
  · rw [← Except.error.inj h]
    rfl

lemma nodup_keys_iff {ss : List Site} : (ss.map Site.key).Nodup ↔ (ss.map Site.id).Nodup := by
  have hkeys : ss.map Site.key = (ss.map Site.id).map Scalar.text := by
    rw [List.map_map]
    rfl
  rw [hkeys]
  exact List.nodup_map_iff fun _ _ => Scalar.text.inj

/-- A graph file is accepted if and only if each of its records is valid, what is to be text in it
can be shown, and the ids are distinct. The graph then has the entities in the order in which the
file has them, and is walked over in that order. -/
theorem ofValue_accepts (h : Documented data file) :
    ((∃ g, ofValue data = .ok g) ↔
      (∀ s ∈ sites file, s.Valid ∧ s.Showable) ∧ ((sites file).map Site.id).Nodup) ∧
    (∀ g, ofValue data = .ok g →
      g.keys = (sites file).map (fun s => .text s.id) ∧ g.walk = .ok g.entities) ∧
    ∀ fault, ofValue data = .error fault → fault.label = "GraphLoadError".toList := by
  refine ⟨⟨?_, ?_⟩, ?_, fun fault => label_of_ofValue⟩
  · rintro ⟨g, hg⟩
    obtain ⟨hvalid, roots, hplanted⟩ := planted_of_read h (ofValue_eq_ok.1 hg)
    refine ⟨hvalid, nodup_keys_iff.1 ?_⟩
    have hnodup := (reading_of_ofValue hg).sound.linked.distinct.nodup
    rwa [hplanted.keys] at hnodup
  · rintro ⟨hvalid, hnodup⟩
    obtain ⟨g, hg⟩ := exists_read h hvalid (nodup_keys_iff.2 hnodup)
    exact ⟨g, ofValue_eq_ok.2 hg⟩
  · intro g hg
    obtain ⟨-, roots, hplanted⟩ := planted_of_read h (ofValue_eq_ok.1 hg)
    refine ⟨hplanted.keys, ?_⟩
    obtain ⟨block, hforest, -, rfl⟩ := hplanted
    exact hforest.walk (reading_of_ofValue hg).sound.linked

end

/-- A file with ids that are given and ids that are made up, at every depth. -/
def sampleFile : List (Scalar × Value) :=
  let parameter := .map [field "name".toList (.text "list".toList)]
  let member := .map [field "name".toList (.text "Shuffle".toList),
    field "kind".toList (.text "Property".toList), field "parameters".toList (.list [parameter])]
  let extensions := .map [field "name".toList (.text "Extensions".toList),
    field "members".toList (.list [member]), field "references".toList
      (.list [.text "T:List".toList, .map [field "state".toList (.text "Unresolved".toList)]])]
  let widget := .map [field "name".toList (.text "Widget".toList),
    field "id".toList (.text "widget".toList), field "members".toList .null]
  let space := .map [field "name".toList (.int 7),
    field "types".toList (.list [extensions, widget])]
  [field "assemblies".toList (.list [
    .map [field "name".toList (.text "Acme".toList), field "namespaces".toList (.list [space])],
    .map [field "name".toList (.text "Tools".toList), field "id".toList (.text [])]])]

theorem ofValue_sampleFile : Documented (.map sampleFile) sampleFile ∧
    ∃ g, ofValue (.map sampleFile) = .ok g ∧
      g.keys = [ "A:Acme", "N:7", "T:7.Extensions", "P:7.Extensions.Shuffle",
        "P:7.Extensions.Shuffle/list", "widget", "A:Tools"].map (.text ·.toList) ∧
      g.walk = .ok g.entities := by
  have hfile : Documented (.map sampleFile) sampleFile :=
    ⟨rfl, by decide +kernel, by decide +kernel⟩
  obtain ⟨haccepts, hgraph, -⟩ := ofValue_accepts hfile
  obtain ⟨g, hg⟩ := haccepts.2 (by decide +kernel)
  obtain ⟨hkeys, hwalk⟩ := hgraph g hg
  refine ⟨hfile, g, hg, ?_, hwalk⟩
  rw [hkeys]
  decide +kernel

/-- A file with the least number that cannot be shown for the name of a namespace. -/
def longName : List (Scalar × Value) :=
  let space := .map [field "id".toList (.text "space".toList),
    field "name".toList (.int (.ofNat (10 ^ Scalar.maxShownDigits)))]
  [field "assemblies".toList (.list [
    .map [field "name".toList (.text "Acme".toList), field "namespaces".toList (.list [space])]])]

/-- A file can be valid, with distinct ids, and yet not be accepted. -/
theorem ofValue_longName : Documented (.map longName) longName ∧
    (∀ s ∈ sites longName, s.Valid) ∧ ((sites longName).map Site.id).Nodup ∧
    ¬∃ g, ofValue (.map longName) = .ok g := by
  have hfile : Documented (.map longName) longName :=
    ⟨rfl, by decide +kernel, by decide +kernel⟩
  refine ⟨hfile, by decide +kernel, by decide +kernel, ?_⟩
  rintro ⟨g, hg⟩
  have hvalid := (planted_of_read hfile (ofValue_eq_ok.1 hg)).1
  have hshow : ¬∀ s ∈ sites longName, s.Showable := by decide +kernel
  exact hshow fun s hs => (hvalid s hs).2

end LinkedDocs.Graph
