import LinkedDocs.Graph.Load
import LinkedDocs.Proofs.Removal
import LinkedDocs.Proofs.Results

/-!
# Graphs that have been read

Reading adds one entity after another, each to a parent that has been read before it. So every graph
that can be read is well linked, and its entities have the fields that a reader gives them: `Sound`
states this. Moreover the entities of a kind stand in the order in which they are listed by their
parents: `Ordered` states that.
-/

namespace LinkedDocs

/-! ### Entities -/

/-- Whether a detail is one that can be read. -/
def Detail.Readable : Detail → Prop
  | .assembly | .namespace | .parameter _ => True
  | .type fullName (.proper _) (.scalar (.bool _)) => fullName.holds = true
  | .member (.proper _) _ (.scalar (.bool _)) _ => True
  | _ => False

/-- Whether an entity is one that can be read: it has a name, which may be empty in a namespace and
in a placeholder, and fields of the right types. -/
structure Entity.Readable (e : Entity) : Prop where
  name : ∃ t, e.name = .text t ∧ (t = [] → e.kind = .namespace ∨ e.kind = .type)
  references : ∃ rs, e.references = .proper rs ∧ ∀ r ∈ rs, ∃ t, r.raw = .text t
  exceptions : ∃ ts, e.exceptions = .proper ts ∧ ∀ x ∈ ts, ∃ t, x.type = .text t
  detail : e.detail.Readable
  further : e.further = []

lemma Entity.Readable.withChildren {e : Entity} (h : e.Readable) (ids : List Scalar) :
    (e.withChildren ids).Readable :=
  ⟨h.name, h.references, h.exceptions, h.detail, h.further⟩

lemma Entity.completed_member {e : Entity} {kind : Loose MemberKind}
    {declaring isExtension extended : Value}
    (h : e.detail = .member kind declaring isExtension extended) :
    e.completed = { e with
      detail := .member kind (if declaring.isNull then e.parent else declaring) isExtension
        extended } := by
  simp only [completed, h]
  split
  · rfl
  · rw [← h]

namespace Graph

variable {g g' : Graph} {k j : Scalar} {e x : Entity}

/-- A well linked graph of readable entities in which all but the assemblies have a parent. -/
structure Sound (g : Graph) : Prop where
  linked : g.WellLinked
  holds : ∀ {k e}, (k, e) ∈ g.entries → k.holds = true
  rooted : ∀ {k e}, (k, e) ∈ g.entries → e.kind ≠ .assembly → e.HasParent
  root : ∀ {k e}, (k, e) ∈ g.entries → e.kind = .assembly → e.parent = .null
  readable : ∀ {k e}, (k, e) ∈ g.entries → e.Readable

/-- Whether every type has a name that is not empty. -/
def HasTypeNames (g : Graph) : Prop :=
  ∀ y ∈ g.entries, y.2.kind = .type → y.2.name.holds = true

instance (g : Graph) : Decidable (HasTypeNames g) :=
  inferInstanceAs (Decidable (∀ y ∈ g.entries, y.2.kind = .type → y.2.name.holds = true))

lemma HasTypeNames.attach (h : g.HasTypeNames) (he : e.kind = .type → e.name.holds = true) :
    (g.attach k e).HasTypeNames := by
  rintro ⟨j, x⟩ hx hkind
  rcases mem_attach.1 hx with ⟨y, hy, rfl⟩ | ⟨rfl, rfl⟩
  · revert hkind
    split
    · exact h (j, y) hy
    · exact h (j, y) hy
  · exact he hkind

lemma sound_empty : empty.Sound where
  linked := wellLinked_empty
  holds := by simp [empty]
  rooted := by simp [empty]
  root := by simp [empty]
  readable := by simp [empty]

lemma Sound.contains_null (h : g.Sound) : g.contains .null = false := by
  rw [contains_eq_false]
  intro k hk
  obtain ⟨e, he⟩ := mem_keys.1 hk
  by_contra hsame
  rw [Bool.not_eq_false, Scalar.same_null] at hsame
  subst hsame
  cases h.holds he

lemma Sound.attach (h : g.Sound) (hid : e.id = .scalar k) (hfree : g.contains k = false)
    (hchildren : e.children = .list []) (hadmits : g.Admits e) (hholds : k.holds = true)
    (hrooted : e.kind ≠ .assembly → e.HasParent) (hroot : e.kind = .assembly → e.parent = .null)
    (hreadable : e.Readable) : (g.attach k e).Sound := by
  constructor
  · exact h.linked.attach hid hfree hchildren hadmits
  · intro j x hx
    rcases mem_attach.1 hx with ⟨y, hy, -⟩ | ⟨rfl, -⟩
    · exact h.holds hy
    · exact hholds
  · intro j x hx hkind
    rcases mem_attach.1 hx with ⟨y, hy, rfl⟩ | ⟨rfl, rfl⟩
    · revert hkind
      split
      · intro hkind
        show y.HasParent
        exact h.rooted hy hkind
      · exact h.rooted hy
    · exact hrooted hkind
  · intro j x hx hkind
    rcases mem_attach.1 hx with ⟨y, hy, rfl⟩ | ⟨rfl, rfl⟩
    · revert hkind
      split
      · intro hkind
        show y.parent = .null
        exact h.root hy hkind
      · exact h.root hy
    · exact hroot hkind
  · intro j x hx
    rcases mem_attach.1 hx with ⟨y, hy, rfl⟩ | ⟨rfl, rfl⟩
    · split
      · exact (h.readable hy).withChildren _
      · exact h.readable hy
    · exact hreadable

/-! ### Layers -/

end Graph

/-- How many levels of entities are above the kind. -/
def EntityKind.depth : EntityKind → Nat
  | .assembly => 0
  | .namespace => 1
  | .type => 2
  | .member => 3
  | .parameter => 4

lemma EntityKind.depth_parentKind {kind wanted : EntityKind} (h : kind.parentKind? = some wanted) :
    kind.depth = wanted.depth + 1 := by
  cases kind <;> cases h <;> rfl

lemma EntityKind.eq_of_depth {a b : EntityKind} (h : a.depth = b.depth) : a = b := by
  cases a <;> cases b <;> first | rfl | cases h

namespace Graph

variable {g g' : Graph} {k j : Scalar} {e x : Entity}

/-- The ids that the entity with a key lists. -/
def childrenAt (g : Graph) (k : Scalar) : List Scalar :=
  ((g.get? k).map Entity.childIds).getD []

/-- The entities at a depth, in the order in which they are listed. -/
def layer (g : Graph) : Nat → List Scalar
  | 0 => g.assemblyKeys
  | n + 1 => (layer g n).flatMap g.childrenAt

/-- The entities at a depth, in order of addition. -/
def keysAt (g : Graph) (n : Nat) : List Scalar :=
  (g.entries.filter (·.2.kind.depth = n)).map (·.1)

/-- At every depth the entities stand in the order in which they are listed. -/
def Ordered (g : Graph) : Prop :=
  ∀ n, g.layer n = g.keysAt n

lemma mem_keysAt {n : Nat} : k ∈ g.keysAt n ↔ ∃ e, (k, e) ∈ g.entries ∧ e.kind.depth = n := by
  simp [keysAt]

lemma keysAt_nodup (h : g.Distinct) (n : Nat) : (g.keysAt n).Nodup :=
  (List.filter_sublist.map _).nodup h.nodup

lemma childrenAt_of_mem (h : g.Distinct) (he : (k, e) ∈ g.entries) :
    g.childrenAt k = e.childIds := by
  simp [childrenAt, h.get?_eq he]

lemma layer_zero : g.layer 0 = g.keysAt 0 := by
  simp only [layer, assemblyKeys, keysAt]
  congr 1
  refine List.filter_congr ?_
  rintro ⟨j, x⟩ -
  cases hkind : x.kind <;> simp [EntityKind.depth]

lemma keysAt_attach (n : Nat) :
    (g.attach k e).keysAt n = g.keysAt n ++ if e.kind.depth = n then [k] else [] := by
  have hold : ((g.mapEntries fun j x => if e.holder? = some j then
      x.withChildren (x.childIds ++ [k]) else x).entries.filter (·.2.kind.depth = n)).map (·.1) =
      g.keysAt n := by
    simp only [mapEntries, List.filter_map, List.map_map, keysAt]
    congr 1
    refine List.filter_congr ?_
    rintro ⟨j, x⟩ -
    simp only [Function.comp_apply]
    split <;> rfl
  rw [keysAt, attach, push, List.filter_append, List.map_append, hold]
  congr 1
  by_cases hn : e.kind.depth = n <;> simp [hn]

lemma childrenAt_attach (h : g.Distinct) (hfree : g.contains k = false) (hj : j ∈ g.keys) :
    (g.attach k e).childrenAt j =
      if e.holder? = some j then g.childrenAt j ++ [k] else g.childrenAt j := by
  obtain ⟨x, hx⟩ := mem_keys.1 hj
  have hx' : (j, if e.holder? = some j then x.withChildren (x.childIds ++ [k]) else x) ∈
      (g.attach k e).entries := mem_attach.2 (.inl ⟨x, hx, rfl⟩)
  rw [childrenAt_of_mem (h.attach hfree) hx', childrenAt_of_mem h hx]
  split <;> simp

lemma childrenAt_attach_self (h : g.Distinct) (hfree : g.contains k = false)
    (hchildren : e.children = .list []) : (g.attach k e).childrenAt k = [] := by
  have hself : (k, e) ∈ (g.attach k e).entries := mem_attach.2 (.inr ⟨rfl, rfl⟩)
  rw [childrenAt_of_mem (h.attach hfree) hself]
  simp [Entity.childIds, hchildren]

/-- An entity whose parent is the last of its layer becomes the last of its own. -/
lemma layer_attach (h : g.WellLinked) (hordered : g.Ordered) (hfree : g.contains k = false)
    (hchildren : e.children = .list [])
    (hlast : ∀ d, e.kind.depth = d + 1 → ∃ pk, e.holder? = some pk ∧
      (g.layer d).getLast? = some pk) (n : Nat) :
    (g.attach k e).layer n = g.layer n ++ if e.kind.depth = n then [k] else [] := by
  induction n with
  | zero => rw [layer_zero, layer_zero, keysAt_attach]
  | succ n ih =>
    have hmem : ∀ {m}, ∀ j ∈ g.layer m, ∃ x, (j, x) ∈ g.entries ∧ x.kind.depth = m := by
      intro m j hj
      rw [hordered m] at hj
      exact mem_keysAt.1 hj
    have hkeys : ∀ {m}, ∀ j ∈ g.layer m, j ∈ g.keys := by
      intro m j hj
      obtain ⟨x, hx, -⟩ := hmem j hj
      exact mem_keys_of_mem hx
    rw [layer, ih, List.flatMap_append, layer]
    have hself : List.flatMap (g.attach k e).childrenAt (if e.kind.depth = n then [k] else []) =
        [] := by
      split
      · simp [childrenAt_attach_self h.distinct hfree hchildren]
      · rfl
    rw [hself, List.append_nil]
    by_cases hdepth : e.kind.depth = n + 1
    · rw [if_pos hdepth]
      obtain ⟨pk, hholder, hlast⟩ := hlast n hdepth
      obtain ⟨before, hbefore⟩ := List.getLast?_eq_some_iff.1 hlast
      have hnodup : (before ++ [pk]).Nodup := by
        rw [← hbefore, hordered n]
        exact keysAt_nodup h.distinct n
      have hpk : pk ∈ g.keys := hkeys (m := n) pk (by simp [hbefore])
      have hothers : before.flatMap (g.attach k e).childrenAt = before.flatMap g.childrenAt := by
        refine List.flatMap_congr ?_
        intro j hj
        rw [childrenAt_attach h.distinct hfree (hkeys (m := n) j (by simp [hbefore, hj])),
          if_neg]
        intro heq
        rw [hholder, Option.some.injEq] at heq
        subst heq
        exact (List.nodup_append.1 hnodup).2.2 pk hj pk (by simp) rfl
      rw [hbefore, List.flatMap_append, List.flatMap_append, hothers]
      simp [childrenAt_attach h.distinct hfree hpk, hholder]
    · rw [if_neg hdepth, List.append_nil]
      refine List.flatMap_congr ?_
      intro j hj
      rw [childrenAt_attach h.distinct hfree (hkeys j hj), if_neg]
      intro hholder
      -- The parent is in another layer.
      obtain ⟨x, hx, hxdepth⟩ := hmem j hj
      have hset := Entity.hasParent_of_holder? hholder
      obtain ⟨d, hd⟩ : ∃ d, e.kind.depth = d + 1 := by
        obtain ⟨wanted, hwanted⟩ := Option.isSome_iff_exists.1 hset.1
        exact ⟨_, EntityKind.depth_parentKind hwanted⟩
      obtain ⟨pk, hpk, hlast⟩ := hlast d hd
      obtain rfl : pk = j := Option.some.inj (hpk.symm.trans hholder)
      obtain ⟨y, hy, hydepth⟩ := hmem pk (List.mem_of_getLast? hlast)
      rw [h.distinct.entity_unique hx hy] at hxdepth
      omega

/-! ### Adding an entity that has been read -/

lemma with?_eq_ok (h : g.WellLinked)
    (hspelled : e.HasParent →
      ∃ s, e.parent = .scalar s ∧ ∀ j ∈ g.keys, j.same s = true → j = s)
    (hwith : g.with? e = .ok g') :
    ∃ k, e.id = .scalar k ∧ g.contains k = false ∧ g.Admits e ∧ g' = g.attach k e := by
  cases hid : e.id with
  | scalar k =>
    refine ⟨k, rfl, ?_⟩
    rcases add_cases h hid hspelled with ⟨-, hadd⟩ | ⟨-, -, wanted, -, hadd⟩ | ⟨hfree, hadmits, hadd⟩
    · simp [with?, hadd] at hwith
    · simp [with?, hadd] at hwith
    · rw [with?, hadd] at hwith
      exact ⟨hfree, hadmits, (Except.ok.inj hwith).symm⟩
  | list | map | tuple | set | knot =>
    simp [with?, add, admission, hid, Value.identifier, bind, Except.bind] at hwith

/-- What holds while the children of the last entity of a path are read. Each entity of the path is
the last one at its depth. -/
structure Reading (path : List Scalar) (g : Graph) : Prop where
  sound : g.Sound
  named : g.HasTypeNames
  ordered : g.Ordered
  path_last : ∀ {i pk}, path[i]? = some pk → (g.layer i).getLast? = some pk

lemma reading_empty : Reading [] empty where
  sound := sound_empty
  named := by simp [HasTypeNames, empty]
  ordered := by
    intro n
    have hempty : empty.layer n = [] := by
      induction n with
      | zero => rfl
      | succ n ih => rw [layer, ih]; rfl
    rw [hempty]
    rfl
  path_last := by simp

namespace Reading

variable {path : List Scalar}

lemma of_append {more : List Scalar} (h : Reading (path ++ more) g) : Reading path g where
  sound := h.sound
  named := h.named
  ordered := h.ordered
  path_last := by
    intro i pk hi
    apply h.path_last
    rw [List.getElem?_append_left]
    · exact hi
    · exact (List.getElem?_eq_some_iff.1 hi).1

lemma mem_keys (h : Reading path g) {pk : Scalar} (hpk : path.getLast? = some pk) :
    pk ∈ g.keys := by
  rw [List.getLast?_eq_getElem?] at hpk
  have hlast := List.mem_of_getLast? (h.path_last hpk)
  rw [h.ordered] at hlast
  obtain ⟨x, hx, -⟩ := mem_keysAt.1 hlast
  exact mem_keys_of_mem hx

/-- The parent of the entity that is read next is the last of the path. -/
structure Fits (path : List Scalar) (e : Entity) : Prop where
  depth : e.kind.depth = path.length
  parent : ∀ {pk}, path.getLast? = some pk → e.parent = .scalar pk
  root : path = [] → e.parent = .null

/-- Reading goes on after an entity has been added. -/
lemma add (h : Reading path g) (hwith : g.with? e = .ok g') (hfits : Fits path e)
    (hholds : e.id.holds = true) (hchildren : e.children = .list []) (hreadable : e.Readable)
    (hnamed : e.kind = .type → e.name.holds = true) :
    ∃ k, e.id = .scalar k ∧ Reading (path ++ [k]) g' := by
  have hlinked := h.sound.linked
  have hdepth := hfits.depth
  -- Whatever is not an assembly has the last entity of the path for its parent.
  have hholder : e.kind ≠ .assembly → ∃ pk, path.getLast? = some pk ∧ e.holder? = some pk := by
    intro hkind
    cases hpk : path.getLast? with
    | none =>
      rw [List.getLast?_eq_none_iff] at hpk
      rw [hpk] at hdepth
      cases hk : e.kind <;> rw [hk] at hdepth <;> simp_all [EntityKind.depth]
    | some pk =>
      refine ⟨pk, rfl, Entity.holder?_eq_some.2 ⟨?_, hfits.parent hpk, ?_⟩⟩
      · cases hk : e.kind <;> simp_all [EntityKind.parentKind?]
      · rintro rfl
        obtain ⟨x, hx⟩ := Graph.mem_keys.1 (h.mem_keys hpk)
        cases h.sound.holds hx
  have hspelled : e.HasParent →
      ∃ s, e.parent = .scalar s ∧ ∀ j ∈ g.keys, j.same s = true → j = s := by
    intro hset
    have hkind : e.kind ≠ .assembly := by
      intro hkind
      rw [Entity.HasParent, hkind] at hset
      cases hset.1
    obtain ⟨pk, hpk, -⟩ := hholder hkind
    exact ⟨pk, hfits.parent hpk, fun j hj hs => hlinked.distinct.eq_of_same hj (h.mem_keys hpk) hs⟩
  obtain ⟨k, hid, hfree, hadmits, rfl⟩ := with?_eq_ok hlinked hspelled hwith
  have hlayer := layer_attach (k := k) hlinked h.ordered hfree hchildren (by
    intro d hd
    obtain ⟨pk, hpk, hpk'⟩ := hholder (by
      intro hkind
      rw [hkind] at hd
      cases hd)
    refine ⟨pk, hpk', ?_⟩
    rw [List.getLast?_eq_getElem?] at hpk
    rw [hdepth] at hd
    rw [hd, Nat.add_sub_cancel] at hpk
    exact h.path_last hpk)
  refine ⟨k, hid, ?_, h.named.attach hnamed, ?_, ?_⟩
  · refine h.sound.attach hid hfree hchildren hadmits ?_ ?_ ?_ hreadable
    · rwa [hid] at hholds
    · intro hkind
      obtain ⟨pk, -, hpk⟩ := hholder hkind
      exact Entity.hasParent_of_holder? hpk
    · intro hkind
      apply hfits.root
      rw [hkind] at hdepth
      exact List.length_eq_zero_iff.1 hdepth.symm
  · intro n
    rw [hlayer, keysAt_attach, h.ordered]
  · intro i pk hi
    rw [hlayer, hdepth]
    by_cases hlt : i < path.length
    · rw [List.getElem?_append_left hlt] at hi
      rw [if_neg (by omega), List.append_nil]
      exact h.path_last hi
    · have hi' := (List.getElem?_eq_some_iff.1 hi).1
      rw [List.length_append, List.length_singleton] at hi'
      obtain rfl : i = path.length := by omega
      rw [List.getElem?_append_right (Nat.le_refl _)] at hi
      simpa using hi

end Reading

/-! ### Reading each kind of entity -/

lemma readName_eq_ok {record : List (Scalar × Value)} {what name : Text}
    (h : readName record what = .ok name) :
    Value.get record "name".toList = .text name ∧ name ≠ [] := by
  unfold readName at h
  split at h
  case h_1 c cs hget =>
    rw [← Except.ok.inj h]
    exact ⟨hget, by simp⟩
  case h_2 => cases h

lemma readId_holds {record : List (Scalar × Value)} {default : Except Fault Text} {id : Value}
    (hdefault : ∀ t, default = .ok t → t ≠ []) (h : readId record default = .ok id) :
    id.holds = true := by
  unfold readId at h
  by_cases hgiven : (Value.get record "id".toList).holds = true
  · rw [if_pos hgiven] at h
    rwa [← Except.ok.inj h]
  · rw [if_neg hgiven] at h
    obtain ⟨t, ht, rfl⟩ := map_eq_ok.1 h
    simpa [Value.holds, Scalar.holds] using hdefault t ht

lemma holds_fullName {record : List (Scalar × Value)} {spaceName name : Text} (h : name ≠ []) :
    (givenOr record "full_name".toList
      (.text (if spaceName = [] then name else spaceName ++ '.' :: name))).holds = true := by
  unfold givenOr
  simp only
  split
  case isTrue hgiven => exact hgiven
  case isFalse =>
    split
    · simpa [Value.holds, Scalar.holds] using h
    · simp [Value.holds, Scalar.holds]

lemma raw_of_readReference {item : Value} {r : Reference} (h : readReference item = .ok r) :
    ∃ t, r.raw = .text t := by
  unfold readReference at h
  split at h
  · rw [← Except.ok.inj h]
    exact ⟨_, rfl⟩
  · obtain ⟨record, -, h⟩ := bind_eq_ok.1 h
    obtain ⟨raw, -, h⟩ := bind_eq_ok.1 h
    obtain ⟨kind, -, h⟩ := bind_eq_ok.1 h
    obtain ⟨state, -, h⟩ := bind_eq_ok.1 h
    obtain ⟨symbolKind, -, h⟩ := bind_eq_ok.1 h
    rw [← Except.ok.inj h]
    exact ⟨raw, rfl⟩

lemma type_of_readThrown {item : Value} {x : Thrown} (h : readThrown item = .ok x) :
    ∃ t, x.type = .text t := by
  obtain ⟨record, -, h⟩ := bind_eq_ok.1 h
  obtain ⟨t, -, h⟩ := bind_eq_ok.1 h
  rw [← Except.ok.inj h]
  exact ⟨t, rfl⟩

lemma readContent_eq_ok {record : List (Scalar × Value)} {content : Content}
    (h : readContent record = .ok content) :
    (∃ rs, content.references = .proper rs ∧ ∀ r ∈ rs, ∃ t, r.raw = .text t) ∧
    ∃ ts, content.exceptions = .proper ts ∧ ∀ x ∈ ts, ∃ t, x.type = .text t := by
  obtain ⟨items, -, h⟩ := bind_eq_ok.1 h
  obtain ⟨references, hreferences, h⟩ := bind_eq_ok.1 h
  obtain ⟨items, -, h⟩ := bind_eq_ok.1 h
  obtain ⟨exceptions, hexceptions, h⟩ := bind_eq_ok.1 h
  rw [← Except.ok.inj h]
  refine ⟨⟨references, rfl, ?_⟩, exceptions, rfl, ?_⟩
  · intro r hr
    obtain ⟨item, -, hitem⟩ := exists_of_mapM hreferences hr
    exact raw_of_readReference hitem
  · intro x hx
    obtain ⟨item, -, hitem⟩ := exists_of_mapM hexceptions hx
    exact type_of_readThrown hitem

namespace Reading

variable {path : List Scalar} {pk : Scalar} {data : Value}

lemma fits (h : path.getLast? = some pk) (hparent : e.parent = .scalar pk)
    (hdepth : e.kind.depth = path.length) : Fits path e where
  depth := hdepth
  parent := by
    intro pk' hpk'
    rw [hparent, Option.some.inj (h.symm.trans hpk')]
  root := by
    rintro rfl
    cases h

lemma loadParameter (h : Reading path g) (hlength : path.length = 4)
    (hlast : path.getLast? = some pk) (hload : Graph.loadParameter (.scalar pk) g data = .ok g') :
    Reading path g' := by
  obtain ⟨record, -, hload⟩ := bind_eq_ok.1 hload
  obtain ⟨name, hname, hload⟩ := bind_eq_ok.1 hload
  obtain ⟨id, hid, hload⟩ := bind_eq_ok.1 hload
  obtain ⟨content, hcontent, hload⟩ := bind_eq_ok.1 hload
  obtain ⟨hreferences, hexceptions⟩ := readContent_eq_ok hcontent
  have hholds := readId_holds (by
    intro t ht
    obtain ⟨shown, -, rfl⟩ := map_eq_ok.1 ht
    simp) hid
  obtain ⟨k, -, hnext⟩ := h.add hload (fits hlast rfl (by rw [hlength]; rfl)) hholds rfl
    ⟨⟨name, rfl, fun hempty => absurd hempty (readName_eq_ok hname).2⟩, hreferences, hexceptions,
      trivial, rfl⟩ (by rintro ⟨⟩)
  exact hnext.of_append

lemma loadMember {fullName : Value} (h : Reading path g) (hlength : path.length = 3)
    (hlast : path.getLast? = some pk)
    (hload : Graph.loadMember (.scalar pk) fullName g data = .ok g') : Reading path g' := by
  obtain ⟨record, -, hload⟩ := bind_eq_ok.1 hload
  obtain ⟨name, hname, hload⟩ := bind_eq_ok.1 hload
  obtain ⟨word, -, hload⟩ := bind_eq_ok.1 hload
  obtain ⟨id, hid, hload⟩ := bind_eq_ok.1 hload
  obtain ⟨content, hcontent, hload⟩ := bind_eq_ok.1 hload
  obtain ⟨g₁, hwith, hload⟩ := bind_eq_ok.1 hload
  obtain ⟨items, -, hload⟩ := bind_eq_ok.1 hload
  obtain ⟨hreferences, hexceptions⟩ := readContent_eq_ok hcontent
  have hholds := readId_holds (by
    intro t ht
    obtain ⟨shown, -, rfl⟩ := map_eq_ok.1 ht
    simp) hid
  rw [Entity.completed_member rfl] at hwith
  obtain ⟨k, hk, hnext⟩ := h.add hwith (fits hlast rfl (by rw [hlength]; rfl)) hholds rfl
    ⟨⟨name, rfl, fun hempty => absurd hempty (readName_eq_ok hname).2⟩, hreferences, hexceptions,
      trivial, rfl⟩ (by rintro ⟨⟩)
  obtain rfl : id = .scalar k := hk
  have hloop := foldlM_keeps (P := Reading (path ++ [k]))
    (fun hb hstep => hb.loadParameter (by simp [hlength]) (by simp) hstep) hnext hload
  exact hloop.of_append

lemma loadType {spaceName : Text} (h : Reading path g) (hlength : path.length = 2)
    (hlast : path.getLast? = some pk)
    (hload : Graph.loadType (.scalar pk) spaceName g data = .ok g') : Reading path g' := by
  obtain ⟨record, -, hload⟩ := bind_eq_ok.1 hload
  obtain ⟨name, hname, hload⟩ := bind_eq_ok.1 hload
  obtain ⟨id, hid, hload⟩ := bind_eq_ok.1 hload
  obtain ⟨word, -, hload⟩ := bind_eq_ok.1 hload
  obtain ⟨content, hcontent, hload⟩ := bind_eq_ok.1 hload
  obtain ⟨g₁, hwith, hload⟩ := bind_eq_ok.1 hload
  obtain ⟨items, -, hload⟩ := bind_eq_ok.1 hload
  obtain ⟨hreferences, hexceptions⟩ := readContent_eq_ok hcontent
  have hname := (readName_eq_ok hname).2
  have hholds := readId_holds (by
    intro t ht
    obtain ⟨shown, -, rfl⟩ := map_eq_ok.1 ht
    simp) hid
  obtain ⟨k, hk, hnext⟩ := h.add hwith (fits hlast rfl (by rw [hlength]; rfl)) hholds rfl
    ⟨⟨name, rfl, fun hempty => absurd hempty hname⟩, hreferences, hexceptions,
      holds_fullName hname, rfl⟩
    (fun _ => by simpa [Value.holds, Scalar.holds] using hname)
  obtain rfl : id = .scalar k := hk
  have hloop := foldlM_keeps (P := Reading (path ++ [k]))
    (fun hb hstep => hb.loadMember (by simp [hlength]) (by simp) hstep) hnext hload
  exact hloop.of_append

lemma loadNamespace (h : Reading path g) (hlength : path.length = 1)
    (hlast : path.getLast? = some pk) (hload : Graph.loadNamespace (.scalar pk) g data = .ok g') :
    Reading path g' := by
  obtain ⟨record, -, hload⟩ := bind_eq_ok.1 hload
  obtain ⟨name, -, hload⟩ := bind_eq_ok.1 hload
  obtain ⟨id, hid, hload⟩ := bind_eq_ok.1 hload
  obtain ⟨content, hcontent, hload⟩ := bind_eq_ok.1 hload
  obtain ⟨g₁, hwith, hload⟩ := bind_eq_ok.1 hload
  obtain ⟨items, -, hload⟩ := bind_eq_ok.1 hload
  obtain ⟨hreferences, hexceptions⟩ := readContent_eq_ok hcontent
  have hholds := readId_holds (by
    intro t ht
    rw [← Except.ok.inj ht]
    simp) hid
  obtain ⟨k, hk, hnext⟩ := h.add hwith (fits hlast rfl (by rw [hlength]; rfl)) hholds rfl
    ⟨⟨name, rfl, fun _ => .inl rfl⟩, hreferences, hexceptions, trivial, rfl⟩ (by rintro ⟨⟩)
  obtain rfl : id = .scalar k := hk
  have hloop := foldlM_keeps (P := Reading (path ++ [k]))
    (fun hb hstep => hb.loadType (by simp [hlength]) (by simp) hstep) hnext hload
  exact hloop.of_append

lemma loadAssembly (h : Reading [] g) (hload : Graph.loadAssembly g data = .ok g') :
    Reading [] g' := by
  obtain ⟨record, -, hload⟩ := bind_eq_ok.1 hload
  obtain ⟨name, hname, hload⟩ := bind_eq_ok.1 hload
  obtain ⟨id, hid, hload⟩ := bind_eq_ok.1 hload
  obtain ⟨content, hcontent, hload⟩ := bind_eq_ok.1 hload
  obtain ⟨g₁, hwith, hload⟩ := bind_eq_ok.1 hload
  obtain ⟨items, -, hload⟩ := bind_eq_ok.1 hload
  obtain ⟨hreferences, hexceptions⟩ := readContent_eq_ok hcontent
  have hholds := readId_holds (by
    intro t ht
    rw [← Except.ok.inj ht]
    simp) hid
  obtain ⟨k, hk, hnext⟩ := h.add hwith ⟨rfl, by simp, fun _ => rfl⟩ hholds rfl
    ⟨⟨name, rfl, fun hempty => absurd hempty (readName_eq_ok hname).2⟩, hreferences, hexceptions,
      trivial, rfl⟩ (by rintro ⟨⟩)
  obtain rfl : id = .scalar k := hk
  have hloop := foldlM_keeps (P := Reading ([] ++ [k]))
    (fun hb hstep => hb.loadNamespace (by simp) (by simp) hstep) hnext hload
  exact hloop.of_append

end Reading

/-- Every graph that can be read is well linked and has readable entities, in the order in which
they are listed. -/
theorem reading_of_ofValue {data : Value} (h : ofValue data = .ok g) : Reading [] g := by
  unfold ofValue at h
  split at h
  case h_1 g' hread =>
    obtain rfl := Except.ok.inj h
    obtain ⟨record, -, hread⟩ := bind_eq_ok.1 hread
    obtain ⟨items, -, hread⟩ := bind_eq_ok.1 hread
    exact foldlM_keeps (fun hb hstep => hb.loadAssembly hstep) reading_empty hread
  case h_2 => cases h

end Graph

end LinkedDocs
