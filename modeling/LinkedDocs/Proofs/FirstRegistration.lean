import LinkedDocs.Graph.Attribute
import LinkedDocs.Proofs.Postings
import Mathlib.Data.List.Dedup

/-!
# The index and its registrations

Every key of an index is folded, and folding a key again does not change it. So an index has one
entry for each folded key that is not empty, and the entry is the first that was registered.
-/

namespace LinkedDocs

/-! ### Folding twice -/

namespace Text

/-- What folding changes: first point, last point and step. A point that is folded to more than one
is a run of its own. -/
def changedRuns : List (Nat × Nat × Nat) :=
  foldRuns.map (fun run => (run.1, run.2.1, run.2.2.1)) ++
    foldExpansions.map fun y => (y.1, y.1, 2)

/-- Whether a point is in a run. -/
def InRun (n : Nat) (run : Nat × Nat × Nat) : Prop :=
  run.1 ≤ n ∧ n ≤ run.2.1 ∧ (n - run.1) % run.2.2 = 0

/-- Whether two runs have no point in common: they lie apart, or one has even points and the other
odd ones. -/
def misses (run other : Nat × Nat × Nat) : Bool :=
  Nat.blt run.2.1 other.1 || Nat.blt other.2.1 run.1 ||
    Nat.beq other.2.2 2 && (Nat.beq run.2.2 2 || Nat.beq run.1 run.2.1) &&
      Nat.beq ((run.1 + other.1) % 2) 1

/-- Whether folding leaves a character as it is. -/
def isFolded (c : Char) : Bool :=
  foldChar c = [c]

/-- Whether folding leaves every point of a run as it is. -/
def isFoldedRun (run : Nat × Nat × Nat) : Bool :=
  Nat.ble 128 run.1 && changedRuns.all (misses run) ||
    Nat.beq run.1 run.2.1 && isFolded (Char.ofNat run.1)

/-- What a run is moved to. -/
def image (run : Nat × Nat × Nat × Int) : Nat × Nat × Nat :=
  ((run.1 + run.2.2.2).toNat, (run.2.1 + run.2.2.2).toNat, run.2.2.1)

-- Run by run, since the tables stand for more than a thousand points.
lemma isFoldedRun_image : (foldRuns.all fun run => isFoldedRun (image run)) = true := by
  decide +kernel

lemma start_nonneg : ∀ run ∈ foldRuns, 0 ≤ (run.1 : Int) + run.2.2.2 := by
  decide +kernel

lemma isFolded_expansion :
    (foldExpansions.all fun y => y.2.all fun n => isFolded (Char.ofNat n)) = true := by
  decide +kernel

lemma isFolded_toLower : ∀ n < 128, isFolded (Char.ofNat n).toLower = true := by
  decide +kernel

variable {n : Nat} {c : Char} {run other : Nat × Nat × Nat}

lemma not_inRun_of_misses (h : misses run other = true) (hn : InRun n run) : ¬InRun n other := by
  obtain ⟨hfirst, hlast, hstep⟩ := hn
  rintro ⟨hge, hle, hmod⟩
  simp only [misses, Bool.or_eq_true, Bool.and_eq_true, Nat.blt_eq, Nat.beq_eq] at h
  rcases h with (h | h) | ⟨⟨htwo, hsame⟩, hparity⟩
  · omega
  · omega
  · rw [htwo] at hmod
    rcases hsame with htwo' | hpoint
    · rw [htwo'] at hstep
      omega
    · omega

/-- A character that is in no run is its own folding. -/
lemma isFolded_of_not_inRun (hbig : 128 ≤ c.toNat) (h : ∀ run ∈ changedRuns, ¬InRun c.toNat run) :
    isFolded c = true := by
  have hexpansion : foldExpansions.lookup c.toNat = none := by
    rw [List.lookup_eq_none_iff]
    intro y hy
    rw [bne_iff_ne]
    intro heq
    apply h (y.1, y.1, 2) (List.mem_append_right _ (List.mem_map.2 ⟨y, hy, rfl⟩))
    simp [InRun, heq]
  have hshifted : shifted foldRuns c.toNat = c.toNat := by
    unfold shifted
    split
    case h_1 first last step offset hfind =>
      have hmem := List.mem_of_find?_eq_some hfind
      have hin := List.find?_some hfind
      simp only [Bool.and_eq_true, decide_eq_true_eq, beq_iff_eq] at hin
      exact absurd ⟨hin.1.1, hin.1.2, hin.2⟩
        (h (first, last, step) (List.mem_append_left _ (List.mem_map.2 ⟨_, hmem, rfl⟩)))
    case h_2 => rfl
  have hnot : ¬c.toNat < 128 := by omega
  simp [isFolded, foldChar, hnot, hexpansion, hshifted]

lemma isFolded_of_inRun (h : isFoldedRun run = true) (hn : InRun n run) :
    isFolded (Char.ofNat n) = true := by
  by_cases hvalid : n.isValidChar
  · have htoNat : (Char.ofNat n).toNat = n := by
      rw [Char.ofNat, dif_pos hvalid]
      rfl
    simp only [isFoldedRun, Bool.or_eq_true, Bool.and_eq_true, Nat.beq_eq, Nat.ble_eq,
      List.all_eq_true] at h
    rcases h with ⟨hbig, hmisses⟩ | ⟨hpoint, hfolded⟩
    · apply isFolded_of_not_inRun
      · rw [htoNat]
        exact Nat.le_trans hbig hn.1
      · intro other hother
        rw [htoNat]
        exact not_inRun_of_misses (hmisses other hother) hn
    · have heq : n = run.1 := by
        have hle := hn.2.1
        have hge := hn.1
        omega
      rwa [heq]
  · rw [Char.ofNat, dif_neg hvalid]
    decide

/-- Every character that a folding has is its own folding. -/
lemma isFolded_of_mem_foldChar {d : Char} (h : d ∈ foldChar c) : isFolded d = true := by
  unfold foldChar at h
  split at h
  case isTrue hsmall =>
    rw [List.mem_singleton.1 h, ← Char.ofNat_toNat c]
    exact isFolded_toLower _ hsmall
  case isFalse hbig =>
    split at h
    case h_1 points hlookup =>
      obtain ⟨n, hn, rfl⟩ := List.mem_map.1 h
      obtain ⟨before, after, hsplit, -⟩ := List.lookup_eq_some_iff.1 hlookup
      have hmem : (c.toNat, points) ∈ foldExpansions := by simp [hsplit]
      exact List.all_eq_true.1 (List.all_eq_true.1 isFolded_expansion _ hmem) n hn
    case h_2 hlookup =>
      rw [List.mem_singleton.1 h]
      unfold shifted
      split
      case h_1 first last step offset hfind =>
        have hmem := List.mem_of_find?_eq_some hfind
        have hin := List.find?_some hfind
        simp only [Bool.and_eq_true, decide_eq_true_eq, beq_iff_eq] at hin
        apply isFolded_of_inRun (List.all_eq_true.1 isFoldedRun_image _ hmem)
        have hstart := start_nonneg _ hmem
        have hstep : (c.toNat + offset).toNat - (first + offset).toNat = c.toNat - first := by
          dsimp only at hstart
          omega
        refine ⟨?_, ?_, ?_⟩
        · simp only [image]
          omega
        · simp only [image]
          omega
        · simp only [image, hstep]
          exact hin.2
      case h_2 hfind => simp [isFolded, foldChar, hbig, hlookup, shifted, hfind]

/-- Folding a second time changes nothing. -/
theorem fold_fold (t : Text) : fold (fold t) = fold t := by
  have hchar : ∀ c, fold (foldChar c) = foldChar c := by
    intro c
    have hmap : fold (foldChar c) = (foldChar c).flatMap fun d => [d] := by
      apply List.flatMap_congr
      intro d hd
      simpa [isFolded] using isFolded_of_mem_foldChar hd
    rw [hmap, List.flatMap_singleton']
  rw [fold, fold, List.flatMap_assoc]
  apply List.flatMap_congr
  intro c _
  exact hchar c

end Text

/-! ### The keys of an index -/

namespace LinkIndex

open Text LinkedDocs.Graph

variable {index : LinkIndex} {key k : Text} {t : LinkTarget} {rs : List (Text × LinkTarget)}

def keys (index : LinkIndex) : List Text :=
  index.entries.map (·.1)

lemma isSome_lookup? : (index.lookup? k).isSome = true ↔ fold k ∈ index.keys := by
  rw [← Option.ne_none_iff_isSome, lookup?, Ne, List.lookup_eq_none_iff]
  constructor
  · intro h
    by_contra hnot
    apply h
    intro y hy
    rw [bne_iff_ne]
    intro heq
    exact hnot (heq ▸ List.mem_map_of_mem hy)
  · intro h hall
    obtain ⟨y, hy, heq⟩ := List.mem_map.1 h
    exact bne_iff_ne.1 (hall y hy) heq.symm

/-- A key that is neither empty nor taken comes last. -/
lemma keys_register : (index.register k t).keys =
    if k = [] ∨ fold k ∈ index.keys then index.keys else index.keys ++ [fold k] := by
  have htaken : (k.isEmpty || (index.lookup? k).isSome) = true ↔ k = [] ∨ fold k ∈ index.keys := by
    rw [Bool.or_eq_true, isSome_lookup?, List.isEmpty_iff]
  unfold register
  by_cases h : k = [] ∨ fold k ∈ index.keys
  · rw [if_pos h, if_pos (htaken.2 h)]
  · rw [if_neg h, if_neg (mt htaken.1 h)]
    simp [keys]

lemma mem_keys_register :
    key ∈ (index.register k t).keys ↔ key ∈ index.keys ∨ k ≠ [] ∧ fold k = key := by
  rw [keys_register]
  split
  case isTrue h =>
    refine ⟨.inl, ?_⟩
    rintro (hkey | ⟨hne, rfl⟩)
    · exact hkey
    · exact h.resolve_left hne
  case isFalse h => simp [not_or.1 h, eq_comm]

lemma nodup_keys_register (h : index.keys.Nodup) : (index.register k t).keys.Nodup := by
  rw [keys_register]
  split
  case isTrue => exact h
  case isFalse hnot =>
    exact h.append (List.nodup_singleton _) (List.disjoint_singleton.2 (not_or.1 hnot).2)

/-- The keys of an index are the foldings of the keys that were registered. -/
lemma mem_keys_ofRegistrations :
    key ∈ (ofRegistrations rs).keys ↔ ∃ r ∈ rs, r.1 ≠ [] ∧ fold r.1 = key := by
  have hfrom : ∀ index : LinkIndex,
      key ∈ (rs.foldl (fun index r => index.register r.1 r.2) index).keys ↔
        key ∈ index.keys ∨ ∃ r ∈ rs, r.1 ≠ [] ∧ fold r.1 = key := by
    induction rs with
    | nil => simp
    | cons r rs ih =>
      intro index
      rw [List.foldl_cons, ih, mem_keys_register, or_assoc]
      simp
  exact (hfrom {}).trans (by simp [keys])

lemma nodup_keys_ofRegistrations (rs : List (Text × LinkTarget)) :
    (ofRegistrations rs).keys.Nodup := by
  have hfrom : ∀ index : LinkIndex, index.keys.Nodup →
      (rs.foldl (fun index r => index.register r.1 r.2) index).keys.Nodup := by
    induction rs with
    | nil => exact fun _ h => h
    | cons r rs ih => exact fun index h => ih _ (nodup_keys_register h)
  exact hfrom {} List.nodup_nil

/-- The foldings of the keys that are not empty. -/
def foldedKeys (rs : List (Text × LinkTarget)) : List Text :=
  ((rs.map (·.1)).filter (!·.isEmpty)).map fold

lemma size_ofRegistrations (rs : List (Text × LinkTarget)) :
    (ofRegistrations rs).size = (foldedKeys rs).dedup.length := by
  have hperm : (ofRegistrations rs).keys.Perm (foldedKeys rs).dedup := by
    apply (List.perm_ext_iff_of_nodup (nodup_keys_ofRegistrations rs) (List.nodup_dedup _)).2
    intro key
    rw [mem_keys_ofRegistrations, List.mem_dedup]
    simp [foldedKeys, and_assoc]
  rw [← hperm.length_eq, keys, List.length_map, size]

/-- An index is made of its own entries again, since its keys are folded and distinct. -/
lemma ofEntries_ofRegistrations (rs : List (Text × LinkTarget)) :
    ofEntries (ofRegistrations rs).entries = ofRegistrations rs := by
  have hfrom : ∀ (more before : List (Text × LinkTarget)),
      ((before ++ more).map (·.1)).Nodup → (∀ y ∈ more, fold y.1 = y.1) →
      more.foldl (fun index y =>
        ⟨index.entries.filter (·.1 != fold y.1) ++ [(fold y.1, y.2)]⟩) ⟨before⟩ =
          (⟨before ++ more⟩ : LinkIndex) := by
    intro more
    induction more with
    | nil => simp
    | cons y more ih =>
      obtain ⟨key, target⟩ := y
      intro before hnodup hfolded
      have hkey : fold key = key := hfolded (key, target) (by simp)
      have hkept : before.filter (·.1 != key) = before := by
        rw [List.filter_eq_self]
        intro z hz
        rw [bne_iff_ne]
        intro heq
        rw [List.map_append, List.nodup_append] at hnodup
        exact hnodup.2.2 z.1 (List.mem_map_of_mem hz) key (by simp) heq
      rw [List.foldl_cons]
      dsimp only
      rw [hkey, hkept, ih]
      · simp
      · simpa using hnodup
      · exact fun z hz => hfolded z (by simp [hz])
  refine hfrom _ [] (nodup_keys_ofRegistrations rs) ?_
  intro y hy
  obtain ⟨r, -, -, hr⟩ := mem_keys_ofRegistrations.1 (List.mem_map_of_mem (f := (·.1)) hy)
  rw [← hr, fold_fold]

/-- **The first registration of a key counts.** A well linked graph whose entities have names has an
index. A key leads to the target of the first registration with the same folding, in the order of
the postings, and to nothing if there is none. There is one entry for each folding. -/
theorem build_eq_first_registrations {g : Graph} (hlinked : g.WellLinked)
    (hindexable : ∀ {k e}, (k, e) ∈ g.entries → e.Indexable) (config : Config) :
    ∃ index, build g config = .ok index ∧ ofEntries index.entries = index ∧
      (∀ key, index.lookup? key =
        ((entriesOf config g.postings).find? fun r => isKeyFor key r.1).map (·.2)) ∧
      (∀ key, index.lookup? key = none ↔
        ∀ r ∈ entriesOf config g.postings, isKeyFor key r.1 = false) ∧
      index.size = (foldedKeys (entriesOf config g.postings)).dedup.length := by
  obtain ⟨index, hindex⟩ := exists_index (hlinked.linked fun _ => True) hindexable config
  obtain ⟨rs, hrs, hbuilt⟩ := bind_eq_ok.1 hindex
  obtain rfl := registrations_eq hrs
  obtain rfl := Except.ok.inj hbuilt
  refine ⟨_, hindex, ofEntries_ofRegistrations _, lookup?_ofRegistrations _, ?_,
    size_ofRegistrations _⟩
  intro key
  rw [lookup?_ofRegistrations, Option.map_eq_none_iff, List.find?_eq_none]
  simp

/-- A generic type with a constructor, and an enumeration with a field. -/
def enumTypes : List (List (String × Value)) :=
  let members := fun name kind : String => Value.list [.map
    [(.text "name".toList, .text name.toList), (.text "kind".toList, .text kind.toList)]]
  [[("name", .text "Box`1".toList), ("members", members ".ctor" "constructor")],
    [("name", .text "Color".toList), ("kind", .text "enum".toList),
      ("members", members "Red" "field")]]

theorem build_enumTypes :
    let g := typesGraph enumTypes
    g.WellLinked ∧ (∀ {k e}, (k, e) ∈ g.entries → e.Indexable) ∧
      ∃ index, build g {} = .ok index ∧ index.size = 17 := by
  intro g
  have hread : ofValue (typesFile enumTypes) = .ok g := rfl
  have hsound := (reading_of_ofValue hread).sound
  have hnames : Relocation.HasTextNames g := by decide +kernel
  have hindexable : ∀ {k e}, (k, e) ∈ g.entries → e.Indexable :=
    fun he => ((hsound.workable hnames).usable he).indexable
  obtain ⟨index, hindex, -, -, -, hsize⟩ :=
    build_eq_first_registrations hsound.linked hindexable {}
  refine ⟨hsound.linked, hindexable, index, hindex, ?_⟩
  rw [hsize]
  decide +kernel

/-- A type with a member. -/
def memberType : List (String × Value) :=
  [("name", .text ['T']), ("members", .list [.map [(.text "name".toList, .text ['m'])]])]

/-- A graph in which a list has been assigned to the kind of a member. -/
def listKindGraph : Graph :=
  (typesGraph [memberType]).modify (.text "M:N.T.m".toList)
    (·.assign "member_kind".toList (.list []))

lemma kind_of_assignDetail? {d d' : Detail} {field : Text} {v : Value}
    (h : Entity.assignDetail? d field v = some d') : d'.kind = d.kind := by
  unfold Entity.assignDetail? at h
  split at h
  case h_1 | h_2 =>
    repeat' split at h
    all_goals first
      | obtain rfl := Option.some.inj h; rfl
      | cases h
  case h_3 =>
    split at h
    · obtain rfl := Option.some.inj h
      rfl
    · cases h
  case h_4 => cases h

/-- Assigning a field that has nothing to do with links keeps the links. -/
lemma assign_links (e : Entity) (field : Text) (v : Value) (hid : field ≠ "id".toList)
    (hparent : e.kind.parentField? ≠ some field) (hchildren : e.kind.childrenField? ≠ some field) :
    (e.assign field v).id = e.id ∧ (e.assign field v).kind = e.kind ∧
      (e.assign field v).parent = e.parent ∧ (e.assign field v).children = e.children := by
  unfold Entity.assign
  rw [if_neg hid, if_neg hparent, if_neg hchildren]
  repeat' split
  case h_2 hdetail => exact ⟨rfl, kind_of_assignDetail? hdetail, rfl, rfl⟩
  all_goals exact ⟨rfl, rfl, rfl, rfl⟩

/-- The letter of a kind that is a list cannot be looked up, so there is no index. -/
theorem not_exists_index_of_list_kind : listKindGraph.WellLinked ∧
    (∀ y ∈ listKindGraph.entries, ∃ t, y.2.name = .text t) ∧
    (∀ y ∈ listKindGraph.entries, y.2.kind = .type → ∃ t, y.2.fullName = .text t) ∧
    ¬∃ index, build listKindGraph {} = .ok index := by
  have hread : ofValue (typesFile [memberType]) = .ok (typesGraph [memberType]) := rfl
  have hassign : ∀ e : Entity, _ := fun e => assign_links e "member_kind".toList
    (.list []) (by decide) (by cases e.kind <;> decide) (by cases e.kind <;> decide)
  have hnames : listKindGraph.entries.map (·.2.name) =
      [ "A", "N", "T", "m"].map fun name => .text name.toList := rfl
  have hfault : (build listKindGraph {}).toOption.isNone = true := by decide +kernel
  refine ⟨?_, ?_, by decide +kernel, ?_⟩
  · rw [listKindGraph, modify_eq_mapEntries]
    apply (reading_of_ofValue hread).sound.linked.mapEntries
    all_goals
      intro k x
      split
    exacts [(hassign x).1, rfl, (hassign x).2.1, rfl, (hassign x).2.2.1, rfl, (hassign x).2.2.2, rfl]
  · intro y hy
    have hname := List.mem_map_of_mem (f := (·.2.name)) hy
    rw [hnames] at hname
    obtain ⟨name, -, hname⟩ := List.mem_map.1 hname
    exact ⟨_, hname.symm⟩
  · rintro ⟨index, hindex⟩
    rw [hindex] at hfault
    cases hfault

end LinkIndex

end LinkedDocs
