import LinkedDocs.Proofs.Persistence
import Mathlib.Data.List.Find

/-!
# Relocating twice

Once a graph has been relocated, every extension member stands with the type that it extends, or
there is no such type. A second relocation finds the same types, so it changes nothing. This also
holds if the graph is written and read again in between: then the types stand in another order, but
the first type of a name that is looked for is the same.
-/

namespace LinkedDocs

namespace Relocation

open LinkedDocs.Graph

variable {config : Config} {g g' b : Graph} {k j mk tk : Scalar} {e x m t : Entity} {n : Text}

/-- What a relocation that moves, makes and removes nothing has done. -/
def idle (skipped : List Value) : Relocation where
  relocated := 0
  placeholdersCreated := 0
  namespacesCreated := 0
  containersRemoved := []
  skipped := skipped

/-- Whether a graph can be relocated and a second relocation changes nothing and skips the same
members, also if the relocated graph is written and read again in between. -/
def SettlesAtOnce (config : Config) (g : Graph) : Prop :=
  ∃ g' r events, g.relocate config = ⟨g', .ok (r, events)⟩ ∧
    (∃ events', g'.relocate config = ⟨g', .ok (idle r.skipped, events')⟩) ∧
    ∀ v g₂, g'.dump = .ok v → ofValue v = .ok g₂ → ∃ skipped events',
      g₂.relocate config = ⟨g₂, .ok (idle skipped, events')⟩ ∧ skipped.Perm r.skipped

/-! ### Graphs at rest -/

/-- Whether every extension member stands where a relocation would put it. -/
def AtRest (config : Config) (g : Graph) : Prop :=
  ∀ k m, (k, m) ∈ g.entries → isCandidate m = true → soughtName m ≠ [] →
    match typeNamed? g (soughtName m) with
    | some tk => isSettled m tk = true
    | none => config.createPlaceholders = false

namespace Run

variable {created : List (Text × Scalar)} {base : Graph} {p : Pass}

lemma created_of_atRest (h : Run config g (typeTable g) (candidates g) created base p)
    (hrest : AtRest config g) : created = [] := by
  rw [List.eq_nil_iff_forall_not_mem]
  intro y hy
  obtain ⟨hcreate, hunknown, k, m, hm, hcandidate, hname, hne⟩ := h.created_names hy
  have hhome := hrest k m hm hcandidate (by rwa [hname])
  rw [← lookup_typeTable, hname, hunknown] at hhome
  simp [hcreate] at hhome

lemma movesOf_of_atRest (h : Run config g (typeTable g) (candidates g) created base p)
    (hrest : AtRest config g) : movesOf g (typeTable g) (candidates g) = [] := by
  rw [movesOf, List.filterMap_eq_nil_iff]
  intro k hk
  obtain ⟨m, hm, hcandidate⟩ := mem_candidates.1 hk
  rw [move?, h.source.distinct.get?_eq hm, Option.bind_some]
  cases hgoal : goal? (typeTable g) m with
  | none => rfl
  | some tk =>
    obtain ⟨hne, hlookup⟩ := goal?_eq_some hgoal
    have hhome := hrest k m hm hcandidate hne
    rw [← lookup_typeTable, hlookup] at hhome
    simp [hhome]

end Run

/-- A relocation of a graph at rest changes nothing. -/
theorem relocate_of_atRest (hlinked : g.WellLinked) (hnull : g.contains .null = false)
    (hdefined : ∀ {k}, k ∈ candidates g → k.isUndefined = false) (htypes : HasTextNames g)
    (hspelled : HasTextTargets g) (hrest : AtRest config g) :
    ∃ events, g.relocate config = ⟨g, .ok (idle
      (((candidates g).filter (isStranded g (typeTable g))).map .scalar), events)⟩ := by
  obtain ⟨created, base, p, ids, events, hrun, -, hlost, hrelocate, -⟩ :=
    relocate_eq config hlinked hnull hdefined htypes hspelled
  obtain rfl := hrun.created_of_atRest hrest
  obtain ⟨rfl, hspaces⟩ := hrun.bare rfl
  have htable : p.types = typeTable base := by rw [hrun.types_eq, List.append_nil]
  have hmoves := hrun.movesOf_of_atRest hrest
  rw [← htable] at hmoves
  have hgraph : p.graph = base := by rw [hrun.graph_eq, hmoves, spread_nil hlinked]
  have hids : ids = [] := by
    rw [List.eq_nil_iff_forall_not_mem]
    intro i hi
    obtain ⟨y, hy, -⟩ := (hlost i).1 hi
    rw [hmoves] at hy
    cases hy
  have hresult : { p.result with containersRemoved := [] } =
      idle (((candidates base).filter (isStranded base (typeTable base))).map .scalar) := by
    dsimp only
    rw [hrun.relocated, hrun.placeholders, hspaces, hrun.skipped, hmoves, htable]
    rfl
  refine ⟨events, ?_⟩
  rw [← hresult, hrelocate, hgraph, hids]
  rfl

/-! ### Types by name -/

/-- The name by which the type with a key is found. -/
def nameAt (g : Graph) (k : Scalar) : Text :=
  ((g.get? k).map matchedName).getD []

lemma nameAt_of_mem (h : g.Distinct) (he : (k, e) ∈ g.entries) : nameAt g k = matchedName e := by
  simp [nameAt, h.get?_eq he]

lemma typeNamed?_eq (h : g.Distinct) :
    typeNamed? g n = (g.keysAt 2).find? fun k => nameAt g k = n := by
  have hname : ∀ y ∈ g.entries, nameAt g y.1 = matchedName y.2 := fun _ hy => nameAt_of_mem h hy
  have hdepth : ∀ kind : EntityKind, decide (kind.depth = 2) = decide (kind = .type) := by
    intro kind
    cases kind <;> rfl
  rw [typeNamed?, keysAt, List.find?_map, List.find?_filter]
  congr 1
  refine List.find?_congr ?_
  intro y hy
  simp [hname y hy, hdepth]

lemma target?_of_candidate (config : Config) (placeholder : Text → Scalar) (h : g.Distinct)
    (hm : (mk, m) ∈ g.entries) (hcandidate : isCandidate m = true) (hne : soughtName m ≠ []) :
    target? config g placeholder mk = (typeNamed? g (soughtName m)).or
      (if config.createPlaceholders then some (placeholder (soughtName m)) else none) := by
  rw [target?, h.get?_eq hm, Option.bind_some, if_pos hcandidate, destination?, if_neg hne]
  cases typeNamed? g (soughtName m) <;> rfl

/-- Whether the names that extension members look for are not changed by another normalization. -/
def HasFixedTargets (g : Graph) : Prop :=
  ∀ y ∈ g.entries, isCandidate y.2 = true →
    Symbol.normalize (soughtName y.2) = soughtName y.2

instance (g : Graph) : Decidable (HasFixedTargets g) :=
  inferInstanceAs (Decidable (∀ y ∈ g.entries, isCandidate y.2 = true →
    Symbol.normalize (soughtName y.2) = soughtName y.2))

/-- Whether entities extend the same type, if any. -/
structure SameGoal (e x : Entity) : Prop where
  candidate : isCandidate x = isCandidate e
  sought : isCandidate e = true → soughtName x = soughtName e
  spelled : isCandidate e = true → IsSpelled e → IsSpelled x

lemma SameGoal.refl (e : Entity) : SameGoal e e :=
  ⟨rfl, fun _ => rfl, fun _ => id⟩

lemma SameGoal.trans {y : Entity} (h : SameGoal e x) (h' : SameGoal x y) : SameGoal e y where
  candidate := h'.candidate.trans h.candidate
  sought hcandidate := (h'.sought (h.candidate.trans hcandidate)).trans (h.sought hcandidate)
  spelled hcandidate hspelled :=
    h'.spelled (h.candidate.trans hcandidate) (h.spelled hcandidate hspelled)

lemma sameGoal_of_detail {kind kind' : Loose MemberKind}
    {declaring declaring' isExtension extended : Value}
    (hd : e.detail = .member kind declaring isExtension extended)
    (hd' : x.detail = .member kind' declaring' isExtension extended) : SameGoal e x where
  candidate := by rw [isCandidate, isCandidate, hd, hd']
  sought := by
    intro _
    rw [soughtName, soughtName, hd, hd']
    cases extended with
    | scalar s => cases s <;> rfl
    | list | map | tuple | set | knot => rfl
  spelled := by
    rintro - ⟨_, _, _, t, ht⟩
    rw [hd, Detail.member.injEq] at ht
    exact ⟨_, _, _, t, by rw [hd', ht.2.2.2]⟩

lemma sameGoal_rehomed (v : Value) : SameGoal m (rehomed m v) := by
  unfold rehomed
  split
  case h_1 hd => exact sameGoal_of_detail hd rfl
  case h_2 => exact .refl m

lemma sameGoal_finalMember (f : Scalar → Option Scalar) : SameGoal m (finalMember f k m) := by
  unfold finalMember
  split
  · split
    · exact .refl m
    · exact sameGoal_rehomed _
  · exact .refl m

lemma sameGoal_restored (e : Entity) : SameGoal e e.restored := by
  cases hd : e.detail with
  | assembly | «namespace» | type | parameter =>
    have hnone : isCandidate e = false := by rw [isCandidate, hd]
    refine ⟨by rw [isCandidate, Entity.restored, hd, hnone], ?_, ?_⟩ <;> simp [hnone]
  | member kind declaring isExtension extended =>
    have hrestored : e.restored.detail = .member kind
        (if declaring.holds && !declaring.equals e.parent then declaring else e.parent)
        isExtension (given extended) := by
      rw [Entity.restored, hd]
    by_cases hgiven : extended.holds = true
    · rw [given, if_pos hgiven] at hrestored
      exact sameGoal_of_detail hd hrestored
    · have hnone : isCandidate e = false := by simp [isCandidate, hd, hgiven]
      refine ⟨?_, ?_, ?_⟩
      · rw [isCandidate, hrestored, hnone, given, if_neg hgiven]
        simp [Value.holds, Scalar.holds]
      all_goals simp [hnone]

/-- Whether a sound graph has the entities of another one, as far as a relocation reads them, in any
order. -/
structure Mirrors (g b : Graph) : Prop where
  sound : b.Sound
  image : ∀ {k e}, (k, e) ∈ g.entries → ∃ x, (k, x) ∈ b.entries ∧ x.kind = e.kind
  source : ∀ {k x}, (k, x) ∈ b.entries → ∃ e, (k, e) ∈ g.entries ∧ x.kind = e.kind ∧
    x.holder? = e.holder? ∧ x.fullName = e.fullName ∧ SameGoal e x

lemma Mirrors.refl (h : g.Sound) : Mirrors g g where
  sound := h
  image he := ⟨_, he, rfl⟩
  source hx := ⟨_, hx, rfl, rfl, rfl, .refl _⟩

lemma mirrors_reloaded (h : g.Sound) (hnamed : g.HasTypeNames) : Mirrors g g.reloaded where
  sound := (reading_reloaded h hnamed).sound
  image he := ⟨_, (mem_reloaded h).2 ⟨_, he, rfl⟩, Entity.kind_restored⟩
  source hx := by
    obtain ⟨e, he, rfl⟩ := (mem_reloaded h).1 hx
    refine ⟨e, he, Entity.kind_restored, Entity.holder?_restored, ?_, sameGoal_restored e⟩
    unfold Entity.fullName Entity.restored
    cases e.detail <;> rfl

lemma Mirrors.mem_keysAt (h : Mirrors g b) (d : Nat) : k ∈ b.keysAt d ↔ k ∈ g.keysAt d := by
  rw [Graph.mem_keysAt, Graph.mem_keysAt]
  constructor
  · rintro ⟨x, hx, hdepth⟩
    obtain ⟨e, he, hkind, -⟩ := h.source hx
    exact ⟨e, he, by rw [← hkind, hdepth]⟩
  · rintro ⟨e, he, hdepth⟩
    obtain ⟨x, hx, hkind⟩ := h.image he
    exact ⟨x, hx, by rw [hkind, hdepth]⟩

lemma Mirrors.nameAt_eq (h : Mirrors g b) (hg : g.Distinct) (hk : k ∈ b.keys) :
    nameAt b k = nameAt g k := by
  obtain ⟨x, hx⟩ := mem_keys.1 hk
  obtain ⟨e, he, -, -, hname, -⟩ := h.source hx
  rw [nameAt_of_mem h.sound.linked.distinct hx, nameAt_of_mem hg he, matchedName, matchedName, hname]

lemma Mirrors.candidates_perm (h : Mirrors g b) (hg : g.Distinct) :
    (candidates b).Perm (candidates g) := by
  rw [List.perm_ext_iff_of_nodup (candidates_nodup h.sound.linked.distinct) (candidates_nodup hg)]
  intro k
  rw [mem_candidates, mem_candidates]
  constructor
  · rintro ⟨x, hx, hcandidate⟩
    obtain ⟨e, he, -, -, -, hgoal⟩ := h.source hx
    exact ⟨e, he, hgoal.candidate.symm.trans hcandidate⟩
  · rintro ⟨e, he, hcandidate⟩
    obtain ⟨x, hx, -⟩ := h.image he
    obtain ⟨e', he', -, -, -, hgoal⟩ := h.source hx
    rw [hg.entity_unique he' he] at hgoal
    exact ⟨x, hx, hgoal.candidate.trans hcandidate⟩

/-! ### What a relocation leaves -/

namespace Relocates

variable {placeholder : Text → Scalar} {r : Relocation}
  (h : Relocates config g placeholder (target? config g placeholder) g' r)

include h

lemma nameAt_placeholder (hn : IsWanted config g n) :
    nameAt g' (placeholder n) = Symbol.normalize n := by
  obtain ⟨-, id, name, space, remark, -, hmade⟩ := h.placeholders hn
  rw [nameAt_of_mem h.linked.distinct hmade]
  rfl

/-- A type in the end was there before and has the name that it had, or is a placeholder. -/
lemma type_cases (hg : g.Distinct) (hk : k ∈ g'.keysAt 2) :
    (k ∈ g.keysAt 2 ∧ nameAt g' k = nameAt g k) ∨
      ∃ n, IsWanted config g n ∧ k = placeholder n ∧ k ∉ g.keys := by
  obtain ⟨t', ht', hdepth⟩ := mem_keysAt.1 hk
  have hkind : t'.kind = .type := EntityKind.eq_of_depth hdepth
  rcases h.types ht' hkind with ⟨t, ht, htkind, hkept⟩ | ⟨n, hn, rfl⟩
  · refine .inl ⟨mem_keysAt.2 ⟨t, ht, by rw [htkind]; rfl⟩, ?_⟩
    rw [nameAt_of_mem h.linked.distinct (h.kept ht htkind hkept), nameAt_of_mem hg ht]
    rfl
  · exact .inr ⟨n, hn, rfl, (h.placeholders hn).1⟩

lemma type_kept (hg : g.Distinct) (hk : k ∈ g.keys) (hk' : k ∈ g'.keysAt 2) :
    k ∈ g.keysAt 2 ∧ nameAt g' k = nameAt g k := by
  rcases h.type_cases hg hk' with hkept | ⟨n, -, -, hnew⟩
  · exact hkept
  · exact absurd hk hnew

/-- The types of a relocated graph have texts for names, if the types before have. -/
lemma hasTextNames (htypes : HasTextNames g) : HasTextNames g' := by
  rintro ⟨k, t'⟩ ht' hkind
  rcases h.types ht' hkind with ⟨t, ht, htkind, hkept⟩ | ⟨n, hn, rfl⟩
  · obtain ⟨name, hname⟩ := htypes _ ht htkind
    obtain rfl := h.linked.distinct.entity_unique ht' (h.kept ht htkind hkept)
    exact ⟨name, hname⟩
  · obtain ⟨-, id, name, space, remark, -, hmade⟩ := h.placeholders hn
    obtain rfl := h.linked.distinct.entity_unique ht' hmade
    exact ⟨n, rfl⟩

variable (hg : g.Sound)

include hg

lemma target?_ne_null (hm : (mk, m) ∈ g.entries) :
    target? config g placeholder mk ≠ some .null := by
  intro htarget
  have hcandidate := Run.candidate_of_target? hg.linked.distinct htarget hm
  by_cases hne : soughtName m = []
  · simp [target?, destination?, hg.linked.distinct.get?_eq hm, hne] at htarget
  · rw [target?_of_candidate _ _ hg.linked.distinct hm hcandidate hne] at htarget
    cases htype : typeNamed? g (soughtName m) with
    | some tk =>
      rw [htype, Option.some_or, Option.some.injEq] at htarget
      subst htarget
      rw [typeNamed?_eq hg.linked.distinct] at htype
      obtain ⟨t, ht, -⟩ := mem_keysAt.1 (List.mem_of_find?_eq_some htype)
      cases hg.holds ht
    | none =>
      rw [htype, Option.none_or] at htarget
      by_cases hcreate : config.createPlaceholders = true
      · obtain ⟨-, id, -, -, -, hid, -⟩ :=
          h.placeholders ⟨hcreate, hne, htype, mk, m, hm, hcandidate, rfl⟩
        simp [hcreate, hid] at htarget
      · simp [hcreate] at htarget

/-- The targets are there in the end. -/
lemma target_mem (hm : (mk, m) ∈ g.entries) (htarget : target? config g placeholder mk = some tk) :
    tk ∈ g'.keysAt 2 := by
  have hkind := kind_of_isCandidate (Run.candidate_of_target? hg.linked.distinct htarget hm)
  obtain ⟨hm', hkind'⟩ := h.members.2 ⟨m, hm, hkind, rfl⟩
  have hholder := holder?_finalMember hkind (h.target?_ne_null hg hm)
  rw [htarget, Option.some_or] at hholder
  obtain ⟨t, ht, -, htkind⟩ := h.linked.exists_parent hm' hholder
  rw [hkind'] at htkind
  exact mem_keysAt.2 ⟨t, ht, by rw [← Option.some.inj htkind]; rfl⟩

section

variable (hfixed : HasFixedTargets g) {types : List Scalar}
  (hmem : ∀ k, k ∈ types ↔ k ∈ g'.keysAt 2)

include hfixed hmem

/-- A type has its name from before, or it is the placeholder for its name. -/
lemma name_cases (hk : k ∈ types) (hname : nameAt g' k = n) :
    (k ∈ g.keysAt 2 ∧ nameAt g k = n) ∨ (IsWanted config g n ∧ k = placeholder n) := by
  rcases h.type_cases hg.linked.distinct ((hmem k).1 hk) with ⟨hold, hkept⟩ | ⟨n', hn, rfl, -⟩
  · exact .inl ⟨hold, hkept.symm.trans hname⟩
  · obtain ⟨i, x, hx, hx', hn'⟩ := hn.2.2.2
    rw [h.nameAt_placeholder hn, ← hn', hfixed _ hx hx', hn'] at hname
    subst hname
    exact .inr ⟨hn, rfl⟩

/-- The first type of a name stays the first one, if it stays and the types that were there before
stand as they stood. -/
lemma find?_of_known (horder : types.filter (· ∈ g.keys) = (g.keysAt 2).filter (· ∈ g'.keysAt 2))
    (hfind : typeNamed? g n = some tk) (htk : tk ∈ g'.keysAt 2) :
    types.find? (fun k => nameAt g' k = n) = some tk := by
  have hkeys : ∀ {k}, k ∈ g.keysAt 2 → k ∈ g.keys := by
    intro k hk
    obtain ⟨t, ht, -⟩ := mem_keysAt.1 hk
    exact mem_keys_of_mem ht
  have hold : ∀ k ∈ types, nameAt g' k = n → k ∈ g.keys := by
    intro k hk hname
    rcases h.name_cases hg hfixed hmem hk hname with ⟨hold, -⟩ | ⟨hn, -⟩
    · exact hkeys hold
    · rw [hn.2.2.1] at hfind
      cases hfind
  have hrestrict : types.find? (fun k => nameAt g' k = n) =
      ((g.keysAt 2).filter (· ∈ g'.keysAt 2)).find? (fun k => nameAt g' k = n) := by
    rw [← horder, List.find?_filter]
    refine List.find?_congr ?_
    intro k hk
    simpa using hold k hk
  rw [typeNamed?_eq hg.linked.distinct] at hfind
  have hfirst := hkeys (List.mem_of_find?_eq_some hfind)
  obtain ⟨hname, before, after, hsplit, hbefore⟩ := List.find?_eq_some_iff_append.1 hfind
  rw [hrestrict, List.find?_filter, List.find?_eq_some_iff_append]
  refine ⟨?_, before, after, hsplit, ?_⟩
  · simpa [htk, (h.type_kept hg.linked.distinct hfirst htk).2] using hname
  · intro k hk
    have hk' : k ∈ g.keys := hkeys (by simp [hsplit, hk])
    have hother := hbefore k hk
    by_cases hstays : k ∈ g'.keysAt 2
    · simpa [hstays, (h.type_kept hg.linked.distinct hk' hstays).2] using hother
    · simp [hstays]

/-- Whatever the order of the types in the end, the first one of a name that is looked for is the
target of the member that looks for it, if the types that were there before stand as they stood. -/
lemma find?_eq_target?
    (horder : types.filter (· ∈ g.keys) = (g.keysAt 2).filter (· ∈ g'.keysAt 2))
    (hm : (mk, m) ∈ g.entries) (hcandidate : isCandidate m = true) (hne : soughtName m ≠ []) :
    types.find? (fun k => nameAt g' k = soughtName m) = target? config g placeholder mk := by
  have htarget := target?_of_candidate config placeholder hg.linked.distinct hm hcandidate hne
  cases hfind : typeNamed? g (soughtName m) with
  | some tk =>
    rw [hfind, Option.some_or] at htarget
    rw [htarget]
    exact h.find?_of_known hg hfixed hmem horder hfind (h.target_mem hg hm htarget)
  | none =>
    rw [hfind, Option.none_or] at htarget
    have hcases : ∀ k ∈ types, nameAt g' k = soughtName m →
        IsWanted config g (soughtName m) ∧ k = placeholder (soughtName m) := by
      intro k hk hname
      rcases h.name_cases hg hfixed hmem hk hname with ⟨hold, hname⟩ | hwanted
      · rw [typeNamed?_eq hg.linked.distinct, List.find?_eq_none] at hfind
        exact absurd hname (by simpa using hfind k hold)
      · exact hwanted
    rw [htarget]
    cases hfound : types.find? (fun k => nameAt g' k = soughtName m) with
    | some k =>
      have hname := List.find?_some hfound
      obtain ⟨hn, rfl⟩ := hcases k (List.mem_of_find?_eq_some hfound) (by simpa using hname)
      rw [if_pos hn.1]
    | none =>
      by_cases hcreate : config.createPlaceholders = true
      · rw [if_pos hcreate] at htarget
        have hn : IsWanted config g (soughtName m) :=
          ⟨hcreate, hne, hfind, mk, m, hm, hcandidate, rfl⟩
        have hnone := List.find?_eq_none.1 hfound _ ((hmem _).2 (h.target_mem hg hm htarget))
        simp [h.nameAt_placeholder hn, hfixed _ hm hcandidate] at hnone
      · rw [if_neg hcreate]

end

section

variable (hfixed : HasFixedTargets g) (hb : Mirrors g' b)
  (horder : (b.keysAt 2).filter (· ∈ g.keys) = (g.keysAt 2).filter (· ∈ g'.keysAt 2))

include hb

/-- The extension members of the graph of a second run are those of the first one, each with its
target if it has one. -/
lemma source_of_candidate (hx : (mk, x) ∈ b.entries) (hcandidate : isCandidate x = true) :
    ∃ m, (mk, m) ∈ g.entries ∧ isCandidate m = true ∧ soughtName x = soughtName m ∧
      SameGoal m x ∧ ∀ tk, target? config g placeholder mk = some tk → x.holder? = some tk := by
  obtain ⟨e, he, hkind, hholder, -, hgoal⟩ := hb.source hx
  have hmember := kind_of_isCandidate hcandidate
  obtain ⟨m, hm, hmkind, rfl⟩ := h.members.1 ⟨he, hkind.symm.trans hmember⟩
  have hgoal := (sameGoal_finalMember _).trans hgoal
  have hm' : isCandidate m = true := hgoal.candidate.symm.trans hcandidate
  refine ⟨m, hm, hm', hgoal.sought hm', hgoal, ?_⟩
  intro tk htarget
  rw [hholder, holder?_finalMember hmkind (h.target?_ne_null hg hm), htarget, Option.some_or]

include hfixed horder

lemma typeNamed?_eq_target? (hm : (mk, m) ∈ g.entries) (hcandidate : isCandidate m = true)
    (hne : soughtName m ≠ []) :
    typeNamed? b (soughtName m) = target? config g placeholder mk := by
  rw [typeNamed?_eq hb.sound.linked.distinct,
    ← h.find?_eq_target? hg hfixed (fun k => hb.mem_keysAt 2) horder hm hcandidate hne]
  refine List.find?_congr ?_
  intro k hk
  obtain ⟨t, ht, -⟩ := mem_keysAt.1 hk
  rw [hb.nameAt_eq h.linked.distinct (mem_keys_of_mem ht)]

lemma atRest (hdefined : HasDefinedIds g') : AtRest config b := by
  intro mk x hx hcandidate hne
  obtain ⟨m, hm, hm', hsought, -, hholder⟩ := h.source_of_candidate hg hb hx hcandidate
  rw [hsought] at hne ⊢
  rw [h.typeNamed?_eq_target? hg hfixed hb horder hm hm' hne]
  cases htarget : target? config g placeholder mk with
  | some tk =>
    obtain ⟨t, ht, hdepth⟩ := mem_keysAt.1 (h.target_mem hg hm htarget)
    have htk := hdefined _ ht (.inl (EntityKind.eq_of_depth hdepth))
    simp [isSettled, hholder tk htarget, htk]
  | none =>
    rw [target?_of_candidate _ _ hg.linked.distinct hm hm' hne, Option.or_eq_none_iff] at htarget
    by_contra hcreate
    simp [hcreate] at htarget

lemma isStranded_eq (hk : k ∈ candidates b) :
    isStranded b (typeTable b) k = decide (target? config g placeholder k = none) := by
  obtain ⟨x, hx, hcandidate⟩ := mem_candidates.1 hk
  obtain ⟨m, hm, hm', hsought, -⟩ := h.source_of_candidate hg hb hx hcandidate
  rw [isStranded, hb.sound.linked.distinct.get?_eq hx, Option.bind_some, goal?, hsought]
  by_cases hne : soughtName m = []
  · simp [target?, destination?, hg.linked.distinct.get?_eq hm, hne]
  · rw [if_neg hne, lookup_typeTable, h.typeNamed?_eq_target? hg hfixed hb horder hm hm' hne]
    cases target? config g placeholder k <;> rfl

/-- A second run changes nothing and skips the members that have no target. -/
lemma relocate_again (hdefined : HasDefinedIds g') (htypes : HasTextNames g)
    (hspelled : HasTextTargets g) :
    ∃ events, b.relocate config = ⟨b, .ok (idle (((candidates b).filter fun k =>
      target? config g placeholder k = none).map .scalar), events)⟩ := by
  rw [← List.filter_congr fun k hk => h.isStranded_eq hg hfixed hb horder hk]
  refine relocate_of_atRest hb.sound.linked hb.sound.contains_null ?_ ?_ ?_
    (h.atRest hg hfixed hb horder hdefined)
  · intro k hk
    obtain ⟨x, hx, hcandidate⟩ := mem_candidates.1 hk
    obtain ⟨e, he, hkind, -⟩ := hb.source hx
    exact hdefined _ he (.inr (hkind.symm.trans (kind_of_isCandidate hcandidate)))
  · rintro ⟨k, x⟩ hx hkind
    obtain ⟨e, he, hekind, -, hname, -⟩ := hb.source hx
    obtain ⟨name, htext⟩ := h.hasTextNames htypes _ he (hekind.symm.trans hkind)
    exact ⟨name, hname.trans htext⟩
  · rintro ⟨k, x⟩ hx hcandidate
    obtain ⟨m, hm, hm', -, hgoal, -⟩ := h.source_of_candidate hg hb hx hcandidate
    exact hgoal.spelled hm' (hspelled _ hm hm')

end

end Relocates

/-! ### The order of what stays -/

lemma keys_filter_mem {q : Scalar × Entity → Bool} (h : g.Distinct) :
    (g.entries.filter q).map (·.1) = g.keys.filter (· ∈ (g.entries.filter q).map (·.1)) := by
  rw [keys, List.filter_map]
  congr 1
  refine List.filter_congr ?_
  rintro ⟨k, e⟩ he
  rw [Bool.eq_iff_iff, Function.comp_apply, decide_eq_true_eq]
  constructor
  · intro hq
    exact List.mem_map.2 ⟨(k, e), List.mem_filter.2 ⟨he, hq⟩, rfl⟩
  · intro hk
    obtain ⟨⟨j, x⟩, hx, rfl⟩ := List.mem_map.1 hk
    obtain ⟨hx, hq⟩ := List.mem_filter.1 hx
    rwa [h.entity_unique he hx]

lemma flatMap_filter_of_nil {l : List Scalar} {q : Scalar → Bool} {f : Scalar → List Scalar}
    (h : ∀ k ∈ l, q k = false → f k = []) : (l.filter q).flatMap f = l.flatMap f := by
  induction l with
  | nil => rfl
  | cons k l ih =>
    have hrest := ih fun j hj => h j (by simp [hj])
    cases hq : q k with
    | true => simp [hq, hrest]
    | false => simp [hq, hrest, h k (by simp) hq]

namespace Relocates

variable {placeholder : Text → Scalar} {r : Relocation}
  (h : Relocates config g placeholder (target? config g placeholder) g' r)

include h

/-- What stays is of the kind that it was. -/
lemma kind_kept (he : (k, e) ∈ g.entries) (hx : (k, x) ∈ g'.entries) : x.kind = e.kind := by
  have hunique : ∀ {y}, (k, y) ∈ g'.entries → y = x :=
    fun hy => h.linked.distinct.entity_unique hy hx
  cases hkind : e.kind with
  | assembly | «namespace» =>
    obtain ⟨extra, hy, -⟩ := h.above he (by simp [hkind])
    rw [← hunique hy, Entity.kind_withChildren, hkind]
  | type =>
    have hkept : ¬IsDropped (target? config g placeholder) g k :=
      fun hdropped => h.gone hdropped (mem_keys_of_mem hx)
    rw [← hunique (h.kept he hkind hkept), Entity.kind_withChildren, hkind]
  | member =>
    obtain ⟨hy, hykind⟩ := h.members.2 ⟨e, he, hkind, rfl⟩
    rw [← hunique hy, hykind]
  | parameter => rw [← hunique (h.parameters.2 ⟨he, hkind⟩).1, hkind]

lemma filter_keys {s s' : List Scalar} (hs : s = g.keys.filter (· ∈ s))
    (hs' : s' = g'.keys.filter (· ∈ s')) (hkept : ∀ k ∈ g.keys, k ∈ s' → k ∈ s) :
    s'.filter (· ∈ g.keys) = s.filter (· ∈ s') :=
  calc s'.filter (· ∈ g.keys)
    _ = (g'.keys.filter (· ∈ g.keys)).filter (· ∈ s') := by
      conv_lhs => rw [hs']
      rw [List.filter_filter, List.filter_filter]
      simp only [Bool.and_comm]
    _ = (g.keys.filter (· ∈ g'.keys)).filter (· ∈ s') := by rw [h.order]
    _ = (g.keys.filter (· ∈ s)).filter (· ∈ s') := by
      rw [List.filter_filter, List.filter_filter]
      refine List.filter_congr ?_
      intro k hk
      by_cases hk' : k ∈ s'
      · have hmem : k ∈ g'.keys := by
          rw [hs'] at hk'
          exact List.mem_of_mem_filter hk'
        simp [hk', hmem, hkept k hk hk']
      · simp [hk']
    _ = s.filter (· ∈ s') := by rw [← hs]

/-- The entities of a depth that stay keep their order. -/
lemma keysAt_order (hg : g.Distinct) (d : Nat) :
    (g'.keysAt d).filter (· ∈ g.keys) = (g.keysAt d).filter (· ∈ g'.keysAt d) := by
  refine h.filter_keys (keys_filter_mem hg) (keys_filter_mem h.linked.distinct) ?_
  intro k hk hk'
  obtain ⟨e, he⟩ := mem_keys.1 hk
  obtain ⟨x, hx, hdepth⟩ := mem_keysAt.1 hk'
  exact mem_keysAt.2 ⟨e, he, by rw [← h.kind_kept he hx, hdepth]⟩

lemma filter_keysAt (d : Nat) :
    (g.keysAt d).filter (· ∈ g'.keysAt d) = (g.keysAt d).filter (· ∈ g'.keys) := by
  refine List.filter_congr ?_
  intro k hk
  obtain ⟨e, he, hdepth⟩ := mem_keysAt.1 hk
  rw [Bool.eq_iff_iff, decide_eq_true_eq, decide_eq_true_eq, mem_keysAt, mem_keys]
  constructor
  · rintro ⟨x, hx, -⟩
    exact ⟨x, hx⟩
  · rintro ⟨x, hx⟩
    exact ⟨x, hx, by rw [h.kind_kept he hx, hdepth]⟩

lemma mem_candidates : k ∈ candidates g' ↔ k ∈ candidates g := by
  rw [Relocation.mem_candidates, Relocation.mem_candidates]
  constructor
  · rintro ⟨m', hm', hcandidate⟩
    obtain ⟨m, hm, -, rfl⟩ := h.members.1 ⟨hm', kind_of_isCandidate hcandidate⟩
    exact ⟨m, hm, (sameGoal_finalMember _).candidate.symm.trans hcandidate⟩
  · rintro ⟨m, hm, hcandidate⟩
    obtain ⟨hm', -⟩ := h.members.2 ⟨m, hm, kind_of_isCandidate hcandidate, rfl⟩
    exact ⟨_, hm', (sameGoal_finalMember _).candidate.trans hcandidate⟩

lemma candidates_eq (hg : g.Distinct) : candidates g' = candidates g := by
  have horder := h.filter_keys (keys_filter_mem hg) (keys_filter_mem h.linked.distinct)
    fun k _ hk => h.mem_candidates.1 hk
  have hold : (candidates g').filter (· ∈ g.keys) = candidates g' := by
    rw [List.filter_eq_self]
    intro k hk
    obtain ⟨m, hm, -⟩ := Relocation.mem_candidates.1 (h.mem_candidates.1 hk)
    simpa using mem_keys_of_mem hm
  have hall : (candidates g).filter (· ∈ candidates g') = candidates g := by
    rw [List.filter_eq_self]
    intro k hk
    simpa using h.mem_candidates.2 hk
  rw [← hold, ← hall]
  exact horder

/-- An assembly or a namespace lists what stays of its children as before. -/
lemma childrenAt_kept (hg : g.WellLinked) (he : (k, e) ∈ g.entries)
    (hkind : e.kind = .assembly ∨ e.kind = .namespace) :
    (g'.childrenAt k).filter (· ∈ g.keys) = (g.childrenAt k).filter (· ∈ g'.keys) := by
  obtain ⟨extra, hx, hnew⟩ := h.above he hkind
  have hextra : extra.filter (· ∈ g.keys) = [] := by
    rw [List.filter_eq_nil_iff]
    intro i hi
    simpa using hnew i hi
  rw [childrenAt_of_mem h.linked.distinct hx, childrenAt_of_mem hg.distinct he,
    Entity.childIds_withChildren, List.filter_append, hextra, List.append_nil, List.filter_eq_self]
  intro i hi
  simpa using hg.mem_keys_of_listed he (List.mem_of_mem_filter hi)

/-- A namespace that is new lists nothing that was there before. -/
lemma childrenAt_new (hg : g.Sound) (hx : (k, x) ∈ g'.entries) (hnew : k ∉ g.keys)
    (hkind : x.kind = .assembly ∨ x.kind = .namespace) :
    (g'.childrenAt k).filter (· ∈ g.keys) = [] := by
  rw [childrenAt_of_mem h.linked.distinct hx, List.filter_eq_nil_iff]
  intro i hi hold
  obtain ⟨c', hc', hckind', hholder'⟩ := h.linked.child hx hi
  obtain ⟨c, hc⟩ := mem_keys.1 (by simpa using hold)
  have hckind := h.kind_kept hc hc'
  rw [hckind] at hckind'
  have hset : c.HasParent := by
    refine hg.rooted hc ?_
    intro hassembly
    rw [hassembly] at hckind'
    cases hckind'
  obtain ⟨pk, p, hp, hholder, hlisted⟩ := hg.linked.parent hc hset
  have hpkind := hg.linked.parentKind hp hc hholder
  rw [hckind', Option.some.injEq] at hpkind
  -- The parent of before still lists the child, so it is its parent in the end.
  obtain ⟨extra, hp', -⟩ := h.above hp (by rwa [← hpkind])
  have hlisted' : i ∈ (p.withChildren (p.childIds.filter (· ∈ g'.keys) ++ extra)).childIds := by
    simp [hlisted, mem_keys_of_mem hc']
  have hholder := (h.linked.listed_iff hp' hc').1 hlisted'
  rw [hholder', Option.some.injEq] at hholder
  rw [hholder] at hnew
  exact hnew (mem_keys_of_mem hp)

/-- The assemblies, namespaces and types that stay are listed in the order of before. -/
lemma layer_order (hg : g.Sound) {d : Nat} (hd : d ≤ 2) :
    (g'.layer d).filter (· ∈ g.keys) = (g.layer d).filter (· ∈ g'.keys) := by
  have hhigh : ∀ {kind : EntityKind}, kind.depth < 2 → kind = .assembly ∨ kind = .namespace := by
    intro kind hlt
    cases kind <;> simp_all [EntityKind.depth]
  induction d with
  | zero => rw [layer_zero, layer_zero, h.keysAt_order hg.linked.distinct, h.filter_keysAt]
  | succ d ih =>
    have hstay : (g.layer d).filter (· ∈ g'.keys) = g.layer d := by
      rw [List.filter_eq_self]
      intro k hk
      obtain ⟨e, he, hdepth⟩ := exists_of_mem_layer hg.linked hk
      obtain ⟨extra, hx, -⟩ := h.above he (hhigh (by omega))
      simpa using mem_keys_of_mem hx
    have hnil : ∀ k ∈ g'.layer d, decide (k ∈ g.keys) = false →
        (g'.childrenAt k).filter (· ∈ g.keys) = [] := by
      intro k hk hnew
      obtain ⟨x, hx, hdepth⟩ := exists_of_mem_layer h.linked hk
      exact h.childrenAt_new hg hx (by simpa using hnew) (hhigh (by omega))
    rw [layer, layer, List.filter_flatMap, List.filter_flatMap, ← flatMap_filter_of_nil hnil,
      ih (by omega), hstay]
    refine List.flatMap_congr ?_
    intro k hk
    obtain ⟨e, he, hdepth⟩ := exists_of_mem_layer hg.linked hk
    exact h.childrenAt_kept hg.linked he (hhigh (by omega))

end Relocates

end Relocation

open Relocation in
/-- A second relocation of a graph that has been read changes nothing, if type names and extended
types are texts, the names that extension members look for are not changed by another normalization,
and no type and no member has the undefined number for its id. -/
theorem Graph.relocate_idempotent (config : Config) {data : Value} {g : Graph}
    (hread : Graph.ofValue data = .ok g) (htypes : HasTextNames g) (hspelled : HasTextTargets g)
    (hdefined : HasDefinedIds g) (hfixed : HasFixedTargets g) :
    SettlesAtOnce config g := by
  have hreading := reading_of_ofValue hread
  have hg := hreading.sound
  obtain ⟨created, base, p, ids, events, hrun, hnodup, hlost, hrelocate, hlinked⟩ :=
    relocate_eq config hg.linked hg.contains_null hdefined.candidates htypes hspelled
  have h := hrun.relocates hdefined hlost hg hnodup hlinked
  obtain ⟨hsound, hdefined'⟩ := relocate_sound config hg hdefined
  rw [hrelocate] at hsound hdefined'
  refine ⟨_, _, events, hrelocate, ?_, ?_⟩
  · have hagain := h.relocate_again hg hfixed (.refl hsound) (h.keysAt_order hg.linked.distinct 2)
      hdefined' htypes hspelled
    rwa [h.candidates_eq hg.linked.distinct, ← h.skipped] at hagain
  · intro v g₂ hdump hload
    have hnamed := hasTypeNames_of_reload hsound hdump hload
    obtain ⟨v', hdump', hload'⟩ := ofValue_dump hsound hnamed
    obtain rfl := Except.ok.inj (hdump.symm.trans hdump')
    obtain rfl := Except.ok.inj (hload.symm.trans hload')
    have hmirrors := mirrors_reloaded hsound hnamed
    have horder := h.layer_order hg (Nat.le_refl 2)
    rw [← layer_reloaded hsound hnamed, (reading_reloaded hsound hnamed).ordered,
      hreading.ordered, ← h.filter_keysAt] at horder
    obtain ⟨events', hagain⟩ :=
      h.relocate_again hg hfixed hmirrors horder hdefined' htypes hspelled
    refine ⟨_, events', hagain, ?_⟩
    rw [h.skipped, ← h.candidates_eq hg.linked.distinct]
    exact ((hmirrors.candidates_perm hsound.linked.distinct).filter _).map _

namespace Graph

open Relocation

/-- The member `x` goes to a type, `y` to a placeholder, and the type that they leave goes. -/
theorem relocate_idempotent_of_extension :
    SettlesAtOnce {} (extensionGraph [] [.map [(.text "name".toList, .text ['y']),
      (.text "extension".toList, .bool true), (.text "extends".toList, .text "M.U".toList)]]) :=
  relocate_idempotent {}
    (show ofValue (extensionFile [] [.map [(.text "name".toList, .text ['y']),
      (.text "extension".toList, .bool true), (.text "extends".toList, .text "M.U".toList)]]) =
        .ok _ from rfl)
    (by decide +kernel) (by decide +kernel) (by decide +kernel) (by decide +kernel)

/-- A graph file in which a member extends its own type, which has the undefined number for its
id. -/
def selfExtensionFile : Value :=
  let record := fun fields : List (String × Value) =>
    Value.map (fields.map fun y => (.text y.1.toList, y.2))
  let member := record [("name", .text ['x']), ("extension", .bool true),
    ("extends", .text "N.T".toList)]
  let type := record [("name", .text ['T']), ("id", .scalar (.double .nan)),
    ("members", .list [member])]
  record [("assemblies", .list [record [("name", .text ['A']),
    ("namespaces", .list [record [("name", .text ['N']), ("types", .list [type])]])]])]

/-- A member is moved over and over to a type that has the undefined number for its id. -/
theorem not_settles_of_undefined :
    let g := (ofValue selfExtensionFile).toOption.getD empty
    ofValue selfExtensionFile = .ok g ∧ HasTextNames g ∧ HasTextTargets g ∧ HasFixedTargets g ∧
      ¬SettlesAtOnce {} g := by
  intro g
  refine ⟨rfl, by decide +kernel, by decide +kernel, by decide +kernel, ?_⟩
  rintro ⟨g', r, events, heq, ⟨events', hagain⟩, -⟩
  have hg' : (g.relocate {}).graph = g' := by rw [heq]
  have hmoved : ((g.relocate {}).graph.relocate {}).outcome.toOption.map (·.1.relocated) =
      some 1 := by
    decide +kernel
  rw [hg', hagain] at hmoved
  cases hmoved

end Graph

end LinkedDocs
