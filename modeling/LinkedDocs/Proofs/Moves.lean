import LinkedDocs.Graph.Relocation
import LinkedDocs.Proofs.Removal
import LinkedDocs.Proofs.Results

/-!
# Moving a member

What placing a member does in a well linked graph: a member that its target lists already stays,
any other one is taken from the list that has it, put at the end of the target's list, and given
the target for its parent. Either way the graph stays well linked. The id of the member must not be
the undefined number, which a list cannot lose.
-/

namespace LinkedDocs

/-- Whether the scalar is the undefined number. -/
def Scalar.isUndefined (s : Scalar) : Bool :=
  (Value.scalar s).isUndefined

lemma Value.equals_scalar {a b : Scalar} :
    (Value.scalar a).equals (.scalar b) = (!a.isUndefined && a.same b) := by
  simp [equals, Scalar.isUndefined, same, untied]

namespace Graph

variable {g : Graph} {k j mk tk : Scalar} {e x m t : Entity}

/-! ### Owners -/

lemma filter_entries_singleton (h : g.Distinct) (he : (k, e) ∈ g.entries)
    {q : Scalar × Entity → Bool} (hq : ∀ y ∈ g.entries, q y = true ↔ y.1 = k) :
    g.entries.filter q = [(k, e)] := by
  have hfilter : g.entries.filter q = g.entries.filter (·.1 = k) := by
    refine List.filter_congr ?_
    intro y hy
    rw [Bool.eq_iff_iff, hq y hy]
    simp
  have hkeys : (g.entries.filter (·.1 = k)).map (·.1) = [k] := by
    have hcount := List.count_eq_one_of_mem h.nodup (mem_keys_of_mem he)
    have hmap : (g.entries.filter (·.1 = k)).map (·.1) = g.keys.filter (· = k) := by
      simp [keys, List.filter_map, Function.comp_def]
    rw [hmap, List.filter_eq, hcount]
    rfl
  rw [hfilter]
  obtain ⟨y, hy, hyk⟩ := List.map_eq_singleton_iff.1 hkeys
  have hmem : (k, e) ∈ g.entries.filter (·.1 = k) := by simp [he]
  rw [hy, List.mem_singleton] at hmem
  rw [hy, hmem]

lemma ownersOf_eq (h : g.WellLinked) (hk : k ∈ g.keys) :
    g.ownersOf (.scalar k) =
      .ok (g.entries.filter fun y => y.2.kind = .type && decide (k ∈ y.2.childIds)) := by
  have hhas : ∀ y ∈ g.entries.filter (·.2.kind = .type),
      y.2.children.has (.scalar k) = .ok (decide (k ∈ y.2.childIds)) := by
    intro y hy
    have hy := List.mem_of_mem_filter hy
    rw [h.lists hy, has_scalar]
    have hiff := hasId_iff h.distinct (fun i hi => h.mem_keys_of_listed hy hi) hk
    congr 1
    rw [Bool.eq_iff_iff, hiff]
    simp
  rw [ownersOf, filterM_eq_ok hhas, List.filter_filter]
  congr 2
  funext y
  exact Bool.and_comm _ _

/-- The owners of a member are the type it has for its parent. -/
lemma ownersOf_member (h : g.WellLinked) (hm : (mk, m) ∈ g.entries) (hkind : m.kind = .member) :
    ∃ owners, g.ownersOf (.scalar mk) = .ok owners ∧
      ((m.holder? = none ∧ owners = []) ∨
        ∃ pk p, m.holder? = some pk ∧ (pk, p) ∈ g.entries ∧ owners = [(pk, p)]) := by
  refine ⟨_, ownersOf_eq h (mem_keys_of_mem hm), ?_⟩
  cases hholder : m.holder? with
  | none =>
    refine .inl ⟨rfl, ?_⟩
    rw [List.filter_eq_nil_iff]
    rintro ⟨i, y⟩ hy
    simp [h.listed_iff hy hm, hholder]
  | some pk =>
    obtain ⟨p, hp, -, hpkind⟩ := h.exists_parent hm hholder
    refine .inr ⟨pk, p, rfl, hp, filter_entries_singleton h.distinct hp ?_⟩
    rintro ⟨i, y⟩ hy
    have hlisted := h.listed_iff hy hm
    rw [hholder] at hlisted
    simp only [Bool.and_eq_true, decide_eq_true_eq, hlisted, Option.some.injEq]
    constructor
    · rintro ⟨-, rfl⟩
      rfl
    · rintro rfl
      rw [h.distinct.entity_unique hy hp]
      rw [hkind] at hpkind
      exact ⟨(Option.some.inj hpkind).symm, rfl⟩

/-! ### The graph after a move -/

/-- The graph with a member moved to the end of a type's list. -/
def transfer (g : Graph) (mk tk : Scalar) : Graph :=
  g.mapEntries fun j x =>
    if j = mk then Relocation.rehomed x (.scalar tk)
    else if j = tk then (x.losing mk).withChildren ((x.losing mk).childIds ++ [mk])
    else x.losing mk

end Graph

namespace Relocation

variable {m : Entity} {v : Value}

@[simp] lemma id_rehomed : (rehomed m v).id = m.id := by
  unfold rehomed
  split <;> rfl

@[simp] lemma kind_rehomed : (rehomed m v).kind = m.kind := by
  unfold rehomed
  split
  case h_1 hdetail => simp [Entity.kind, hdetail, Detail.kind]
  case h_2 => rfl

@[simp] lemma children_rehomed : (rehomed m v).children = m.children := by
  unfold rehomed
  split <;> rfl

@[simp] lemma childIds_rehomed : (rehomed m v).childIds = m.childIds := by
  simp [Entity.childIds]

lemma exists_detail (h : m.kind = .member) :
    ∃ kind declaring isExtension extended,
      m.detail = .member kind declaring isExtension extended := by
  cases hd : m.detail with
  | member kind declaring isExtension extended => exact ⟨_, _, _, _, rfl⟩
  | _ =>
    rw [Entity.kind, hd] at h
    cases h

lemma parent_rehomed (h : m.kind = .member) : (rehomed m v).parent = v := by
  obtain ⟨kind, declaring, isExtension, extended, hd⟩ := exists_detail h
  simp [rehomed, hd]

lemma holder?_rehomed {s : Scalar} (h : m.kind = .member) (hs : s ≠ .null) :
    (rehomed m (.scalar s)).holder? = some s := by
  rw [Entity.holder?_eq_some, kind_rehomed, parent_rehomed h, h]
  exact ⟨rfl, rfl, hs⟩

end Relocation

namespace Graph

variable {g : Graph} {k j mk tk : Scalar} {e x m t : Entity}

lemma mem_transfer : (j, x) ∈ (g.transfer mk tk).entries ↔ ∃ y, (j, y) ∈ g.entries ∧
    x = if j = mk then Relocation.rehomed y (.scalar tk)
      else if j = tk then (y.losing mk).withChildren ((y.losing mk).childIds ++ [mk])
      else y.losing mk :=
  mem_mapEntries

lemma mem_transfer_member (hm : (mk, m) ∈ g.entries) :
    (mk, Relocation.rehomed m (.scalar tk)) ∈ (g.transfer mk tk).entries :=
  mem_transfer.2 ⟨m, hm, (if_pos rfl).symm⟩

lemma mem_transfer_target (ht : (tk, t) ∈ g.entries) (hne : tk ≠ mk) :
    (tk, (t.losing mk).withChildren ((t.losing mk).childIds ++ [mk])) ∈
      (g.transfer mk tk).entries :=
  mem_transfer.2 ⟨t, ht, by rw [if_neg hne, if_pos rfl]⟩

lemma mem_transfer_other (hx : (j, x) ∈ g.entries) (hmk : j ≠ mk) (htk : j ≠ tk) :
    (j, x.losing mk) ∈ (g.transfer mk tk).entries :=
  mem_transfer.2 ⟨x, hx, by rw [if_neg hmk, if_neg htk]⟩

section

variable (h : g.WellLinked) (hm : (mk, m) ∈ g.entries) (hmkind : m.kind = .member)
  (ht : (tk, t) ∈ g.entries) (htkind : t.kind = .type) (hnull : tk ≠ .null)

/-- Another entity than the member that is moved keeps its kind, its parent, and its children but
for the member. -/
lemma transfer_kept (hx : (j, x) ∈ g.entries) (hj : j ≠ mk) :
    ∃ x', (j, x') ∈ (g.transfer mk tk).entries ∧ x'.kind = x.kind ∧ x'.holder? = x.holder? ∧
      ∀ a, a ∈ x.childIds → a ≠ mk → a ∈ x'.childIds := by
  by_cases hjtk : j = tk
  · subst hjtk
    refine ⟨_, mem_transfer_target hx hj, by simp, by simp [Entity.holder?], ?_⟩
    intro a ha hamk
    simp [Entity.mem_childIds_losing, ha, hamk]
  · refine ⟨_, mem_transfer_other hx hj hjtk, by simp, by simp, ?_⟩
    intro a ha hamk
    exact Entity.mem_childIds_losing.2 ⟨ha, hamk⟩

include h hm hmkind ht htkind hnull

lemma transfer_child {i : Scalar} (hx : (j, x) ∈ (g.transfer mk tk).entries)
    (hi : i ∈ x.childIds) : ∃ c, (i, c) ∈ (g.transfer mk tk).entries ∧
      c.kind.parentKind? = some x.kind ∧ c.holder? = some j := by
  obtain ⟨y, hy, rfl⟩ := mem_transfer.1 hx
  have hold : i ∈ y.childIds → i ≠ mk → ∃ c, (i, c) ∈ (g.transfer mk tk).entries ∧
      c.kind.parentKind? = some y.kind ∧ c.holder? = some j := by
    intro hmem himk
    obtain ⟨c, hc, hkind, hholder⟩ := h.child hy hmem
    obtain ⟨c', hc', hkind', hholder', -⟩ := transfer_kept hc himk
    exact ⟨c', hc', by rw [hkind', hkind], by rw [hholder', hholder]⟩
  by_cases hjmk : j = mk
  · subst hjmk
    rw [if_pos rfl] at hi ⊢
    rw [Relocation.childIds_rehomed] at hi
    rw [Relocation.kind_rehomed]
    apply hold hi
    rintro rfl
    obtain ⟨c, hc, hkind, -⟩ := h.child hy hi
    rw [h.distinct.entity_unique hc hy] at hkind
    have := EntityKind.height_parentKind hkind
    omega
  · rw [if_neg hjmk] at hi ⊢
    by_cases hjtk : j = tk
    · subst hjtk
      rw [if_pos rfl] at hi ⊢
      simp only [Entity.childIds_withChildren, List.mem_append, Entity.mem_childIds_losing,
        List.mem_singleton] at hi
      simp only [Entity.kind_withChildren, Entity.kind_losing]
      rcases hi with ⟨hmem, himk⟩ | rfl
      · exact hold hmem himk
      · refine ⟨_, mem_transfer_member hm, ?_, Relocation.holder?_rehomed hmkind hnull⟩
        rw [Relocation.kind_rehomed, hmkind, h.distinct.entity_unique hy ht, htkind]
        rfl
    · rw [if_neg hjtk] at hi ⊢
      obtain ⟨hmem, himk⟩ := Entity.mem_childIds_losing.1 hi
      rw [Entity.kind_losing]
      exact hold hmem himk

lemma transfer_parent (hx : (j, x) ∈ (g.transfer mk tk).entries) (hset : x.HasParent) :
    ∃ i p, (i, p) ∈ (g.transfer mk tk).entries ∧ x.holder? = some i ∧ j ∈ p.childIds := by
  obtain ⟨y, hy, rfl⟩ := mem_transfer.1 hx
  by_cases hjmk : j = mk
  · subst hjmk
    rw [if_pos rfl]
    obtain rfl := h.distinct.entity_unique hy hm
    have hne : tk ≠ j := by
      rintro rfl
      rw [h.distinct.entity_unique hm ht, htkind] at hmkind
      cases hmkind
    exact ⟨tk, _, mem_transfer_target ht hne, Relocation.holder?_rehomed hmkind hnull, by simp⟩
  · rw [if_neg hjmk] at hset ⊢
    have hholder : (if j = tk then (y.losing mk).withChildren ((y.losing mk).childIds ++ [mk])
        else y.losing mk).holder? = y.holder? := by
      split <;> simp [Entity.holder?]
    have hset' : y.HasParent := by
      split at hset <;> simpa [Entity.HasParent] using hset
    obtain ⟨i, p, hp, hi, hmem⟩ := h.parent hy hset'
    rw [hholder]
    by_cases himk : i = mk
    · subst himk
      refine ⟨i, _, mem_transfer_member hp, hi, ?_⟩
      rwa [Relocation.childIds_rehomed]
    · obtain ⟨p', hp', -, -, hchildren⟩ := transfer_kept hp himk
      exact ⟨i, p', hp', hi, hchildren j hmem hjmk⟩

/-- Moving a member to a type keeps a graph well linked. -/
theorem WellLinked.transfer : (g.transfer mk tk).WellLinked where
  distinct := h.distinct.mapEntries _
  id_eq hx := by
    obtain ⟨y, hy, rfl⟩ := mem_transfer.1 hx
    have hid := h.id_eq hy
    split
    · simpa using hid
    · split <;> simpa using hid
  lists hx := by
    obtain ⟨y, hy, rfl⟩ := mem_transfer.1 hx
    split
    · simpa using h.lists hy
    · split
      · simp
      · exact Entity.children_losing (h.lists hy)
  nodup hx := by
    obtain ⟨y, hy, rfl⟩ := mem_transfer.1 hx
    split
    · simpa using h.nodup hy
    · split
      · rw [Entity.childIds_withChildren, Entity.childIds_losing]
        refine ((h.nodup hy).filter _).append (List.nodup_singleton mk) ?_
        simp [List.disjoint_singleton]
      · rw [Entity.childIds_losing]
        exact (h.nodup hy).filter _
  child := transfer_child h hm hmkind ht htkind hnull
  parent := transfer_parent h hm hmkind ht htkind hnull

end

end Graph

/-! ### What placing does -/

namespace Relocation

open LinkedDocs.Graph

variable {g : Graph} {mk tk : Scalar} {m t : Entity}

/-- Whether a member is listed by a type that compares as its own. -/
def isSettled (m : Entity) (tk : Scalar) : Bool :=
  m.holder? = some tk && !tk.isUndefined

lemma formerOwners_eq (h : g.WellLinked) (hm : (mk, m) ∈ g.entries) (hmkind : m.kind = .member)
    (ht : (tk, t) ∈ g.entries) :
    ∃ owners, formerOwners g m t = .ok owners ∧
      ((isSettled m tk = true ∧ owners = []) ∨
        (isSettled m tk = false ∧ m.holder? = none ∧ owners = []) ∨
        (isSettled m tk = false ∧
          ∃ pk p, m.holder? = some pk ∧ (pk, p) ∈ g.entries ∧ owners = [(pk, p)])) := by
  obtain ⟨owners, howners, hcases⟩ := ownersOf_member h hm hmkind
  refine ⟨owners.filter fun y => !y.2.id.equals t.id, ?_, ?_⟩
  · rw [formerOwners, h.id_eq hm, howners]
    rfl
  · rcases hcases with ⟨hnone, rfl⟩ | ⟨pk, p, hpk, hp, rfl⟩
    · exact .inr (.inl ⟨by simp [isSettled, hnone], hnone, rfl⟩)
    · have hequals : p.id.equals t.id = (!pk.isUndefined && pk.same tk) := by
        rw [h.id_eq hp, h.id_eq ht, Value.equals_scalar]
      have hsame := h.distinct.same_iff_eq (mem_keys_of_mem hp) (mem_keys_of_mem ht)
      have hsettled : isSettled m tk = p.id.equals t.id := by
        rw [hequals, Bool.eq_iff_iff]
        simp only [isSettled, hpk, Option.some.injEq, Bool.and_eq_true, decide_eq_true_eq,
          Bool.not_eq_eq_eq_not, Bool.not_true, hsame]
        constructor
        · rintro ⟨rfl, hdef⟩
          exact ⟨hdef, rfl⟩
        · rintro ⟨hdef, rfl⟩
          exact ⟨rfl, hdef⟩
      cases hb : isSettled m tk with
      | true =>
        refine .inl ⟨rfl, ?_⟩
        rw [hb] at hsettled
        simp [← hsettled]
      | false =>
        refine .inr (.inr ⟨rfl, pk, p, hpk, hp, ?_⟩)
        rw [hb] at hsettled
        simp [← hsettled]

lemma loseMember_eq (h : g.WellLinked) (hx : (tk, t) ∈ g.entries) (hmk : mk ∈ g.keys)
    (hdef : mk.isUndefined = false) (hmem : mk ∈ t.childIds) :
    loseMember (.scalar mk) t = t.losing mk := by
  have hfilter : t.childIds.filter (fun i => !(Value.scalar i).equals (.scalar mk)) =
      t.childIds.filter (· ≠ mk) := by
    refine List.filter_congr ?_
    intro i hi
    have hsame := h.distinct.same_iff_eq (h.mem_keys_of_listed hx hi) hmk
    rw [Value.equals_scalar]
    by_cases hik : i = mk
    · simp [hik, hdef]
    · have hs := h.distinct.same_eq_false (h.mem_keys_of_listed hx hi) hmk hik
      simp [hik, hs]
  have hitems : t.children.items = .ok (t.childIds.map .scalar) := by
    rw [h.lists hx]
    rfl
  rw [loseMember, hitems, Entity.losing, if_pos hmem, Entity.withChildren, ← hfilter]
  simp [List.filter_map, Function.comp_def]

/-- The former owners lose the member, and no other list has it. -/
lemma loseMembers_eq (h : g.WellLinked) (hm : (mk, m) ∈ g.entries)
    (hdef : mk.isUndefined = false) {owners : List (Scalar × Entity)}
    (howners : (m.holder? = none ∧ owners = []) ∨
      ∃ pk p, m.holder? = some pk ∧ (pk, p) ∈ g.entries ∧ owners = [(pk, p)]) :
    loseMembers g owners (.scalar mk) = g.mapEntries fun _ x => x.losing mk := by
  rcases howners with ⟨hnone, rfl⟩ | ⟨pk, p, hpk, hp, rfl⟩
  · refine (mapEntries_eq_self ?_).symm
    intro i y hy
    apply Entity.losing_of_not_mem
    rw [h.listed_iff hy hm, hnone]
    simp
  · simp only [loseMembers, List.foldl_cons, List.foldl_nil]
    rw [h.distinct.modify_eq (mem_keys_of_mem hp)]
    refine mapEntries_congr ?_
    intro i y hy
    by_cases hi : i = pk
    · subst hi
      rw [if_pos rfl, loseMember_eq h hy (mem_keys_of_mem hm) hdef ((h.listed_iff hy hm).2 hpk)]
    · rw [if_neg hi, Entity.losing_of_not_mem]
      rw [h.listed_iff hy hm, hpk]
      simpa [eq_comm] using hi

/-- Losing a member, listing it and giving it its new parent make up one transfer. -/
lemma modify_modify_losing (h : g.WellLinked) (hm : (mk, m) ∈ g.entries)
    (ht : (tk, t) ∈ g.entries) (hne : tk ≠ mk) :
    (((g.mapEntries fun _ x => x.losing mk).modify tk fun x =>
      { x with children := .list (((t.losing mk).childIds ++ [mk]).map .scalar) }).modify mk
        (rehomed · (.scalar tk))) = g.transfer mk tk := by
  have hd := h.distinct.mapEntries fun _ x => x.losing mk
  have hmk : mk ∈ g.keys := mem_keys_of_mem hm
  have htk : tk ∈ g.keys := mem_keys_of_mem ht
  rw [hd.modify_eq (by simpa using htk), (hd.mapEntries _).modify_eq (by simpa using hmk),
    mapEntries_mapEntries, mapEntries_mapEntries, transfer]
  refine mapEntries_congr ?_
  intro i y hy
  by_cases himk : i = mk
  · subst himk
    rw [if_pos rfl, if_pos rfl, if_neg (Ne.symm hne), Entity.losing_of_not_mem]
    -- No entity lists itself, since its own kind is not the one it holds.
    intro hmem
    obtain ⟨c, hc, hkind, -⟩ := h.child hy hmem
    rw [h.distinct.entity_unique hc hy] at hkind
    have := EntityKind.height_parentKind hkind
    omega
  · rw [if_neg himk, if_neg himk]
    by_cases hitk : i = tk
    · subst hitk
      rw [if_pos rfl, if_pos rfl, h.distinct.entity_unique hy ht]
      rfl
    · rw [if_neg hitk, if_neg hitk]

/-- Placing a member leaves it alone, or transfers it. -/
theorem place_eq {p : Pass} (h : p.graph.WellLinked) (hm : (mk, m) ∈ p.graph.entries)
    (hmkind : m.kind = .member) (ht : (tk, t) ∈ p.graph.entries) (htkind : t.kind = .type)
    (hdef : mk.isUndefined = false) :
    place p mk m tk t = if isSettled m tk then (p, none) else
      ({ p with
        graph := p.graph.transfer mk tk
        losers := appendNew p.losers (m.holder?.toList.map .scalar)
        result := { p.result with relocated := p.result.relocated + 1 }
        events := p.events ++ [.moved m.id t.fullName] }, none) := by
  have hne : tk ≠ mk := by
    rintro rfl
    rw [h.distinct.entity_unique hm ht, htkind] at hmkind
    cases hmkind
  have hmk := mem_keys_of_mem hm
  have hhas : t.children.has (.scalar mk) = .ok (decide (mk ∈ t.childIds)) := by
    rw [h.lists ht, has_scalar]
    have hiff := hasId_iff h.distinct (fun i hi => h.mem_keys_of_listed ht hi) hmk
    congr 1
    rw [Bool.eq_iff_iff, hiff]
    simp
  -- Once the former owners have lost the member, the target gets it at the end of its list.
  have hlist : ∀ owners, loseMembers p.graph owners (.scalar mk) =
      (p.graph.mapEntries fun _ x => x.losing mk) →
      withId (((loseMembers p.graph owners (.scalar mk)).get? tk).getD t).children (.scalar mk) =
        .ok (.list (((t.losing mk).childIds ++ [mk]).map .scalar)) := by
    intro owners howners
    have hd := h.distinct.mapEntries fun _ x => x.losing mk
    have hunlisted : hasId (t.losing mk).childIds mk = false := by
      have hkeys : ∀ i ∈ (t.losing mk).childIds, i ∈ p.graph.keys := by
        intro i hi
        exact h.mem_keys_of_listed ht (Entity.mem_childIds_losing.1 hi).1
      rw [← Bool.not_eq_true, hasId_iff h.distinct hkeys hmk, Entity.mem_childIds_losing]
      simp
    rw [howners, hd.get?_eq (mem_mapEntries_of_mem ht), Option.getD_some,
      Entity.children_losing (h.lists ht)]
    simp [withId, has_scalar, hunlisted, bind, Except.bind, pure, Except.pure, Value.untied]
  obtain ⟨owners, howners, hcases⟩ := formerOwners_eq h hm hmkind ht
  rcases hcases with ⟨hsettled, rfl⟩ | ⟨hsettled, hnone, rfl⟩ | ⟨hsettled, pk, q, hpk, hq, rfl⟩
  · have hmem : mk ∈ t.childIds := by
      rw [h.listed_iff ht hm]
      simp only [isSettled, Bool.and_eq_true, decide_eq_true_eq] at hsettled
      exact hsettled.1
    simp [place, howners, h.id_eq hm, hhas, hmem, hsettled]
  · have hlost := loseMembers_eq h hm hdef (.inl ⟨hnone, rfl⟩)
    have hunlisted : mk ∉ t.childIds := by
      rw [h.listed_iff ht hm, hnone]
      simp
    have hwith := hlist [] hlost
    rw [if_neg (by simp [hsettled]), ← modify_modify_losing h hm ht hne, ← hlost]
    simp only [place, howners, hhas, hunlisted, decide_false, h.id_eq hm, hwith, h.id_eq ht, hnone]
    rfl
  · have hlost := loseMembers_eq h hm hdef (.inr ⟨pk, q, hpk, hq, rfl⟩)
    have hwith := hlist [(pk, q)] hlost
    rw [if_neg (by simp [hsettled]), ← modify_modify_losing h hm ht hne, ← hlost]
    simp only [place, howners, h.id_eq hm, hwith, h.id_eq ht, hpk, List.map_cons, List.map_nil,
      h.id_eq hq, Option.toList_some]

end Relocation

end LinkedDocs
