import LinkedDocs.Graph.Walk
import Mathlib.Data.List.Nodup
import Mathlib.Data.List.Pairwise
import Mathlib.Data.List.Perm.Subperm

/-!
# Keys and entries of a graph

The entities of a graph stand under keys, in order of addition. This file says what the operations
on entries do to the keys and to the entity under each key, for graphs in which no two keys are the
same, and that fresh ids are free.
-/

namespace LinkedDocs

namespace Scalar

lemma same_iff {a b : Scalar} : a.same b = true ↔ a.key = b.key := by
  simp [same]

/-- The scalar with a key that no number has. -/
def Key.plain? : Key → Option Scalar
  | .null => some .null
  | .text t => some (.text t)
  | _ => none

lemma plain?_numberKey (negative : Bool) (m : Nat) (e : Int) :
    (numberKey negative m e).plain? = none := by
  unfold numberKey
  split <;> rfl

lemma eq_of_plain? {a b : Scalar} (h : a.key.plain? = some b) : a = b := by
  cases a with
  | null => exact Option.some.inj h
  | text t => exact Option.some.inj h
  | bool b => cases b <;> cases h
  | int n =>
    rw [key, plain?_numberKey] at h
    cases h
  | double x =>
    cases x with
    | finite negative m e =>
      rw [key, plain?_numberKey] at h
      cases h
    | nan => cases h
    | infinite negative => cases h
  | date d => cases h
  | moment m => cases h
  | bytes bs => cases h

/-- Only a text is the same key as a text. -/
lemma same_text {a : Scalar} {t : Text} : a.same (.text t) = true ↔ a = .text t := by
  constructor
  · intro h
    apply eq_of_plain?
    rw [same_iff.1 h]
    rfl
  · rintro rfl
    exact same_self _

/-- Only null is the same key as null. -/
lemma same_null {a : Scalar} : a.same .null = true ↔ a = .null := by
  constructor
  · intro h
    apply eq_of_plain?
    rw [same_iff.1 h]
    rfl
  · rintro rfl
    exact same_self _

end Scalar

namespace Graph

variable {g : Graph} {k j s : Scalar} {e x : Entity}

/-- The keys in order of addition. -/
def keys (g : Graph) : List Scalar :=
  g.entries.map (·.1)

/-- No two keys are the same. -/
def Distinct (g : Graph) : Prop :=
  g.keys.Pairwise fun a b => a.same b = false

lemma mem_keys : k ∈ g.keys ↔ ∃ e, (k, e) ∈ g.entries := by
  simp [keys]

lemma mem_keys_of_mem (h : (k, e) ∈ g.entries) : k ∈ g.keys :=
  mem_keys.2 ⟨e, h⟩

lemma contains_iff : g.contains s = true ↔ ∃ k ∈ g.keys, k.same s = true := by
  simp [contains, keys]

lemma contains_eq_false : g.contains s = false ↔ ∀ k ∈ g.keys, k.same s = false := by
  simp [contains, keys]

lemma contains_of_mem (h : k ∈ g.keys) : g.contains k = true :=
  contains_iff.2 ⟨k, h, Scalar.same_self k⟩

lemma exists_of_get? (h : g.get? s = some e) : ∃ k, (k, e) ∈ g.entries ∧ k.same s = true := by
  obtain ⟨⟨k, x⟩, hfind, hx⟩ := Option.map_eq_some_iff.1 h
  obtain rfl : x = e := hx
  have hs := List.find?_some hfind
  exact ⟨k, List.mem_of_find?_eq_some hfind, hs⟩

lemma get?_congr (hs : j.same k = true) : g.get? j = g.get? k := by
  unfold get?
  congr 2
  funext y
  rw [Scalar.same, Scalar.same, Scalar.same_iff.1 hs]

lemma get?_eq_none : g.get? s = none ↔ g.contains s = false := by
  simp [get?, contains]

namespace Distinct

lemma same_eq_false (h : g.Distinct) (hj : j ∈ g.keys) (hk : k ∈ g.keys) (hne : j ≠ k) :
    j.same k = false := by
  have hsymm : Std.Symm fun a b : Scalar => a.same b = false := by
    constructor
    intro a b hab
    rw [Scalar.same_comm]
    exact hab
  exact List.Pairwise.forall h hj hk hne

lemma eq_of_same (h : g.Distinct) (hj : j ∈ g.keys) (hk : k ∈ g.keys)
    (hs : j.same k = true) : j = k := by
  by_contra hne
  rw [h.same_eq_false hj hk hne] at hs
  cases hs

lemma same_iff_eq (h : g.Distinct) (hj : j ∈ g.keys) (hk : k ∈ g.keys) :
    j.same k = true ↔ j = k := by
  constructor
  · exact h.eq_of_same hj hk
  · rintro rfl
    exact Scalar.same_self j

lemma nodup (h : g.Distinct) : g.keys.Nodup := by
  refine h.imp ?_
  rintro a b hab rfl
  rw [Scalar.same_self] at hab
  cases hab

lemma entity_unique (h : g.Distinct) (he : (k, e) ∈ g.entries) (hx : (k, x) ∈ g.entries) :
    e = x := by
  have hinj := List.inj_on_of_nodup_map (f := fun y : Scalar × Entity => y.1) h.nodup he hx rfl
  exact congrArg Prod.snd hinj

lemma get?_eq (h : g.Distinct) (he : (k, e) ∈ g.entries) : g.get? k = some e := by
  cases hget : g.get? k with
  | none =>
    have hfree := get?_eq_none.1 hget
    rw [contains_of_mem (mem_keys_of_mem he)] at hfree
    cases hfree
  | some x =>
    obtain ⟨j, hj, hs⟩ := exists_of_get? hget
    obtain rfl := h.eq_of_same (mem_keys_of_mem hj) (mem_keys_of_mem he) hs
    rw [h.entity_unique hj he]

end Distinct

/-! ### Changes under every key -/

/-- The graph with every entity changed by a function of its key. -/
def mapEntries (g : Graph) (f : Scalar → Entity → Entity) : Graph :=
  { g with entries := g.entries.map fun y => (y.1, f y.1 y.2) }

variable {f f' : Scalar → Entity → Entity}

@[simp] lemma keys_mapEntries : (g.mapEntries f).keys = g.keys := by
  simp [keys, mapEntries, Function.comp_def]

lemma mem_mapEntries :
    (k, e) ∈ (g.mapEntries f).entries ↔ ∃ x, (k, x) ∈ g.entries ∧ e = f k x := by
  simp only [mapEntries, List.mem_map, Prod.mk.injEq, Prod.exists]
  constructor
  · rintro ⟨j, x, hx, rfl, rfl⟩
    exact ⟨x, hx, rfl⟩
  · rintro ⟨x, hx, rfl⟩
    exact ⟨k, x, hx, rfl, rfl⟩

lemma mem_mapEntries_of_mem (h : (k, x) ∈ g.entries) : (k, f k x) ∈ (g.mapEntries f).entries :=
  mem_mapEntries.2 ⟨x, h, rfl⟩

lemma mapEntries_congr (h : ∀ k x, (k, x) ∈ g.entries → f k x = f' k x) :
    g.mapEntries f = g.mapEntries f' := by
  have hmap : (g.entries.map fun y => (y.1, f y.1 y.2)) =
      g.entries.map fun y => (y.1, f' y.1 y.2) := by
    refine List.map_congr_left ?_
    rintro ⟨k, x⟩ hx
    rw [h k x hx]
  simp [mapEntries, hmap]

lemma mapEntries_eq_self (h : ∀ k x, (k, x) ∈ g.entries → f k x = x) : g.mapEntries f = g := by
  have hid : g.mapEntries f = g.mapEntries fun _ x => x := mapEntries_congr h
  rw [hid]
  simp [mapEntries]

lemma mapEntries_mapEntries :
    (g.mapEntries f).mapEntries f' = g.mapEntries fun k x => f' k (f k x) := by
  simp [mapEntries]

lemma Distinct.mapEntries (h : g.Distinct) (f : Scalar → Entity → Entity) :
    (g.mapEntries f).Distinct := by
  rw [Distinct, keys_mapEntries]
  exact h

lemma modify_eq_mapEntries {u : Entity → Entity} :
    g.modify k u = g.mapEntries fun j x => if j.same k then u x else x := rfl

@[simp] lemma keys_modify {u : Entity → Entity} : (g.modify k u).keys = g.keys := by
  rw [modify_eq_mapEntries, keys_mapEntries]

/-- Changing the entity under a key of the graph is a change under that one key. -/
lemma Distinct.modify_eq (h : g.Distinct) (hk : k ∈ g.keys) (u : Entity → Entity) :
    g.modify k u = g.mapEntries fun j x => if j = k then u x else x := by
  have hmap : (g.entries.map fun y => (y.1, if y.1.same k then u y.2 else y.2)) =
      g.entries.map fun y => (y.1, if y.1 = k then u y.2 else y.2) := by
    refine List.map_congr_left ?_
    rintro ⟨j, x⟩ hx
    have hiff := h.same_iff_eq (mem_keys_of_mem hx) hk
    by_cases hjk : j = k
    · simp [hjk]
    · have hs : j.same k = false := h.same_eq_false (mem_keys_of_mem hx) hk hjk
      simp [hjk, hs]
  exact congrArg (fun l => { g with entries := l }) hmap

/-! ### Dropping and adding entries -/

lemma Distinct.erase_entries (h : g.Distinct) (hk : k ∈ g.keys) :
    (g.erase k).entries = g.entries.filter (·.1 ≠ k) := by
  refine List.filter_congr ?_
  rintro ⟨j, x⟩ hx
  by_cases hjk : j = k
  · simp [hjk]
  · simp [hjk, h.same_eq_false (mem_keys_of_mem hx) hk hjk]

/-- The graph with an entry at the end. -/
def push (g : Graph) (k : Scalar) (e : Entity) : Graph :=
  { g with entries := g.entries ++ [(k, e)] }

@[simp] lemma keys_push : (g.push k e).keys = g.keys ++ [k] := by
  simp [push, keys]

lemma mem_push : (j, x) ∈ (g.push k e).entries ↔ (j, x) ∈ g.entries ∨ (j = k ∧ x = e) := by
  simp [push]

lemma Distinct.push (h : g.Distinct) (hfree : g.contains k = false) (e : Entity) :
    (g.push k e).Distinct := by
  rw [Distinct, keys_push, List.pairwise_append]
  refine ⟨h, List.pairwise_singleton _ _, ?_⟩
  intro a ha b hb
  rw [List.mem_singleton.1 hb]
  exact contains_eq_false.1 hfree a ha

/-! ### Fresh ids -/

lemma numberedId_injective (stem : Text) : Function.Injective (numberedId stem) := by
  intro m n h
  simp only [numberedId, Scalar.text.injEq, List.append_cancel_left_eq, List.cons.injEq,
    true_and] at h
  have hdigits := congrArg (fun ds => Nat.ofDigitChars 10 ds 0) h
  simpa [Text.ofNat] using hdigits

lemma contains_numberedId {stem : Text} {n : Nat} :
    g.contains (numberedId stem n) = true ↔ numberedId stem n ∈ g.keys := by
  constructor
  · intro h
    obtain ⟨k, hk, hs⟩ := contains_iff.1 h
    have heq : k = numberedId stem n := Scalar.same_text.1 hs
    rw [← heq]
    exact hk
  · exact contains_of_mem

/-- If the number found is taken, all numbers before it are taken too. -/
lemma taken_of_firstFree_taken {stem : Text} (fuel n : Nat)
    (h : g.contains (numberedId stem (g.firstFree stem fuel n)) = true) :
    ∀ i ≤ fuel, numberedId stem (n + i) ∈ g.keys := by
  induction fuel generalizing n with
  | zero =>
    intro i hi
    obtain rfl : i = 0 := by omega
    exact contains_numberedId.1 h
  | succ fuel ih =>
    rw [firstFree] at h
    by_cases hn : g.contains (numberedId stem n) = true
    · rw [if_pos hn] at h
      intro i hi
      cases i with
      | zero => exact contains_numberedId.1 hn
      | succ i =>
        rw [show n + (i + 1) = n + 1 + i by omega]
        exact ih (n + 1) h i (by omega)
    · rw [if_neg hn] at h
      exact absurd h hn

/-- A fresh id is free: of one number more than there are keys, not all can be taken. -/
theorem freshId_free (g : Graph) (stem : Text) : g.contains (g.freshId stem).1 = false := by
  by_contra hne
  have htaken := taken_of_firstFree_taken g.size (g.issued + 1) (by simpa [freshId] using hne)
  let ids := (List.range (g.size + 1)).map fun i => numberedId stem (g.issued + 1 + i)
  have hnodup : ids.Nodup := by
    refine List.Nodup.map ?_ List.nodup_range
    intro a b hab
    have := numberedId_injective stem hab
    omega
  have hsub : ids ⊆ g.keys := by
    intro id hid
    obtain ⟨i, hi, rfl⟩ := List.mem_map.1 hid
    exact htaken i (by simpa [Nat.lt_succ_iff] using hi)
  have hlen := (List.subperm_of_subset hnodup hsub).length_le
  simp only [ids, keys, size, List.length_map, List.length_range] at hlen
  omega

end Graph

end LinkedDocs
