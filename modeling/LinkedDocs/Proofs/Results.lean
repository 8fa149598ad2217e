import LinkedDocs.Record
import Mathlib.Data.List.Forall2

/-!
# Results of computations that can fail

How a sequence of computations that can fail is taken apart once it is known to have succeeded.
-/

namespace LinkedDocs

variable {α β γ ε : Type}

lemma bind_eq_ok {x : Except ε α} {f : α → Except ε β} {b : β} :
    (x >>= f) = .ok b ↔ ∃ a, x = .ok a ∧ f a = .ok b := by
  cases x <;> simp [bind, Except.bind]

lemma map_eq_ok {x : Except ε α} {f : α → β} {b : β} :
    x.map f = .ok b ↔ ∃ a, x = .ok a ∧ f a = b := by
  cases x <;> simp [Except.map]

lemma expectText_eq_ok {v : Value} {operation t : Text} (h : v.expectText operation = .ok t) :
    v = .text t := by
  unfold Value.expectText at h
  split at h
  · rw [← Except.ok.inj h]
  · cases h
  · cases h

lemma mapM_eq_ok {f : α → Except ε β} {l : List α} {r : List β} :
    l.mapM f = .ok r ↔ List.Forall₂ (fun a b => f a = .ok b) l r := by
  induction l generalizing r with
  | nil => cases r <;> simp [pure, Except.pure]
  | cons a l ih =>
    rw [List.mapM_cons, bind_eq_ok]
    constructor
    · rintro ⟨b, hb, h⟩
      obtain ⟨bs, hbs, h⟩ := bind_eq_ok.1 h
      obtain rfl : b :: bs = r := by simpa [pure, Except.pure] using h
      exact .cons hb (ih.1 hbs)
    · intro h
      cases h with
      | cons hb hbs => exact ⟨_, hb, bind_eq_ok.2 ⟨_, ih.2 hbs, rfl⟩⟩

lemma exists_of_mapM {f : α → Except ε β} {l : List α} {r : List β} (h : l.mapM f = .ok r) {b : β}
    (hb : b ∈ r) : ∃ a ∈ l, f a = .ok b := by
  have hall := mapM_eq_ok.1 h
  clear h
  induction hall with
  | nil => cases hb
  | @cons a b' l r hone _ ih =>
    rcases List.mem_cons.1 hb with rfl | hb
    · exact ⟨a, by simp, hone⟩
    · obtain ⟨a', ha', hone'⟩ := ih hb
      exact ⟨a', by simp [ha'], hone'⟩

lemma ok_of_mapM {f : α → Except ε β} {l : List α} {r : List β} (h : l.mapM f = .ok r) {a : α}
    (ha : a ∈ l) : ∃ b, f a = .ok b := by
  have hall := mapM_eq_ok.1 h
  clear h
  induction hall with
  | nil => cases ha
  | @cons a' b l r hone _ ih =>
    rcases List.mem_cons.1 ha with rfl | ha
    · exact ⟨b, hone⟩
    · exact ih ha

lemma mapM_eq_ok_map {f : α → Except ε β} {u : α → β} {l : List α}
    (h : ∀ a ∈ l, f a = .ok (u a)) : l.mapM f = .ok (l.map u) := by
  rw [mapM_eq_ok, List.forall₂_map_right_iff, List.forall₂_same]
  exact h

/-- A sequence of computations fails as the first that fails. -/
lemma mapM_ok_or {f : α → Except ε β} {u : α → β} {P : ε → Prop} {l : List α}
    (h : ∀ a ∈ l, f a = .ok (u a) ∨ ∃ e, P e ∧ f a = .error e) :
    l.mapM f = .ok (l.map u) ∨ ∃ e, P e ∧ l.mapM f = .error e := by
  induction l with
  | nil => exact .inl rfl
  | cons a l ih =>
    rw [List.mapM_cons]
    rcases h a (by simp) with ha | ⟨e, he, ha⟩
    · rw [ha]
      rcases ih fun b hb => h b (by simp [hb]) with hl | ⟨e, he, hl⟩
      · exact .inl (by rw [hl]; rfl)
      · exact .inr ⟨e, he, by rw [hl]; rfl⟩
    · exact .inr ⟨e, he, by rw [ha]; rfl⟩

lemma exists_mapM {f : α → Except ε β} {l : List α} (h : ∀ a ∈ l, ∃ b, f a = .ok b) :
    ∃ r, l.mapM f = .ok r := by
  induction l with
  | nil => exact ⟨[], rfl⟩
  | cons a l ih =>
    obtain ⟨b, hb⟩ := h a (by simp)
    obtain ⟨r, hr⟩ := ih fun c hc => h c (by simp [hc])
    exact ⟨b :: r, mapM_eq_ok.2 (.cons hb (mapM_eq_ok.1 hr))⟩

lemma mapM_congr {f f' : α → Except ε β} {l : List α} (h : ∀ a ∈ l, f a = f' a) :
    l.mapM f = l.mapM f' := by
  induction l with
  | nil => rfl
  | cons a l ih => rw [List.mapM_cons, List.mapM_cons, h a (by simp), ih fun b hb => h b (by simp [hb])]

lemma filterAuxM_eq_ok {f : α → Except ε Bool} {q : α → Bool} {l : List α}
    (h : ∀ a ∈ l, f a = .ok (q a)) (acc : List α) :
    List.filterAuxM f l acc = .ok ((l.filter q).reverse ++ acc) := by
  induction l generalizing acc with
  | nil => rfl
  | cons a l ih =>
    have hrest := ih fun b hb => h b (by simp [hb])
    cases hq : q a <;>
      simp [List.filterAuxM, h a (by simp), hq, bind, Except.bind, hrest]

lemma filterM_eq_ok {f : α → Except ε Bool} {q : α → Bool} {l : List α}
    (h : ∀ a ∈ l, f a = .ok (q a)) : l.filterM f = .ok (l.filter q) := by
  simp [List.filterM, filterAuxM_eq_ok h, bind, Except.bind, pure, Except.pure]

lemma eq_ok_of_mapError {δ : Type} {f : ε → δ} {x : Except ε α} {a : α}
    (h : x.mapError f = .ok a) : x = .ok a := by
  cases x with
  | error => cases h
  | ok b => exact congrArg Except.ok (Except.ok.inj h)

lemma eq_ok_of_toOption {x : Except ε α} {a : α} (h : x.toOption = some a) : x = .ok a := by
  cases x with
  | error => cases h
  | ok b => exact congrArg Except.ok (Option.some.inj h)

/-- What every step of a loop keeps holds of its result. -/
lemma foldlM_keeps {f : β → α → Except ε β} {P : β → Prop}
    (hstep : ∀ {b a b'}, P b → f b a = .ok b' → P b') {l : List α} {b b' : β} (hb : P b)
    (h : l.foldlM f b = .ok b') : P b' := by
  induction l generalizing b with
  | nil =>
    obtain rfl : b = b' := by simpa [pure, Except.pure] using h
    exact hb
  | cons a l ih =>
    rw [List.foldlM_cons] at h
    obtain ⟨c, hc, h⟩ := bind_eq_ok.1 h
    exact ih (hstep hb hc) h

/-- Where a loop succeeds, each of its steps does. -/
lemma exists_of_foldlM {f : β → α → Except ε β} {l : List α} {b b' : β}
    (h : l.foldlM f b = .ok b') {a : α} (ha : a ∈ l) : ∃ c c', f c a = .ok c' := by
  induction l generalizing b with
  | nil => cases ha
  | cons x l ih =>
    rw [List.foldlM_cons] at h
    obtain ⟨c, hc, h⟩ := bind_eq_ok.1 h
    rcases List.mem_cons.1 ha with rfl | ha
    · exact ⟨b, c, hc⟩
    · exact ih h ha

end LinkedDocs
