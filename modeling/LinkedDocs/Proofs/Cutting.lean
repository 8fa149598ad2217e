import Mathlib.Data.List.Basic
import LinkedDocs.Text.Pieces

/-!
# What cutting a text finds

How the pieces of a text follow from what a recogniser does at its places: where it finds nothing
the characters stay, and a find is one piece. The texts of all pieces together are the text.
-/

namespace LinkedDocs.Text

variable {α β σ : Type} {m : Recogniser α} {before : Option Char} {t u rest : Text}

/-- The text of a piece, given the texts of the finds. -/
def Piece.text (source : α → Text) : Piece α → Text
  | .plain c => [c]
  | .found a => source a

def Piece.map (g : α → β) : Piece α → Piece β
  | .plain c => .plain c
  | .found a => .found (g a)

/-- A piece as one character, with a mark for a find. -/
def Piece.seal (mark : Char) : Piece α → Char
  | .plain c => c
  | .found _ => mark

/-- The finds of a recogniser are texts that stand there. -/
def Reads (m : Recogniser α) (source : α → Text) : Prop :=
  ∀ {before t a rest}, m before t = some (a, rest) → t = source a ++ rest

/-! ### Places where something is found -/

lemma lastBefore_append : lastBefore (u ++ rest) rest = u.getLast? := by
  have hlen : (u ++ rest).length - rest.length = u.length := by simp
  rw [lastBefore, hlen, List.take_left]

lemma pieces_cons_of_none {c : Char} (h : m before (c :: t) = none) :
    pieces m before (c :: t) = .plain c :: pieces m (some c) t := by
  rw [pieces, h]

lemma pieces_append_of_found {a : α} (h : m before (u ++ rest) = some (a, rest)) (hne : u ≠ []) :
    pieces m before (u ++ rest) = .found a :: pieces m u.getLast? rest := by
  obtain ⟨c, u', rfl⟩ := List.exists_cons_of_ne_nil hne
  have hlast := @lastBefore_append (c :: u') rest
  rw [List.cons_append] at h hlast ⊢
  rw [pieces, h]
  simp only [List.length_append, Nat.le_add_left, if_true]
  rw [hlast]

lemma getLast?_cons_or (c : Char) (u : Text) :
    (c :: u).getLast?.or before = u.getLast?.or (some c) := by
  rw [List.getLast?_cons]
  cases u.getLast? <;> rfl

/-- A stretch in which nothing is found. -/
lemma pieces_append_of_none
    (h : ∀ a c v, u = a ++ c :: v → m (a.getLast?.or before) (c :: v ++ rest) = none) :
    pieces m before (u ++ rest) = u.map .plain ++ pieces m (u.getLast?.or before) rest := by
  induction u generalizing before with
  | nil => simp
  | cons c u ih =>
    have hfirst : m before (c :: (u ++ rest)) = none := h [] c u rfl
    rw [List.cons_append, pieces_cons_of_none hfirst, getLast?_cons_or, ih]
    · rfl
    · intro a d v hu
      rw [← getLast?_cons_or]
      exact h (c :: a) d v (by rw [hu, List.cons_append])

lemma pieces_eq_map_of_none
    (h : ∀ a c v, t = a ++ c :: v → m (a.getLast?.or before) (c :: v) = none) :
    pieces m before t = t.map .plain := by
  have hpieces := @pieces_append_of_none α m before t [] fun a c v ht => by
    rw [List.append_nil]
    exact h a c v ht
  simpa [pieces] using hpieces

/-- A recogniser whose finds hold a character finds nothing in a text without it. -/
lemma pieces_eq_map_of_not_mem {d : Char} (hm : ∀ {before u x}, m before u = some x → d ∈ u)
    (hd : d ∉ t) : pieces m before t = t.map .plain := by
  refine pieces_eq_map_of_none fun a c v ht => ?_
  rw [← Option.not_isSome_iff_eq_none, Option.isSome_iff_exists]
  rintro ⟨x, hx⟩
  apply hd
  rw [ht]
  exact List.mem_append_right _ (hm hx)

lemma flatMap_pieces {source : α → Text} (hm : Reads m source) :
    (pieces m before t).flatMap (Piece.text source) = t := by
  fun_induction pieces m before t with
  | case1 => rfl
  | case2 before c cs a rest hfound hlen ih =>
    rw [List.flatMap_cons, ih]
    exact (hm hfound).symm
  | case3 before c cs a rest hfound hlen ih =>
    rw [List.flatMap_cons, ih]
    rfl
  | case4 before c cs hnone ih =>
    rw [List.flatMap_cons, ih]
    rfl

/-- A recogniser that goes on behind what it has found leaves no other characters. -/
lemma mem_of_plain_mem (hm : ∀ {before t a rest}, m before t = some (a, rest) → rest <:+ t)
    {c : Char} (h : .plain c ∈ pieces m before t) : c ∈ t := by
  fun_induction pieces m before t with
  | case1 => cases h
  | case2 before d cs a rest hfound hlen ih =>
    have htail : .plain c ∈ pieces m (lastBefore (d :: cs) rest) rest := by simpa using h
    exact (hm hfound).mem (ih htail)
  | case3 before d cs a rest hfound hlen ih =>
    rcases List.mem_cons.1 h with heq | h
    · rw [Piece.plain.inj heq]
      exact List.mem_cons_self
    · exact List.mem_cons_of_mem _ (ih h)
  | case4 before d cs hnone ih =>
    rcases List.mem_cons.1 h with heq | h
    · rw [Piece.plain.inj heq]
      exact List.mem_cons_self
    · exact List.mem_cons_of_mem _ (ih h)

/-- A character that is in no find stays. -/
lemma plain_mem_of_mem {c : Char}
    (hm : ∀ {before t a rest}, m before t = some (a, rest) → ∃ u, t = u ++ rest ∧ c ∉ u)
    (h : c ∈ t) : .plain c ∈ pieces m before t := by
  fun_induction pieces m before t with
  | case1 => cases h
  | case2 before d cs a rest hfound hlen ih =>
    obtain ⟨u, ht, hu⟩ := hm hfound
    rw [ht] at h
    exact List.mem_cons_of_mem _ (ih ((List.mem_append.1 h).resolve_left hu))
  | case3 before d cs a rest hfound hlen ih =>
    rcases List.mem_cons.1 h with rfl | h
    · exact List.mem_cons_self
    · exact List.mem_cons_of_mem _ (ih h)
  | case4 before d cs hnone ih =>
    rcases List.mem_cons.1 h with rfl | h
    · exact List.mem_cons_self
    · exact List.mem_cons_of_mem _ (ih h)

/-- Every find was made at some place. -/
lemma exists_of_found_mem {a : α} (h : .found a ∈ pieces m before t) :
    ∃ place u rest, m place u = some (a, rest) := by
  fun_induction pieces m before t with
  | case1 => cases h
  | case2 before c cs x rest hfound hlen ih =>
    rcases List.mem_cons.1 h with heq | h
    · obtain rfl := Piece.found.inj heq
      exact ⟨before, c :: cs, rest, hfound⟩
    · exact ih h
  | case3 before c cs x rest hfound hlen ih => exact ih (by simpa using h)
  | case4 before c cs hnone ih => exact ih (by simpa using h)

lemma Reads.suffix {source : α → Text} (hm : Reads m source) {before : Option Char} {t rest : Text}
    {a : α} (h : m before t = some (a, rest)) : rest <:+ t :=
  ⟨source a, (hm h).symm⟩

/-! ### Replacing -/

lemma replace_eq_flatMap (image : α → Text) (t : Text) :
    replace m image t = (pieces m none t).flatMap (Piece.text image) :=
  rfl

lemma replace_eq_self (image : α → Text) (h : pieces m none t = t.map .plain) :
    replace m image t = t := by
  rw [replace_eq_flatMap, h, List.flatMap_map]
  exact List.flatMap_singleton' t

/-- What is left when all finds are dropped. -/
lemma replace_nil_sublist
    (hm : ∀ {before t a rest}, m before t = some (a, rest) → rest <:+ t) (t : Text) :
    (replace m (fun _ => []) t).Sublist t := by
  rw [replace_eq_flatMap]
  generalize (none : Option Char) = before
  fun_induction pieces m before t with
  | case1 => exact .refl _
  | case2 before c cs a rest hfound hlen ih => exact ih.trans (hm hfound).sublist
  | case3 before c cs a rest hfound hlen ih => exact ih.cons_cons c
  | case4 before c cs hnone ih => exact ih.cons_cons c

/-- Pieces put together from left to right, with a state passed along. -/
def weave (image : σ → α → Text × σ) : σ → List (Piece α) → Text × σ
  | s, [] => ([], s)
  | s, .plain c :: ps => (c :: (weave image s ps).1, (weave image s ps).2)
  | s, .found a :: ps =>
    ((image s a).1 ++ (weave image (image s a).2 ps).1, (weave image (image s a).2 ps).2)

/-- The parts of the pieces so far, the last first, with one more. -/
def weaveStep (image : σ → α → Text × σ) (y : List Text × σ) : Piece α → List Text × σ
  | .plain c => ([c] :: y.1, y.2)
  | .found a => ((image y.2 a).1 :: y.1, (image y.2 a).2)

lemma foldl_weaveStep (image : σ → α → Text × σ) (y : List Text × σ) (ps : List (Piece α)) :
    (ps.foldl (weaveStep image) y).1.reverse.flatten =
        y.1.reverse.flatten ++ (weave image y.2 ps).1 ∧
      (ps.foldl (weaveStep image) y).2 = (weave image y.2 ps).2 := by
  induction ps generalizing y with
  | nil => simp [weave]
  | cons piece ps ih =>
    obtain ⟨hparts, hlast⟩ := ih (weaveStep image y piece)
    rw [List.foldl_cons, hparts, hlast]
    cases piece <;> simp [weave, weaveStep]

lemma replaceWith_eq_weave (image : σ → α → Text × σ) (s : σ) (t : Text) :
    replaceWith m image s t = weave image s (pieces m none t) := by
  obtain ⟨hparts, hlast⟩ := foldl_weaveStep image ([], s) (pieces m none t)
  exact Prod.ext hparts hlast

lemma weave_map_plain (image : σ → α → Text × σ) (s : σ) (t : Text) :
    weave image s (t.map .plain) = (t, s) := by
  induction t with
  | nil => rfl
  | cons c t ih => simp [weave, ih]

lemma weave_append (image : σ → α → Text × σ) (s : σ) (ps qs : List (Piece α)) :
    weave image s (ps ++ qs) = ((weave image s ps).1 ++ (weave image (weave image s ps).2 qs).1,
      (weave image (weave image s ps).2 qs).2) := by
  induction ps generalizing s with
  | nil => simp [weave]
  | cons piece ps ih => cases piece <;> simp [weave, ih]

lemma replaceWith_eq_self (image : σ → α → Text × σ) (s : σ)
    (h : pieces m none t = t.map .plain) : replaceWith m image s t = (t, s) := by
  rw [replaceWith_eq_weave, h, weave_map_plain]

/-- A text that is one find. -/
lemma replaceWith_of_found {a : α} (image : σ → α → Text × σ) (s : σ)
    (h : m none t = some (a, [])) (hne : t ≠ []) : replaceWith m image s t = image s a := by
  rw [← List.append_nil t] at h
  rw [replaceWith_eq_weave, ← List.append_nil t, pieces_append_of_found h hne, pieces]
  simp [weave]

end LinkedDocs.Text
