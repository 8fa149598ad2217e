import LinkedDocs.Proofs.Restoring
import LinkedDocs.Proofs.Tags

/-!
# Documents taken out and put back

The blocks and spans of a document go into a stash as they are, and tokens take their places. A
stash that has them gives the document back.
-/

namespace LinkedDocs.Markup

open Text

variable {t : Text} {d : List Part}

/-- The texts of the parts of a kind. -/
def texts (kind : Part → Bool) (d : List Part) : List Text :=
  (d.filter kind).map Part.text

lemma Apart.pieces_codeRegion (h : Apart d) (hplaces : FromPlaces Quiet d) :
    pieces codeRegion none (flat d) = d.flatMap (regionPieces .fenced) := by
  refine h.pieces_regions ?_ ?_ hplaces (by simp)
  · intro before t f rest hfence
    simp [codeRegion, hfence]
  · intro before t hfence hquiet
    simp [codeRegion, hfence, hquiet.codeElement]

/-- The blocks of a document are stashed as they are. -/
lemma weave_stashCode (language : Text) (s : Stash) (hsound : ∀ p ∈ d, p.Sound) :
    weave (stashCode language) s (d.flatMap (regionPieces .fenced)) =
      (flat (redact Part.isBlock token s.items.length d),
        ⟨s.items ++ texts Part.isBlock d⟩) := by
  induction d generalizing s with
  | nil => simp [weave, redact, texts]
  | cons p d ih =>
    have hrest (s : Stash) := ih s fun q hq => hsound q (List.mem_cons_of_mem _ hq)
    rw [List.flatMap_cons, weave_append]
    cases p with
    | char c => simp [regionPieces, weave, hrest, redact, texts, Part.isBlock, Part.text]
    | span t => simp [regionPieces, weave_map_plain, hrest, redact, texts, Part.isBlock, Part.text]
    | block t =>
      obtain ⟨f, hf, hverbatim⟩ := isBlock_iff.1 (hsound _ List.mem_cons_self)
      have hsource : f.source = t := (fence_append hf (.inl rfl) (.inl rfl)).2
      simp [regionPieces, hf, weave, stashCode, hverbatim, Stash.put, hsource, hrest, redact, texts,
        List.filter_cons, Part.isBlock, Part.text]

lemma weave_put (s : Stash) (hblocks : ∀ p ∈ d, p.isBlock = false) :
    weave Stash.put s (d.map spanPiece) =
      (flat (redact Part.isSpan token s.items.length d), ⟨s.items ++ texts Part.isSpan d⟩) := by
  induction d generalizing s with
  | nil => simp [weave, redact, texts]
  | cons p d ih =>
    have hrest (s : Stash) := ih s fun q hq => hblocks q (List.mem_cons_of_mem _ hq)
    cases p with
    | block t => exact absurd (hblocks _ List.mem_cons_self) (by simp [Part.isBlock])
    | char c => simp [spanPiece, weave, hrest, redact, texts, Part.isSpan, Part.text]
    | span t =>
      simp [spanPiece, weave, Stash.put, hrest, redact, texts, List.filter_cons, Part.isSpan,
        Part.text]

/-- The tokens for the code of a document, with blocks counted from `i` and spans from `j`. -/
def numbered : Nat → Nat → List Part → List (Piece Nat)
  | _, _, [] => []
  | i, j, .char c :: d => .plain c :: numbered i j d
  | i, j, .span _ :: d => .found j :: numbered i (j + 1) d
  | i, j, .block _ :: d => .found i :: numbered (i + 1) j d

variable {i j : Nat}

lemma redact_isSpan_append (image : Nat → Text) (j : Nat) (t : Text) (d : List Part) :
    redact Part.isSpan image j (t.map .char ++ d) =
      t.map .char ++ redact Part.isSpan image j d := by
  induction t with
  | nil => rfl
  | cons c t ih => simpa [redact, Part.isSpan] using ih

lemma flat_redact_redact (i j : Nat) (d : List Part) :
    flat (redact Part.isSpan token j (redact Part.isBlock token i d)) =
      (numbered i j d).flatMap (Piece.text token) := by
  induction d generalizing i j with
  | nil => rfl
  | cons p d ih =>
    cases p with
    | char c => simp [redact, Part.isBlock, Part.isSpan, Part.text, numbered, Piece.text, ih]
    | span t => simp [redact, Part.isBlock, Part.isSpan, numbered, Piece.text, ih]
    | block t => simp [redact, Part.isBlock, redact_isSpan_append, numbered, Piece.text, ih]

lemma texts_isSpan_redact (image : Nat → Text) (n : Nat) (d : List Part) :
    texts Part.isSpan (redact Part.isBlock image n d) = texts Part.isSpan d := by
  induction d generalizing n with
  | nil => rfl
  | cons p d ih =>
    have hchars (t : Text) : (t.map Part.char).filter Part.isSpan = [] := by
      simp [List.filter_eq_nil_iff, Part.isSpan]
    unfold texts at ih ⊢
    cases p <;> simp [redact, List.filter_cons, Part.isBlock, Part.isSpan, hchars, ih]

def Part.slot : Part → Slot
  | .char c => .char c
  | .span t => .stashed t
  | .block t => .stashed t

lemma flatMap_slot (d : List Part) : (d.map Part.slot).flatMap Slot.text = flat d := by
  rw [List.flatMap_map, flat]
  congr 1
  funext p
  cases p <;> rfl

lemma mem_of_numbered {c : Char} (h : .plain c ∈ numbered i j d) : .char c ∈ d := by
  induction d generalizing i j with
  | nil => cases h
  | cons p d ih =>
    cases p <;> simp only [numbered, List.mem_cons, reduceCtorEq, false_or] at h
    case char x =>
      rcases h with h | h
      · rw [Piece.plain.inj h]
        exact List.mem_cons_self
      · exact List.mem_cons_of_mem _ (ih h)
    all_goals exact List.mem_cons_of_mem _ (ih h)

lemma length_texts_le (d : List Part) :
    (texts Part.isBlock d ++ texts Part.isSpan d).length ≤ d.length := by
  induction d with
  | nil => exact Nat.le_refl _
  | cons p d ih =>
    simp only [texts, List.length_append, List.length_map] at ih ⊢
    cases p <;> simp [List.filter_cons, Part.isBlock, Part.isSpan] <;> omega

lemma length_ofNat_le {m n : Nat} (h : m ≤ n) :
    (Text.ofNat m).length ≤ (Text.ofNat n).length := by
  have hpos : 0 < (Text.ofNat n).length := List.length_pos_iff.2 Nat.toDigits_ne_nil
  have hn := (Nat.length_toDigits_le_iff (by decide) hpos).1 (Nat.le_refl _)
  exact (Nat.length_toDigits_le_iff (by decide) hpos).2 (Nat.lt_of_le_of_lt h hn)

lemma Stash.get_ofNat {s : Stash} {n : Nat}
    (hsize : (Text.ofNat s.items.length).length ≤ Numeral.maxDigits)
    (h : s.items[n]? = some t) : s.get (Text.ofNat n) = .ok t := by
  have hn : n < s.items.length := (List.getElem?_eq_some_iff.1 h).1
  have hlen := Nat.le_trans (length_ofNat_le (Nat.le_of_lt hn)) hsize
  rw [Stash.get, if_neg (Nat.not_lt.2 hlen), digitsValue_ofNat, h]

/-- A stash that has the blocks from `i` on and the spans from `j` on gives the document back. -/
lemma slots_numbered {s : Stash} (hsize : (Text.ofNat s.items.length).length ≤ Numeral.maxDigits)
    (hopen : tokenOpen ∉ flat d)
    (hblocks : ∀ n x, (texts Part.isBlock d)[n]? = some x → s.items[i + n]? = some x)
    (hspans : ∀ n x, (texts Part.isSpan d)[n]? = some x → s.items[j + n]? = some x) :
    s.slots ((numbered i j d).flatMap (Piece.text token)) = .ok (d.map Part.slot) := by
  have hplain : ∀ c, .plain c ∈ numbered i j d → c ≠ tokenOpen := by
    rintro c hc rfl
    exact hopen (List.mem_flatMap.2 ⟨_, mem_of_numbered hc, List.mem_singleton.2 rfl⟩)
  rw [Stash.slots, pieces_tokens hplain, List.mapM_map, mapM_eq_ok]
  -- A block or a span moves its own counter on, and with it the place in the stash.
  clear hopen hplain
  induction d generalizing i j with
  | nil => exact .nil
  | cons p d ih =>
    have hshift {k n : Nat} {x y : Text} {xs : List Text}
        (h : ∀ n x, (y :: xs)[n]? = some x → s.items[k + n]? = some x) (hx : xs[n]? = some x) :
        s.items[k + 1 + n]? = some x := by
      have hnext := h (n + 1) x (by simpa using hx)
      rwa [show k + (n + 1) = k + 1 + n by omega] at hnext
    cases p with
    | char c => exact .cons rfl (ih hblocks hspans)
    | span t =>
      have hget : s.get (ofNat j) = .ok t := Stash.get_ofNat hsize (hspans 0 t rfl)
      refine .cons ?_ (ih hblocks fun n x => hshift hspans)
      simp [Stash.slot, Piece.map, hget, Except.map, Part.slot]
    | block t =>
      have hget : s.get (ofNat i) = .ok t := Stash.get_ofNat hsize (hblocks 0 t rfl)
      refine .cons ?_ (ih (fun n x => hshift hblocks) hspans)
      simp [Stash.slot, Piece.map, hget, Except.map, Part.slot]

/-- The stash that has the code of a document, the blocks before the spans. -/
def codeStash (d : List Part) : Stash :=
  ⟨texts Part.isBlock d ++ texts Part.isSpan d⟩

/-- The text of a document with the tokens of that stash for its code. -/
def tokened (d : List Part) : Text :=
  (numbered 0 (texts Part.isBlock d).length d).flatMap (Piece.text token)

lemma slots_tokened (hsize : (Text.ofNat d.length).length ≤ Numeral.maxDigits)
    (hopen : tokenOpen ∉ flat d) : (codeStash d).slots (tokened d) = .ok (d.map Part.slot) := by
  refine slots_numbered (Nat.le_trans (length_ofNat_le (length_texts_le d)) hsize) hopen ?_ ?_
  · intro n x hx
    rw [codeStash, Nat.zero_add, List.getElem?_append_left (List.getElem?_eq_some_iff.1 hx).1, hx]
  · intro n x hx
    rw [codeStash, List.getElem?_append_right (Nat.le_add_right _ _), Nat.add_sub_cancel_left, hx]

end LinkedDocs.Markup
