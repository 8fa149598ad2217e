import Mathlib.Data.List.Chain
import LinkedDocs.Markup.Code
import LinkedDocs.Proofs.CodeRegions

/-!
# Documents

A document is a text in parts: characters, code spans and fenced blocks. If its parts stand apart,
the recognisers find in its text just the blocks, and outside the blocks just the spans.
-/

namespace LinkedDocs.Markup

open Text

/-- The text is one fenced block that is not to be passed on as it is. -/
def IsBlock (t : Text) : Prop :=
  ((fence none t).any fun (f, rest) => rest.isEmpty && !isVerbatim f.language) = true

instance : DecidablePred IsBlock :=
  fun _ => inferInstanceAs (Decidable (_ = true))

lemma isBlock_iff {t : Text} :
    IsBlock t ↔ ∃ f, fence none t = some (f, []) ∧ isVerbatim f.language = false := by
  unfold IsBlock
  cases fence none t with
  | none => simp
  | some y =>
    obtain ⟨f, rest⟩ := y
    simp only [Option.any_some, Bool.and_eq_true, List.isEmpty_iff, Bool.not_eq_true',
      Option.some.injEq, Prod.mk.injEq]
    constructor
    · rintro ⟨rfl, hf⟩
      exact ⟨f, ⟨rfl, rfl⟩, hf⟩
    · rintro ⟨_, ⟨rfl, rfl⟩, hf⟩
      exact ⟨rfl, hf⟩

/-- A part of a document. -/
inductive Part where
  | char (c : Char)
  | span (t : Text)
  | block (t : Text)
deriving DecidableEq, Repr

namespace Part

def text : Part → Text
  | .char c => [c]
  | .span t => t
  | .block t => t

def isSpan : Part → Bool
  | .span _ => true
  | _ => false

def isBlock : Part → Bool
  | .block _ => true
  | _ => false

/-- Code parts are what they are said to be, spans have no more than two backticks around them, and
other backticks there are none. -/
def Sound : Part → Prop
  | .char c => c ≠ '`'
  | .span t => IsSpan t ∧ tickRun t < 3
  | .block t => IsBlock t

instance : DecidablePred Sound
  | .char c => inferInstanceAs (Decidable (c ≠ '`'))
  | .span t => inferInstanceAs (Decidable (IsSpan t ∧ tickRun t < 3))
  | .block t => inferInstanceAs (Decidable (IsBlock t))

/-- A part that is no angle bracket. -/
def Clean : Part → Prop
  | .char c => c ≠ '<' ∧ c ≠ '>'
  | _ => True

instance : DecidablePred Clean
  | .char c => inferInstanceAs (Decidable (c ≠ '<' ∧ c ≠ '>'))
  | .span _ => .isTrue trivial
  | .block _ => .isTrue trivial

/-- A block has its lines for itself, and two spans do not touch. -/
def Fits (p q : Part) : Prop :=
  (p.isBlock → q = .char '\n') ∧ (q.isBlock → p = .char '\n') ∧ ¬(p.isSpan ∧ q.isSpan)

instance : DecidableRel Fits :=
  fun p q => inferInstanceAs (Decidable ((p.isBlock → q = .char '\n') ∧
    (q.isBlock → p = .char '\n') ∧ ¬(p.isSpan ∧ q.isSpan)))

end Part

/-- The text of a document. -/
def flat (d : List Part) : Text :=
  d.flatMap Part.text

@[simp] lemma flat_nil : flat [] = [] := rfl

@[simp] lemma flat_cons (p : Part) (d : List Part) : flat (p :: d) = p.text ++ flat d := rfl

@[simp] lemma flat_append (d e : List Part) : flat (d ++ e) = flat d ++ flat e :=
  List.flatMap_append

@[simp] lemma flat_map_char (t : Text) : flat (t.map .char) = t := by
  rw [flat, List.flatMap_map]
  exact List.flatMap_singleton' t

/-- A document whose parts can be told apart in its text. -/
structure Apart (d : List Part) : Prop where
  sound : ∀ p ∈ d, p.Sound
  fits : d.IsChain Part.Fits

instance : DecidablePred Apart := fun d =>
  decidable_of_iff ((∀ p ∈ d, p.Sound) ∧ d.IsChain Part.Fits)
    ⟨fun h => ⟨h.1, h.2⟩, fun h => ⟨h.sound, h.fits⟩⟩

variable {d : List Part} {p : Part} {before : Option Char} {β : Type}

lemma Apart.tail (h : Apart (p :: d)) : Apart d :=
  ⟨fun q hq => h.sound q (List.mem_cons_of_mem _ hq), (List.isChain_cons.1 h.fits).2⟩

lemma Apart.next (h : Apart (p :: d)) {q : Part} (hq : d.head? = some q) : p.Fits q :=
  (List.isChain_cons.1 h.fits).1 q hq

/-! ### Blocks -/

/-- A block is followed by a line end. -/
lemma Apart.endsLine {t : Text} (h : Apart (.block t :: d)) : EndsLine (flat d) := by
  cases d with
  | nil => exact .inl rfl
  | cons q d =>
    have hq : q = .char '\n' := (h.next rfl).1 rfl
    rw [hq]
    exact .inr rfl

/-- Where a document does not begin with a block, no marker of a fence begins. -/
lemma Apart.afterMarker? (h : Apart d) (hhead : ∀ t, d.head? ≠ some (.block t)) :
    Markup.afterMarker? (flat d) = none := by
  induction d with
  | nil => rfl
  | cons p d ih =>
    cases p with
    | block t => exact absurd rfl (hhead t)
    | span t =>
      obtain ⟨hspan, hshort⟩ : IsSpan t ∧ tickRun t < 3 := h.sound _ List.mem_cons_self
      exact hspan.afterMarker? hshort
    | char c =>
      have hc : c ≠ '`' := h.sound _ List.mem_cons_self
      by_cases hindent : isIndent c = true
      · have hnext : ∀ t, d.head? ≠ some (.block t) := by
          intro t ht
          have hnl : Part.char c = .char '\n' := (h.next ht).2.1 rfl
          obtain rfl := Part.char.inj hnl
          exact absurd hindent (by decide)
        have hdrop : (flat (.char c :: d)).dropWhile isIndent = (flat d).dropWhile isIndent :=
          List.dropWhile_cons_of_pos hindent
        have htail := ih h.tail hnext
        unfold Markup.afterMarker? at htail ⊢
        rwa [hdrop]
      · have hdrop : (flat (.char c :: d)).dropWhile isIndent = c :: flat d :=
          List.dropWhile_cons_of_neg hindent
        unfold Markup.afterMarker?
        rw [hdrop]
        split
        case h_1 heq => exact absurd (List.cons.inj heq).1 hc
        · rfl

/-- Something holds of the text from every place outside the blocks on. -/
def FromPlaces (Q : Text → Prop) : List Part → Prop
  | [] => True
  | p :: d => (p.isBlock = false → ∀ a c v, p.text = a ++ c :: v → Q (c :: v ++ flat d)) ∧
    FromPlaces Q d

lemma fromPlaces_true (d : List Part) : FromPlaces (fun _ => True) d := by
  induction d with
  | nil => trivial
  | cons p d ih => exact ⟨fun _ _ _ _ _ => trivial, ih⟩

/-- What a recogniser of fences finds in a part. -/
def regionPieces (image : Fence → β) : Part → List (Piece β)
  | .char c => [.plain c]
  | .span t => t.map .plain
  | .block t => ((fence none t).map fun y => .found (image y.1)).toList

/-- A recogniser that finds the fences, and nothing else in the places outside of blocks, finds the
blocks of a document. -/
lemma Apart.pieces_regions {m : Recogniser β} {image : Fence → β} {Q : Text → Prop}
    (hfound : ∀ {before t f rest}, fence before t = some (f, rest) →
      m before t = some (image f, rest))
    (hnone : ∀ {before t}, fence before t = none → Q t → m before t = none)
    (h : Apart d) (hplaces : FromPlaces Q d)
    (hbefore : ∀ t, d.head? = some (.block t) → before = none ∨ before = some '\n') :
    pieces m before (flat d) = d.flatMap (regionPieces image) := by
  induction d generalizing before with
  | nil => rw [flat_nil, pieces, List.flatMap_nil]
  | cons p d ih =>
    obtain ⟨hfirst, hplaces⟩ := hplaces
    cases p with
    | block t =>
      obtain ⟨f, hf, -⟩ := isBlock_iff.1 (h.sound _ List.mem_cons_self)
      have hne : t ≠ [] := by
        rintro rfl
        cases hf
      have hregion := hfound (fence_append hf (hbefore t rfl) h.endsLine).1
      rw [flat_cons, Part.text, pieces_append_of_found hregion hne, ih h.tail hplaces]
      · simp [regionPieces, hf]
      · intro t' ht'
        exact absurd ((h.next ht').1 rfl) (by simp)
    | span t =>
      obtain ⟨hspan, -⟩ : IsSpan t ∧ tickRun t < 3 := h.sound _ List.mem_cons_self
      rw [flat_cons, Part.text, pieces_append_of_none, ih h.tail hplaces]
      · rfl
      · intro t' ht'
        exact absurd ((h.next ht').2.1 rfl) (by simp)
      · intro a c v ht
        refine hnone ?_ (hfirst rfl a c v ht)
        -- A fence could only begin at the span's first place.
        cases ha : a.getLast? with
        | none =>
          obtain rfl := List.getLast?_eq_none_iff.1 ha
          rw [← List.nil_append (c :: v), ← ht]
          exact fence_of_afterMarker? (h.afterMarker? (by simp))
        | some x =>
          refine fence_of_not_lineStart fun hx => hspan.line.1 ?_
          rw [ht, ← hx]
          exact List.mem_append_left _ (List.mem_of_getLast? ha)
    | char c =>
      have hfence : fence before (c :: flat d) = none :=
        fence_of_afterMarker? (h.afterMarker? (by simp))
      rw [flat_cons, Part.text, List.singleton_append,
        pieces_cons_of_none (hnone hfence (hfirst rfl [] c [] rfl)), ih h.tail hplaces]
      · rfl
      · intro t ht
        have hnl : Part.char c = .char '\n' := (h.next ht).2.1 rfl
        exact .inr (congrArg some (Part.char.inj hnl))

/-! ### Spans -/

/-- What the recogniser of code spans finds in a part. -/
def spanPiece : Part → Piece Text
  | .char c => .plain c
  | .span t => .found t
  | .block t => .found t

lemma pieces_codeSpan (hsound : ∀ p ∈ d, p.Sound) (hblocks : ∀ p ∈ d, p.isBlock = false)
    (hspans : d.IsChain fun p q => ¬(p.isSpan ∧ q.isSpan))
    (hbefore : ∀ t, d.head? = some (.span t) → before ≠ some '`') :
    pieces codeSpan before (flat d) = d.map spanPiece := by
  induction d generalizing before with
  | nil => rw [flat_nil, pieces, List.map_nil]
  | cons p d ih =>
    obtain ⟨hnext, hchain⟩ := List.isChain_cons.1 hspans
    have htail {before : Option Char} := @ih before
      (fun q hq => hsound q (List.mem_cons_of_mem _ hq))
      (fun q hq => hblocks q (List.mem_cons_of_mem _ hq)) hchain
    cases p with
    | block t => exact absurd (hblocks _ List.mem_cons_self) (by simp [Part.isBlock])
    | char c =>
      have hc : c ≠ '`' := hsound _ List.mem_cons_self
      have hspan : codeSpan before (c :: flat d) = none := by simp [codeSpan, tickRun, hc]
      rw [flat_cons, Part.text, List.singleton_append, pieces_cons_of_none hspan, htail]
      · rfl
      · intro t _ heq
        exact hc (Option.some.inj heq)
    | span t =>
      obtain ⟨hspan, -⟩ : IsSpan t ∧ tickRun t < 3 := hsound _ List.mem_cons_self
      have hrest : (flat d).head? ≠ some '`' := by
        cases d with
        | nil => simp
        | cons q d =>
          cases q with
          | block t => exact absurd (hblocks (.block t) (by simp)) (by simp [Part.isBlock])
          | span t => exact absurd (hnext _ rfl) (by simp [Part.isSpan])
          | char c =>
            have hc : c ≠ '`' := hsound (.char c) (by simp)
            simpa [Part.text] using hc
      rw [flat_cons, Part.text,
        pieces_append_of_found (codeSpan_append hspan (hbefore t rfl) hrest) hspan.ne_nil, htail]
      · rfl
      · intro t' ht'
        exact absurd (hnext _ ht') (by simp [Part.isSpan])

/-! ### Parts taken out -/

/-- The document with the characters of an image for each part of a kind, the images numbered from
left to right. -/
def redact (kind : Part → Bool) (image : Nat → Text) : Nat → List Part → List Part
  | _, [] => []
  | n, p :: d =>
    if kind p then (image n).map .char ++ redact kind image (n + 1) d
    else p :: redact kind image n d

variable {kind : Part → Bool} {image : Nat → Text} {n : Nat}

/-- What is left of a document are its other parts and the images. -/
lemma mem_redact {q : Part} (h : q ∈ redact kind image n d) :
    (q ∈ d ∧ kind q = false) ∨ ∃ k, ∃ c ∈ image k, q = .char c := by
  induction d generalizing n with
  | nil => cases h
  | cons p d ih =>
    rw [redact] at h
    split at h
    · rcases List.mem_append.1 h with h | h
      · obtain ⟨c, hc, rfl⟩ := List.mem_map.1 h
        exact .inr ⟨n, c, hc, rfl⟩
      · exact (ih h).imp_left fun h => ⟨List.mem_cons_of_mem _ h.1, h.2⟩
    case isFalse hp =>
      rcases List.mem_cons.1 h with rfl | h
      · exact .inl ⟨List.mem_cons_self, by simpa using hp⟩
      · exact (ih h).imp_left fun h => ⟨List.mem_cons_of_mem _ h.1, h.2⟩

/-- A span at the front, with the blocks taken out, was there before. -/
lemma Apart.head?_redact {t : Text} (h : Apart d)
    (ht : (redact Part.isBlock image n d).head? = some (.span t)) : d.head? = some (.span t) := by
  cases d with
  | nil => cases ht
  | cons p d =>
    rw [redact] at ht
    split at ht
    case isTrue hp =>
      cases himage : image n with
      | cons c cs => simp [himage] at ht
      | nil =>
        -- The block has no image, but a line feed comes after it.
        cases d with
        | nil => simp [himage, redact] at ht
        | cons q d =>
          have hq : q = .char '\n' := (h.next rfl).1 hp
          simp [himage, hq, redact, Part.isBlock] at ht
    · exact ht

lemma Apart.isChain_redact (h : Apart d) :
    (redact Part.isBlock image n d).IsChain fun p q => ¬(p.isSpan ∧ q.isSpan) := by
  have hchars (t : Text) (e : List Part) (he : e.IsChain fun p q => ¬(p.isSpan ∧ q.isSpan)) :
      (t.map Part.char ++ e).IsChain fun p q => ¬(p.isSpan ∧ q.isSpan) := by
    induction t with
    | nil => exact he
    | cons c t ih => exact List.isChain_cons.2 ⟨by simp [Part.isSpan], ih⟩
  induction d generalizing n with
  | nil => exact .nil
  | cons p d ih =>
    rw [redact]
    split
    · exact hchars _ _ (ih h.tail)
    · refine List.isChain_cons.2 ⟨?_, ih h.tail⟩
      rintro q hq ⟨hp, hspan⟩
      obtain ⟨t, rfl⟩ : ∃ t, q = .span t := by
        cases q <;> simp_all [Part.isSpan]
      exact (h.next (h.tail.head?_redact hq)).2.2 ⟨hp, rfl⟩

/-- What the recogniser of code spans finds in a document without its blocks. -/
lemma Apart.pieces_codeSpan_redact (h : Apart d) (himage : ∀ k, ∀ c ∈ image k, c ≠ '`') :
    pieces codeSpan none (flat (redact Part.isBlock image n d)) =
      (redact Part.isBlock image n d).map spanPiece := by
  refine pieces_codeSpan ?_ ?_ h.isChain_redact (by simp)
  · intro q hq
    rcases mem_redact hq with ⟨hq, -⟩ | ⟨k, c, hc, rfl⟩
    · exact h.sound q hq
    · exact himage k c hc
  · intro q hq
    rcases mem_redact hq with ⟨-, hq⟩ | ⟨k, c, hc, rfl⟩
    · exact hq
    · rfl

/-! ### The text outside code -/

/-- A text without its fences, and then without its code spans. -/
def outsideCode (t : Text) : Text :=
  replace codeSpan (fun _ => []) (replace fence (fun _ => []) t)

lemma Apart.replace_fence (h : Apart d) :
    replace fence (fun _ => []) (flat d) = flat (redact Part.isBlock (fun _ => []) 0 d) := by
  have hpieces := @Apart.pieces_regions d none Fence fence id (fun _ => True) (fun h => h)
    (fun h _ => h) h (fromPlaces_true d) (by simp)
  rw [replace_eq_flatMap, hpieces]
  have hparts (e : List Part) (n : Nat) (hsound : ∀ p ∈ e, p.Sound) :
      (e.flatMap (regionPieces id)).flatMap (Piece.text fun _ => []) =
        flat (redact Part.isBlock (fun _ => []) n e) := by
    induction e generalizing n with
    | nil => rfl
    | cons p e ih =>
      have htail (n : Nat) := ih n fun q hq => hsound q (List.mem_cons_of_mem _ hq)
      rw [List.flatMap_cons, List.flatMap_append, redact]
      cases p with
      | char c => simp [htail n, regionPieces, Part.isBlock, Part.text, Piece.text]
      | span t =>
        simp [htail n, regionPieces, Part.isBlock, Part.text, Piece.text, List.flatMap_map]
      | block t =>
        obtain ⟨f, hf, -⟩ := isBlock_iff.1 (hsound _ List.mem_cons_self)
        simp [htail (n + 1), regionPieces, Part.isBlock, Piece.text, hf]
  exact hparts d 0 h.sound

/-- Outside code a document has its characters only. -/
theorem Apart.mem_outsideCode (h : Apart d) {c : Char} (hc : c ∈ outsideCode (flat d)) :
    .char c ∈ d := by
  rw [outsideCode, h.replace_fence, replace_eq_flatMap, h.pieces_codeSpan_redact (by simp),
    List.flatMap_map] at hc
  obtain ⟨q, hq, hc⟩ := List.mem_flatMap.1 hc
  rcases mem_redact hq with ⟨hq, hblock⟩ | ⟨k, x, hx, -⟩
  · cases q with
    | char x =>
      obtain rfl : c = x := by simpa [spanPiece, Piece.text] using hc
      exact hq
    | span t => simp [spanPiece, Piece.text] at hc
    | block t => simp [spanPiece, Piece.text] at hc
  · cases hx

end LinkedDocs.Markup
