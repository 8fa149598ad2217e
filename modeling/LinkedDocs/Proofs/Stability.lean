import LinkedDocs.Proofs.Escaping
import LinkedDocs.Proofs.Redaction

/-!
# Rendering a rendered text

Main statement: a rendered text is left as it is by rendering it again, if the texts that were put
back have angle brackets in code only, hold no tag that is taken for a reference or for code, keep
to their lines, and stand apart. Code that ends up within a line is not found again, so the
condition is needed.
-/

namespace LinkedDocs.Markup

open Text

variable {resolver : Resolver} {t : Text} {c : Char} {s : Stash} {l : List Slot} {d : List Part}

/-! ### Layout

Whether a text with tokens is laid out does not depend on what the tokens stand for, so one
character can stand for each. -/

lemma laid_tidy (t : Text) : Laid (tidy t) := by
  refine ⟨?_, trimmed_strip _⟩
  have hcalm := calm_collapseBlankLines (escapeAngles t)
  obtain ⟨u, v, huv⟩ := isInfix_strip (collapseBlankLines (escapeAngles t))
  rw [← huv] at hcalm
  exact hcalm.of_append_left.of_append_right

lemma Laid.tidy_eq (h : Laid t) (hangles : ∀ c ∈ t, c ≠ '<' ∧ c ≠ '>') : tidy t = t := by
  rw [tidy, escapeAngles_eq_self hangles, h.calm.collapseBlankLines, h.trimmed.strip]

lemma inLine_tokenOf {digits : Text} (h : ∀ c ∈ digits, Text.isDigit c = true) :
    InLine (tokenOf digits) := by
  refine ⟨by simp [tokenOf], ?_, ?_, ?_⟩
  · intro hmem
    have hdigit : '\n' ∈ digits := by simpa [tokenOf, tokenOpen, tokenClose] using hmem
    exact absurd (h _ hdigit) (by decide)
  · intro c (hc : some tokenOpen = some c)
    rw [← Option.some.inj hc]
    decide
  · intro c hc
    obtain rfl : tokenClose = c := by simpa [tokenOf, List.getLast?_cons] using hc
    decide

lemma inLine_tokenOpen : InLine [tokenOpen] := by decide

def Slot.seal : Slot → Char
  | .char c => c
  | .stashed _ => tokenOpen

def Part.seal : Part → Char
  | .char c => c
  | .span _ => tokenOpen
  | .block _ => tokenOpen

lemma Stash.map_seal_of_slots (h : s.slots t = .ok l) :
    l.map Slot.seal = (pieces tokenDigits none t).map (Piece.seal tokenOpen) := by
  have hslot (piece : Piece Text) (slot : Slot) (h : s.slot piece = .ok slot) :
      slot.seal = piece.seal tokenOpen := by
    cases piece with
    | plain c =>
      obtain rfl := Except.ok.inj h
      rfl
    | found digits =>
      obtain ⟨item, -, rfl⟩ := map_eq_ok.1 h
      rfl
  have hpieces := mapM_eq_ok.1 h
  clear h
  generalize pieces tokenDigits none t = ps at hpieces ⊢
  induction hpieces with
  | nil => rfl
  | cons hfirst _ ih => rw [List.map_cons, List.map_cons, hslot _ _ hfirst, ih]

lemma Laid.slots (ht : Laid t) (h : s.slots t = .ok l) : Laid (l.map Slot.seal) := by
  rw [Stash.map_seal_of_slots h]
  rw [← @flatMap_pieces _ tokenDigits none t tokenOf reads_tokenDigits] at ht
  refine (laid_flatMap_iff fun piece hpiece => ?_).1 ht
  cases piece with
  | plain c => exact .inl rfl
  | found digits =>
    obtain ⟨_, _, _, hfound⟩ := exists_of_found_mem hpiece
    exact .inr ⟨inLine_tokenOf (tokenDigits_eq_some hfound).2, inLine_tokenOpen⟩

/-- A slot whose text, code apart, is within a line. -/
def Slot.WithinLine : Slot → Prop
  | .char _ => True
  | .stashed t => InLine ((itemParts t).map Part.seal)

instance : DecidablePred Slot.WithinLine
  | .char _ => .isTrue trivial
  | .stashed t => inferInstanceAs (Decidable (InLine ((itemParts t).map Part.seal)))

lemma Laid.parts (hl : Laid (l.map Slot.seal)) (h : ∀ slot ∈ l, slot.WithinLine) :
    Laid ((l.flatMap Slot.parts).map Part.seal) := by
  rw [List.map_flatMap]
  refine (laid_flatMap_iff fun slot hslot => ?_).2 hl
  cases slot with
  | char c => exact .inl rfl
  | stashed t => exact .inr ⟨h _ hslot, inLine_tokenOpen⟩

lemma map_seal_numbered (i j : Nat) (d : List Part) :
    (numbered i j d).map (Piece.seal tokenOpen) = d.map Part.seal := by
  induction d generalizing i j with
  | nil => rfl
  | cons p d ih => cases p <;> simp [numbered, Piece.seal, Part.seal, ih]

lemma Laid.tokened (h : Laid (d.map Part.seal)) : Laid (tokened d) := by
  rw [← map_seal_numbered 0 (texts Part.isBlock d).length d] at h
  refine (laid_flatMap_iff fun piece _ => ?_).2 h
  cases piece with
  | plain c => exact .inl rfl
  | found n => exact .inr ⟨inLine_tokenOf fun c hc => isDigit_of_mem_ofNat hc, inLine_tokenOpen⟩

/-! ### Documents that stay as they are -/

/-- A document that rendering leaves as it is. -/
structure Steady (d : List Part) : Prop extends Apart d where
  unmarked : ∀ c ∈ flat d, c ≠ tokenOpen ∧ c ≠ tokenClose
  clean : ∀ p ∈ d, p.Clean
  inert : ∀ p ∈ d, p.Inert
  laid : Laid (d.map Part.seal)
  /-- The number of every token can be read. -/
  few : (Text.ofNat d.length).length ≤ Numeral.maxDigits

lemma of_mem_token {n : Nat} (h : c ∈ token n) : c ≠ '`' ∧ c ≠ '<' ∧ c ≠ '>' := by
  have hmarks : ([tokenOpen, tokenClose].all fun c => c ≠ '`' ∧ c ≠ '<' ∧ c ≠ '>') = true := by
    decide
  by_cases hdigit : c ∈ Text.ofNat n
  · have hc := isDigit_of_mem_ofNat hdigit
    refine ⟨?_, ?_, ?_⟩ <;> rintro rfl <;> exact absurd hc (by decide)
  · have hmem : c ∈ [tokenOpen, tokenClose] := by simpa [token, hdigit] using h
    exact of_decide_eq_true (List.all_eq_true.1 hmarks c hmem)

/-- The document with its blocks taken out. -/
def withoutBlocks (d : List Part) : List Part :=
  redact Part.isBlock token 0 d

lemma isBlock_of_mem_withoutBlocks {p : Part} (h : p ∈ withoutBlocks d) : p.isBlock = false := by
  rcases mem_redact h with ⟨-, hp⟩ | ⟨k, c, -, rfl⟩
  · exact hp
  · rfl

namespace Steady

lemma quiet (h : Steady d) : FromPlaces Quiet (withoutBlocks d) := by
  have hparts {P : Part → Prop} (hd : ∀ p ∈ d, P p) (htoken : ∀ n, ∀ c ∈ token n, P (.char c)) :
      ∀ p ∈ withoutBlocks d, P p := by
    intro p hp
    rcases mem_redact hp with ⟨hp, -⟩ | ⟨k, c, hc, rfl⟩
    · exact hd p hp
    · exact htoken k c hc
  exact fromPlaces_quiet (hparts h.sound fun n c hc => (of_mem_token hc).1)
    (hparts h.clean fun n c hc => (of_mem_token hc).2) (hparts h.inert fun _ _ _ => trivial)

/-- No reference is found. -/
lemma stashReferences (h : Steady d) (p : Progress) :
    stashReferences resolver p (flat (withoutBlocks d)) = (flat (withoutBlocks d), p) :=
  stashReferences_eq_self resolver p fun _ _ _ ht =>
    h.quiet.of_append (fun _ => isBlock_of_mem_withoutBlocks) ht

lemma angle_not_mem_tokened (h : Steady d) : ∀ c ∈ tokened d, c ≠ '<' ∧ c ≠ '>' := by
  intro c hc
  obtain ⟨piece, hpiece, hc⟩ := List.mem_flatMap.1 hc
  cases piece with
  | found n => exact (of_mem_token hc).2
  | plain x =>
    obtain rfl : c = x := by simpa [Piece.text] using hc
    exact h.clean _ (mem_of_numbered hpiece)

lemma lt_not_mem_tokened (h : Steady d) : '<' ∉ tokened d :=
  fun hmem => (h.angle_not_mem_tokened _ hmem).1 rfl

/-- The blocks are taken out, and then the spans. -/
lemma takenOut (h : Steady d) :
    takenOut resolver (flat d) = (tokened d, .ok (codeStash d)) := by
  have hmarks : dropTokenMarks (flat d) = flat d := by
    rw [dropTokenMarks, List.filter_eq_self]
    intro c hc
    simpa using h.unmarked c hc
  have hblocks : replaceWith codeRegion (stashCode resolver.config.codeLanguage) {} (flat d) =
      (flat (withoutBlocks d), ⟨texts Part.isBlock d⟩) := by
    rw [replaceWith_eq_weave,
      h.toApart.pieces_codeRegion (fromPlaces_quiet h.sound h.clean h.inert),
      weave_stashCode _ _ h.sound]
    rfl
  have hspans : replaceWith codeSpan Stash.put ⟨texts Part.isBlock d⟩ (flat (withoutBlocks d)) =
      (tokened d, codeStash d) := by
    have hpieces : pieces codeSpan none (flat (withoutBlocks d)) =
        (withoutBlocks d).map spanPiece :=
      h.toApart.pieces_codeSpan_redact fun n c hc => (of_mem_token hc).1
    rw [replaceWith_eq_weave, hpieces, weave_put _ fun p => isBlock_of_mem_withoutBlocks,
      withoutBlocks, flat_redact_redact, texts_isSpan_redact]
    rfl
  have hinline := replaceWith_eq_self (m := element "c".toList) stashInline (.ok (codeStash d))
    (pieces_eq_map_of_not_mem (fun h => lt_mem_of_afterOpen? h) h.lt_not_mem_tokened)
  simp only [Markup.takenOut, spanned, hmarks, hblocks, h.stashReferences, hspans, hinline]

lemma layout (h : Steady d) : layout resolver (flat d) = .ok (d.map Part.slot) := by
  have hlaid : laidOut resolver (flat d) = .ok (tokened d, codeStash d) := by
    rw [laidOut, h.takenOut]
    dsimp only
    rw [format_eq_self h.lt_not_mem_tokened, layOutLists_eq_self h.lt_not_mem_tokened]
    change Except.ok (tidy (tokened d), codeStash d) = _
    rw [h.laid.tokened.tidy_eq h.angle_not_mem_tokened]
  exact layout_of_laidOut hlaid (slots_tokened h.few fun hmem => (h.unmarked _ hmem).1 rfl)

theorem text_render (h : Steady d) : (render resolver (flat d)).text = .ok (flat d) := by
  by_cases hwork : needsWork (flat d) = true
  · have hopen : tokenOpen ∉ (d.map Part.slot).flatMap Slot.text := by
      rw [flatMap_slot]
      exact fun hmem => (h.unmarked _ hmem).1 rfl
    rw [Markup.text_render hwork h.layout hopen, flatMap_slot]
  · rw [render, if_neg hwork]

end Steady

/-! ### Rendered texts -/

/-- Settled slots whose texts keep to their lines and have no tag that is read before code spans. -/
structure Stable (l : List Slot) : Prop extends Settled l where
  inert : ∀ p ∈ l.flatMap Slot.parts, p.Inert
  withinLine : ∀ slot ∈ l, slot.WithinLine
  few : (Text.ofNat (l.flatMap Slot.parts).length).length ≤ Numeral.maxDigits

instance : DecidablePred Stable := fun l =>
  decidable_of_iff (Settled l ∧ (∀ p ∈ l.flatMap Slot.parts, p.Inert) ∧
      (∀ slot ∈ l, slot.WithinLine) ∧
      (Text.ofNat (l.flatMap Slot.parts).length).length ≤ Numeral.maxDigits)
    ⟨fun h => ⟨h.1, h.2.1, h.2.2.1, h.2.2.2⟩, fun h => ⟨h.toSettled, h.inert, h.withinLine, h.few⟩⟩

/-- What is laid out as stable slots is a document that stays as it is. -/
lemma Stable.steady (h : Stable l) (hl : Markup.layout resolver t = .ok l) :
    Steady (l.flatMap Slot.parts) := by
  obtain ⟨s, laid, hslots⟩ := exists_of_layout hl
  refine ⟨h.apart, ?_, h.toSettled.clean_parts hl, h.inert, ?_, h.few⟩
  · rw [flat_flatMap_parts]
    exact h.unmarked
  · exact ((laid_tidy laid).slots hslots).parts h.withinLine

/-- **A rendered text stays as it is.** If a text has nothing to be converted, or what is laid out
of it is stable, then it is rendered, and rendering the result again, with whatever resolver,
changes nothing. -/
theorem render_render
    (h : needsWork t = true → ∃ l, layout resolver t = .ok l ∧ Stable l) :
    ∃ out, (render resolver t).text = .ok out ∧
      ∀ other, (render other out).text = .ok out := by
  by_cases hwork : needsWork t = true
  · obtain ⟨l, hl, hstable⟩ := h hwork
    refine ⟨l.flatMap Slot.text, text_render hwork hl hstable.tokenOpen_not_mem, fun other => ?_⟩
    rw [← flat_flatMap_parts]
    exact (hstable.steady hl).text_render
  · have hsame (resolver : Resolver) : (render resolver t).text = .ok t := by
      rw [render, if_neg hwork]
    exact ⟨t, hsame resolver, hsame⟩

theorem render_render_of_sample :
    layout {} sampleNote = .ok sampleSlots ∧ Stable sampleSlots ∧
      ∃ out, (render {} sampleNote).text = .ok out ∧
        ∀ other, (render other out).text = .ok out := by
  have hstable : Stable sampleSlots := by decide +kernel
  exact ⟨layout_sampleNote, hstable, render_render fun _ => ⟨_, layout_sampleNote, hstable⟩⟩

/-- Code in a list item begins within a line, so it is not found again and its angle bracket is
escaped the second time. -/
theorem code_in_item_changes :
    (render {} "<list><item><code>a<b</code></item></list>".toList).text.toOption =
        some "- ```csharp\na<b\n```".toList ∧
      (render {} "- ```csharp\na<b\n```".toList).text.toOption =
        some "- ```csharp\na&lt;b\n```".toList :=
  ⟨congrArg Except.toOption (text_render_of_within (n := 2) (by decide +kernel) (by decide +kernel)),
    congrArg Except.toOption (text_render_of_within (n := 2) (by decide +kernel) (by decide +kernel))⟩

end LinkedDocs.Markup
