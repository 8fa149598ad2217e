import LinkedDocs.Markup.Render
import LinkedDocs.Proofs.Documents
import LinkedDocs.Proofs.Layout
import LinkedDocs.Proofs.Restoring

/-!
# Angle brackets outside code

A rendered text is laid out before the texts that were taken out of it are put back. Main statement:
what has been laid out has no angle brackets of its own, so those of the rendered text all come from
texts that were put back; and if these have angle brackets in code only, and stand apart, then
outside of code the rendered text has none. An address is put back as it is, so the condition is
needed.
-/

namespace LinkedDocs.Markup

open Text

variable {resolver : Resolver} {t : Text} {l : List Slot} {c : Char}

/-! ### The text before the stash is put back -/

/-- The text with its code regions, references and code spans taken out, and the stash that has
them. -/
def spanned (resolver : Resolver) (t : Text) : Text × Stash :=
  let (t, s) := replaceWith codeRegion (stashCode resolver.config.codeLanguage) {}
    (dropTokenMarks t)
  let (t, p) := stashReferences resolver { stash := s } t
  replaceWith codeSpan Stash.put p.stash t

/-- The text with its code and its references taken out, and the stash that has them. -/
def takenOut (resolver : Resolver) (t : Text) : Text × Except NoResult Stash :=
  let (t, s) := spanned resolver t
  replaceWith (element "c".toList) stashInline (.ok s) t

/-- A text without angle brackets, runs of blank lines and blanks at its ends. -/
def tidy (t : Text) : Text :=
  strip (collapseBlankLines (escapeAngles t))

/-- The text just before the stash is put back, and the stash. -/
def laidOut (resolver : Resolver) (t : Text) : Except NoResult (Text × Stash) := do
  let s ← (takenOut resolver t).2
  let laid ← layOutLists (format (takenOut resolver t).1)
  return (tidy laid, s)

/-- The slots of the text that has been laid out. -/
def layout (resolver : Resolver) (t : Text) : Except NoResult (List Slot) := do
  let (laid, s) ← laidOut resolver t
  (s.slots laid).mapError .fault

lemma takenOut_eq_weave (resolver : Resolver) (t : Text) :
    takenOut resolver t = weave stashInline (.ok (spanned resolver t).2)
      (pieces (element "c".toList) none (spanned resolver t).1) :=
  replaceWith_eq_weave stashInline (.ok (spanned resolver t).2) (spanned resolver t).1

lemma text_convert (resolver : Resolver) (t : Text) :
    (convert resolver t).text = (laidOut resolver t).bind fun y => y.2.restore y.1 := by
  have htext : (convert resolver t).text =
      (takenOut resolver t).2.bind fun s => finish s (takenOut resolver t).1 := rfl
  rw [htext, laidOut]
  cases (takenOut resolver t).2 with
  | error cause => rfl
  | ok s =>
    simp only [Except.bind, bind, finish]
    cases layOutLists (format (takenOut resolver t).1) <;> rfl

lemma layout_of_laidOut {u : Text} {s : Stash} (hlaid : laidOut resolver t = .ok (u, s))
    (hslots : s.slots u = .ok l) : layout resolver t = .ok l := by
  rw [layout, hlaid]
  exact congrArg (Except.mapError NoResult.fault) hslots

/-- The slots are those of a tidy text. -/
lemma exists_of_layout (hl : layout resolver t = .ok l) :
    ∃ (s : Stash) (laid : Text), s.slots (tidy laid) = .ok l := by
  obtain ⟨⟨u, s⟩, hu, hslots⟩ := bind_eq_ok.1 hl
  obtain ⟨s', -, hu⟩ := bind_eq_ok.1 hu
  obtain ⟨laid, -, heq⟩ := bind_eq_ok.1 hu
  obtain ⟨rfl, rfl⟩ := Prod.mk.inj (Except.ok.inj heq)
  exact ⟨s', laid, eq_ok_of_mapError hslots⟩

lemma needsWork_of (h : '<' ∈ t ∨ hasPart "```".toList t = true) : needsWork t = true := by
  have hticks (u : Text) (h : hasPart "```".toList u = true) : '`' ∈ u := by
    induction u with
    | nil => cases h
    | cons d u ih =>
      rw [hasPart, Bool.or_eq_true] at h
      rcases h with h | h
      · by_cases hd : d = '`'
        · simp [hd]
        · simp [startsWith, dropLead?, Ne.symm hd] at h
      · exact List.mem_cons_of_mem _ (ih h)
  have hblank : isBlankText t = false := by
    rw [isBlankText, List.all_eq_false]
    rcases h with h | h
    · exact ⟨'<', h, by decide⟩
    · exact ⟨'`', hticks t h, by decide⟩
  simp only [needsWork, hblank, Bool.not_false, Bool.true_and, Bool.or_eq_true,
    List.contains_iff_mem]
  exact h

/-- A rendered text has the texts of its slots, if no token is left in them. -/
lemma text_render (hwork : needsWork t = true) (hl : layout resolver t = .ok l)
    (hopen : tokenOpen ∉ l.flatMap Slot.text) :
    (render resolver t).text = .ok (l.flatMap Slot.text) := by
  obtain ⟨⟨laid, s⟩, hlaid, hslots⟩ := bind_eq_ok.1 hl
  rw [render, if_pos hwork, text_convert, hlaid]
  exact Stash.restore_eq (eq_ok_of_mapError hslots) hopen

/-! ### Evaluation

A loop that may never end cannot be evaluated, but so many rounds of it can. -/

/-- `stashInline`, if so many rounds are enough. -/
def stashInlineWithin (n : Nat) (s : Option Stash) (inner : Text) : Text × Option Stash :=
  match s with
  | none => ([], none)
  | some s =>
    if inlineCode inner = [] then ([], some s)
    else
      match restWithin s.restoreOnce n (inlineCode inner) with
      | none => ([], none)
      | some code => ((s.put (inlineSpan code)).1, some (s.put (inlineSpan code)).2)

/-- `laidOut`, if so many rounds of each loop are enough. -/
def laidOutWithin (n : Nat) (resolver : Resolver) (t : Text) : Option (Text × Stash) := do
  let taken := weave (stashInlineWithin n) (some (spanned resolver t).2)
    (pieces (element "c".toList) none (spanned resolver t).1)
  let s ← taken.2
  let laid ← restWithin (fun t => .ok (listRound t)) n (format taken.1)
  return (tidy laid, s)

lemma weave_stashInlineWithin_none {n : Nat} (ps : List (Piece Text)) :
    (weave (stashInlineWithin n) none ps).2 = none := by
  induction ps with
  | nil => rfl
  | cons piece ps ih => cases piece <;> exact ih

lemma stashInline_of_within {n : Nat} {s s' : Stash} {inner : Text}
    (h : (stashInlineWithin n (some s) inner).2 = some s') :
    stashInline (.ok s) inner = ((stashInlineWithin n (some s) inner).1, .ok s') := by
  unfold stashInlineWithin at h ⊢
  unfold stashInline
  simp only [List.isEmpty_iff]
  dsimp only at h ⊢
  split
  case isTrue hnil =>
    rw [if_pos hnil] at h
    rw [Option.some.inj h]
  case isFalse hne =>
    rw [if_neg hne] at h
    split at h
    · cases h
    case h_2 code hcode =>
      have hrestore : s.restore (inlineCode inner) = .ok code := atRest_of_restWithin hcode
      rw [hrestore, ← Option.some.inj h]

lemma weave_stashInline_of_within {n : Nat} {ps : List (Piece Text)} {s s' : Stash}
    (h : (weave (stashInlineWithin n) (some s) ps).2 = some s') :
    weave stashInline (.ok s) ps = ((weave (stashInlineWithin n) (some s) ps).1, .ok s') := by
  induction ps generalizing s with
  | nil => rw [weave, weave, Option.some.inj h]
  | cons piece ps ih =>
    cases piece with
    | plain c => rw [weave, weave, ih h]
    | found inner =>
      rw [weave] at h
      cases hone : (stashInlineWithin n (some s) inner).2 with
      | none => simp [hone, weave_stashInlineWithin_none] at h
      | some s₁ =>
        rw [hone] at h
        rw [weave, weave, stashInline_of_within hone, hone, ih h]

lemma laidOut_of_within {n : Nat} {y : Text × Stash} (h : laidOutWithin n resolver t = some y) :
    laidOut resolver t = .ok y := by
  simp only [laidOutWithin, Option.bind_eq_bind, Option.bind_eq_some_iff] at h
  obtain ⟨s, hs, laid, hlaid, hy⟩ := h
  have htaken := (takenOut_eq_weave resolver t).trans (weave_stashInline_of_within hs)
  have hrest : layOutLists (format (takenOut resolver t).1) = .ok laid := by
    rw [htaken]
    exact atRest_of_restWithin hlaid
  rw [laidOut, hrest, htaken, ← Option.some.inj hy]
  rfl

lemma layout_of_within {n : Nat}
    (h : ((laidOutWithin n resolver t).bind fun y => (y.2.slots y.1).toOption) = some l) :
    layout resolver t = .ok l := by
  obtain ⟨y, hy, hslots⟩ := Option.bind_eq_some_iff.1 h
  exact layout_of_laidOut (laidOut_of_within hy) (eq_ok_of_toOption hslots)

lemma text_render_of_within {n : Nat} {out : Text} (hwork : needsWork t = true)
    (h : ((laidOutWithin n resolver t).bind fun y => restWithin y.2.restoreOnce n y.1) = some out) :
    (render resolver t).text = .ok out := by
  obtain ⟨y, hy, hout⟩ := Option.bind_eq_some_iff.1 h
  rw [render, if_pos hwork, text_convert, laidOut_of_within hy]
  exact atRest_of_restWithin hout

/-! ### Angle brackets -/

lemma mem_escapeAngles (h : c ∈ escapeAngles t) : c ≠ '<' ∧ c ≠ '>' := by
  have hlt : ("&lt;".toList.all fun c => c ≠ '<' ∧ c ≠ '>') = true := by decide
  have hgt : ("&gt;".toList.all fun c => c ≠ '<' ∧ c ≠ '>') = true := by decide
  obtain ⟨d, -, hc⟩ := List.mem_flatMap.1 h
  split at hc
  · exact of_decide_eq_true (List.all_eq_true.1 hlt c hc)
  · split at hc
    · exact of_decide_eq_true (List.all_eq_true.1 hgt c hc)
    · obtain rfl : c = d := by simpa using hc
      exact ⟨‹_›, ‹_›⟩

lemma mem_collapseBlankLines (h : c ∈ collapseBlankLines t) : c ∈ t ∨ c = '\n' := by
  rw [collapseBlankLines, replace_eq_flatMap] at h
  obtain ⟨piece, hpiece, hc⟩ := List.mem_flatMap.1 h
  cases piece with
  | plain d =>
    obtain rfl : c = d := by simpa [Piece.text] using hc
    exact .inl (mem_of_plain_mem blankRun_suffix hpiece)
  | found x =>
    refine .inr ?_
    simpa [Piece.text] using hc

lemma mem_tidy (h : c ∈ tidy t) : c ≠ '<' ∧ c ≠ '>' := by
  rcases mem_collapseBlankLines ((isInfix_strip _).mem h) with hc | rfl
  · exact mem_escapeAngles hc
  · decide

/-- What has been laid out has no angle brackets of its own. -/
lemma angle_not_mem_layout (hl : layout resolver t = .ok l) (hc : .char c ∈ l) :
    c ≠ '<' ∧ c ≠ '>' := by
  obtain ⟨s, laid, hslots⟩ := exists_of_layout hl
  exact mem_tidy (Stash.mem_of_slots hslots hc)

/-! ### Stashed texts in parts -/

/-- A text that was taken out: a block, or characters and code spans. -/
def itemParts (t : Text) : List Part :=
  if IsBlock t then [.block t]
  else (pieces codeSpan none t).map fun
    | .plain c => .char c
    | .found u => .span u

lemma flat_itemParts (t : Text) : flat (itemParts t) = t := by
  unfold itemParts
  split
  · simp [Part.text]
  · rw [flat, List.flatMap_map]
    refine Eq.trans ?_ (@flatMap_pieces _ codeSpan none t id reads_codeSpan)
    congr 1
    funext piece
    cases piece <;> rfl

def Slot.parts : Slot → List Part
  | .char c => [.char c]
  | .stashed t => itemParts t

lemma flat_flatMap_parts (l : List Slot) : flat (l.flatMap Slot.parts) = l.flatMap Slot.text := by
  induction l with
  | nil => rfl
  | cons slot l ih =>
    rw [List.flatMap_cons, List.flatMap_cons, flat_append, ih]
    cases slot with
    | char c => rfl
    | stashed t => rw [Slot.parts, flat_itemParts, Slot.text]

/-- A slot whose text, if it was taken out, has angle brackets in code only. -/
def Slot.Clean : Slot → Prop
  | .char _ => True
  | .stashed t => ∀ p ∈ itemParts t, p.Clean

instance : DecidablePred Slot.Clean
  | .char _ => .isTrue trivial
  | .stashed t => inferInstanceAs (Decidable (∀ p ∈ itemParts t, p.Clean))

/-- Slots whose texts can be put back without harm to each other. -/
structure Settled (l : List Slot) : Prop where
  /-- No token is left. -/
  unmarked : ∀ c ∈ l.flatMap Slot.text, c ≠ tokenOpen ∧ c ≠ tokenClose
  clean : ∀ slot ∈ l, slot.Clean
  apart : Apart (l.flatMap Slot.parts)

instance : DecidablePred Settled := fun l =>
  decidable_of_iff (((l.flatMap Slot.text).all fun c => c ≠ tokenOpen ∧ c ≠ tokenClose) ∧
      (∀ slot ∈ l, slot.Clean) ∧ Apart (l.flatMap Slot.parts)) <| by
    rw [List.all_eq_true]
    simp only [decide_eq_true_eq]
    exact ⟨fun h => ⟨h.1, h.2.1, h.2.2⟩, fun h => ⟨h.unmarked, h.clean, h.apart⟩⟩

lemma Settled.tokenOpen_not_mem (h : Settled l) : tokenOpen ∉ l.flatMap Slot.text :=
  fun hmem => (h.unmarked _ hmem).1 rfl

/-- The parts of settled slots that have been laid out are clean. -/
lemma Settled.clean_parts (h : Settled l) (hl : layout resolver t = .ok l) :
    ∀ p ∈ l.flatMap Slot.parts, p.Clean := by
  intro p hp
  obtain ⟨slot, hslot, hp⟩ := List.mem_flatMap.1 hp
  cases slot with
  | char c =>
    obtain rfl : p = .char c := by simpa [Slot.parts] using hp
    exact angle_not_mem_layout hl hslot
  | stashed t => exact h.clean _ hslot p hp

/-- **No angle bracket outside code.** If a text has something to be converted, then what is laid
out of it has no angle bracket of its own, whatever was taken out. If the texts that were taken out
have angle brackets in code only, and spans and blocks stand apart in the end, then every angle
bracket of the rendered text is in a fence, or in a code span outside of the fences. -/
theorem angles_in_code (hwork : '<' ∈ t ∨ hasPart "```".toList t = true)
    (hl : layout resolver t = .ok l) :
    (∀ c, .char c ∈ l → c ≠ '<' ∧ c ≠ '>') ∧
      (Settled l → (render resolver t).text = .ok (l.flatMap Slot.text) ∧
        ∀ c ∈ outsideCode (l.flatMap Slot.text), c ≠ '<' ∧ c ≠ '>') := by
  refine ⟨fun c hc => angle_not_mem_layout hl hc, fun h => ⟨?_, fun c hc => ?_⟩⟩
  · exact text_render (needsWork_of hwork) hl h.tokenOpen_not_mem
  · rw [← flat_flatMap_parts] at hc
    exact h.clean_parts hl _ (h.apart.mem_outsideCode hc)

/-- A note with a code span, inline code, a fence, emphasis, a keyword, a link, a code element and
angle brackets. -/
def sampleNote : Text :=
  "See `List<T>` or <c>a<b</c>: a < b.\n```js\nlet x = <b>1</b>;\n```\n<b>Not</b> ".toList ++
    "<see langword=\"null\"/> <see href=\"u\">z</see><code>u<v</code>".toList

/-- The slots of the note. -/
def sampleSlots : List Slot :=
  List.flatten
    [ "See ".toList.map .char, [.stashed "`List<T>`".toList], " or ".toList.map .char,
      [.stashed "`a<b`".toList], ": a &lt; b.\n".toList.map .char,
      [.stashed "```js\nlet x = <b>1</b>;\n```".toList], "\n**Not** ".toList.map .char,
      [.stashed ("[`null`](https://learn.microsoft.com/dotnet/csharp/".toList ++
        "language-reference/keywords/null)".toList)],
      " [z](".toList.map .char, [.stashed "u".toList], ")\n\n".toList.map .char,
      [.stashed "```csharp\nu<v\n```".toList]]

lemma layout_sampleNote : layout {} sampleNote = .ok sampleSlots :=
  layout_of_within (n := 2) (by decide +kernel)

theorem angles_in_code_of_sample :
    layout {} sampleNote = .ok sampleSlots ∧ Settled sampleSlots ∧
      (∀ c, .char c ∈ sampleSlots → c ≠ '<' ∧ c ≠ '>') ∧
      (render {} sampleNote).text = .ok (sampleSlots.flatMap Slot.text) ∧
      ∀ c ∈ outsideCode (sampleSlots.flatMap Slot.text), c ≠ '<' ∧ c ≠ '>' := by
  have hsettled : Settled sampleSlots := by decide +kernel
  have hangles := angles_in_code (t := sampleNote) (.inl (by decide +kernel)) layout_sampleNote
  exact ⟨layout_sampleNote, hsettled, hangles.1, hangles.2 hsettled⟩

/-- The address of a link is put back with its angle bracket. -/
theorem angle_in_address :
    ((render {} "<see href=\"a<b\"/>".toList).text.toOption.any fun out =>
      (outsideCode out).contains '<') = true := by
  have htext : (render {} "<see href=\"a<b\"/>".toList).text = .ok "[link](a<b)".toList :=
    text_render_of_within (n := 2) (by decide +kernel) (by decide +kernel)
  rw [htext]
  decide +kernel

end LinkedDocs.Markup
