import LinkedDocs.Proofs.StashSize

/-!
# Complete restoration

While a text is converted, stashed texts are put back in two places: within the code of every inline
element, and at the end. Main statement: at each of these places every token has the number of a
stashed text, every stashed text holds tokens of earlier ones only, putting back ends, and the
rendered text has no marks, whatever marks and tokens the original text has, if the resolver adds
none. The numbers of tokens are read up to a length that only the tokens of a text with more than
`10 ^ 4300` characters can exceed.
-/

namespace LinkedDocs.Markup

open Text

variable {resolver : Resolver} {t u : Text} {s : Stash} {cause : NoResult}

/-! ### Where texts are put back -/

/-- The texts that are put back while a text is converted, each with the stash as it is then. -/
inductive PutsBack (resolver : Resolver) (t : Text) : Stash → Text → Prop where
  /-- The code of an inline element, once those before it have been stashed. -/
  | inline {before after : List (Piece Text)} {inner : Text} {s : Stash}
      (hpieces : pieces (element "c".toList) none (spanned resolver t).1 =
        before ++ .found inner :: after)
      (hstash : (weave stashInline (.ok (spanned resolver t).2) before).2 = .ok s)
      (hcode : inlineCode inner ≠ []) : PutsBack resolver t s (inlineCode inner)
  /-- The whole text, once its lists have been laid out. -/
  | last {laid : Text} {s : Stash} (hlaid : laidOut resolver t = .ok (laid, s)) :
      PutsBack resolver t s laid

lemma restore_of_stashInline {inner : Text} (h : (stashInline (.ok s) inner).2 = .error cause) :
    inlineCode inner ≠ [] ∧ s.restore (inlineCode inner) = .error cause := by
  unfold stashInline at h
  dsimp only at h
  split at h
  · cases h
  case isFalse hne =>
    split at h
    case h_1 cause' hrestore =>
      obtain rfl : cause' = cause := Except.error.inj h
      exact ⟨fun hnil => hne (List.isEmpty_iff.2 hnil), hrestore⟩
    · cases h

lemma weave_stashInline_error (ps : List (Piece Text)) :
    (weave stashInline (.error cause) ps).2 = .error cause := by
  induction ps with
  | nil => rfl
  | cons piece ps ih => cases piece <;> exact ih

/-- If inline code cannot be stashed, then one of its texts could not be put back. -/
lemma exists_of_weave_error {ps : List (Piece Text)}
    (h : (weave stashInline (.ok s) ps).2 = .error cause) :
    ∃ before inner after s', ps = before ++ .found inner :: after ∧
      (weave stashInline (.ok s) before).2 = .ok s' ∧ inlineCode inner ≠ [] ∧
        s'.restore (inlineCode inner) = .error cause := by
  induction ps generalizing s with
  | nil => cases h
  | cons piece ps ih =>
    cases piece with
    | plain c =>
      obtain ⟨before, inner, after, s', rfl, hstash, hrestore⟩ := ih h
      exact ⟨.plain c :: before, inner, after, s', rfl, hstash, hrestore⟩
    | found a =>
      rw [weave] at h
      cases hstep : (stashInline (.ok s) a).2 with
      | error cause' =>
        rw [hstep, weave_stashInline_error] at h
        obtain rfl := Except.error.inj h
        exact ⟨[], a, ps, s, rfl, rfl, restore_of_stashInline hstep⟩
      | ok s₁ =>
        rw [hstep] at h
        obtain ⟨before, inner, after, s', rfl, hstash, hrestore⟩ := ih h
        refine ⟨.found a :: before, inner, after, s', rfl, ?_, hrestore⟩
        rw [weave, hstep]
        exact hstash

lemma exists_putsBack_of_error (h : (takenOut resolver t).2 = .error cause) :
    ∃ s u, PutsBack resolver t s u ∧ s.restore u = .error cause := by
  rw [takenOut_eq_weave] at h
  obtain ⟨before, inner, after, s, hpieces, hstash, hcode, hrestore⟩ := exists_of_weave_error h
  exact ⟨s, _, .inline hpieces hstash hcode, hrestore⟩

/-! ### The invariant -/

lemma unmarked_dropTokenMarks (t : Text) : Unmarked (dropTokenMarks t) := by
  intro c hc
  obtain ⟨-, hc⟩ := List.mem_filter.1 hc
  simpa [isMark] using hc

/-- The passes up to the code spans leave a sound stash and whole tokens. -/
lemma ready_spanned (h : AddsUnmarked resolver) (t : Text) :
    ∃ n, (spanned resolver t).2.Ready n ∧ Whole n (spanned resolver t).1 := by
  obtain ⟨i, -, hready, hwhole⟩ := spares_codeRegion.replaceWith Stash.Ready
    (fun _ hs hcode => hs.stashCode h.language hcode) Stash.ready_empty
    (unmarked_dropTokenMarks t).whole
  obtain ⟨j, -, hready, hwhole⟩ :=
    Progress.Ready.stashReferences (p := { stash := _ }) h hready hwhole
  obtain ⟨k, -, hready, hwhole⟩ := spares_codeSpan.replaceWith Stash.Ready
    (fun hj hs hu => ⟨_, Nat.le_succ_of_le hs.le, hs.put (hu.mono hj)⟩) hready hwhole
  exact ⟨k, hready, hwhole⟩

/-- Stashes and texts are as they should be wherever texts are put back. -/
theorem PutsBack.ready (hadds : AddsUnmarked resolver) (h : PutsBack resolver t s u) :
    ∃ n, s.Ready n ∧ Whole n u := by
  obtain ⟨n, hready, hwhole⟩ := ready_spanned hadds t
  have helement : Spares n (element "c".toList) (Whole n) := spares_element (by decide)
  have hok : ReadyIfOk (.ok (spanned resolver t).2) n := by
    rintro _ ⟨⟩
    exact hready
  have hstep {s j a} (hj : n ≤ j) (hs : ReadyIfOk s j) (ha : Whole n a) :=
    hs.stashInline (ha.mono hj)
  have hfit : Fit n (Whole n) (pieces (element "c".toList) none (spanned resolver t).1) :=
    helement.fit hwhole
  cases h with
  | inline hpieces hstash hcode =>
    rw [hpieces] at hfit
    obtain ⟨k, hk, hs, -⟩ := hfit.before_found.weave ReadyIfOk hstep (Nat.le_refl n) hok
    have hinner := hfit.of_found_mem (List.mem_append_right _ List.mem_cons_self)
    exact ⟨k, hs s hstash, hinner.inlineCode.mono hk⟩
  | last hlaid =>
    obtain ⟨k, -, hs, htaken⟩ := hfit.weave ReadyIfOk hstep (Nat.le_refl n) hok
    rw [← takenOut_eq_weave] at hs htaken
    obtain ⟨s', hs', hlaid⟩ := bind_eq_ok.1 hlaid
    obtain ⟨laid, hlists, heq⟩ := bind_eq_ok.1 hlaid
    obtain ⟨rfl, rfl⟩ := Prod.mk.inj (Except.ok.inj heq)
    exact ⟨k, hs _ hs', whole_tidy (whole_layOutLists (whole_format htaken) hlists)⟩

/-! ### The size of the stash -/

lemma size_spanned_le (resolver : Resolver) (t : Text) :
    (spanned resolver t).2.size + leads (spanned resolver t).1 ≤ t.length := by
  have hmarks : leads (dropTokenMarks t) ≤ t.length :=
    Nat.le_trans List.countP_le_length (List.length_filter_le _ _)
  refine Nat.le_trans ?_ hmarks
  refine Nat.le_trans (spends_codeSpan.size_replaceWith_le Stash.size
    (fun s u => Nat.le_of_eq (size_put s u)) _ _) ?_
  refine Nat.le_trans (size_stashReferences_le resolver _ _) ?_
  exact Nat.le_trans (spends_codeRegion.size_replaceWith_le Stash.size
    (size_stashCode_le resolver.config.codeLanguage) {} _) (Nat.le_of_eq (Nat.zero_add _))

/-- Wherever texts are put back, the stash has no more texts than the original has characters. -/
lemma PutsBack.size_le (h : PutsBack resolver t s u) : s.size ≤ t.length := by
  have hspanned := size_spanned_le resolver t
  have hpieces : costs (fun _ => 1) (pieces (element "c".toList) none (spanned resolver t).1) ≤
      leads (spanned resolver t).1 := spends_element.costs_pieces_le
  have hwoven (ps : List (Piece Text)) :=
    size_weave_le sizeIfOk size_stashInline_le (.ok (spanned resolver t).2) ps
  cases h with
  | @inline before after inner _ hcut hstash =>
    have hbefore := hwoven before
    rw [hcut, costs, List.map_append, List.sum_append] at hpieces
    rw [hstash] at hbefore
    simp only [sizeIfOk, costs] at hbefore
    omega
  | last hlaid =>
    obtain ⟨s', hs', hlaid⟩ := bind_eq_ok.1 hlaid
    obtain ⟨laid, -, heq⟩ := bind_eq_ok.1 hlaid
    obtain ⟨-, rfl⟩ := Prod.mk.inj (Except.ok.inj heq)
    have hall := hwoven (pieces (element "c".toList) none (spanned resolver t).1)
    rw [← takenOut_eq_weave, hs'] at hall
    simp only [sizeIfOk] at hall
    omega

/-! ### Restoration -/

/-- A stash puts a text back completely: tokens have the numbers of stashed texts, which hold tokens
of earlier ones only, and putting back ends without marks, unless there are more texts than numbers
that can be read. -/
structure Stash.Restores (s : Stash) (u : Text) : Prop where
  inside : ∀ digits ∈ finds tokenDigits u, digitsValue digits < s.items.length
  earlier : ∀ i item, s.items[i]? = some item →
    ∀ digits ∈ finds tokenDigits item, digitsValue digits < i
  ends : (∃ out, s.restore u = .ok out ∧ tokenOpen ∉ out ∧ tokenClose ∉ out) ∨
    s.Overfull ∧ ∃ l, s.restore u = .error (.fault (.longInteger l))

lemma PutsBack.restores (hadds : AddsUnmarked resolver) (h : PutsBack resolver t s u) :
    s.Restores u := by
  obtain ⟨n, hready, hwhole⟩ := h.ready hadds
  refine ⟨fun digits hdigits => ?_, fun i item hitem digits hdigits => ?_, ?_⟩
  · exact Nat.lt_of_lt_of_le (hwhole.lt_of_mem_finds hdigits) hready.le
  · exact (hready.sound i item hitem).lt_of_mem_finds hdigits
  · rcases hready.restore_cases hwhole with ⟨out, hout, hunmarked⟩ | hfull
    · exact .inl ⟨out, hout, unmarked_iff.1 hunmarked⟩
    · exact .inr hfull

/-- What becomes of a text whose lists can be laid out. -/
lemma text_render_cases (hadds : AddsUnmarked resolver) (hwork : needsWork t = true) {laid : Text}
    (hlaid : layOutLists (format (takenOut resolver t).1) = .ok laid) :
    (∃ out, (render resolver t).text = .ok out ∧ tokenOpen ∉ out ∧ tokenClose ∉ out) ∨
      10 ^ Numeral.maxDigits < t.length ∧
        ∃ l, (render resolver t).text = .error (.fault (.longInteger l)) := by
  rw [render, if_pos hwork, text_convert]
  cases hstash : (takenOut resolver t).2 with
  | error cause =>
    have hlaidOut : laidOut resolver t = .error cause := by rw [laidOut, hstash]; rfl
    obtain ⟨s, u, hback, hrestore⟩ := exists_putsBack_of_error hstash
    rcases (hback.restores hadds).ends with ⟨out, hout, -⟩ | ⟨hfull, l, hl⟩
    · cases hrestore.symm.trans hout
    · obtain rfl := Except.error.inj (hrestore.symm.trans hl)
      exact .inr ⟨Nat.lt_of_lt_of_le hfull hback.size_le, l, by rw [hlaidOut]; rfl⟩
  | ok s =>
    have hlaidOut : laidOut resolver t = .ok (tidy laid, s) := by
      rw [laidOut, hstash, hlaid]
      rfl
    have hback : PutsBack resolver t s (tidy laid) := .last hlaidOut
    rw [hlaidOut]
    rcases (hback.restores hadds).ends with hout | ⟨hfull, hlong⟩
    · exact .inl hout
    · exact .inr ⟨Nat.lt_of_lt_of_le hfull hback.size_le, hlong⟩

/-- **The stash is restored completely.** Wherever texts are put back while a text is converted,
they are put back completely, and there are no more of them than the text has characters. So if the
lists of a text that has something to be converted can be laid out, then the text is rendered
without marks, unless it has more characters than there are numbers that can be read. -/
theorem stash_restored (hadds : AddsUnmarked resolver) :
    (∀ s u, PutsBack resolver t s u → s.Restores u ∧ s.items.length ≤ t.length) ∧
      (needsWork t = true → ∀ laid, layOutLists (format (takenOut resolver t).1) = .ok laid →
        (∃ out, (render resolver t).text = .ok out ∧ tokenOpen ∉ out ∧ tokenClose ∉ out) ∨
          10 ^ Numeral.maxDigits < t.length ∧
            ∃ l, (render resolver t).text = .error (.fault (.longInteger l))) :=
  ⟨fun _ _ h => ⟨h.restores hadds, h.size_le⟩, fun hwork _ hlaid =>
    text_render_cases hadds hwork hlaid⟩

/-- A resolver that knows one type. -/
def oneType : Resolver where
  index := .ofEntries [( "T:N.A".toList, {
    entityId := .text "T:N.A".toList
    path := "/api/N.A".toList
    displayName := .text "A".toList
    symbolKind := .type })]

/-- A note with what looks like a token, with a reference in inline code and with one in a code
span. -/
def nestedNote : Text :=
  "\x0299\x03 <c>x <see cref=\"T:N.A\"/></c> `<see href=\"u\">v</see>`".toList

theorem stash_restored_of_nested :
    AddsUnmarked oneType ∧
      (∃ s u, PutsBack oneType nestedNote s u ∧ s.items.length = 4 ∧
        s.items[2]?.map (finds tokenDigits) = some [ "1".toList] ∧
        finds tokenDigits u = [ "3".toList, "2".toList] ∧ s.Restores u) ∧
      ∃ out, (render oneType nestedNote).text = .ok out ∧ tokenOpen ∉ out ∧ tokenClose ∉ out := by
  have hadds : AddsUnmarked oneType :=
    ⟨by decide +kernel, by decide +kernel, by decide +kernel, by decide +kernel, by decide +kernel⟩
  have hlaid : ((laidOutWithin 2 oneType nestedNote).any fun y =>
      y.2.items.length = 4 ∧ y.2.items[2]?.map (finds tokenDigits) = some [ "1".toList] ∧
        finds tokenDigits y.1 = [ "3".toList, "2".toList]) = true := by
    decide +kernel
  obtain ⟨⟨u, s⟩, hy, hshape⟩ := (Option.any_eq_true _ _).1 hlaid
  obtain ⟨hlength, hitem, htokens⟩ := of_decide_eq_true hshape
  have hlaidOut := laidOut_of_within hy
  obtain ⟨hback, htext⟩ := stash_restored (t := nestedNote) hadds
  refine ⟨hadds, ?_, ?_⟩
  · have hputs : PutsBack oneType nestedNote s u := .last hlaidOut
    exact ⟨s, u, hputs, hlength, hitem, htokens, (hback s u hputs).1⟩
  · obtain ⟨_, -, hrest⟩ := bind_eq_ok.1 hlaidOut
    obtain ⟨laid, hlists, -⟩ := bind_eq_ok.1 hrest
    rcases htext (by decide +kernel) laid hlists with hout | ⟨hlong, -⟩
    · exact hout
    · have hpow : Numeral.maxDigits < 10 ^ Numeral.maxDigits := Nat.lt_pow_self (by decide)
      have hshort : nestedNote.length < Numeral.maxDigits := by decide +kernel
      omega

end LinkedDocs.Markup
