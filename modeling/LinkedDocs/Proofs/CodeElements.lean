import LinkedDocs.Proofs.Listings
import LinkedDocs.Proofs.Scanning
import LinkedDocs.Proofs.StashedCode
import LinkedDocs.Proofs.TickRuns

/-!
# Code elements become fences

Main statement: a code element is rendered as the fence of its code, without a blank line or an
indentation that all its lines share, and the fence is read back as it is. No line of the code
closes the fence before its end, since code that has been escaped has no run of three backticks.
-/

namespace LinkedDocs.Markup

open Text

variable {resolver : Resolver} {name body language code t rest : Text} {lines : List Text}
  {before : Option Char} {s : Stash} {n : Nat} {c : Char}

/-! ### Fences of code -/

lemma IsMarkerLine.hasRun (h : IsMarkerLine t) : HasRun 3 t := by
  obtain ⟨a, b, ha, hb, rfl⟩ := h
  refine ⟨a, b, rfl, fun hlast => ?_, fun hhead => ?_⟩
  · exact absurd (ha _ (List.mem_of_getLast? hlast)) (by decide)
  · exact absurd (hb _ (List.mem_of_mem_head? hhead)) (by decide)

/-- Lines keep their runs of backticks. -/
lemma HasRun.join (h : t ∈ lines) (hrun : HasRun n t) : HasRun n (Text.join ['\n'] lines) := by
  induction lines with
  | nil => cases h
  | cons line lines ih =>
    cases lines with
    | nil =>
      rw [← List.mem_singleton.1 h]
      exact hrun
    | cons next lines =>
      rw [Text.join, List.append_assoc]
      · rcases List.mem_cons.1 h with rfl | h
        · exact hrun.of_append_left (by simp)
        · rw [← List.append_assoc]
          exact (ih h).of_append_right (by simp)
      · simp

/-- No line of escaped code closes a fence. -/
lemma not_isMarkerLine_of_escapeFences {line : Text}
    (h : line ∈ splitOn '\n' (escapeFences code)) : ¬IsMarkerLine line := by
  intro hmarker
  apply not_hasRun_escapeFences code
  rw [← join_splitOn (escapeFences code)]
  exact hmarker.hasRun.join h

/-- A letter or a digit of any script is no blank, backtick or mark. -/
lemma of_isWord (h : isWord c = true) : isBlank c = false ∧ c ≠ '`' ∧ isMark c = false := by
  have hascii : ∀ n < 128, isWord (Char.ofNat n) = true → isBlank (Char.ofNat n) = false ∧
      Char.ofNat n ≠ '`' ∧ isMark (Char.ofNat n) = false := by decide +kernel
  have hranges : ∀ r ∈ wordRanges, ∀ b ∈ blankRanges, r.2 < b.1 ∨ b.2 < r.1 := by decide +kernel
  by_cases hc : c.toNat < 128
  · have hword := hascii c.toNat hc
    rw [Char.ofNat_toNat] at hword
    exact hword h
  · refine ⟨eq_false_of_ne_true fun hblank => ?_, ?_, isMark_of_toNat (by omega)⟩
    · rw [isWord, if_neg hc] at h
      obtain ⟨r, hr, hword⟩ := List.any_eq_true.1 h
      obtain ⟨b, hb, hblank⟩ := List.any_eq_true.1 hblank
      simp only [Bool.and_eq_true, decide_eq_true_eq] at hword hblank
      have hapart := hranges r hr b hb
      omega
    · rintro rfl
      exact hc (by decide)

/-- The code of an element with the body. -/
def codeOf (body : Text) : Text :=
  escapeFences (dedent (stripCdata body))

/-- The fence of a code element's code. -/
def codeListing (language body : Text) (hlanguage : ∀ c ∈ language, isWord c = true)
    (hbody : Unmarked body) : Listing where
  language := language
  body := codeOf body
  word c hc := ⟨(of_isWord (hlanguage c hc)).1, (of_isWord (hlanguage c hc)).2.1⟩
  inside _ := not_isMarkerLine_of_escapeFences
  unmarked := by
    have hcode : Unmarked (codeOf body) :=
      (whole_escapeFences (whole_dedent (hbody.of_subset (stripCdata_subset body)))).unmarked
    have hword : Unmarked language := fun c hc => (of_isWord (hlanguage c hc)).2.2
    intro c hc
    simpa [isMark] using hword.append hcode c hc

/-- A listing that is a whole text stays as it is. -/
lemma Listing.steady (x : Listing) (hverbatim : isVerbatim x.language = false) :
    Steady [.block x.source] where
  sound p hp := by
    rw [List.mem_singleton.1 hp]
    exact isBlock_iff.2 ⟨_, x.fence_source, hverbatim⟩
  fits := List.isChain_singleton _
  unmarked c hc := by
    rw [flat_cons, flat_nil, List.append_nil] at hc
    exact Listing.of_mem_source hc
  clean p hp := by
    rw [List.mem_singleton.1 hp]
    trivial
  inert p hp := by
    rw [List.mem_singleton.1 hp]
    trivial
  laid := by
    have hlaid : Laid [tokenOpen] := ⟨trivial, by decide⟩
    exact hlaid
  few := by
    have hfew : (Text.ofNat 1).length ≤ Numeral.maxDigits := by decide
    exact hfew

/-! ### Rendering -/

lemma codeElement_source (hclose : ∀ tag, IsCloseTag "code".toList tag → ¬tag <:+: body) :
    codeElement before ("<code>".toList ++ body ++ "</code>".toList) = some (⟨[], body⟩, []) := by
  have hbody : upTo? (afterClose? "code".toList) (body ++ "</code>".toList) = some (body, []) :=
    upTo?_closeTag (by decide) hclose rfl
  have hname : afterName? "code".toList ("code>".toList ++ body ++ "</code>".toList) =
      some ('>' :: (body ++ "</code>".toList)) := rfl
  change codeElement before ('<' :: ("code>".toList ++ body ++ "</code>".toList)) = _
  simp only [codeElement, hname]
  rw [List.dropWhile_cons_of_neg (by decide), List.takeWhile_cons_of_neg (by decide),
    if_pos (by decide)]
  dsimp only
  rw [hbody]
  rfl

/-- What is shown of a code element: its code between two marker lines, or nothing if the code is
blank. -/
def shownCode (language body : Text) : Text :=
  if isBlankText (codeOf body) then []
  else "```".toList ++ language ++ ['\n'] ++ codeOf body ++ ['\n'] ++ "```".toList

lemma Unmarked.dropTokenMarks (h : Unmarked t) : dropTokenMarks t = t := by
  rw [Markup.dropTokenMarks, List.filter_eq_self]
  intro c hc
  simpa [isMark] using h c hc

/-- With a code element taken out there is its token, if it has code. -/
lemma takenOut_codeElement (hbody : Unmarked body)
    (hclose : ∀ tag, IsCloseTag "code".toList tag → ¬tag <:+: body) :
    takenOut resolver ("<code>".toList ++ body ++ "</code>".toList) =
      if isBlankText (codeOf body) then ([], .ok {})
      else ("\n\n".toList ++ token 0 ++ "\n\n".toList,
        .ok ⟨[shownCode resolver.config.codeLanguage body]⟩) := by
  have hmarks : dropTokenMarks ("<code>".toList ++ body ++ "</code>".toList) =
      "<code>".toList ++ body ++ "</code>".toList := by
    have htags : Unmarked "<code>".toList ∧ Unmarked "</code>".toList := by decide
    exact ((htags.1.append hbody).append htags.2).dropTokenMarks
  have hregion : codeRegion none ("<code>".toList ++ body ++ "</code>".toList) =
      some (.element ⟨[], body⟩, []) := by
    rw [codeRegion, codeElement_source hclose]
    rfl
  have hlanguage : languageOf [] = [] := rfl
  have hverbatim : isVerbatim [] = false := by decide
  have hstash : replaceWith codeRegion (stashCode resolver.config.codeLanguage) {}
      (dropTokenMarks ("<code>".toList ++ body ++ "</code>".toList)) =
      stashCode resolver.config.codeLanguage {} (.element ⟨[], body⟩) := by
    rw [hmarks, replaceWith_of_found _ _ hregion (by simp)]
  split
  case isTrue hblank =>
    refine takenOut_of_codeRegions (hstash.trans ?_) (by simp) (by simp)
    rw [codeOf] at hblank
    simp [stashCode, hlanguage, hverbatim, hblank]
  case isFalse hcode =>
    refine takenOut_of_codeRegions (hstash.trans ?_) (by decide) (by decide)
    rw [shownCode, if_neg hcode]
    rw [codeOf] at hcode ⊢
    simp [stashCode, hlanguage, hverbatim, hcode, Stash.put, fencedBlock]

/-- A token is put back as its text, if its number can be read. -/
lemma Stash.restore_token (h : s.items[n]? = some t) (hopen : tokenOpen ∉ t) :
    s.restore (token n) = .ok t ∨
      s.Overfull ∧ ∃ l, s.restore (token n) = .error (.fault (.longInteger l)) := by
  have htoken : withTokens [.found (n, t)] = token n := List.append_nil _
  have hwritten : written (fun y : Nat × Text => y.2) [.found (n, t)] = t := List.append_nil _
  rcases @restoreOnce_withTokens _ s [.found (n, t)] id (by simp) (by simpa using h)
    with hok | ⟨hfull, l, herror⟩
  · rw [htoken] at hok
    exact .inl (Stash.restore_of_restoreOnce (hok.trans (congrArg _ hwritten)) hopen)
  · rw [htoken] at herror
    exact .inr ⟨hfull, l, Stash.restore_of_error herror⟩

lemma text_codeElement (hbody : Unmarked body)
    (hclose : ∀ tag, IsCloseTag "code".toList tag → ¬tag <:+: body)
    (hopen : tokenOpen ∉ shownCode resolver.config.codeLanguage body) :
    (render resolver ("<code>".toList ++ body ++ "</code>".toList)).text =
      .ok (shownCode resolver.config.codeLanguage body) := by
  have hwork : needsWork ("<code>".toList ++ body ++ "</code>".toList) = true :=
    needsWork_of (.inl (by simp))
  have htaken := @takenOut_codeElement resolver body hbody hclose
  rw [render, if_pos hwork, text_convert]
  split at htaken
  case isTrue hblank =>
    have htidy : tidy [] = [] := by decide +kernel
    rw [laidOut_of_takenOut htaken (by simp), htidy, shownCode, if_pos hblank]
    exact Stash.restore_of_restoreOnce (Stash.restoreOnce_eq_self _ (by simp)) (by simp)
  case isFalse hcode =>
    have htidy : tidy ("\n\n".toList ++ token 0 ++ "\n\n".toList) = token 0 := by decide +kernel
    rw [laidOut_of_takenOut htaken (by decide), htidy]
    refine (Stash.restore_token rfl hopen).resolve_right fun h => ?_
    have hpow : 0 < 10 ^ Numeral.maxDigits := Nat.pow_pos (by decide)
    have hone : 10 ^ Numeral.maxDigits < 1 := h.1
    omega

/-- **A code element becomes one fence.** The body has no mark of a token and no closing tag of its
own, and the default language is a word that does not ask for verbatim code. The element is rendered
as its code between two marker lines, or as nothing if the code is blank. What it is rendered as is
read back as one fence with this language and code, and rendering it again, with whatever resolver,
leaves it as it is. -/
theorem render_codeElement (hbody : ∀ c ∈ body, c ≠ tokenOpen ∧ c ≠ tokenClose)
    (hclose : ∀ tag, IsCloseTag "code".toList tag → ¬tag <:+: body)
    (hword : ∀ c ∈ resolver.config.codeLanguage, isWord c = true)
    (hverbatim : isVerbatim resolver.config.codeLanguage = false) :
    ∃ out, out = shownCode resolver.config.codeLanguage body ∧
      (render resolver ("<code>".toList ++ body ++ "</code>".toList)).text = .ok out ∧
      (isBlankText (codeOf body) = false → fence none out =
        some (⟨resolver.config.codeLanguage, codeOf body, out⟩, [])) ∧
      ∀ other, (render other out).text = .ok out := by
  have hmarks : Unmarked body := fun c hc => by simpa [isMark] using hbody c hc
  let listing := codeListing resolver.config.codeLanguage body hword hmarks
  refine ⟨_, rfl, ?_⟩
  by_cases hblank : isBlankText (codeOf body) = true
  · have hshown : shownCode resolver.config.codeLanguage body = [] := if_pos hblank
    refine ⟨text_codeElement hmarks hclose (by simp [hshown]), by simp [hblank], fun other => ?_⟩
    rw [hshown]
    rfl
  · have hshown : shownCode resolver.config.codeLanguage body = listing.source := by
      rw [shownCode, if_neg hblank]
      simp [Listing.source, fencedBlock, listing, codeListing]
    refine ⟨text_codeElement hmarks hclose ?_, fun _ => ?_, fun other => ?_⟩
    · rw [hshown]
      exact fun hmem => (Listing.of_mem_source hmem).1 rfl
    · rw [hshown]
      exact listing.fence_source
    · have hsteady := @Steady.text_render other _ (listing.steady hverbatim)
      rw [hshown]
      simpa [Part.text] using hsteady

/-- Indented code in a CDATA section, with a line of three backticks and tags of other names. -/
def sampleBody : Text :=
  "<![CDATA[\n  if (a < b)\n  ```\n    x = \"</codes>\";\n\n]]>".toList

theorem render_codeElement_of_sample :
    (∀ c ∈ sampleBody, c ≠ tokenOpen ∧ c ≠ tokenClose) ∧
      (∀ tag, IsCloseTag "code".toList tag → ¬tag <:+: sampleBody) ∧
      ∃ out, out = "```csharp\nif (a < b)\n\\`\\`\\`\n  x = \"</codes>\";\n```".toList ∧
        (render {} ("<code>".toList ++ sampleBody ++ "</code>".toList)).text = .ok out ∧
        ∀ other, (render other out).text = .ok out := by
  have hbody : ∀ c ∈ sampleBody, c ≠ tokenOpen ∧ c ≠ tokenClose :=
    List.all_iff_forall_prop.1 (by decide +kernel)
  have hclose : ∀ tag, IsCloseTag "code".toList tag → ¬tag <:+: sampleBody :=
    no_closeTag_iff.2 (by decide +kernel)
  obtain ⟨out, hout, htext, -, hsame⟩ := @render_codeElement {} sampleBody hbody hclose
    (List.all_eq_true.1 (by decide +kernel)) (by decide +kernel)
  refine ⟨hbody, hclose, out, hout.trans (by decide +kernel), htext, hsame⟩

end LinkedDocs.Markup
