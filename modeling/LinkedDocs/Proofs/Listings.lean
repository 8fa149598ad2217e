import Mathlib.Data.Bool.AllAny
import LinkedDocs.Proofs.Rows
import LinkedDocs.Proofs.SoundStash
import LinkedDocs.Proofs.Stability

/-!
# Fenced code comes out as it is

Main statement: in a text that has fenced code between lines without tags and backticks, every fence
comes out as it stands, and verbatim code without its markers. All else is laid out as if a single
sign stood for each fence.
-/

namespace LinkedDocs.Markup

open Text

/-- A line of three backticks with only spaces and tabs around them. -/
def IsMarkerLine (line : Text) : Prop :=
  ∃ a b : Text, (∀ c ∈ a, isIndent c = true) ∧ (∀ c ∈ b, isIndent c = true) ∧
    line = a ++ "```".toList ++ b

/-- Fenced code in a language, none of whose lines could close the fence. -/
structure Listing where
  language : Text
  body : Text
  word : ∀ c ∈ language, isBlank c = false ∧ c ≠ '`'
  inside : ∀ line ∈ splitOn '\n' body, ¬IsMarkerLine line
  unmarked : ∀ c ∈ language ++ body, c ≠ tokenOpen ∧ c ≠ tokenClose

namespace Listing

/-- The whole fence. -/
def source (x : Listing) : Text :=
  fencedBlock x.language x.body

/-- What is shown of it: verbatim code has no markers. -/
def shown (x : Listing) : Text :=
  if isVerbatim x.language then x.body else x.source

def region (x : Listing) : CodeRegion :=
  .fenced ⟨x.language, x.body, x.source⟩

end Listing

/-- Next to a fence there is a line feed. -/
def Meets : Piece Listing → Piece Listing → Prop
  | .plain _, .plain _ => True
  | .plain c, .found _ => c = '\n'
  | .found _, .plain c => c = '\n'
  | .found _, .found _ => False

instance : DecidableRel Meets
  | .plain _, .plain _ => .isTrue trivial
  | .plain c, .found _ => inferInstanceAs (Decidable (c = '\n'))
  | .found _, .plain c => inferInstanceAs (Decidable (c = '\n'))
  | .found _, .found _ => .isFalse id

/-- Every fence begins where a line begins and ends where a line ends. -/
def OnOwnLines (row : List (Piece Listing)) : Prop :=
  row.IsChain Meets

instance : DecidablePred OnOwnLines := fun row =>
  inferInstanceAs (Decidable (row.IsChain Meets))

variable {α : Type} {t u v : Text} {row : List (Piece Listing)} {before : Option Char} {s : Stash}
  {n : Nat}

/-! ### Lines of code -/

lemma isClosingLine_iff : isClosingLine t = true ↔ IsMarkerLine t := by
  constructor
  · intro h
    unfold isClosingLine at h
    split at h
    case h_1 rest hafter =>
      unfold afterMarker? at hafter
      split at hafter
      case h_1 rest' hdrop =>
        obtain rfl := Option.some.inj hafter
        refine ⟨t.takeWhile isIndent, rest', fun c hc => List.mem_takeWhile_imp hc,
          List.all_eq_true.1 h, ?_⟩
        conv_lhs => rw [← List.takeWhile_append_dropWhile (p := isIndent) (l := t), hdrop]
        simp
      · cases hafter
    · cases h
  · rintro ⟨a, b, ha, hb, rfl⟩
    have hafter : afterMarker? (a ++ "```".toList ++ b) = some b := by
      rw [afterMarker?, List.append_assoc, List.dropWhile_append_of_pos ha]
      rfl
    rw [isClosingLine, hafter]
    exact List.all_eq_true.2 hb

instance : DecidablePred IsMarkerLine := fun _ =>
  decidable_of_iff _ isClosingLine_iff

lemma splitOn_of_not_mem (h : '\n' ∉ u) : splitOn '\n' u = [u] := by
  induction u with
  | nil => rfl
  | cons c u ih =>
    obtain ⟨hc, hu⟩ : '\n' ≠ c ∧ '\n' ∉ u := by simpa using h
    rw [splitOn, ih hu]
    exact if_neg (Ne.symm hc)

lemma splitOn_append (h : '\n' ∉ u) : splitOn '\n' (u ++ '\n' :: v) = u :: splitOn '\n' v := by
  induction u with
  | nil =>
    obtain ⟨part, parts, hv⟩ := List.exists_cons_of_ne_nil (splitOn_ne_nil '\n' v)
    simp [splitOn, hv]
  | cons c u ih =>
    obtain ⟨hc, hu⟩ : '\n' ≠ c ∧ '\n' ∉ u := by simpa using h
    rw [List.cons_append, splitOn, ih hu]
    exact if_neg (Ne.symm hc)

lemma takeWhile_line (h : '\n' ∉ u) : (u ++ '\n' :: v).takeWhile (· != '\n') = u := by
  have hall : ∀ c ∈ u, (c != '\n') = true := fun c hc => bne_iff_ne.2 fun heq => h (heq ▸ hc)
  rw [List.takeWhile_append_of_pos hall, List.takeWhile_cons_of_neg (by simp), List.append_nil]

lemma dropWhile_line (h : '\n' ∉ u) : (u ++ '\n' :: v).dropWhile (· != '\n') = '\n' :: v := by
  have hall : ∀ c ∈ u, (c != '\n') = true := fun c hc => bne_iff_ne.2 fun heq => h (heq ▸ hc)
  rw [List.dropWhile_append_of_pos hall, List.dropWhile_cons_of_neg (by simp)]

lemma linesToClosing?_line (h : '\n' ∉ u) (hclosing : ¬IsMarkerLine u) :
    linesToClosing? (u ++ '\n' :: v) =
      (linesToClosing? v).map fun y => (u :: y.1, y.2) := by
  have hdrop := @dropWhile_line u v h
  rw [linesToClosing?]
  simp only [takeWhile_line h]
  rw [if_neg (mt isClosingLine_iff.1 hclosing)]
  split
  case h_1 heq => simp [heq] at hdrop
  case h_2 c next heq =>
    obtain ⟨-, rfl⟩ := List.cons.inj (heq.symm.trans hdrop)
    rfl

/-- Code whose lines do not close the fence is read up to the marker. -/
lemma linesToClosing?_body (h : ∀ line ∈ splitOn '\n' t, ¬IsMarkerLine line) :
    linesToClosing? (t ++ "\n```".toList) = some (splitOn '\n' t, []) := by
  have hmarker : linesToClosing? "```".toList = some ([], []) := by
    rw [linesToClosing?]
    exact if_pos (by decide)
  induction hn : t.length using Nat.strong_induction_on generalizing t with
  | _ n ih =>
  by_cases hmem : '\n' ∈ t
  · obtain ⟨u, v, rfl, hu⟩ := List.eq_append_cons_of_mem hmem
    rw [splitOn_append hu] at h ⊢
    obtain ⟨hline, hrest⟩ := List.forall_mem_cons.1 h
    have hlength : v.length < n := by
      rw [← hn, List.length_append, List.length_cons]
      omega
    rw [List.append_assoc, List.cons_append, linesToClosing?_line hu hline,
      ih v.length hlength hrest rfl]
    rfl
  · rw [splitOn_of_not_mem hmem] at h ⊢
    have hfeed : t ++ "\n```".toList = t ++ '\n' :: "```".toList := rfl
    rw [hfeed, linesToClosing?_line hmem (h t List.mem_cons_self), hmarker]
    rfl

lemma join_splitOn (t : Text) : join ['\n'] (splitOn '\n' t) = t := by
  induction t with
  | nil => rfl
  | cons c t ih =>
    rw [splitOn]
    split
    case h_1 hnone =>
      rw [hnone] at ih
      rw [← ih]
      rfl
    case h_2 part parts hparts =>
      rw [hparts] at ih
      split
      case isTrue hc =>
        rw [join, ih, hc]
        · rfl
        · simp
      · cases parts with
        | nil => rw [← ih]; rfl
        | cons next parts =>
          rw [← ih]
          simp [join]

lemma join_cons {separator : Char} (line : Text) (more : List Text) :
    join [separator] (line :: more) = line ++ more.flatMap (separator :: ·) := by
  induction more generalizing line with
  | nil => simp [join]
  | cons next more ih => simp [join, ih]

lemma not_mem_join {d separator : Char} {lines : List Text} (hd : d ≠ separator)
    (h : ∀ line ∈ lines, d ∉ line) : d ∉ join [separator] lines := by
  cases lines with
  | nil => simp [join]
  | cons line more =>
    obtain ⟨hline, hmore⟩ := List.forall_mem_cons.1 h
    rw [join_cons, List.mem_append, not_or, List.mem_flatMap]
    refine ⟨hline, ?_⟩
    rintro ⟨next, hnext, hmem⟩
    exact hmore next hnext ((List.mem_cons.1 hmem).resolve_left hd)

/-- Texts that are joined are trimmed if each of them is. -/
lemma trimmed_join {separator : Char} {line : Text} {more : List Text}
    (h : ∀ u ∈ line :: more, InLine u) : Trimmed (join [separator] (line :: more)) := by
  have hfirst := h line List.mem_cons_self
  rw [join_cons]
  refine ⟨?_, ?_⟩
  · rw [List.head?_append_of_ne_nil _ hfirst.ne_nil]
    exact hfirst.trimmed.1
  · rcases List.eq_nil_or_concat more with rfl | ⟨more, last, rfl⟩
    · simpa using hfirst.trimmed.2
    · have hlast : InLine last := h last (by simp)
      rw [List.concat_eq_append, List.flatMap_append, List.flatMap_singleton, ← List.append_assoc,
        ← List.singleton_append, ← List.append_assoc, List.getLast?_append_of_ne_nil _ hlast.ne_nil]
      exact hlast.trimmed.2

lemma splitOn_lines {line : Text} {more : List Text} (h : ∀ u ∈ line :: more, '\n' ∉ u) :
    splitOn '\n' (join ['\n'] (line :: more)) = line :: more := by
  rw [join_cons]
  induction more generalizing line with
  | nil => simpa using splitOn_of_not_mem (h line List.mem_cons_self)
  | cons next more ih =>
    obtain ⟨hline, hmore⟩ := List.forall_mem_cons.1 h
    rw [List.flatMap_cons, List.cons_append, splitOn_append hline, ih hmore]

/-! ### Fences in a row -/

namespace Listing

variable {x : Listing}

lemma newline_not_mem_language (x : Listing) : '\n' ∉ x.language := by
  intro hmem
  exact absurd (x.word _ hmem).1 (by decide)

/-- A listing that is a whole text is read as a fence. -/
lemma fence_source (x : Listing) :
    fence none x.source = some (⟨x.language, x.body, x.source⟩, []) := by
  have hsource : x.source = "```".toList ++
      (x.language ++ '\n' :: (x.body ++ "\n```".toList)) := by
    simp [source, fencedBlock]
  have hafter : afterMarker? x.source =
      some (x.language ++ '\n' :: (x.body ++ "\n```".toList)) := by
    rw [hsource]
    rfl
  have hlanguage : (x.language ++ '\n' :: (x.body ++ "\n```".toList)).takeWhile
      (fun c => !isBlank c && c != '`') = x.language := by
    have hall : ∀ c ∈ x.language, (!isBlank c && c != '`') = true := by
      intro c hc
      simp [(x.word c hc).1, (x.word c hc).2]
    rw [List.takeWhile_append_of_pos hall, List.takeWhile_cons_of_neg (by decide),
      List.append_nil]
  unfold fence
  simp only [decide_true, Bool.true_or, if_true, hafter,
    dropWhile_line x.newline_not_mem_language, linesToClosing?_body x.inside, hlanguage,
    Option.map_some, join_splitOn, List.length_nil, Nat.sub_zero, List.take_length]

lemma codeRegion_source (x : Listing) (hbefore : before = none ∨ before = some '\n')
    (hrest : EndsLine t) : codeRegion before (x.source ++ t) = some (x.region, t) := by
  rw [codeRegion, (fence_append x.fence_source hbefore hrest).1]
  rfl

lemma source_ne_nil (x : Listing) : x.source ≠ [] := by
  simp [source, fencedBlock]

end Listing

/-- No marker begins where a row has characters. -/
lemma head?_dropWhile_ne (hplain : ∀ c, .plain c ∈ row → c ≠ '`') (hlines : OnOwnLines row)
    (hhead : ∀ x, row.head? ≠ some (.found x)) :
    ((written Listing.source row).dropWhile isIndent).head? ≠ some '`' := by
  induction row with
  | nil => simp
  | cons piece row ih =>
    cases piece with
    | found x => exact absurd rfl (hhead x)
    | plain c =>
      rw [written_cons, Piece.text, List.singleton_append]
      by_cases hc : isIndent c = true
      · rw [List.dropWhile_cons_of_pos hc]
        apply ih (fun d hd => hplain d (List.mem_cons_of_mem _ hd)) hlines.tail
        intro x hx
        -- A fence comes after a line feed, which is no indentation.
        obtain ⟨row, rfl⟩ := List.head?_eq_some_iff.1 hx
        have hfeed : c = '\n' := (List.isChain_cons_cons.1 hlines).1
        rw [hfeed] at hc
        exact absurd hc (by decide)
      · rw [List.dropWhile_cons_of_neg hc]
        exact fun heq => hplain c List.mem_cons_self (Option.some.inj heq)

/-- What comes after a fence is the end of its line. -/
lemma OnOwnLines.next_eq {x : Listing} {q : Piece Listing} (h : OnOwnLines (.found x :: row))
    (hq : row.head? = some q) : q = .plain '\n' := by
  obtain ⟨row, rfl⟩ := List.head?_eq_some_iff.1 hq
  have hmeets : Meets (.found x) q := (List.isChain_cons_cons.1 h).1
  cases q with
  | plain c => exact congrArg Piece.plain hmeets
  | found y => exact hmeets.elim

lemma OnOwnLines.endsLine {x : Listing} (h : OnOwnLines (.found x :: row)) :
    EndsLine (written Listing.source row) := by
  cases row with
  | nil => exact .inl rfl
  | cons q row =>
    rw [h.next_eq rfl]
    exact .inr rfl

/-- No code begins at a character of the text between the fences. -/
lemma codeRegion_plain {c : Char} (hplain : ∀ d, .plain d ∈ .plain c :: row → d ≠ '<' ∧ d ≠ '`')
    (hlines : OnOwnLines (.plain c :: row)) :
    codeRegion before (c :: written Listing.source row) = none := by
  have hfence : fence before (c :: written Listing.source row) = none := by
    apply fence_of_afterMarker?
    have hhead := head?_dropWhile_ne (fun d hd => (hplain d hd).2) hlines (by simp)
    unfold afterMarker?
    split
    case h_1 heq =>
      rw [written_cons, Piece.text, List.singleton_append, heq] at hhead
      exact absurd rfl hhead
    · rfl
  have helement : codeElement before (c :: written Listing.source row) = none :=
    (quiet_of_ne (hplain c List.mem_cons_self).1).codeElement
  rw [codeRegion, hfence, helement]
  rfl

/-- The fences of a row are found as they stand there. -/
lemma pieces_codeRegion (hplain : ∀ c, .plain c ∈ row → c ≠ '<' ∧ c ≠ '`')
    (hlines : OnOwnLines row)
    (hbefore : ∀ x, row.head? = some (.found x) → before = none ∨ before = some '\n') :
    pieces codeRegion before (written Listing.source row) =
      row.map (Piece.map Listing.region) := by
  induction row generalizing before with
  | nil => rw [written_nil, pieces, List.map_nil]
  | cons piece row ih =>
    have hrow {before : Option Char} := @ih before
      (fun d hd => hplain d (List.mem_cons_of_mem _ hd)) hlines.tail
    cases piece with
    | plain c =>
      rw [written_cons, Piece.text, List.singleton_append,
        pieces_cons_of_none (codeRegion_plain hplain hlines), hrow]
      · rfl
      · intro x hx
        obtain ⟨row, rfl⟩ := List.head?_eq_some_iff.1 hx
        have hfeed : c = '\n' := (List.isChain_cons_cons.1 hlines).1
        exact .inr (congrArg some hfeed)
    | found x =>
      have hfound := x.codeRegion_source (hbefore x rfl) hlines.endsLine
      rw [written_cons, Piece.text, pieces_append_of_found hfound x.source_ne_nil, hrow]
      · rfl
      · intro y hy
        cases hlines.next_eq hy

/-! ### Tokens for fences -/

/-- A row with its finds numbered. -/
def number : Nat → List (Piece α) → List (Piece (Nat × α))
  | _, [] => []
  | n, .plain c :: row => .plain c :: number n row
  | n, .found x :: row => .found (n, x) :: number (n + 1) row

lemma map_snd_number (n : Nat) (row : List (Piece α)) :
    (number n row).map (Piece.map Prod.snd) = row := by
  induction row generalizing n with
  | nil => rfl
  | cons piece row ih => cases piece <;> simp [number, Piece.map, ih]

lemma plain_mem_of_number {row : List (Piece α)} {c : Char} (h : .plain c ∈ number n row) :
    .plain c ∈ row := by
  rw [← map_snd_number n row]
  exact List.mem_map_of_mem (f := Piece.map Prod.snd) h

lemma getElem?_of_number {row : List (Piece α)} {y : Nat × α} (h : .found y ∈ number n row) :
    ∃ i, y.1 = n + i ∧ (findsOf row)[i]? = some y.2 := by
  induction row generalizing n with
  | nil => cases h
  | cons piece row ih =>
    cases piece with
    | plain c =>
      obtain ⟨i, hi, hy⟩ := ih (by simpa [number] using h)
      exact ⟨i, hi, hy⟩
    | found x =>
      rcases List.mem_cons.1 h with heq | h
      · rw [Piece.found.inj heq]
        exact ⟨0, rfl, rfl⟩
      · obtain ⟨i, hi, hy⟩ := ih h
        exact ⟨i + 1, by omega, hy⟩

/-- The text of a row with the tokens of the numbers for its finds. -/
def withTokens (row : List (Piece (Nat × α))) : Text :=
  written (fun y => token y.1) row

lemma weave_listings (language : Text) (s : Stash) (row : List (Piece Listing)) :
    weave (stashCode language) s (row.map (Piece.map Listing.region)) =
      (withTokens (number s.items.length row), ⟨s.items ++ (findsOf row).map Listing.shown⟩) := by
  induction row generalizing s with
  | nil => simp [weave, withTokens, number, findsOf]
  | cons piece row ih =>
    cases piece with
    | plain c => simp [weave, Piece.map, ih, withTokens, number, Piece.text]
    | found x =>
      simp [weave, Piece.map, ih, withTokens, number, Piece.text, Listing.region, stashCode,
        Stash.put, Listing.shown]

lemma not_mem_withTokens {row : List (Piece (Nat × α))} {d : Char} (hplain : .plain d ∉ row)
    (htoken : ∀ n, d ∉ token n) : d ∉ withTokens row := by
  intro hmem
  obtain ⟨piece, hpiece, hmem⟩ := List.mem_flatMap.1 hmem
  cases piece with
  | plain c => exact hplain (List.mem_singleton.1 hmem ▸ hpiece)
  | found y => exact htoken y.1 hmem

/-- A stash that has the texts of the finds puts them back, if their numbers can be read. -/
lemma restoreOnce_withTokens {row : List (Piece (Nat × α))} {image : α → Text}
    (hplain : .plain tokenOpen ∉ row)
    (hitems : ∀ y, .found y ∈ row → s.items[y.1]? = some (image y.2)) :
    s.restoreOnce (withTokens row) = .ok (written (fun y => image y.2) row) ∨
      s.Overfull ∧ ∃ l, s.restoreOnce (withTokens row) = .error (.longInteger l) := by
  have hpieces := @pieces_tokens none (row.map (Piece.map Prod.fst)) (by
    intro c hc heq
    obtain ⟨piece, hpiece, hc⟩ := List.mem_map.1 hc
    cases piece with
    | plain d => exact hplain (by rwa [← heq, ← Piece.plain.inj hc])
    | found y => cases hc)
  have hstep : ∀ piece ∈ row,
      s.piece ((piece.map Prod.fst).map Text.ofNat) = .ok (piece.text fun y => image y.2) ∨
        ∃ e, (s.Overfull ∧ ∃ l, e = .longInteger l) ∧
          s.piece ((piece.map Prod.fst).map Text.ofNat) = .error e := by
    intro piece hpiece
    cases piece with
    | plain c => exact .inl rfl
    | found y =>
      rcases Stash.get_ofNat_cases (hitems y hpiece) with hok | ⟨hfull, l, herror⟩
      · exact .inl hok
      · exact .inr ⟨_, ⟨hfull, l, rfl⟩, herror⟩
  have htext : withTokens row = (row.map (Piece.map Prod.fst)).flatMap (Piece.text token) :=
    (written_map Prod.fst token row).symm
  rw [Stash.restoreOnce, htext, hpieces, List.map_map, List.mapM_map]
  rcases mapM_ok_or hstep with hok | ⟨e, ⟨hfull, l, rfl⟩, herror⟩
  · left
    exact (congrArg (Except.map List.flatten) hok).trans (by rw [written, List.flatMap_def]; rfl)
  · exact .inr ⟨hfull, l, congrArg (Except.map List.flatten) herror⟩

/-! ### Rendering -/

lemma Listing.of_mem_source {x : Listing} {c : Char} (h : c ∈ x.source) :
    c ≠ tokenOpen ∧ c ≠ tokenClose := by
  by_cases hmem : c ∈ x.language ++ x.body
  · exact x.unmarked c hmem
  · rw [List.mem_append, not_or] at hmem
    have hmarker : c = '`' ∨ c = '\n' ∨ c = '`' := by simpa [source, fencedBlock, hmem] using h
    rcases hmarker with rfl | rfl | rfl <;> decide

lemma Listing.tokenOpen_not_mem_shown (x : Listing) : tokenOpen ∉ x.shown := by
  unfold shown
  split
  · exact fun h => (x.unmarked _ (List.mem_append_right _ h)).1 rfl
  · exact fun h => (of_mem_source h).1 rfl

lemma dropTokenMarks_source (hplain : ∀ c, .plain c ∈ row → c ∉ ['<', '`', tokenOpen, tokenClose]) :
    dropTokenMarks (written Listing.source row) = written Listing.source row := by
  rw [dropTokenMarks, List.filter_eq_self]
  intro c hc
  obtain ⟨piece, hpiece, hc⟩ := List.mem_flatMap.1 hc
  cases piece with
  | plain d =>
    rw [List.mem_singleton.1 hc]
    have hd := hplain d hpiece
    simp only [List.mem_cons, not_or] at hd
    simp [hd]
  | found x => simpa using Listing.of_mem_source hc

lemma replaceWith_codeRegion (language : Text)
    (hplain : ∀ c, .plain c ∈ row → c ∉ ['<', '`', tokenOpen, tokenClose])
    (hlines : OnOwnLines row) :
    replaceWith codeRegion (stashCode language) {} (written Listing.source row) =
      (withTokens (number 0 row), ⟨(findsOf row).map Listing.shown⟩) := by
  have hpieces : pieces codeRegion none (written Listing.source row) =
      row.map (Piece.map Listing.region) := by
    apply pieces_codeRegion (fun c hc => ?_) hlines fun _ _ => .inl rfl
    have hd := hplain c hc
    simp only [List.mem_cons, not_or] at hd
    exact ⟨hd.1, hd.2.1⟩
  rw [replaceWith_eq_weave, hpieces, weave_listings]
  rfl

/-- If no tag and no backtick is left with the code taken out, then nothing else is taken out. -/
lemma takenOut_of_codeRegions {resolver : Resolver}
    (h : replaceWith codeRegion (stashCode resolver.config.codeLanguage) {} (dropTokenMarks t) =
      (u, s)) (hlt : '<' ∉ u) (htick : '`' ∉ u) : takenOut resolver t = (u, .ok s) := by
  have hreferences (progress : Progress) : stashReferences resolver progress u = (u, progress) := by
    apply stashReferences_eq_self
    intro a c v ht
    apply quiet_of_ne
    rintro rfl
    exact hlt (by simp [ht])
  have hspans : replaceWith codeSpan Stash.put s u = (u, s) :=
    replaceWith_eq_self _ _ (pieces_eq_map_of_not_mem tick_mem_of_codeSpan htick)
  have hinline : replaceWith (element "c".toList) stashInline (.ok s) u = (u, .ok s) :=
    replaceWith_eq_self _ _ (pieces_eq_map_of_not_mem (fun h => lt_mem_of_afterOpen? h) hlt)
  simp only [takenOut, spanned, h, hreferences, hspans, hinline]

/-- A text without tags only has to be tidied. -/
lemma laidOut_of_takenOut {resolver : Resolver} (h : takenOut resolver t = (u, .ok s))
    (hlt : '<' ∉ u) : laidOut resolver t = .ok (tidy u, s) := by
  rw [laidOut, h]
  dsimp only
  rw [format_eq_self hlt, layOutLists_eq_self hlt]
  rfl

/-- The fences of a row are all that is taken out of it. -/
lemma takenOut_listings (resolver : Resolver)
    (hplain : ∀ c, .plain c ∈ row → c ∉ ['<', '`', tokenOpen, tokenClose])
    (hlines : OnOwnLines row) :
    takenOut resolver (written Listing.source row) =
      (withTokens (number 0 row), .ok ⟨(findsOf row).map Listing.shown⟩) := by
  apply takenOut_of_codeRegions
  · rw [dropTokenMarks_source hplain, replaceWith_codeRegion _ hplain hlines]
  · exact not_mem_withTokens (fun h => hplain _ (plain_mem_of_number h) (by simp))
      fun n h => (of_mem_token h).2.1 rfl
  · exact not_mem_withTokens (fun h => hplain _ (plain_mem_of_number h) (by simp))
      fun n h => (of_mem_token h).1 rfl

lemma laidOut_listings (resolver : Resolver)
    (hplain : ∀ c, .plain c ∈ row → c ∉ ['<', '`', tokenOpen, tokenClose])
    (hlines : OnOwnLines row) :
    laidOut resolver (written Listing.source row) =
      .ok (withTokens (tidyRow (number 0 row)), ⟨(findsOf row).map Listing.shown⟩) := by
  have hlt : .plain '<' ∉ number 0 row := fun h => hplain _ (plain_mem_of_number h) (by simp)
  have htidy : tidy (withTokens (number 0 row)) = withTokens (tidyRow (number 0 row)) :=
    tidy_written hlt (fun y _ => inLine_tokenOf fun c hc => isDigit_of_mem_ofNat hc)
      fun y _ c hc => (of_mem_token hc).2
  rw [← htidy]
  exact laidOut_of_takenOut (takenOut_listings resolver hplain hlines)
    (not_mem_withTokens hlt fun n h => (of_mem_token h).2.1 rfl)

lemma hasPart_of_source {x : Listing} (h : .found x ∈ row) :
    hasPart "```".toList (written Listing.source row) = true := by
  have happend (u v : Text) : hasPart "```".toList (u ++ ("```".toList ++ v)) = true := by
    induction u with
    | nil =>
      rw [List.nil_append, show "```".toList ++ v = '`' :: '`' :: '`' :: v from rfl, hasPart]
      simp [startsWith, dropLead?]
    | cons c u ih => rw [List.cons_append, hasPart, ih, Bool.or_true]
  obtain ⟨a, b, rfl⟩ := List.append_of_mem h
  have hsource : x.source ++ written Listing.source b = "```".toList ++
      (x.language ++ '\n' :: x.body ++ "\n```".toList ++ written Listing.source b) := by
    simp [Listing.source, fencedBlock]
  rw [written_append, written_cons, Piece.text, hsource]
  exact happend _ _

/-- **Fenced code comes out as it is.** A row has fenced code on lines of its own, and characters
that are no opening angle bracket, backtick or mark of a token. Its text is rendered as the row is
laid out that has one sign for each fence: closing angle brackets are escaped, runs of blank lines
collapsed and the ends trimmed. In it every fence stands in its order as it was, or only the body if
the code is verbatim. The one exception is a row with more fences than there are numbers that can be
read. -/
theorem render_listings (resolver : Resolver)
    (hplain : ∀ c, .plain c ∈ row → c ∉ ['<', '`', tokenOpen, tokenClose])
    (hlines : OnOwnLines row) (hcode : findsOf row ≠ []) :
    findsOf (tidyRow row) = findsOf row ∧
      ((render resolver (written Listing.source row)).text =
          .ok (written Listing.shown (tidyRow row)) ∨
        10 ^ Numeral.maxDigits < (findsOf row).length ∧
          ∃ l, (render resolver (written Listing.source row)).text =
            .error (.fault (.longInteger l))) := by
  refine ⟨findsOf_tidyRow row, ?_⟩
  obtain ⟨x, hx⟩ := List.exists_mem_of_ne_nil _ hcode
  have hwork := needsWork_of (.inr (hasPart_of_source (mem_findsOf.1 hx)))
  have hopen {α : Type} {row : List (Piece α)} (hrow : .plain tokenOpen ∉ row) :
      .plain tokenOpen ∉ tidyRow row := by
    intro h
    rcases mem_tidyRow h with h | ⟨c, hc, heq⟩
    · exact hrow h
    · rw [← Piece.plain.inj heq] at hc
      exact absurd hc (by decide)
  have hmark : .plain tokenOpen ∉ row := fun h => hplain _ h (by simp)
  have hitems : ∀ y, .found y ∈ tidyRow (number 0 row) →
      ((findsOf row).map Listing.shown)[y.1]? = some y.2.shown := by
    intro y hy
    rw [← mem_findsOf, findsOf_tidyRow, mem_findsOf] at hy
    obtain ⟨i, hi, hy⟩ := getElem?_of_number hy
    rw [hi, Nat.zero_add, List.getElem?_map, hy]
    rfl
  have htidy : written (fun y => y.2.shown) (tidyRow (number 0 row)) =
      written Listing.shown (tidyRow row) := by
    rw [← written_map Prod.snd Listing.shown, ← tidyRow_map, map_snd_number]
  rw [render, if_pos hwork, text_convert, laidOut_listings resolver hplain hlines]
  rcases restoreOnce_withTokens (s := ⟨(findsOf row).map Listing.shown⟩)
    (hopen (mt plain_mem_of_number hmark)) hitems with hok | ⟨hfull, l, herror⟩
  · left
    rw [htidy] at hok
    apply Stash.restore_of_restoreOnce hok
    intro hmem
    obtain ⟨piece, hpiece, hmem⟩ := List.mem_flatMap.1 hmem
    cases piece with
    | plain c => exact hopen hmark (List.mem_singleton.1 hmem ▸ hpiece)
    | found x => exact x.tokenOpen_not_mem_shown hmem
  · refine .inr ⟨?_, l, Stash.restore_of_error herror⟩
    simpa [Stash.Overfull] using hfull

/-- Code with a tag, backticks and blank lines in it. -/
def sampleCode : Listing :=
  ⟨ "cs".toList, "x <b> ``\n\n\n\n ```y".toList, List.all_iff_forall_prop.1 (by decide), by decide,
    List.all_iff_forall_prop.1 (by decide)⟩

def sampleVerbatim : Listing :=
  ⟨ "NoEscape".toList, "<i>".toList, List.all_iff_forall_prop.1 (by decide), by decide,
    List.all_iff_forall_prop.1 (by decide)⟩

/-- A line of text with blank lines below it, and two listings. -/
def sampleRow : List (Piece Listing) :=
  " a > b\n\n \n\n".toList.map .plain ++ .found sampleCode ::
    .plain '\n' :: .found sampleVerbatim :: "\n\n".toList.map .plain

theorem render_sampleRow :
    (∀ c, .plain c ∈ sampleRow → c ∉ ['<', '`', tokenOpen, tokenClose]) ∧ OnOwnLines sampleRow ∧
      findsOf sampleRow ≠ [] ∧
      (render {} (" a > b\n\n \n\n```cs\nx <b> ``\n\n\n\n ```y\n```\n".toList ++
          "```NoEscape\n<i>\n```\n\n".toList)).text =
        .ok "a &gt; b\n\n```cs\nx <b> ``\n\n\n\n ```y\n```\n<i>".toList := by
  have hplain : ∀ c, .plain c ∈ sampleRow → c ∉ ['<', '`', tokenOpen, tokenClose] := by
    have hall : (sampleRow.all fun
        | .plain c => decide (c ∉ ['<', '`', tokenOpen, tokenClose])
        | .found _ => true) = true := by decide +kernel
    exact fun c hc => of_decide_eq_true (List.all_eq_true.1 hall _ hc)
  have hlines : OnOwnLines sampleRow := by decide +kernel
  have hcode : findsOf sampleRow ≠ [] := List.length_pos_iff.1 (by decide +kernel)
  refine ⟨hplain, hlines, hcode, ?_⟩
  rcases (render_listings {} hplain hlines hcode).2 with hok | ⟨hmany, -⟩
  · exact hok
  · have hpow : Numeral.maxDigits < 10 ^ Numeral.maxDigits := Nat.lt_pow_self (by decide)
    have hfew : (findsOf sampleRow).length < Numeral.maxDigits := by decide +kernel
    omega

end LinkedDocs.Markup
