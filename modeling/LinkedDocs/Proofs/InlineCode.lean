import LinkedDocs.Proofs.CodeElements
import LinkedDocs.Proofs.Restoration
import LinkedDocs.Proofs.Spacing

/-!
# Inline code

Inline code is written between single backticks, and between pairs of backticks if it has a backtick
itself. Main statement: it is one code span exactly if it has no run of two backticks.
-/

namespace LinkedDocs.Markup

open Text

variable {resolver : Resolver} {x t u v inner out : Text} {row : List (Piece Text)}
  {marked : List (Piece (Nat × Text))} {before : Option Char} {s : Stash} {n k : Nat} {c : Char}

/-! ### Spans taken out of a row -/

lemma weave_put_row (s : Stash) (row : List (Piece Text)) :
    weave Stash.put s row = (withTokens (number s.items.length row), ⟨s.items ++ findsOf row⟩) := by
  induction row generalizing s with
  | nil => simp [weave, withTokens, number, findsOf]
  | cons piece row ih =>
    cases piece with
    | plain c => simp [weave, ih, withTokens, number, Piece.text]
    | found t => simp [weave, ih, withTokens, number, Piece.text, Stash.put]

lemma inLine_token (n : Nat) : InLine (token n) :=
  inLine_tokenOf fun _ hc => isDigit_of_mem_ofNat hc

lemma stashInline_eq (s : Stash) (inner : Text) : stashInline (.ok s) inner =
    if inlineCode inner = [] then ([], .ok s)
    else match s.restore (inlineCode inner) with
      | .error cause => ([], .error cause)
      | .ok code => (token s.items.length, .ok ⟨s.items ++ [inlineSpan code]⟩) := by
  simp only [stashInline, List.isEmpty_iff]
  split
  · rfl
  · cases s.restore (inlineCode inner) <;> rfl

lemma withTokens_eq_nil : withTokens marked = [] ↔ marked = [] := by
  constructor
  · intro h
    cases marked with
    | nil => rfl
    | cons piece marked =>
      have hpiece : piece.text (fun y => token y.1) = [] := (List.append_eq_nil_iff.1 h).1
      cases piece <;> simp [Piece.text, token] at hpiece
  · rintro rfl
    rfl

/-- Inline code of a row whose spans have been taken out: they are put back in it. -/
lemma stashInline_withTokens (hplain : .plain tokenOpen ∉ marked)
    (hitems : ∀ y, .found y ∈ marked → s.items[y.1]? = some y.2 ∧ tokenOpen ∉ y.2) :
    stashInline (.ok s) (withTokens marked) =
      (if joinLines marked = [] then ([], .ok s)
        else (token s.items.length,
          .ok ⟨s.items ++ [inlineSpan (written Prod.snd (joinLines marked))]⟩)) ∨
    s.Overfull ∧ ∃ l, stashInline (.ok s) (withTokens marked) =
      ([], .error (.fault (.longInteger l))) := by
  have hcode : inlineCode (withTokens marked) = withTokens (joinLines marked) :=
    inlineCode_written fun y _ => inLine_token y.1
  have hopen : .plain tokenOpen ∉ joinLines marked := by
    intro hmem
    rcases of_mem_joinLines hmem with hspace | ⟨hmem, -⟩
    · exact absurd hspace (by decide)
    · exact hplain hmem
  have hfound {y : Nat × Text} (hy : .found y ∈ joinLines marked) : .found y ∈ marked := by
    rwa [← mem_findsOf, findsOf_joinLines, mem_findsOf] at hy
  simp only [stashInline_eq, hcode, withTokens_eq_nil]
  split
  · exact .inl rfl
  rcases @restoreOnce_withTokens _ s _ id hopen fun y hy => (hitems y (hfound hy)).1
    with hok | ⟨hfull, l, herror⟩
  · left
    rw [Stash.restore_of_restoreOnce hok]
    · rfl
    · intro hmem
      obtain ⟨piece, hpiece, hmem⟩ := List.mem_flatMap.1 hmem
      cases piece with
      | plain c => exact hopen (List.mem_singleton.1 hmem ▸ hpiece)
      | found y => exact (hitems y (hfound hpiece)).2 hmem
  · right
    rw [Stash.restore_of_error herror]
    exact ⟨hfull, l, rfl⟩

/-! ### Texts without fences and references -/

/-- No line begins with a marker. -/
structure Unfenced (t : Text) : Prop where
  first : afterMarker? t = none
  lines : ∀ a v, t = a ++ '\n' :: v → afterMarker? v = none

lemma Unfenced.fence (h : Unfenced t) {a : Text} (ht : t = a ++ c :: v) :
    fence a.getLast? (c :: v) = none := by
  rcases List.eq_nil_or_concat a with rfl | ⟨a, d, rfl⟩
  · exact fence_of_afterMarker? (by rw [← h.first, ht, List.nil_append])
  · by_cases hd : d = '\n'
    · subst hd
      exact fence_of_afterMarker? (h.lines a (c :: v) (by rw [ht]; simp))
    · rw [List.concat_eq_append, List.getLast?_concat]
      exact fence_of_not_lineStart hd

/-- Of a text without fences and references, only code spans are taken out before inline code. -/
lemma spanned_of_quiet
    (hfence : ∀ a c v, dropTokenMarks t = a ++ c :: v → fence a.getLast? (c :: v) = none)
    (hquiet : ∀ a c v, dropTokenMarks t = a ++ c :: v → Quiet (c :: v)) :
    spanned resolver t = (withTokens (number 0 (pieces codeSpan none (dropTokenMarks t))),
      ⟨findsOf (pieces codeSpan none (dropTokenMarks t))⟩) := by
  have hregions : pieces codeRegion none (dropTokenMarks t) = (dropTokenMarks t).map .plain := by
    refine pieces_eq_map_of_none fun a c v ht => ?_
    rw [Option.or_none, codeRegion, hfence a c v ht, (hquiet a c v ht).codeElement]
    rfl
  have hspans : replaceWith codeSpan Stash.put {} (dropTokenMarks t) =
      (withTokens (number 0 (pieces codeSpan none (dropTokenMarks t))),
        ⟨findsOf (pieces codeSpan none (dropTokenMarks t))⟩) := by
    rw [replaceWith_eq_weave, weave_put_row]
    rfl
  simp only [spanned, replaceWith_eq_self _ _ hregions, stashReferences_eq_self resolver _ hquiet,
    hspans]

lemma ne_of_codeSpan {y : Text × Text} (h : codeSpan before t = some y) : before ≠ some '`' := by
  rintro rfl
  simp [codeSpan] at h

/-- No span ends in a text without backticks. -/
lemma codeSpan_append_eq_some (hv : '`' ∉ v) {rest : Text}
    (h : codeSpan before (t ++ v) = some (u, rest)) :
    ∃ w, codeSpan before t = some (u, w) ∧ rest = w ++ v := by
  obtain ⟨ht, hspan, hrest⟩ := codeSpan_eq_some h
  have hprefix : ∃ w, t = u ++ w ∧ rest = w ++ v := by
    rcases List.append_eq_append_iff.1 ht with ⟨w, rfl, rfl⟩ | ⟨w, rfl, rfl⟩
    · -- A span ends with a backtick, so it does not reach beyond the text.
      rcases List.eq_nil_or_concat w with rfl | ⟨w, d, rfl⟩
      · exact ⟨[], by simp, by simp⟩
      · have hlast := hspan.line.2
        rw [List.concat_eq_append, ← List.append_assoc, List.getLast?_concat] at hlast
        refine absurd ?_ hv
        rw [← Option.some.inj hlast]
        simp
    · exact ⟨w, rfl, rfl⟩
  obtain ⟨w, rfl, rfl⟩ := hprefix
  refine ⟨w, codeSpan_append hspan (ne_of_codeSpan h) fun hhead => hrest ?_, rfl⟩
  rw [List.head?_append, hhead]
  rfl

/-- Behind a text, no span ends in what has no backtick. -/
lemma pieces_codeSpan_append (hv : '`' ∉ v) :
    pieces codeSpan before (t ++ v) = pieces codeSpan before t ++ v.map .plain := by
  have hhead : v.head? ≠ some '`' := fun h => hv (List.mem_of_mem_head? h)
  fun_induction pieces codeSpan before t with
  | case1 before => exact pieces_eq_map_of_not_mem tick_mem_of_codeSpan hv
  | case2 before c cs u rest hfound hlen ih =>
    obtain ⟨ht, hspan, hrest⟩ := codeSpan_eq_some hfound
    have hrest' : (rest ++ v).head? ≠ some '`' := by
      rw [List.head?_append]
      cases rest with
      | nil => exact hhead
      | cons d rest => exact hrest
    have happend := codeSpan_append hspan (ne_of_codeSpan hfound) hrest'
    rw [ht, List.append_assoc, pieces_append_of_found happend hspan.ne_nil]
    rw [ht, lastBefore_append] at ih
    rw [ih, lastBefore_append]
    rfl
  | case3 before c cs u rest hfound hlen ih =>
    obtain ⟨ht, hspan, -⟩ := codeSpan_eq_some hfound
    have hlength := congrArg List.length ht
    have hpos := List.length_pos_iff.2 hspan.ne_nil
    rw [List.length_cons, List.length_append] at hlength
    omega
  | case4 before c cs hnone ih =>
    -- A span in the whole text ends before what has no backtick, so it would have been found.
    have hstill : codeSpan before (c :: (cs ++ v)) = none := by
      rw [← List.cons_append, Option.eq_none_iff_forall_ne_some]
      rintro ⟨u, rest⟩ hfound
      obtain ⟨w, hw, -⟩ := codeSpan_append_eq_some hv hfound
      rw [hnone] at hw
      cases hw
    rw [List.cons_append, pieces_cons_of_none hstill, ih, List.cons_append]

/-! ### One code span -/

/-- A text that is a single code span: as many backticks on both sides of the inner text, which has
no run of this length. -/
structure OneSpan (k : Nat) (inner out : Text) : Prop where
  eq : out = List.replicate k '`' ++ inner ++ List.replicate k '`'
  pos : 0 < k
  ne_nil : inner ≠ []
  head : inner.head? ≠ some '`'
  last : inner.getLast? ≠ some '`'
  inside : ¬HasRun k inner

lemma hasRun_append_left_iff (hn : 0 < n) (hu : '`' ∉ u) : HasRun n (u ++ t) ↔ HasRun n t := by
  induction u with
  | nil => rfl
  | cons c u ih =>
    rw [List.mem_cons, not_or] at hu
    rw [List.cons_append, hasRun_cons_iff (Ne.symm hu.1) hn, ih hu.2]

lemma not_hasRun_of_not_mem (hn : 0 < n) (ht : '`' ∉ t) : ¬HasRun n t := by
  rintro ⟨a, b, rfl, -⟩
  exact ht (by simp [Nat.ne_of_gt hn])

lemma hasRun_append_right_iff (hn : 0 < n) (hu : '`' ∉ u) : HasRun n (t ++ u) ↔ HasRun n t := by
  have hhead : u.head? ≠ some '`' := fun h => hu (List.mem_of_mem_head? h)
  constructor
  · intro h
    exact (hasRun_or_of_append (.inr hhead) h).resolve_right (not_hasRun_of_not_mem hn hu)
  · exact fun h => h.of_append_left hhead

lemma strip_ne_nil (h : isBlankText t = false) : strip t ≠ [] := by
  intro hstrip
  obtain ⟨a, b, ht, ha, hb⟩ := exists_strip t
  rw [hstrip, List.append_nil] at ht
  have hall : isBlankText t = true := by
    rw [isBlankText, List.all_eq_true, ht]
    exact List.forall_mem_append.2 ⟨ha, hb⟩
  rw [h] at hall
  cases hall

lemma hasRun_strip_iff (hn : 0 < n) : HasRun n (strip t) ↔ HasRun n t := by
  obtain ⟨a, b, ht, ha, hb⟩ := exists_strip t
  have hticks {u : Text} (hu : ∀ c ∈ u, isBlank c = true) : '`' ∉ u :=
    fun hmem => absurd (hu _ hmem) (by decide)
  conv_rhs => rw [ht]
  rw [hasRun_append_right_iff hn (hticks hb), hasRun_append_left_iff hn (hticks ha)]

lemma tickRun_replicate (hu : u.head? ≠ some '`') : tickRun (List.replicate k '`' ++ u) = k := by
  rw [tickRun_append hu, tickRun, List.takeWhile_replicate]
  simp

/-- The number of backticks around a span is that of the run it begins with. -/
lemma OneSpan.eq_tickRun (h : OneSpan k inner out) : k = tickRun out := by
  have hhead : (inner ++ List.replicate k '`').head? ≠ some '`' := by
    rw [List.head?_append_of_ne_nil _ h.ne_nil]
    exact h.head
  rw [h.eq, List.append_assoc, tickRun_replicate hhead]

/-- Inline code is one code span exactly if it has no run of two backticks. -/
lemma oneSpan_inlineSpan_iff (hne : strip x ≠ []) :
    (∃ k inner, OneSpan k inner (inlineSpan (strip x)) ∧ strip inner = strip x) ↔ ¬HasRun 2 x := by
  have htrimmed := trimmed_strip x
  rw [← hasRun_strip_iff (by decide)]
  unfold inlineSpan
  split
  case isTrue hmem =>
    have hticks : "`` ".toList ++ strip x ++ " ``".toList =
        List.replicate 2 '`' ++ (' ' :: strip x ++ [' ']) ++ List.replicate 2 '`' := by
      simp [List.replicate]
    have hspaces : HasRun 2 (' ' :: strip x ++ [' ']) ↔ HasRun 2 (strip x) := by
      rw [List.cons_append, hasRun_cons_iff (by decide) (by decide),
        hasRun_append_right_iff (by decide) (by decide)]
    rw [hticks]
    constructor
    · rintro ⟨k, inner, hspan, -⟩
      -- The first run has two backticks, so there is no other way to read a span here.
      obtain rfl : k = 2 := by
        rw [hspan.eq_tickRun, List.append_assoc]
        exact tickRun_replicate (by simp)
      have heq := List.append_cancel_left (List.append_cancel_right hspan.eq)
      rw [← hspaces, heq]
      exact hspan.inside
    · intro hrun
      refine ⟨2, _, ⟨rfl, by decide, by simp, by simp, ?_, mt hspaces.1 hrun⟩,
        htrimmed.strip_between (a := [' ']) (List.all_eq_true.1 (by decide))
          (List.all_eq_true.1 (by decide))⟩
      rw [List.getLast?_concat]
      decide
  case isFalse hmem =>
    refine iff_of_true ⟨1, strip x, ⟨rfl, by decide, hne, ?_, ?_, ?_⟩, htrimmed.strip⟩ ?_
    · exact fun h => hmem (List.mem_of_mem_head? h)
    · exact fun h => hmem (List.mem_of_getLast? h)
    · exact not_hasRun_of_not_mem (by decide) hmem
    · exact not_hasRun_of_not_mem (by decide) hmem

/-! ### Rendering -/

lemma codeSpan_of_ne (hc : c ≠ '`') : codeSpan before (c :: t) = none := by
  have hrun : tickRun (c :: t) = 0 := by simp [tickRun, hc]
  simp [codeSpan, hrun]

lemma number_append (n : Nat) (a b : List (Piece Text)) :
    number n (a ++ b) = number n a ++ number (n + (findsOf a).length) b := by
  induction a generalizing n with
  | nil => rfl
  | cons piece a ih =>
    cases piece with
    | plain c => simp [number, ih]
    | found t =>
      simp only [List.cons_append, number, ih, findsOf_found, List.length_cons]
      congr 3
      omega

lemma number_map_plain (n : Nat) (t : Text) :
    number n (t.map (Piece.plain (α := Text))) = t.map .plain := by
  induction t with
  | nil => rfl
  | cons c t ih => simp [number, ih]

/-- The tokens of the spans between two texts. -/
lemma withTokens_number_between (u v : Text) (row : List (Piece Text)) :
    withTokens (number 0 (u.map .plain ++ row ++ v.map .plain)) =
      u ++ withTokens (number 0 row) ++ v := by
  simp only [number_append, number_map_plain, findsOf_append, findsOf_map_plain, List.nil_append,
    List.length_nil, withTokens, written_append, written_map_plain]

/-- The spans of inline code are those of its content. -/
lemma pieces_inline (x : Text) : pieces codeSpan none ("<c>".toList ++ x ++ "</c>".toList) =
    "<c>".toList.map .plain ++ pieces codeSpan (some '>') x ++ "</c>".toList.map .plain := by
  rw [pieces_codeSpan_append (by decide), pieces_append_of_none]
  · rfl
  · intro a c v h
    apply codeSpan_of_ne
    rintro rfl
    have hmem : '`' ∈ "<c>".toList := by rw [h]; simp
    exact absurd hmem (by decide)

lemma mem_of_found_mem (h : .found u ∈ pieces codeSpan before t) : u ⊆ t := by
  have htext := @flatMap_pieces _ codeSpan before t id reads_codeSpan
  intro c hc
  rw [← htext]
  exact List.mem_flatMap.2 ⟨_, h, hc⟩

lemma isSpan_of_found_mem (h : .found u ∈ pieces codeSpan before t) : IsSpan u := by
  obtain ⟨_, _, _, hfound⟩ := exists_of_found_mem h
  exact (codeSpan_eq_some hfound).2.1

lemma IsSpan.inLine (h : IsSpan u) : InLine u := by
  have htick : isBlank '`' = false := by decide
  refine ⟨h.ne_nil, h.line.1, fun c hc => ?_, fun c hc => ?_⟩
  · rw [h.head?] at hc
    rwa [← Option.some.inj hc]
  · rw [h.line.2] at hc
    rwa [← Option.some.inj hc]

lemma inlineCode_of_line (h : '\n' ∉ t) : inlineCode t = strip t := by
  rw [inlineCode, replace_eq_self]
  refine pieces_eq_map_of_not_mem (fun {before u y} hfound => ?_) h
  unfold brokenBlanks at hfound
  split at hfound
  case isTrue hmem => exact (List.takeWhile_prefix _).subset (List.contains_iff_mem.1 hmem)
  case isFalse => cases hfound

/-- A span has at least one character. -/
lemma length_findsOf_le (t : Text) : (findsOf (pieces codeSpan before t)).length ≤ t.length := by
  have hrow (row : List (Piece Text)) (h : ∀ u, .found u ∈ row → IsSpan u) :
      (findsOf row).length ≤ (written id row).length := by
    induction row with
    | nil => exact Nat.le_refl 0
    | cons piece row ih =>
      have hrest := ih fun u hu => h u (List.mem_cons_of_mem _ hu)
      rw [written_cons, List.length_append]
      cases piece with
      | plain c =>
        rw [findsOf_plain]
        omega
      | found u =>
        have hpos := List.length_pos_iff.2 (h u List.mem_cons_self).ne_nil
        rw [findsOf_found, List.length_cons, Piece.text, id]
        omega
  have hle := hrow (pieces codeSpan before t) fun u => isSpan_of_found_mem
  rwa [written, flatMap_pieces reads_codeSpan] at hle

/-- The tags of inline code are no tags of references or code. -/
lemma throughout_quiet_inline (hx : '<' ∉ x) :
    Throughout Quiet ("<c>".toList ++ x ++ "</c>".toList) := by
  have htag {u : Text} (hu : '<' ∉ u) (hlast : ('<' :: u).getLast? = some '>')
      (hquiet : Quiet ('<' :: u)) : Throughout Quiet ('<' :: u) :=
    throughout_tag (fun _ _ => quiet_of_ne) hu fun rest => hquiet.append (.inl hlast) (by simp)
  have hinner : Throughout Quiet x :=
    throughout_of_head fun c hc t => quiet_of_ne fun heq => hx (heq ▸ hc)
  exact ((htag (u := "c>".toList) (by decide) (by decide) (by decide)).append hinner).append
    (htag (u := "/c>".toList) (by decide) (by decide) (by decide))

/-- Inline code is taken out once its spans are. -/
lemma takenOut_inline (hx : ∀ c ∈ x, c ∉ ['<', '\n', tokenOpen, tokenClose]) :
    takenOut resolver ("<c>".toList ++ x ++ "</c>".toList) =
      stashInline (.ok ⟨findsOf (pieces codeSpan (some '>') x)⟩)
        (withTokens (number 0 (pieces codeSpan (some '>') x))) := by
  have hlt : '<' ∉ x := fun h => hx _ h (by simp)
  have hline : '\n' ∉ x := fun h => hx _ h (by simp)
  have hunmarked : Unmarked ("<c>".toList ++ x ++ "</c>".toList) := by
    have hinner : Unmarked x :=
      unmarked_iff.2 ⟨fun h => hx _ h (by simp), fun h => hx _ h (by simp)⟩
    exact (Unmarked.append (by decide) hinner).append (by decide)
  have hunfenced : Unfenced ("<c>".toList ++ x ++ "</c>".toList) := by
    refine ⟨rfl, fun a v h => absurd ?_ hline⟩
    have hmem : '\n' ∈ "<c>".toList ++ x ++ "</c>".toList := by
      rw [h]
      simp
    simpa using hmem
  have htokens : '<' ∉ withTokens (number 0 (pieces codeSpan (some '>') x)) := by
    refine not_mem_withTokens (fun h => hlt ?_) fun n h => (of_mem_token h).2.1 rfl
    exact mem_of_plain_mem (fun h => reads_codeSpan.suffix h) (plain_mem_of_number h)
  have helement := @element_tags "c".toList
    (withTokens (number 0 (pieces codeSpan (some '>') x))) [] none (by decide)
    fun a c v h => afterClose?_of_ne fun hc => htokens (by rw [h, hc]; simp)
  have hspanned := @spanned_of_quiet resolver ("<c>".toList ++ x ++ "</c>".toList)
    (by rw [hunmarked.dropTokenMarks]; exact fun a c v h => hunfenced.fence h)
    (by
      rw [hunmarked.dropTokenMarks]
      exact fun a c v h => by simpa using throughout_quiet_inline hlt a c v [] h)
  rw [takenOut_eq_weave, ← replaceWith_eq_weave, hspanned, hunmarked.dropTokenMarks, pieces_inline,
    withTokens_number_between, findsOf_append, findsOf_append, findsOf_map_plain,
    findsOf_map_plain, List.append_nil, List.nil_append]
  refine replaceWith_of_found _ _ ?_ (by simp)
  simpa [openTag, closeTag] using helement

lemma stashInline_spans (hblank : isBlankText x = false)
    (hx : ∀ c ∈ x, c ∉ ['<', '\n', tokenOpen, tokenClose]) :
    stashInline (.ok ⟨findsOf (pieces codeSpan before x)⟩)
        (withTokens (number 0 (pieces codeSpan before x))) =
      (token (findsOf (pieces codeSpan before x)).length,
        .ok ⟨findsOf (pieces codeSpan before x) ++ [inlineSpan (strip x)]⟩) ∨
    10 ^ Numeral.maxDigits < (findsOf (pieces codeSpan before x)).length ∧
      ∃ l, stashInline (.ok ⟨findsOf (pieces codeSpan before x)⟩)
        (withTokens (number 0 (pieces codeSpan before x))) = ([], .error (.fault (.longInteger l))) := by
  have hopen : tokenOpen ∉ x := fun h => hx _ h (by simp)
  have hcode : written Prod.snd (joinLines (number 0 (pieces codeSpan before x))) = strip x := by
    have hwritten := @inlineCode_written _ id (pieces codeSpan before x)
      fun u hu => (isSpan_of_found_mem hu).inLine
    rw [written, flatMap_pieces reads_codeSpan,
      inlineCode_of_line fun h => hx _ h (by simp)] at hwritten
    rw [hwritten, ← map_snd_number 0 (pieces codeSpan before x), joinLines_map, written_map,
      map_snd_number]
    rfl
  have hne : joinLines (number 0 (pieces codeSpan before x)) ≠ [] := by
    intro h
    rw [h] at hcode
    exact strip_ne_nil hblank hcode.symm
  have hitems : ∀ y, .found y ∈ number 0 (pieces codeSpan before x) →
      (findsOf (pieces codeSpan before x))[y.1]? = some y.2 ∧ tokenOpen ∉ y.2 := by
    intro y hy
    obtain ⟨i, hi, hitem⟩ := getElem?_of_number hy
    rw [Nat.zero_add] at hi
    rw [hi]
    exact ⟨hitem, fun h => hopen (mem_of_found_mem (mem_findsOf.1 (List.mem_of_getElem? hitem)) h)⟩
  have hplain : .plain tokenOpen ∉ number 0 (pieces codeSpan before x) := fun h =>
    hopen (mem_of_plain_mem (fun h => reads_codeSpan.suffix h) (plain_mem_of_number h))
  have hstash := stashInline_withTokens (s := ⟨findsOf (pieces codeSpan before x)⟩) hplain hitems
  rwa [if_neg hne, hcode] at hstash

lemma tidy_token (n : Nat) : tidy (token n) = token n := by
  have hline := inLine_token n
  have hcalm : Calm 0 (token n) := by
    have happend := (hline.calm_append (k := 0) (t := [])).2 trivial
    rwa [List.append_nil] at happend
  exact Laid.tidy_eq ⟨hcalm, hline.trimmed⟩ fun c hc => (of_mem_token hc).2

lemma tokenOpen_not_mem_inlineSpan (h : tokenOpen ∉ t) : tokenOpen ∉ inlineSpan t := by
  unfold inlineSpan
  split
  · simpa [tokenOpen] using h
  · simpa [tokenOpen] using h

/-- **Inline code without a run of two backticks is one code span.** The code has some text and no
opening angle bracket, line feed or mark of a token. It is rendered within its ends in single
backticks, or in pairs of them if it has a backtick itself. This is one code span, with the code in
it, exactly if there is no run of two backticks in the code. The one exception is code with more
spans than there are numbers that can be read. -/
theorem render_inlineCode_iff (hblank : isBlankText x = false)
    (hx : ∀ c ∈ x, c ∉ ['<', '\n', tokenOpen, tokenClose]) :
    (∃ out, (render resolver ("<c>".toList ++ x ++ "</c>".toList)).text = .ok out ∧
        out = inlineSpan (strip x) ∧
        ((∃ k inner, OneSpan k inner out ∧ strip inner = strip x) ↔ ¬HasRun 2 x)) ∨
      10 ^ Numeral.maxDigits ≤ x.length ∧ ∃ l,
        (render resolver ("<c>".toList ++ x ++ "</c>".toList)).text =
          .error (.fault (.longInteger l)) := by
  have hwork : needsWork ("<c>".toList ++ x ++ "</c>".toList) = true :=
    needsWork_of (.inl (by simp))
  have hlength := @length_findsOf_le (some '>') x
  have hopen : tokenOpen ∉ inlineSpan (strip x) :=
    tokenOpen_not_mem_inlineSpan fun h => hx _ ((isInfix_strip x).mem h) (by simp)
  have htaken := @takenOut_inline resolver x hx
  rw [render, if_pos hwork, text_convert]
  rcases @stashInline_spans x (some '>') hblank hx with hok | ⟨hmany, l, herror⟩
  · rw [hok] at htaken
    rw [laidOut_of_takenOut htaken fun h => (of_mem_token h).2.1 rfl, tidy_token]
    have hitem : (findsOf (pieces codeSpan (some '>') x) ++ [inlineSpan (strip x)])[
        (findsOf (pieces codeSpan (some '>') x)).length]? = some (inlineSpan (strip x)) := by simp
    rcases Stash.restore_token hitem hopen with hspan | ⟨hfull, l, herror⟩
    · exact .inl ⟨_, hspan, rfl, oneSpan_inlineSpan_iff (strip_ne_nil hblank)⟩
    · refine .inr ⟨?_, l, herror⟩
      simp only [Stash.Overfull, List.length_append, List.length_singleton] at hfull
      omega
  · rw [herror] at htaken
    refine .inr ⟨by omega, l, ?_⟩
    rw [laidOut, htaken]
    rfl

theorem render_inlineCode_of_sample :
    isBlankText " a`b```c ".toList = false ∧ ¬HasRun 2 " a`b```c ".toList ∧
      ∃ out, (render {} "<c> a`b```c </c>".toList).text = .ok out ∧ ∃ k inner,
        OneSpan k inner out ∧ strip inner = "a`b```c".toList := by
  have hblank : isBlankText " a`b```c ".toList = false := by decide +kernel
  have hrun : ¬HasRun 2 " a`b```c ".toList := by decide +kernel
  refine ⟨hblank, hrun, ?_⟩
  rcases @render_inlineCode_iff {} " a`b```c ".toList hblank
    (List.all_iff_forall_prop.1 (by decide +kernel)) with ⟨out, htext, -, hspan⟩ | ⟨hlong, -⟩
  · obtain ⟨k, inner, hone, hstrip⟩ := hspan.2 hrun
    exact ⟨out, htext, k, inner, hone, hstrip.trans (by decide +kernel)⟩
  · have hpow : Numeral.maxDigits < 10 ^ Numeral.maxDigits := Nat.lt_pow_self (by decide)
    have hshort : " a`b```c ".toList.length < Numeral.maxDigits := by decide +kernel
    omega

/-- Code with a run of two backticks gets no more of them around it, and so ends at that run. -/
theorem inlineCode_ends_early :
    (render {} "<c>Foo.Bar``1</c>".toList).text.toOption = some "`` Foo.Bar``1 ``".toList ∧
      codeSpan none "`` Foo.Bar``1 ``".toList = some ("`` Foo.Bar``".toList, "1 ``".toList) :=
  ⟨congrArg Except.toOption (text_render_of_within (n := 2) (by decide +kernel) (by decide +kernel)),
    by decide +kernel⟩

end LinkedDocs.Markup
