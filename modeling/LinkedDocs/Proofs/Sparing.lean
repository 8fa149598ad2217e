import LinkedDocs.Proofs.Tokens

/-!
# Recognisers that spare tokens

A recogniser spares tokens if its finds begin at seams and if, in a whole text, what it finds and
what it leaves are whole. Then no find begins or ends within a token, so that replacing, collecting
and searching keep a text whole, whatever the state that is passed along.
-/

namespace LinkedDocs.Markup

open Text

variable {α σ : Type} {n : Nat} {m : Recogniser α} {P : α → Prop} {before : Option Char}
  {t u rest : Text} {ps qs : List (Piece α)}

/-- Finds begin at seams; in a text with whole tokens they have a property and leave a text with
whole tokens. -/
structure Spares (n : Nat) (m : Recogniser α) (P : α → Prop) : Prop where
  seam : ∀ {before c t x}, m before (c :: t) = some x → isSeam c = true
  whole : ∀ {before t a rest}, Whole n t → m before t = some (a, rest) → P a ∧ Whole n rest

/-- A recogniser that looks at a seam and then at the text after it. -/
lemma Spares.of_cons (h : ∀ {before t a rest}, m before t = some (a, rest) →
    ∃ c cs, t = c :: cs ∧ isSeam c = true ∧ (Whole n cs → P a ∧ Whole n rest)) : Spares n m P where
  seam {before c t x} hx := by
    obtain ⟨d, cs, heq, hseam, -⟩ := @h before (c :: t) x.1 x.2 hx
    rwa [(List.cons.inj heq).1]
  whole ht hx := by
    obtain ⟨c, cs, rfl, hseam, hcs⟩ := h hx
    exact hcs (ht.tail (isMark_of_isSeam hseam))

/-! ### Pieces -/

/-- Pieces in which tokens stand undivided and finds have a property. -/
inductive Fit (n : Nat) (P : α → Prop) : List (Piece α) → Prop where
  | nil : Fit n P []
  | char {c : Char} {ps : List (Piece α)} (hc : isMark c = false) (hps : Fit n P ps) :
      Fit n P (.plain c :: ps)
  | numbered {k : Nat} {ps : List (Piece α)} (hk : k < n) (hps : Fit n P ps) :
      Fit n P ((token k).map .plain ++ ps)
  | found {a : α} {ps : List (Piece α)} (ha : P a) (hps : Fit n P ps) : Fit n P (.found a :: ps)

/-- No find begins within a token. -/
lemma Spares.pieces_token (h : Spares n m P) (k : Nat) :
    pieces m before (token k ++ t) = (token k).map .plain ++ pieces m (some tokenClose) t := by
  have hlast : (token k).getLast? = some tokenClose := List.getLast?_concat
  rw [pieces_append_of_none, hlast]
  · rfl
  · intro a c v hv
    rw [← Option.not_isSome_iff_eq_none, Option.isSome_iff_exists]
    rintro ⟨x, hx⟩
    have hseam := h.seam hx
    rw [isSeam_of_mem_token (k := k) (by rw [hv]; simp)] at hseam
    cases hseam

theorem Spares.fit (h : Spares n m P) (ht : Whole n t) : Fit n P (pieces m before t) := by
  -- A find takes any number of characters, so the induction is on the length.
  induction hlen : t.length using Nat.strong_induction_on generalizing t before with
  | _ l ih =>
    subst hlen
    cases ht with
    | nil =>
      rw [pieces]
      exact .nil
    | @char c t hc ht =>
      have hplain : Fit n P (.plain c :: pieces m (some c) t) :=
        .char hc (ih _ (Nat.lt_succ_self _) ht rfl)
      rw [pieces]
      split
      case h_1 a rest hfound =>
        obtain ⟨ha, hrest⟩ := h.whole (.char hc ht) hfound
        split
        case isTrue hle => exact .found ha (ih _ (Nat.lt_succ_of_le hle) hrest rfl)
        · exact hplain
      · exact hplain
    | numbered hk ht =>
      rw [h.pieces_token]
      refine .numbered hk (ih _ ?_ ht rfl)
      simp only [token, List.length_append, List.length_cons]
      omega

lemma Fit.of_found_mem (h : Fit n P ps) {a : α} (ha : .found a ∈ ps) : P a := by
  induction h with
  | nil => cases ha
  | char _ _ ih => exact ih (by simpa using ha)
  | numbered _ _ ih => exact ih (by simpa using ha)
  | found hb _ ih =>
    rcases List.mem_cons.1 ha with heq | ha
    · rwa [Piece.found.inj heq]
    · exact ih ha

/-- The pieces before a find. -/
lemma Fit.before_found {a : α} (h : Fit n P (ps ++ .found a :: qs)) : Fit n P ps := by
  generalize hall : ps ++ .found a :: qs = all at h
  induction h generalizing ps with
  | nil => simp at hall
  | char hc _ ih =>
    cases ps with
    | nil => cases hall
    | cons piece ps =>
      obtain ⟨rfl, hrest⟩ := List.cons.inj hall
      exact .char hc (ih hrest)
  | @numbered k rest hk _ ih =>
    rcases List.append_eq_append_iff.1 hall with ⟨w, hw, hrest⟩ | ⟨w, rfl, hw⟩
    · cases w with
      | nil =>
        rw [List.append_nil] at hw
        have := Fit.numbered (P := P) hk .nil
        rwa [List.append_nil, hw] at this
      | cons piece w =>
        obtain ⟨rfl, -⟩ := List.cons.inj hrest
        have hmem : (.found a : Piece α) ∈ (token k).map .plain := by rw [hw]; simp
        simp at hmem
    · exact .numbered hk (ih hw.symm)
  | found hb _ ih =>
    cases ps with
    | nil => exact .nil
    | cons piece ps =>
      obtain ⟨rfl, hrest⟩ := List.cons.inj hall
      exact .found hb (ih hrest)

/-! ### Replacing, collecting and searching -/

theorem Spares.replace {image : α → Text} (h : Spares n m P) (ht : Whole n t)
    (himage : ∀ a, P a → Whole n (image a)) : Whole n (replace m image t) := by
  have hfit : ∀ {ps}, Fit n P ps → Whole n (ps.flatMap (Piece.text image)) := by
    intro ps hps
    induction hps with
    | nil => exact .nil
    | char hc _ ih => exact .char hc ih
    | @numbered k ps hk _ ih =>
      have htoken : ((token k).map .plain).flatMap (Piece.text image) = token k := by
        rw [List.flatMap_map]
        exact List.flatMap_singleton' _
      rw [List.flatMap_append, htoken]
      exact .numbered hk ih
    | found ha _ ih => exact (himage _ ha).append ih
  exact hfit (h.fit ht)

/-- States pass along a bound on the numbers of the tokens, which only grows. -/
theorem Fit.weave {image : σ → α → Text × σ} (Ready : σ → Nat → Prop)
    (hstep : ∀ {s j a}, n ≤ j → Ready s j → P a →
      ∃ k, j ≤ k ∧ Ready (image s a).2 k ∧ Whole k (image s a).1)
    (h : Fit n P ps) {s : σ} {j : Nat} (hj : n ≤ j) (hs : Ready s j) :
    ∃ k, j ≤ k ∧ Ready (weave image s ps).2 k ∧ Whole k (weave image s ps).1 := by
  induction h generalizing s j with
  | nil => exact ⟨j, Nat.le_refl _, hs, .nil⟩
  | char hc _ ih =>
    obtain ⟨k, hk, hready, hwhole⟩ := ih hj hs
    exact ⟨k, hk, hready, .char hc hwhole⟩
  | @numbered i ps hi _ ih =>
    obtain ⟨k, hk, hready, hwhole⟩ := ih hj hs
    rw [weave_append, weave_map_plain]
    exact ⟨k, hk, hready, .numbered (by omega) hwhole⟩
  | @found a ps ha _ ih =>
    obtain ⟨j', hj', hready', hwhole'⟩ := hstep hj hs ha
    obtain ⟨k, hk, hready, hwhole⟩ := ih (Nat.le_trans hj hj') hready'
    exact ⟨k, Nat.le_trans hj' hk, hready, (hwhole'.mono hk).append hwhole⟩

theorem Spares.replaceWith {image : σ → α → Text × σ} (Ready : σ → Nat → Prop) (h : Spares n m P)
    (hstep : ∀ {s j a}, n ≤ j → Ready s j → P a →
      ∃ k, j ≤ k ∧ Ready (image s a).2 k ∧ Whole k (image s a).1)
    {s : σ} (hs : Ready s n) (ht : Whole n t) :
    ∃ k, n ≤ k ∧ Ready (replaceWith m image s t).2 k ∧ Whole k (replaceWith m image s t).1 := by
  rw [replaceWith_eq_weave]
  exact (h.fit ht).weave Ready hstep (Nat.le_refl n) hs

lemma Spares.finds (h : Spares n m P) (ht : Whole n t) {a : α} (ha : a ∈ finds m t) : P a := by
  obtain ⟨piece, hpiece, heq⟩ := List.mem_filterMap.1 ha
  cases piece with
  | plain c => cases heq
  | found b =>
    obtain rfl := Option.some.inj heq
    exact (h.fit ht).of_found_mem hpiece

lemma firstFind?_eq_some {lead : Text} {a : α} (h : firstFind? m before t = some (lead, a, rest)) :
    ∃ place c u, t = lead ++ c :: u ∧ m place (c :: u) = some (a, rest) := by
  induction t generalizing before lead with
  | nil => cases h
  | cons c t ih =>
    rw [firstFind?] at h
    split at h
    case h_1 b rest' hfound =>
      simp only [Option.some.injEq, Prod.mk.injEq] at h
      obtain ⟨rfl, rfl, rfl⟩ := h
      exact ⟨before, c, t, rfl, hfound⟩
    · obtain ⟨⟨lead', b, rest'⟩, hfind, heq⟩ := Option.map_eq_some_iff.1 h
      simp only [Prod.mk.injEq] at heq
      obtain ⟨rfl, rfl, rfl⟩ := heq
      obtain ⟨place, d, u, rfl, hfound⟩ := ih hfind
      exact ⟨place, d, u, rfl, hfound⟩

lemma Spares.firstFind? {lead : Text} {a : α} (h : Spares n m P) (ht : Whole n t)
    (hfind : firstFind? m before t = some (lead, a, rest)) :
    Whole n lead ∧ P a ∧ Whole n rest := by
  obtain ⟨place, c, u, rfl, hfound⟩ := firstFind?_eq_some hfind
  obtain ⟨hlead, hplace⟩ := ht.cut (.inr (by simpa using h.seam hfound))
  exact ⟨hlead, h.whole hplace hfound⟩

/-! ### Tags -/

section Tags

variable {name spelling body : Text} {names : List Text} {stop? : Text → Option Text}

lemma Whole.afterName? (h : Whole n t) (hname : Unmarked name)
    (hrest : afterName? name t = some rest) : Whole n rest := by
  induction name generalizing t with
  | nil =>
    obtain rfl := Option.some.inj hrest
    exact h
  | cons p name ih =>
    cases t with
    | nil => cases hrest
    | cons c t =>
      rw [Text.afterName?] at hrest
      split at hrest
      case isTrue hc =>
        have hmark : isMark c = false := by
          rw [← isMark_letter, hc]
          exact hname p List.mem_cons_self
        exact ih (h.tail hmark) (fun d hd => hname d (.tail _ hd)) hrest
      · cases hrest

/-- A name as it is spelt has no marks either. -/
lemma unmarked_take_of_afterName? (hname : Unmarked name) (h : afterName? name t = some rest) :
    Unmarked (t.take name.length) := by
  induction name generalizing t with
  | nil => exact List.forall_mem_nil _
  | cons p name ih =>
    cases t with
    | nil => cases h
    | cons c t =>
      rw [Text.afterName?] at h
      split at h
      case isTrue hc =>
        refine List.forall_mem_cons.2 ⟨?_, ih (fun d hd => hname d (.tail _ hd)) h⟩
        rw [← isMark_letter, hc]
        exact hname p List.mem_cons_self
      · cases h

lemma Whole.afterTagEnd? (h : Whole n t) (hrest : afterTagEnd? t = some rest) : Whole n rest := by
  have hstrip := h.stripLeft
  unfold Markup.afterTagEnd? at hrest
  split at hrest
  case h_1 heq =>
    obtain rfl := Option.some.inj hrest
    rw [heq] at hstrip
    exact hstrip.tail (by decide)
  · cases hrest

lemma Whole.afterEmptyTagEnd? (h : Whole n t) (hrest : afterEmptyTagEnd? t = some rest) :
    Whole n rest := by
  have hstrip := h.stripLeft
  unfold Markup.afterEmptyTagEnd? at hrest
  split at hrest
  case h_1 heq =>
    obtain rfl := Option.some.inj hrest
    rw [heq] at hstrip
    exact (hstrip.tail (by decide)).tail (by decide)
  · cases hrest

/-- A place to stop at begins with a seam, and what follows in a whole text is whole. -/
structure Stops (n : Nat) (stop? : Text → Option Text) : Prop where
  seam : ∀ {c t rest}, stop? (c :: t) = some rest → isSeam c = true
  whole : ∀ {t rest}, Whole n t → stop? t = some rest → Whole n rest

/-- A place to stop at that begins a tag. -/
lemma Stops.of_tag (h : ∀ {t rest}, stop? t = some rest →
    ∃ cs, t = '<' :: cs ∧ (Whole n cs → Whole n rest)) : Stops n stop? where
  seam hstop := by
    obtain ⟨cs, heq, -⟩ := h hstop
    rw [(List.cons.inj heq).1]
    decide
  whole ht hstop := by
    obtain ⟨cs, rfl, hcs⟩ := h hstop
    exact hcs (ht.tail (by decide))

lemma stops_afterOpen? (hname : Unmarked name) : Stops n (afterOpen? name) := by
  refine .of_tag fun h => ?_
  unfold afterOpen? at h
  split at h
  case h_1 cs =>
    obtain ⟨rest', hafter, hend⟩ := Option.bind_eq_some_iff.1 h
    exact ⟨cs, rfl, fun hcs => (hcs.afterName? hname hafter).afterTagEnd? hend⟩
  · cases h

lemma stops_afterClose? (hname : Unmarked name) : Stops n (afterClose? name) := by
  refine .of_tag fun h => ?_
  unfold afterClose? at h
  split at h
  case h_1 cs =>
    obtain ⟨rest', hafter, hend⟩ := Option.bind_eq_some_iff.1 h
    exact ⟨'/' :: cs, rfl, fun hcs =>
      ((hcs.tail (by decide)).afterName? hname hafter).afterTagEnd? hend⟩
  · cases h

lemma Whole.drop_of_unmarked {k : Nat} (h : Whole n t) (hk : Unmarked (t.take k)) :
    Whole n (t.drop k) := by
  induction k generalizing t with
  | zero => exact h
  | succ k ih =>
    cases t with
    | nil => exact h
    | cons c t =>
      obtain ⟨hc, htake⟩ := List.forall_mem_cons.1 hk
      exact ih (h.tail hc) htake

lemma stops_afterMatchingClose? (hspelling : Unmarked spelling) :
    Stops n (afterMatchingClose? spelling) := by
  refine .of_tag fun h => ?_
  unfold afterMatchingClose? at h
  split at h
  case h_1 cs =>
    split at h
    case isTrue hsame =>
      have htake : Unmarked (cs.take spelling.length) := by
        intro c hc
        have hlower : c.toLower ∈ spelling.map Char.toLower := by
          rw [← hsame]
          exact List.mem_map_of_mem hc
        obtain ⟨d, hd, heq⟩ := List.mem_map.1 hlower
        rw [← isMark_toLower, ← heq, isMark_toLower, hspelling d hd]
      exact ⟨'/' :: cs, rfl, fun hcs =>
        ((hcs.tail (by decide)).drop_of_unmarked htake).afterTagEnd? h⟩
    · cases h
  · cases h

lemma upTo?_eq_some (h : upTo? stop? t = some (body, rest)) :
    ∃ tail, t = body ++ tail ∧ stop? tail = some rest := by
  induction t generalizing body with
  | nil =>
    obtain ⟨rest', hstop, heq⟩ := Option.map_eq_some_iff.1 h
    obtain ⟨rfl, rfl⟩ := Prod.mk.inj heq
    exact ⟨[], rfl, hstop⟩
  | cons c t ih =>
    rw [upTo?] at h
    split at h
    case h_1 rest' hstop =>
      obtain ⟨rfl, rfl⟩ := Prod.mk.inj (Option.some.inj h)
      exact ⟨c :: t, rfl, hstop⟩
    · obtain ⟨⟨body', rest'⟩, hupTo, heq⟩ := Option.map_eq_some_iff.1 h
      obtain ⟨rfl, rfl⟩ := Prod.mk.inj heq
      obtain ⟨tail, rfl, hstop⟩ := ih hupTo
      exact ⟨tail, rfl, hstop⟩

lemma upTo?_of_upToWithout? {refuse : Text → Bool} {x : Text × Text}
    (h : upToWithout? stop? refuse t = some x) : upTo? stop? t = some x := by
  induction t generalizing x with
  | nil => exact h
  | cons c t ih =>
    rw [upToWithout?] at h
    rw [upTo?]
    split at h
    · exact h
    · split at h
      · cases h
      · obtain ⟨y, hy, rfl⟩ := Option.map_eq_some_iff.1 h
        simp only [ih hy, Option.map_some]

lemma Stops.upTo? (h : Stops n stop?) (ht : Whole n t) (hbody : upTo? stop? t = some (body, rest)) :
    Whole n body ∧ Whole n rest := by
  obtain ⟨tail, rfl, hstop⟩ := upTo?_eq_some hbody
  have hseam : ∀ c ∈ tail.head?, isSeam c = true := by
    intro c hc
    obtain ⟨cs, rfl⟩ := List.head?_eq_some_iff.1 hc
    exact h.seam hstop
  obtain ⟨hhead, htail⟩ := ht.cut (.inr hseam)
  exact ⟨hhead, h.whole htail hstop⟩

lemma spares_element (hname : Unmarked name) : Spares n (element name) (Whole n) where
  seam h := by
    obtain ⟨rest, hopen, -⟩ := Option.bind_eq_some_iff.1 h
    exact (stops_afterOpen? (n := 0) hname).seam hopen
  whole ht h := by
    obtain ⟨rest, hopen, hbody⟩ := Option.bind_eq_some_iff.1 h
    exact (stops_afterClose? hname).upTo? ((stops_afterOpen? hname).whole ht hopen) hbody

lemma spares_innermost (hname : Unmarked name) : Spares n (innermost name) (Whole n) where
  seam h := by
    obtain ⟨rest, hopen, -⟩ := Option.bind_eq_some_iff.1 h
    exact (stops_afterOpen? (n := 0) hname).seam hopen
  whole ht h := by
    obtain ⟨rest, hopen, hbody⟩ := Option.bind_eq_some_iff.1 h
    exact (stops_afterClose? hname).upTo? ((stops_afterOpen? hname).whole ht hopen)
      (upTo?_of_upToWithout? hbody)

lemma spares_emptyTag (hname : Unmarked name) : Spares n (emptyTag name) fun _ => True := by
  refine .of_cons fun h => ?_
  unfold emptyTag at h
  split at h
  case h_1 cs =>
    obtain ⟨rest', hbind, heq⟩ := Option.map_eq_some_iff.1 h
    obtain ⟨-, rfl⟩ := Prod.mk.inj heq
    obtain ⟨rest'', hafter, hend⟩ := Option.bind_eq_some_iff.1 hbind
    exact ⟨'<', cs, rfl, by decide, fun hcs =>
      ⟨trivial, (hcs.afterName? hname hafter).afterEmptyTagEnd? hend⟩⟩
  · cases h

/-! ### References -/

/-- The value and the label of a reference are whole. -/
structure TagReference.Whole (n : Nat) (tag : TagReference) : Prop where
  value : Markup.Whole n tag.value
  label : ∀ label ∈ tag.label, Markup.Whole n label

/-- The content of a reference is read as a whole label, or as none. -/
def ReadsBody (n : Nat) (body? : Text → Option (Option Text × Text)) : Prop :=
  ∀ {t label rest}, Whole n t → body? t = some (label, rest) →
    (∀ u ∈ label, Whole n u) ∧ Whole n rest

variable {body? : Text → Option (Option Text × Text)} {quote : Char} {tag : TagReference}
  {label : Option Text}

lemma Whole.tagRest? (h : Whole n t) (hbody : ReadsBody n body?)
    (hrest : tagRest? body? t = some (label, rest)) :
    (∀ u ∈ label, Whole n u) ∧ Whole n rest := by
  unfold Markup.tagRest? at hrest
  split at hrest
  case h_1 rest' hend =>
    obtain ⟨rfl, rfl⟩ := Prod.mk.inj (Option.some.inj hrest)
    exact ⟨by simp, h.afterEmptyTagEnd? hend⟩
  · obtain ⟨rest', hend, hread⟩ := Option.bind_eq_some_iff.1 hrest
    exact hbody (h.afterTagEnd? hend) hread

lemma valueAndRest?_eq_some (h : valueAndRest? quote body? t = some (tag, rest)) :
    ∃ tail, t = tag.value ++ quote :: tail ∧ tagRest? body? tail = some (tag.label, rest) := by
  induction t generalizing tag with
  | nil => cases h
  | cons c t ih =>
    rw [valueAndRest?] at h
    dsimp only at h
    split at h
    case h_1 label rest' hhere =>
      obtain ⟨rfl, rfl⟩ := Prod.mk.inj (Option.some.inj h)
      split at hhere
      case isTrue hc =>
        rw [hc]
        exact ⟨t, rfl, hhere⟩
      · cases hhere
    · obtain ⟨⟨tag', rest'⟩, hvalue, heq⟩ := Option.map_eq_some_iff.1 h
      obtain ⟨rfl, rfl⟩ := Prod.mk.inj heq
      obtain ⟨tail, rfl, hread⟩ := ih hvalue
      exact ⟨tail, rfl, hread⟩

lemma Whole.quotedAndRest? (h : Whole n t) (hbody : ReadsBody n body?)
    (hrest : quotedAndRest? body? t = some (tag, rest)) : tag.Whole n ∧ Whole n rest := by
  unfold Markup.quotedAndRest? at hrest
  split at hrest
  case h_1 quote cs =>
    split at hrest
    case isTrue hquote =>
      have hseam : isSeam quote = true := by
        rcases Bool.or_eq_true _ _ ▸ hquote with hq | hq
        · rw [of_decide_eq_true hq]
          decide
        · rw [of_decide_eq_true hq]
          decide
      have hmark := isMark_of_isSeam hseam
      obtain ⟨tail, rfl, hread⟩ := valueAndRest?_eq_some hrest
      obtain ⟨hvalue, htail⟩ := (h.tail hmark).cut (.inr (by simpa using hseam))
      obtain ⟨hlabel, hrest⟩ := (htail.tail hmark).tagRest? hbody hread
      exact ⟨⟨hvalue, hlabel⟩, hrest⟩
    · cases hrest
  · cases hrest

lemma Whole.afterNameAndBlank? (h : Whole n t) (hname : Unmarked name)
    (hrest : afterNameAndBlank? name t = some rest) : Whole n rest := by
  unfold Markup.afterNameAndBlank? at hrest
  split at hrest
  case h_1 c cs hafter =>
    split at hrest
    case isTrue hc =>
      obtain rfl := Option.some.inj hrest
      have htail := h.afterName? hname hafter
      exact (htail.tail (isMark_of_isSeam (isSeam_of_isBlank hc))).stripLeft
    · cases hrest
  · cases hrest

lemma Whole.afterAttributeName? (h : Whole n t) (hname : Unmarked name)
    (hrest : afterAttributeName? name t = some rest) : Whole n rest := by
  unfold Markup.afterAttributeName? at hrest
  split at hrest
  case h_1 cs hafter =>
    obtain rfl := Option.some.inj hrest
    obtain ⟨u, hu, hstrip⟩ := Option.map_eq_some_iff.1 hafter
    have htail := (h.afterName? hname hu).stripLeft
    rw [hstrip] at htail
    exact (htail.tail (by decide)).stripLeft
  · cases hrest

lemma Whole.tagName? (h : Whole n t) (hnames : ∀ name ∈ names, Unmarked name)
    (hrest : tagName? names t = some (spelling, rest)) : Unmarked spelling ∧ Whole n rest := by
  obtain ⟨name, hname, hmap⟩ := List.exists_of_findSome?_eq_some hrest
  obtain ⟨rest', hafter, heq⟩ := Option.map_eq_some_iff.1 hmap
  obtain ⟨rfl, rfl⟩ := Prod.mk.inj heq
  refine ⟨?_, h.afterNameAndBlank? (hnames name hname) hafter⟩
  unfold Markup.afterNameAndBlank? at hafter
  split at hafter
  case h_1 hspelt => exact unmarked_take_of_afterName? (hnames name hname) hspelt
  · cases hafter

lemma spares_referenceTag {field : Text} {body? : Text → Text → Option (Option Text × Text)}
    (hnames : ∀ name ∈ names, Unmarked name) (hfield : Unmarked field)
    (hbody : ∀ spelling, Unmarked spelling → ReadsBody n (body? spelling)) :
    Spares n (referenceTag names field body?) (TagReference.Whole n) := by
  refine .of_cons fun h => ?_
  unfold referenceTag at h
  split at h
  case h_1 cs =>
    refine ⟨'<', cs, rfl, by decide, fun hcs => ?_⟩
    split at h
    case h_1 spelling rest' htag =>
      obtain ⟨hspelling, hrest'⟩ := hcs.tagName? hnames htag
      obtain ⟨rest'', hafter, hquoted⟩ := Option.bind_eq_some_iff.1 h
      exact (hrest'.afterAttributeName? hfield hafter).quotedAndRest? (hbody _ hspelling) hquoted
    · cases h
  · cases h

lemma readsBody_labelled (hspelling : Unmarked spelling) : ReadsBody n (labelled spelling) := by
  intro t label rest ht h
  obtain ⟨⟨body, rest'⟩, hbody, heq⟩ := Option.map_eq_some_iff.1 h
  obtain ⟨rfl, rfl⟩ := Prod.mk.inj heq
  obtain ⟨hlabel, hrest⟩ := (stops_afterMatchingClose? hspelling).upTo? ht hbody
  exact ⟨by simpa using hlabel, hrest⟩

lemma readsBody_blankBody (hspelling : Unmarked spelling) : ReadsBody n (blankBody spelling) := by
  intro t label rest ht h
  obtain ⟨rest', hclose, heq⟩ := Option.map_eq_some_iff.1 h
  obtain ⟨rfl, rfl⟩ := Prod.mk.inj heq
  exact ⟨by simp, (stops_afterMatchingClose? hspelling).whole ht.stripLeft hclose⟩

lemma readsBody_blankBodyOf (hname : Unmarked name) : ReadsBody n (blankBodyOf name) := by
  intro t label rest ht h
  obtain ⟨rest', hclose, heq⟩ := Option.map_eq_some_iff.1 h
  obtain ⟨rfl, rfl⟩ := Prod.mk.inj heq
  exact ⟨by simp, (stops_afterClose? hname).whole ht.stripLeft hclose⟩

end Tags

end LinkedDocs.Markup
