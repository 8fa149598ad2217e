import LinkedDocs.Proofs.Listings
import LinkedDocs.Proofs.Spacing

/-!
# Words

The words of a text are its longest stretches without blanks. Main statement: collapsing the blanks
of a text leaves its words, with one space between neighbours.
-/

namespace LinkedDocs.Markup

open Text

variable {t run w : Text} {c : Char}

/-- The words of a text. -/
def wordsOf (t : Text) : List Text :=
  (t.splitOnP isBlank).filter (!·.isEmpty)

/-! ### What words are -/

lemma wordsOf_blank (hc : isBlank c = true) (t : Text) : wordsOf (c :: t) = wordsOf t := by
  rw [wordsOf, List.splitOnP_cons_eq_if_modifyHead, if_pos hc]
  rfl

/-- A text without a blank at its start begins with its first part. -/
lemma splitOnP_of_not_blank {first : Text} {more : List Text} (hc : isBlank c = false)
    (h : t.splitOnP isBlank = first :: more) :
    (c :: t).splitOnP isBlank = (c :: first) :: more := by
  rw [List.splitOnP_cons_eq_if_modifyHead, hc, h]
  rfl

lemma exists_splitOnP (t : Text) : ∃ first more, t.splitOnP isBlank = first :: more :=
  List.exists_cons_of_ne_nil (List.splitOnP_ne_nil isBlank t)

lemma of_mem_splitOnP (h : w ∈ t.splitOnP isBlank) (hc : c ∈ w) : c ∈ t ∧ isBlank c = false := by
  induction t generalizing w with
  | nil =>
    obtain rfl : w = [] := by simpa [List.splitOnP_nil] using h
    cases hc
  | cons d t ih =>
    obtain ⟨first, more, hparts⟩ := exists_splitOnP t
    cases hd : isBlank d with
    | true =>
      rw [List.splitOnP_cons_eq_if_modifyHead, if_pos hd] at h
      rcases List.mem_cons.1 h with rfl | h
      · cases hc
      · exact (ih h hc).imp_left (List.mem_cons_of_mem d)
    | false =>
      rw [splitOnP_of_not_blank hd hparts] at h
      rcases List.mem_cons.1 h with rfl | h
      · rcases List.mem_cons.1 hc with rfl | hc
        · exact ⟨List.mem_cons_self, hd⟩
        · exact (ih (hparts ▸ List.mem_cons_self) hc).imp_left (List.mem_cons_of_mem d)
      · exact (ih (hparts ▸ List.mem_cons_of_mem _ h) hc).imp_left (List.mem_cons_of_mem d)

lemma of_mem_wordsOf (h : w ∈ wordsOf t) : w ≠ [] ∧ ∀ c ∈ w, c ∈ t ∧ isBlank c = false := by
  obtain ⟨hmem, hne⟩ := List.mem_filter.1 h
  exact ⟨by simpa using hne, fun c hc => of_mem_splitOnP hmem hc⟩

lemma inLine_of_mem_wordsOf (h : w ∈ wordsOf t) : InLine w := by
  obtain ⟨hne, hchars⟩ := of_mem_wordsOf h
  refine ⟨hne, fun hmem => ?_, fun c hc => ?_, fun c hc => ?_⟩
  · exact absurd (hchars _ hmem).2 (by decide)
  · exact (hchars c (List.mem_of_mem_head? hc)).2
  · exact (hchars c (List.mem_of_getLast? hc)).2

/-! ### Collapsing blanks -/

/-- The text with a space for each run of blanks, given the blanks just before it. -/
def spreadAfter (run t : Text) : Text :=
  written id (spacedAfter (!·.isEmpty) run (t.map .plain))

lemma spreadAfter_nil (run : Text) : spreadAfter run [] = writtenRun (!·.isEmpty) run :=
  written_map_plain id _

lemma spreadAfter_blank (hc : isBlank c = true) (run t : Text) :
    spreadAfter run (c :: t) = spreadAfter (run ++ [c]) t := by
  rw [spreadAfter, List.map_cons, spacedAfter, if_pos hc]
  rfl

lemma spreadAfter_char (hc : isBlank c = false) (run t : Text) :
    spreadAfter run (c :: t) = writtenRun (!·.isEmpty) run ++ c :: spreadAfter [] t := by
  rw [spreadAfter, List.map_cons, spacedAfter, if_neg (by simp [hc]), written_append,
    written_map_plain, written_cons]
  rfl

/-- Each word gets a space before it, but for one at the very start; blanks at the end are one space
more. -/
lemma exists_spreadAfter (t : Text) :
    (∀ first more, t.splitOnP isBlank = first :: more → ∃ tail, (tail = [] ∨ tail = [' ']) ∧
      spreadAfter [] t = first ++ (more.filter (!·.isEmpty)).flatMap (' ' :: ·) ++ tail) ∧
    ∀ run, run ≠ [] → ∃ tail, (tail = [] ∨ tail = [' ']) ∧
      spreadAfter run t = (wordsOf t).flatMap (' ' :: ·) ++ tail := by
  have hspace {run : Text} (hrun : run ≠ []) : writtenRun (!·.isEmpty) run = [' '] := by
    simp [writtenRun, hrun]
  induction t with
  | nil =>
    refine ⟨fun first more h => ⟨[], .inl rfl, ?_⟩, fun run hrun => ⟨[' '], .inr rfl, ?_⟩⟩
    · obtain ⟨rfl, rfl⟩ : [] = first ∧ [] = more := by simpa [List.splitOnP_nil] using h
      rfl
    · rw [spreadAfter_nil, hspace hrun]
      rfl
  | cons c t ih =>
    obtain ⟨first, more, hparts⟩ := exists_splitOnP t
    cases hc : isBlank c with
    | true =>
      refine ⟨fun first' more' h => ?_, fun run hrun => ?_⟩
      · rw [List.splitOnP_cons_eq_if_modifyHead, if_pos hc] at h
        obtain ⟨rfl, rfl⟩ := List.cons.inj h
        rw [spreadAfter_blank hc]
        exact ih.2 [c] (by simp)
      · rw [spreadAfter_blank hc, wordsOf_blank hc]
        exact ih.2 (run ++ [c]) (by simp)
    | false =>
      have hsplit := splitOnP_of_not_blank hc hparts
      obtain ⟨tail, htail, hspread⟩ := ih.1 first more hparts
      refine ⟨fun first' more' h => ⟨tail, htail, ?_⟩, fun run hrun => ⟨tail, htail, ?_⟩⟩
      · obtain ⟨rfl, rfl⟩ := List.cons.inj (hsplit.symm.trans h)
        rw [spreadAfter_char hc, hspread]
        rfl
      · have hwords : wordsOf (c :: t) = (c :: first) :: more.filter (!·.isEmpty) := by
          rw [wordsOf, hsplit]
          rfl
        rw [spreadAfter_char hc, hspread, hspace hrun, hwords]
        simp

lemma collapseBlanks_eq_strip (t : Text) : collapseBlanks t = strip (spreadAfter [] t) := by
  have hplain (x : Text) : .found x ∉ t.map (Piece.plain (α := Text)) := by simp
  have hspace := space_written picks_nonempty (f := id) fun x hx => absurd hx (hplain x)
  rw [written_map_plain] at hspace
  rw [collapseBlanks_eq, hspace]
  rfl

/-- Collapsing the blanks of a text leaves its words, with one space between neighbours. -/
theorem collapseBlanks_eq_join (t : Text) : collapseBlanks t = join [' '] (wordsOf t) := by
  have hblank {u : Text} (hu : u = [] ∨ u = [' ']) : ∀ c ∈ u, isBlank c = true := by
    rcases hu with rfl | rfl
    · simp
    · exact List.all_eq_true.1 (by decide)
  -- The words stand between blanks, which are dropped.
  have hbetween : ∃ lead tail, (lead = [] ∨ lead = [' ']) ∧ (tail = [] ∨ tail = [' ']) ∧
      spreadAfter [] t = lead ++ join [' '] (wordsOf t) ++ tail := by
    obtain ⟨first, more, hparts⟩ := exists_splitOnP t
    obtain ⟨tail, htail, hspread⟩ := (exists_spreadAfter t).1 first more hparts
    cases first with
    | nil =>
      have hwords : wordsOf t = more.filter (!·.isEmpty) := by
        rw [wordsOf, hparts]
        rfl
      rw [← hwords] at hspread
      cases hw : wordsOf t with
      | nil => exact ⟨[], tail, .inl rfl, htail, by simpa [hw, join] using hspread⟩
      | cons w ws =>
        refine ⟨[' '], tail, .inr rfl, htail, ?_⟩
        rw [hspread, hw, join_cons]
        simp
    | cons c first =>
      have hwords : wordsOf t = (c :: first) :: more.filter (!·.isEmpty) := by
        rw [wordsOf, hparts]
        rfl
      refine ⟨[], tail, .inl rfl, htail, ?_⟩
      rw [hspread, hwords, join_cons]
      simp
  obtain ⟨lead, tail, hlead, htail, hspread⟩ := hbetween
  rw [collapseBlanks_eq_strip, hspread]
  cases hw : wordsOf t with
  | nil =>
    rcases hlead with rfl | rfl <;> rcases htail with rfl | rfl <;> decide
  | cons w ws =>
    have hlines : ∀ u ∈ w :: ws, InLine u := fun u hu => inLine_of_mem_wordsOf (hw ▸ hu)
    exact (trimmed_join hlines).strip_between (hblank hlead) (hblank htail)

lemma of_mem_join_wordsOf (h : c ∈ join [' '] (wordsOf t)) :
    c = ' ' ∨ c ∈ t ∧ isBlank c = false := by
  by_contra hnot
  obtain ⟨hspace, hc⟩ := not_or.1 hnot
  exact not_mem_join hspace (fun w hw hmem => hc ((of_mem_wordsOf hw).2 c hmem)) h

lemma inLine_join_wordsOf (hne : join [' '] (wordsOf t) ≠ []) :
    InLine (join [' '] (wordsOf t)) := by
  refine ⟨hne, fun hmem => ?_, ?_⟩
  · rcases of_mem_join_wordsOf hmem with heq | ⟨-, hblank⟩
    · exact absurd heq (by decide)
    · exact absurd hblank (by decide)
  · cases hw : wordsOf t with
    | nil => exact absurd (by rw [hw]; rfl) hne
    | cons w ws => exact trimmed_join fun u hu => inLine_of_mem_wordsOf (hw ▸ hu)

end LinkedDocs.Markup
