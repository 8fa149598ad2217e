import LinkedDocs.Proofs.Passes
import LinkedDocs.Proofs.Rows

/-!
# Blanks in rows

Runs of blanks are written as one space: all of them in the items of a list, and those with a line
feed in inline code. Main statement: in the text of a row this concerns the runs between its
finds, if no such run is in the texts of the finds.
-/

namespace LinkedDocs.Markup

open Text

variable {α β : Type} {f : α → Text} {row : List (Piece α)} {pick : Text → Bool}
  {before : Option Char} {t run rest : Text} {c : Char}

/-- A run of blanks that is picked. -/
def pickedBlanks (pick : Text → Bool) : Recogniser Unit := fun _ t =>
  if pick (t.takeWhile isBlank) then some ((), t.dropWhile isBlank) else none

/-- The text with every picked run of blanks as one space. -/
def space (pick : Text → Bool) (t : Text) : Text :=
  replace (pickedBlanks pick) (fun _ => [' ']) t

lemma inlineCode_eq (t : Text) : inlineCode t = strip (space (·.contains '\n') t) :=
  rfl

lemma collapseBlanks_eq (t : Text) : collapseBlanks t = strip (space (!·.isEmpty) t) := by
  rw [collapseBlanks, space]
  congr 2
  funext before t
  cases t with
  | nil => rfl
  | cons c t => by_cases hc : isBlank c = true <;> simp [pickedBlanks, hc, stripLeft]

/-! ### Rows -/

/-- What is written for a run of blanks. -/
def writtenRun (pick : Text → Bool) (run : Text) : Text :=
  if pick run then [' '] else run

/-- The row with every picked run of blanks as one space, given the blanks just before it. -/
def spacedAfter (pick : Text → Bool) : Text → List (Piece α) → List (Piece α)
  | run, [] => (writtenRun pick run).map .plain
  | run, .found x :: row =>
    (writtenRun pick run).map .plain ++ .found x :: spacedAfter pick [] row
  | run, .plain c :: row =>
    if isBlank c then spacedAfter pick (run ++ [c]) row
    else (writtenRun pick run).map .plain ++ .plain c :: spacedAfter pick [] row

def spaced (pick : Text → Bool) (row : List (Piece α)) : List (Piece α) :=
  spacedAfter pick [] row

/-- Only what is in a run decides whether it is picked. -/
structure Picks (pick : Text → Bool) : Prop where
  nil : pick [] = false
  suffix {u v : Text} : pick (u ++ v) = false → pick v = false

/-- A text that begins with no blank and has no picked run in it, whatever follows. -/
structure Firm (pick : Text → Bool) (t : Text) : Prop where
  ne_nil : t ≠ []
  head : ∀ c ∈ t.head?, isBlank c = false
  inside : ∀ a c v rest, t = a ++ c :: v → pick ((c :: v ++ rest).takeWhile isBlank) = false

lemma picks_broken : Picks (·.contains '\n') := by
  refine ⟨rfl, fun {u v} h => ?_⟩
  rw [List.contains_eq_mem, decide_eq_false_iff_not] at h ⊢
  exact fun hmem => h (List.mem_append_right u hmem)

lemma picks_nonempty : Picks (!·.isEmpty) := by
  refine ⟨rfl, fun {u v} h => ?_⟩
  simp_all

lemma takeWhile_blanks (hrun : ∀ c ∈ run, isBlank c = true)
    (hrest : ∀ c ∈ rest.head?, isBlank c = false) : (run ++ rest).takeWhile isBlank = run := by
  rw [List.takeWhile_append_of_pos hrun]
  cases rest with
  | nil => simp
  | cons c rest => rw [List.takeWhile_cons_of_neg (by simp [hrest c rfl]), List.append_nil]

lemma dropWhile_blanks (hrun : ∀ c ∈ run, isBlank c = true)
    (hrest : ∀ c ∈ rest.head?, isBlank c = false) : (run ++ rest).dropWhile isBlank = rest := by
  rw [List.dropWhile_append_of_pos hrun]
  cases rest with
  | nil => rfl
  | cons c rest => exact List.dropWhile_cons_of_neg (by simp [hrest c rfl])

/-- A text within a line has no run with a line feed. -/
lemma InLine.firm (h : InLine t) : Firm (·.contains '\n') t := by
  refine ⟨h.ne_nil, h.trimmed.1, fun a c v rest ht => ?_⟩
  rw [List.contains_eq_mem, decide_eq_false_iff_not]
  -- The last character of the text is no blank, so the run ends in the text.
  have hlast : ∃ d ∈ c :: v, isBlank d = false := by
    have hmem := List.getLast_mem (List.cons_ne_nil c v)
    refine ⟨_, hmem, h.trimmed.2 _ ?_⟩
    rw [ht, List.getLast?_append_of_ne_nil _ (List.cons_ne_nil c v)]
    exact List.getLast?_eq_some_getLast _
  obtain ⟨d, hd, hblank⟩ := hlast
  rw [List.takeWhile_append, if_neg]
  · intro hmem
    apply h.line
    rw [ht]
    exact List.mem_append_right a ((List.takeWhile_prefix _).subset hmem)
  · intro hlength
    rw [← (List.takeWhile_prefix isBlank).eq_of_length hlength] at hd
    simp [List.mem_takeWhile_imp hd] at hblank

/-- A text without blanks has no run at all. -/
lemma firm_of_not_blank (hpick : Picks pick) (hne : t ≠ []) (h : ∀ c ∈ t, isBlank c = false) :
    Firm pick t := by
  refine ⟨hne, fun c hc => h c (List.mem_of_mem_head? hc), fun a c v rest ht => ?_⟩
  rw [List.cons_append, List.takeWhile_cons_of_neg (by simp [h c (ht ▸ by simp)])]
  exact hpick.nil

/-- A run of blanks and a text that begins with none. -/
lemma flatMap_run (hpick : Picks pick) (hrun : ∀ c ∈ run, isBlank c = true)
    (hrest : ∀ c ∈ rest.head?, isBlank c = false) :
    ∃ place, (pieces (pickedBlanks pick) before (run ++ rest)).flatMap
        (Piece.text fun _ => [' ']) = writtenRun pick run ++
      (pieces (pickedBlanks pick) place rest).flatMap (Piece.text fun _ => [' ']) := by
  by_cases hpicked : pick run = true
  · have hne : run ≠ [] := by
      rintro rfl
      rw [hpick.nil] at hpicked
      cases hpicked
    have hfound : pickedBlanks pick before (run ++ rest) = some ((), rest) := by
      rw [pickedBlanks, takeWhile_blanks hrun hrest, if_pos hpicked, dropWhile_blanks hrun hrest]
    rw [pieces_append_of_found hfound hne, writtenRun, if_pos hpicked]
    exact ⟨_, rfl⟩
  · have hnone : ∀ a c v, run = a ++ c :: v →
        pickedBlanks pick (a.getLast?.or before) (c :: v ++ rest) = none := by
      intro a c v ht
      have hv : ∀ d ∈ c :: v, isBlank d = true :=
        fun d hd => hrun d (ht ▸ List.mem_append_right a hd)
      have hpart : pick (c :: v) = false := hpick.suffix (u := a) (by simpa [← ht] using hpicked)
      rw [pickedBlanks, takeWhile_blanks hv hrest, hpart]
      rfl
    rw [pieces_append_of_none hnone, List.flatMap_append, List.flatMap_map, writtenRun,
      if_neg hpicked]
    refine ⟨_, congrArg (· ++ _) ?_⟩
    exact List.flatMap_singleton' run

lemma flatMap_firm (ht : Firm pick t) :
    ∃ place, (pieces (pickedBlanks pick) before (t ++ rest)).flatMap
        (Piece.text fun _ => [' ']) = t ++
      (pieces (pickedBlanks pick) place rest).flatMap (Piece.text fun _ => [' ']) := by
  have hnone : ∀ a c v, t = a ++ c :: v →
      pickedBlanks pick (a.getLast?.or before) (c :: v ++ rest) = none := by
    intro a c v heq
    rw [pickedBlanks, ht.inside a c v rest heq]
    rfl
  rw [pieces_append_of_none hnone, List.flatMap_append, List.flatMap_map]
  exact ⟨_, congrArg (· ++ _) (List.flatMap_singleton' t)⟩

lemma written_map_plain (f : α → Text) (t : Text) : written f (t.map .plain) = t := by
  rw [written, List.flatMap_map]
  exact List.flatMap_singleton' t

lemma flatMap_spacedAfter (hpick : Picks pick) (hrun : ∀ c ∈ run, isBlank c = true)
    (hrow : ∀ x, .found x ∈ row → Firm pick (f x)) :
    (pieces (pickedBlanks pick) before (run ++ written f row)).flatMap
      (Piece.text fun _ => [' ']) = written f (spacedAfter pick run row) := by
  -- Behind the run there is a piece that begins with no blank.
  have hpiece {piece : Piece α} {row : List (Piece α)} {run : Text} {before : Option Char}
      (hrun : ∀ c ∈ run, isBlank c = true) (hfirm : Firm pick (piece.text f))
      (ih : ∀ place, (pieces (pickedBlanks pick) place ([] ++ written f row)).flatMap
        (Piece.text fun _ => [' ']) = written f (spacedAfter pick [] row)) :
      (pieces (pickedBlanks pick) before (run ++ written f (piece :: row))).flatMap
        (Piece.text fun _ => [' ']) =
        written f ((writtenRun pick run).map .plain ++ piece :: spacedAfter pick [] row) := by
    have hhead : ∀ c ∈ (written f (piece :: row)).head?, isBlank c = false := by
      rw [written_cons, List.head?_append_of_ne_nil _ hfirm.ne_nil]
      exact hfirm.head
    obtain ⟨place, hplace⟩ := @flatMap_run pick before run _ hpick hrun hhead
    obtain ⟨next, hnext⟩ := @flatMap_firm pick place _ (written f row) hfirm
    rw [hplace, written_cons, hnext, written_append, written_map_plain, written_cons]
    exact congrArg (fun u => _ ++ (_ ++ u)) (ih next)
  induction row generalizing run before with
  | nil =>
    obtain ⟨place, hplace⟩ := @flatMap_run pick before run [] hpick hrun (by simp)
    rw [written_nil, hplace, spacedAfter, written_map_plain, pieces]
    simp
  | cons piece row ih =>
    have hnext (place : Option Char) := @ih place [] (by simp)
      fun x hx => hrow x (List.mem_cons_of_mem _ hx)
    cases piece with
    | found x => exact hpiece hrun (hrow x List.mem_cons_self) hnext
    | plain c =>
      rw [spacedAfter]
      split
      case isTrue hc =>
        have hblanks : ∀ d ∈ run ++ [c], isBlank d = true := by
          intro d hd
          rcases List.mem_append.1 hd with hd | hd
          · exact hrun d hd
          · rw [List.mem_singleton.1 hd]
            exact hc
        have hcons := @ih before (run ++ [c]) hblanks fun x hx => hrow x (List.mem_cons_of_mem _ hx)
        rwa [List.append_assoc] at hcons
      case isFalse hc =>
        have hfirm : Firm pick [c] := firm_of_not_blank hpick (by simp) (by simpa using hc)
        exact hpiece hrun hfirm hnext

/-- Runs of blanks in the text of a row are those of the row. -/
theorem space_written (hpick : Picks pick) (hrow : ∀ x, .found x ∈ row → Firm pick (f x)) :
    space pick (written f row) = written f (spaced pick row) :=
  @flatMap_spacedAfter _ f row pick none [] hpick (by simp) hrow

/-! ### What is in a spaced row -/

lemma of_mem_writtenRun (h : c ∈ writtenRun pick run) : c = ' ' ∨ c ∈ run ∧ pick run = false := by
  rw [writtenRun] at h
  split at h
  case isTrue => exact .inl (List.mem_singleton.1 h)
  case isFalse hpick => exact .inr ⟨h, by simpa using hpick⟩

lemma of_mem_spacedAfter (h : .plain c ∈ spacedAfter pick run row) : c = ' ' ∨
    (c ∈ run ∨ .plain c ∈ row) ∧ (isBlank c = true → ∃ run, pick run = false ∧ c ∈ run) := by
  have hrun {run : Text} {row : List (Piece α)}
      (hmem : .plain c ∈ (writtenRun pick run).map (Piece.plain (α := α))) : c = ' ' ∨
      (c ∈ run ∨ .plain c ∈ row) ∧ (isBlank c = true → ∃ run, pick run = false ∧ c ∈ run) := by
    have hc : c ∈ writtenRun pick run := by simpa using hmem
    rcases of_mem_writtenRun hc with hspace | ⟨hc, hpick⟩
    · exact .inl hspace
    · exact .inr ⟨.inl hc, fun _ => ⟨run, hpick, hc⟩⟩
  induction row generalizing run with
  | nil => exact hrun h
  | cons piece row ih =>
    cases piece with
    | found x =>
      simp only [spacedAfter, List.mem_append, List.mem_cons, reduceCtorEq, false_or] at h
      rcases h with h | h
      · exact hrun h
      · rcases ih h with hspace | ⟨hmem, hblank⟩
        · exact .inl hspace
        · exact .inr ⟨.inr (List.mem_cons_of_mem _ (by simpa using hmem)), hblank⟩
    | plain d =>
      rw [spacedAfter] at h
      split at h
      case isTrue =>
        rcases ih h with hspace | ⟨hmem, hblank⟩
        · exact .inl hspace
        · exact .inr ⟨by grind, hblank⟩
      case isFalse hd =>
        rcases List.mem_append.1 h with h | h
        · exact hrun h
        · rcases List.mem_cons.1 h with heq | h
          · obtain rfl := Piece.plain.inj heq
            exact .inr ⟨.inr List.mem_cons_self, fun hc => absurd hc hd⟩
          · rcases ih h with hspace | ⟨hmem, hblank⟩
            · exact .inl hspace
            · exact .inr ⟨.inr (List.mem_cons_of_mem _ (by simpa using hmem)), hblank⟩

/-- A blank that is left is a space, or stands in a run that is not picked. -/
lemma of_mem_spaced (h : .plain c ∈ spaced pick row) : c = ' ' ∨
    .plain c ∈ row ∧ (isBlank c = true → ∃ run, pick run = false ∧ c ∈ run) := by
  simpa using of_mem_spacedAfter h

lemma spacedAfter_map (g : α → β) (run : Text) (row : List (Piece α)) :
    spacedAfter pick run (row.map (Piece.map g)) =
      (spacedAfter pick run row).map (Piece.map g) := by
  induction row generalizing run with
  | nil => exact (map_plain_map g _).symm
  | cons piece row ih =>
    cases piece with
    | found x => simp only [List.map_cons, Piece.map, spacedAfter, ih, List.map_append, map_plain_map]
    | plain c =>
      simp only [List.map_cons, Piece.map, spacedAfter]
      split
      · exact ih _
      · simp only [List.map_append, List.map_cons, Piece.map, ih, map_plain_map]

lemma findsOf_spacedAfter (run : Text) (row : List (Piece α)) :
    findsOf (spacedAfter pick run row) = findsOf row := by
  induction row generalizing run with
  | nil => exact findsOf_map_plain _
  | cons piece row ih =>
    cases piece with
    | found x => simp [spacedAfter, findsOf_append, findsOf_map_plain, ih]
    | plain c =>
      rw [spacedAfter]
      split
      · exact ih _
      · simp [findsOf_append, findsOf_map_plain, ih]

/-! ### Rows in one line -/

/-- The row as it is written in an item of a list. -/
def squash (row : List (Piece α)) : List (Piece α) :=
  trim (spaced (!·.isEmpty) row)

/-- The row as it is written in inline code. -/
def joinLines (row : List (Piece α)) : List (Piece α) :=
  trim (spaced (·.contains '\n') row)

/-- Finds without blanks stay as they are in an item. -/
lemma collapseBlanks_written
    (h : ∀ x, .found x ∈ row → f x ≠ [] ∧ ∀ c ∈ f x, isBlank c = false) :
    collapseBlanks (written f row) = written f (squash row) := by
  rw [collapseBlanks_eq, space_written picks_nonempty, strip_written]
  · rfl
  · intro x hx
    rw [← mem_findsOf, spaced, findsOf_spacedAfter, mem_findsOf] at hx
    obtain ⟨hne, hblank⟩ := h x hx
    refine ⟨hne, fun hmem => ?_, fun c hc => hblank c (List.mem_of_mem_head? hc),
      fun c hc => hblank c (List.mem_of_getLast? hc)⟩
    exact absurd (hblank _ hmem) (by decide)
  · exact fun x hx => firm_of_not_blank picks_nonempty (h x hx).1 (h x hx).2

/-- Finds within a line stay as they are in inline code. -/
lemma inlineCode_written (h : ∀ x, .found x ∈ row → InLine (f x)) :
    inlineCode (written f row) = written f (joinLines row) := by
  rw [inlineCode_eq, space_written picks_broken fun x hx => (h x hx).firm, strip_written]
  · rfl
  · intro x hx
    rw [← mem_findsOf, spaced, findsOf_spacedAfter, mem_findsOf] at hx
    exact h x hx

lemma squash_map (g : α → β) (row : List (Piece α)) :
    squash (row.map (Piece.map g)) = (squash row).map (Piece.map g) := by
  rw [squash, spaced, spacedAfter_map, trim_map]
  rfl

lemma joinLines_map (g : α → β) (row : List (Piece α)) :
    joinLines (row.map (Piece.map g)) = (joinLines row).map (Piece.map g) := by
  rw [joinLines, spaced, spacedAfter_map, trim_map]
  rfl

lemma findsOf_squash (row : List (Piece α)) : findsOf (squash row) = findsOf row := by
  rw [squash, findsOf_trim, spaced, findsOf_spacedAfter]

lemma findsOf_joinLines (row : List (Piece α)) : findsOf (joinLines row) = findsOf row := by
  rw [joinLines, findsOf_trim, spaced, findsOf_spacedAfter]

lemma mem_of_mem_trim {piece : Piece α} (h : piece ∈ trim row) : piece ∈ row :=
  (List.dropWhile_sublist _).subset ((List.rdropWhile_prefix _ _).sublist.subset h)

/-- The characters of an item are those of the row, with spaces for its blanks. -/
lemma of_mem_squash (h : .plain c ∈ squash row) : c = ' ' ∨ .plain c ∈ row ∧ isBlank c = false := by
  rcases of_mem_spaced (mem_of_mem_trim h) with hspace | ⟨hmem, hblank⟩
  · exact .inl hspace
  · refine .inr ⟨hmem, eq_false_of_ne_true fun hc => ?_⟩
    obtain ⟨run, hrun, hmem⟩ := hblank hc
    simp_all

/-- The characters of inline code are those of the row, with spaces for its line feeds. -/
lemma of_mem_joinLines (h : .plain c ∈ joinLines row) : c = ' ' ∨ .plain c ∈ row ∧ c ≠ '\n' := by
  rcases of_mem_spaced (mem_of_mem_trim h) with hspace | ⟨hmem, hblank⟩
  · exact .inl hspace
  · refine .inr ⟨hmem, ?_⟩
    rintro rfl
    obtain ⟨run, hrun, hmem⟩ := hblank (by decide)
    simp_all

end LinkedDocs.Markup
