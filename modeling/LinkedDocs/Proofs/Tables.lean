import LinkedDocs.Proofs.ListMarkup
import LinkedDocs.Proofs.MixedText

/-!
# Tables

A list of the kind table with a header is a table with two cells in each line. Pipes in the text of
a cell get a backslash, but code is put back after this has been done. Main statement: a line has
exactly three pipes without a backslash if there is none in the code of its cells, and one more for
each that is there.
-/

namespace LinkedDocs.Markup

open Text

variable {α β : Type}

/-! ### Lines of a table -/

/-- A cell as it is written: pipes get a backslash, and angle brackets are escaped. -/
def cellRow (row : List (Piece α)) : List (Piece α) :=
  escape (replacePlain '|' "\\|".toList row)

/-- The line of two cells. -/
def lineRow (cells : List (Piece α) × List (Piece α)) : List (Piece α) :=
  "| ".toList.map .plain ++ cellRow cells.1 ++ " | ".toList.map .plain ++ cellRow cells.2 ++
    " |".toList.map .plain

/-- The line below the header. -/
def ruler : Text := "| --- | --- |".toList

/-- The text of the line of two cells. -/
def tableLine (cells : List (Piece Text) × List (Piece Text)) : Text :=
  written id (lineRow cells)

namespace Entry

/-- The cells of an item. -/
def row (e : Entry (List (Piece α))) : List (Piece α) × List (Piece α) :=
  ((e.cells.1.map squash).getD [], (e.cells.2.map squash).getD [])

/-- The cells of a header, which has titles of its own for empty cells. -/
def titles (e : Entry (List (Piece α))) : List (Piece α) × List (Piece α) :=
  (if e.row.1.isEmpty then "Term".toList.map .plain else e.row.1,
    if e.row.2.isEmpty then "Description".toList.map .plain else e.row.2)

def isEmpty (e : Entry (List (Piece α))) : Bool :=
  e.row.1.isEmpty && e.row.2.isEmpty

end Entry

/-- The lines of a table. -/
def tableRows (header : Entry (List (Piece α))) (items : List (Entry (List (Piece α)))) :
    List (List (Piece α)) :=
  lineRow header.titles :: ruler.map .plain ::
    (items.filter (!·.isEmpty)).map fun e => lineRow e.row

/-- The number of pipes without a backslash just before them. -/
def barePipes : Option Char → Text → Nat
  | _, [] => 0
  | before, c :: t =>
    (if c = '|' ∧ before ≠ some '\\' then 1 else 0) + barePipes (some c) t

variable {t u v : Text} {before : Option Char} {row : List (Piece Text)}

lemma barePipes_append (u v : Text) (before : Option Char) :
    barePipes before (u ++ v) = barePipes before u + barePipes (u.getLast?.or before) v := by
  induction u generalizing before with
  | nil => simp [barePipes]
  | cons c u ih => rw [List.cons_append, barePipes, ih, barePipes, getLast?_cons_or, Nat.add_assoc]

/-- What comes before a text matters only if the text begins with a pipe. -/
lemma barePipes_of_head (h : t.head? ≠ some '|') : barePipes before t = barePipes none t := by
  cases t with
  | nil => rfl
  | cons c t =>
    have hc : c ≠ '|' := fun heq => h (congrArg some heq)
    simp [barePipes, hc]

lemma cellRow_cons (piece : Piece α) (row : List (Piece α)) :
    cellRow (piece :: row) = cellRow [piece] ++ cellRow row := by
  simp [cellRow, replacePlain, escape]

lemma barePipes_cellRow_plain (c : Char) :
    barePipes before (written id (cellRow [.plain c])) = 0 := by
  by_cases hpipe : c = '|'
  · have hcell : written id (cellRow [.plain '|']) = "\\|".toList := rfl
    simp [hpipe, hcell, barePipes]
  by_cases hangle : c = '>'
  · have hcell : written id (cellRow [.plain '>']) = "&gt;".toList := rfl
    simp [hangle, hcell, barePipes]
  · have hcell : written id (cellRow [.plain c]) = [c] := by
      simp [cellRow, replacePlain, escape, hpipe, hangle, Piece.text]
    simp [hcell, barePipes, hpipe]

/-- The pipes of a cell are those of its code. -/
lemma barePipes_cellRow (hcode : ∀ x, .found x ∈ row → x.head? = some '`') :
    barePipes before (written id (cellRow row)) =
      ((findsOf row).map (barePipes none)).sum := by
  induction row generalizing before with
  | nil => rfl
  | cons piece row ih =>
    have hrow {before : Option Char} := @ih before fun x hx => hcode x (List.mem_cons_of_mem _ hx)
    rw [cellRow_cons, written_append, barePipes_append, hrow]
    cases piece with
    | found x =>
      -- Code begins with a backtick, so a backslash before it does not change its pipes.
      have hcell : written id (cellRow [.found x]) = x := List.append_nil x
      have hhead : x.head? ≠ some '|' := by
        rw [hcode x List.mem_cons_self]
        decide
      rw [hcell, barePipes_of_head hhead, findsOf_found, List.map_cons, List.sum_cons]
    | plain c =>
      rw [barePipes_cellRow_plain, Nat.zero_add, findsOf_plain]

/-- A line has three pipes, and those of its code. -/
lemma barePipes_tableLine {cells : List (Piece Text) × List (Piece Text)}
    (hcode : ∀ x, .found x ∈ cells.1 ++ cells.2 → x.head? = some '`') :
    barePipes none (tableLine cells) =
      3 + ((findsOf (cells.1 ++ cells.2)).map (barePipes none)).sum := by
  have hgap (before : Option Char) : barePipes before " | ".toList = 1 := by simp [barePipes]
  have hend (before : Option Char) : barePipes before " |".toList = 1 := by simp [barePipes]
  have hstart : barePipes none "| ".toList = 1 := by decide
  rw [tableLine, lineRow]
  simp only [written_append, written_map_plain, barePipes_append, hgap, hend, hstart,
    barePipes_cellRow fun x hx => hcode x (List.mem_append_left _ hx),
    barePipes_cellRow fun x hx => hcode x (List.mem_append_right _ hx), findsOf_append,
    List.map_append, List.sum_append]
  omega

/-! ### Cells with tokens -/

lemma replaceChar_written {f : α → Text} {row : List (Piece α)} {d : Char} {image : Text}
    (h : ∀ x, .found x ∈ row → d ∉ f x) :
    replaceChar d image (written f row) = written f (replacePlain d image row) := by
  have happend (u v : Text) :
      replaceChar d image (u ++ v) = replaceChar d image u ++ replaceChar d image v :=
    List.flatMap_append
  induction row with
  | nil => rfl
  | cons piece row ih =>
    rw [written_cons, happend, ih fun x hx => h x (List.mem_cons_of_mem _ hx), replacePlain_cons,
      written_append]
    congr 1
    cases piece with
    | plain c =>
      by_cases hc : c = d
      · simp [replacePlain, replaceChar, Piece.text, hc, written_map_plain]
      · simp [replacePlain, replaceChar, Piece.text, hc]
    | found x =>
      rw [Piece.text, replaceChar_eq_self (h x List.mem_cons_self)]
      simp [replacePlain, Piece.text]

lemma isBlank_of_mem_token {n : Nat} {c : Char} (h : c ∈ token n) : isBlank c = false := by
  have hseam := isSeam_of_mem_token h
  rw [Bool.eq_false_iff]
  intro hblank
  rw [isSeam_of_isBlank hblank] at hseam
  cases hseam

lemma Entry.cells_map {γ δ : Type} (g : γ → δ) (e : Entry γ) :
    (e.map g).cells = (e.cells.1.map g, e.cells.2.map g) := by
  obtain ⟨lead, term, description, after⟩ := e
  cases term <;> cases description <;> rfl

/-- The item of an entry with tokens in it. -/
lemma Entry.item_withTokens (e : Entry (List (Piece (Nat × Text)))) :
    (e.map withTokens).item = ⟨withTokens e.row.1, withTokens e.row.2⟩ := by
  have hcell (cell : Option (List (Piece (Nat × Text)))) :
      ((cell.map withTokens).map collapseBlanks).getD [] =
        withTokens ((cell.map squash).getD []) := by
    cases cell with
    | none => rfl
    | some row =>
      exact collapseBlanks_written fun y _ =>
        ⟨by simp [token], fun c hc => isBlank_of_mem_token hc⟩
  simp only [item, cells_map, hcell, row]

lemma Entry.row_map (g : α → β) (e : Entry (List (Piece α))) :
    (e.map (List.map (Piece.map g))).row =
      (e.row.1.map (Piece.map g), e.row.2.map (Piece.map g)) := by
  have hcell (cell : Option (List (Piece α))) :
      ((cell.map (List.map (Piece.map g))).map squash).getD [] =
        ((cell.map squash).getD []).map (Piece.map g) := by
    cases cell with
    | none => rfl
    | some row => exact squash_map g row
  simp only [row, cells_map, hcell]

lemma lineRow_map (g : α → β) (cells : List (Piece α) × List (Piece α)) :
    lineRow (cells.1.map (Piece.map g), cells.2.map (Piece.map g)) =
      (lineRow cells).map (Piece.map g) := by
  simp only [lineRow, cellRow, replacePlain_map, escape_map, List.map_append, map_plain_map]

lemma Entry.titles_map (g : α → β) (e : Entry (List (Piece α))) :
    (e.map (List.map (Piece.map g))).titles =
      (e.titles.1.map (Piece.map g), e.titles.2.map (Piece.map g)) := by
  simp only [titles, row_map, List.isEmpty_map]
  split <;> split <;> simp [Piece.map]

lemma Entry.isEmpty_map (g : α → β) (e : Entry (List (Piece α))) :
    (e.map (List.map (Piece.map g))).isEmpty = e.isEmpty := by
  simp [isEmpty, row_map]

lemma tableRows_map (g : α → β) (header : Entry (List (Piece α)))
    (items : List (Entry (List (Piece α)))) :
    tableRows (header.map (List.map (Piece.map g)))
        (items.map (Entry.map (List.map (Piece.map g)))) =
      (tableRows header items).map (List.map (Piece.map g)) := by
  rw [tableRows, tableRows, List.map_cons, List.map_cons, map_plain_map, Entry.titles_map,
    lineRow_map]
  simp only [List.filter_map, List.map_map, Function.comp_def, Entry.isEmpty_map, Entry.row_map,
    lineRow_map]

/-- A line of a table with tokens in its cells. -/
lemma escapeAngles_tableRow {cells : List (Piece (Nat × Text)) × List (Piece (Nat × Text))}
    (h : .plain '<' ∉ cells.1 ++ cells.2) :
    escapeAngles (tableRow (withTokens cells.1) (withTokens cells.2)) =
      withTokens (lineRow cells) := by
  have hcell {row : List (Piece (Nat × Text))} (hrow : .plain '<' ∉ row) :
      escapeAngles (cell (withTokens row)) = withTokens (cellRow row) := by
    have hpipe (n : Nat) : '|' ∉ token n := fun hmem =>
      absurd (isSeam_of_mem_token hmem) (by decide)
    rw [cell, withTokens, replaceChar_written fun y _ => hpipe y.1]
    refine escapeAngles_written (fun hmem => ?_) fun y _ c hc => (of_mem_token hc).2
    rcases mem_replacePlain hmem with hmem | ⟨c, hc, heq⟩
    · exact hrow hmem
    · rw [← Piece.plain.inj heq] at hc
      exact absurd hc (by decide)
  have hplain : ∀ u ∈ ["| ".toList, " | ".toList, " |".toList], escapeAngles u = u := by decide
  rw [List.mem_append, not_or] at h
  rw [tableRow, lineRow]
  simp only [escapeAngles_append, hcell h.1, hcell h.2, hplain _ List.mem_cons_self,
    hplain " | ".toList (by simp), hplain " |".toList (by simp), withTokens_append,
    withTokens_map_plain]

/-! ### What is in the cells -/

lemma mem_squash {piece : Piece α} {row : List (Piece α)} (h : piece ∈ squash row) :
    piece = .plain ' ' ∨ piece ∈ row ∧ piece.isPlain isBlank = false := by
  cases piece with
  | plain c =>
    rcases of_mem_squash h with rfl | hmem
    · exact .inl rfl
    · exact .inr hmem
  | found x =>
    rw [← mem_findsOf, findsOf_squash, mem_findsOf] at h
    exact .inr ⟨h, rfl⟩

lemma Entry.mem_row {piece : Piece α} {e : Entry (List (Piece α))}
    (h : piece ∈ e.row.1 ++ e.row.2) :
    piece = .plain ' ' ∨
      ∃ content, .inr content ∈ e.inner ∧ piece ∈ content ∧ piece.isPlain isBlank = false := by
  have hcell {cell : Option (List (Piece α))} (hpart : ∀ row, cell = some row → .inr row ∈ e.inner)
      (hmem : piece ∈ (cell.map squash).getD []) : piece = .plain ' ' ∨
      ∃ content, .inr content ∈ e.inner ∧ piece ∈ content ∧ piece.isPlain isBlank = false := by
    cases cell with
    | none => cases hmem
    | some row => exact (mem_squash hmem).imp_right fun hrow => ⟨row, hpart row rfl, hrow⟩
  have hparts : (∀ row, e.cells.1 = some row → .inr row ∈ e.inner) ∧
      ∀ row, e.cells.2 = some row → .inr row ∈ e.inner := by
    obtain ⟨lead, term, description, after⟩ := e
    rcases term with _ | ⟨term, _⟩ <;> rcases description with _ | ⟨description, _⟩ <;>
      simp [cells, inner, part]
  rcases List.mem_append.1 h with h | h
  · exact hcell hparts.1 h
  · exact hcell hparts.2 h

lemma Entry.mem_titles {piece : Piece α} {e : Entry (List (Piece α))}
    (h : piece ∈ e.titles.1 ++ e.titles.2) :
    piece ∈ e.row.1 ++ e.row.2 ∨ ∃ c ∈ "TermDescription".toList, piece = .plain c := by
  have hcell {row : List (Piece α)} {title : Text} (hrow : row ⊆ e.row.1 ++ e.row.2)
      (htitle : title ⊆ "TermDescription".toList)
      (hmem : piece ∈ if row.isEmpty then title.map .plain else row) :
      piece ∈ e.row.1 ++ e.row.2 ∨ ∃ c ∈ "TermDescription".toList, piece = .plain c := by
    split at hmem
    · obtain ⟨c, hc, rfl⟩ := List.mem_map.1 hmem
      exact .inr ⟨c, htitle hc, rfl⟩
    · exact .inl (hrow hmem)
  rcases List.mem_append.1 h with h | h
  · exact hcell (List.subset_append_left _ _) (by decide) h
  · exact hcell (List.subset_append_right _ _) (by decide) h

lemma not_mem_tableRow {d : Char} (hd : d ∉ "| \\".toList) (hu : d ∉ u) (hv : d ∉ v) :
    d ∉ tableRow u v := by
  have hcell {t : Text} (ht : d ∉ t) : d ∉ cell t := by
    intro hmem
    obtain ⟨c, hc, hmem⟩ := List.mem_flatMap.1 hmem
    split at hmem
    · exact hd (by simp_all)
    · exact ht (List.mem_singleton.1 hmem ▸ hc)
  have hparts : d ≠ '|' ∧ d ≠ ' ' ∧ d ≠ '\\' := by simpa using hd
  simp [tableRow, hcell hu, hcell hv, hparts]

lemma inLine_tableRow (hu : '\n' ∉ u) (hv : '\n' ∉ v) : InLine (tableRow u v) := by
  refine ⟨by simp [tableRow], not_mem_tableRow (by decide) hu hv, fun c hc => ?_, fun c hc => ?_⟩
  · obtain rfl : '|' = c := by simpa [tableRow] using hc
    decide
  · rw [tableRow, List.getLast?_append_of_ne_nil _ (by decide)] at hc
    obtain rfl : '|' = c := Option.some.inj hc
    decide

/-- The cells of a table have what is in the list, titles and spaces. -/
lemma of_mem_cells {l : ListMarkup (List (Piece α))} {header : Entry (List (Piece α))}
    {P : Piece α → Prop} (hheader : l.header = some header)
    (hcontent : ∀ content, .inr content ∈ l.segments → ∀ piece ∈ content, P piece)
    (hplain : ∀ c ∈ " TermDescription".toList, P (.plain c))
    {cells : List (Piece α) × List (Piece α)}
    (hcells : cells ∈ header.titles :: l.items.map Entry.row) {piece : Piece α}
    (h : piece ∈ cells.1 ++ cells.2) : P piece ∧ piece ≠ .plain '\n' := by
  have hrow {e : Entry (List (Piece α))} (he : l.header = some e ∨ e ∈ l.items)
      (hmem : piece ∈ e.row.1 ++ e.row.2) : P piece ∧ piece ≠ .plain '\n' := by
    rcases Entry.mem_row hmem with rfl | ⟨content, hinner, hpiece, hblank⟩
    · exact ⟨hplain _ (by decide), by simp⟩
    · refine ⟨hcontent content (ListMarkup.mem_segments he hinner) _ hpiece, ?_⟩
      rintro rfl
      exact absurd (show isBlank '\n' = false from hblank) (by decide)
  rcases List.mem_cons.1 hcells with rfl | hcells
  · rcases Entry.mem_titles h with hmem | ⟨c, hc, rfl⟩
    · exact hrow (.inl hheader) hmem
    · have hfeed : ∀ c ∈ "TermDescription".toList, c ≠ '\n' :=
        List.all_iff_forall_prop.1 (by decide)
      exact ⟨hplain c (List.mem_cons_of_mem _ hc), fun heq => hfeed c hc (Piece.plain.inj heq)⟩
  · obtain ⟨e, he, rfl⟩ := List.mem_map.1 hcells
    exact hrow (.inr he) h

/-! ### Laying out a table -/

section

variable {resolver : Resolver} {s : Stash} {l : ListMarkup (List (Piece (Nat × Text)))}
  {header : Entry (List (Piece (Nat × Text)))}

/-- The lines of a table before its angle brackets are escaped. -/
def tableTexts (header : Entry (List (Piece (Nat × Text))))
    (items : List (Entry (List (Piece (Nat × Text))))) : List Text :=
  tableRow (withTokens header.titles.1) (withTokens header.titles.2) :: ruler ::
    (items.filter (!·.isEmpty)).map fun e => tableRow (withTokens e.row.1) (withTokens e.row.2)

lemma isEmpty_withTokens (row : List (Piece (Nat × Text))) :
    (withTokens row).isEmpty = row.isEmpty := by
  rw [Bool.eq_iff_iff, List.isEmpty_iff, List.isEmpty_iff, withTokens_eq_nil]

lemma rendered_table (hkind : listKind l.attributes = .table) (hheader : l.header = some header)
    (hitems : ∃ e ∈ l.items, e.isEmpty = false) :
    (l.map withTokens).rendered = join ['\n'] (tableTexts header l.items) := by
  have hshown : ((l.items.map (Entry.map withTokens)).map Entry.item).filter (!·.isEmpty) =
      (l.items.filter (!·.isEmpty)).map fun e =>
        ⟨withTokens e.row.1, withTokens e.row.2⟩ := by
    simp only [List.map_map, List.filter_map, Function.comp_def, Entry.item_withTokens,
      ListItem.isEmpty, isEmpty_withTokens]
    rfl
  have hsome : (l.items.filter (!·.isEmpty)).isEmpty = false := by
    obtain ⟨e, he, hne⟩ := hitems
    rw [List.isEmpty_eq_false_iff]
    exact List.ne_nil_of_mem (List.mem_filter.2 ⟨he, by simp [hne]⟩)
  have htitle (row : List (Piece (Nat × Text))) (title : Text) :
      (if (withTokens row).isEmpty then title else withTokens row) =
        withTokens (if row.isEmpty then title.map .plain else row) := by
    rw [isEmpty_withTokens]
    split
    · exact (withTokens_map_plain title).symm
    · rfl
  unfold ListMarkup.rendered renderList
  simp only [ListMarkup.map, hkind, hheader, Option.map_some, hshown, List.isEmpty_map, hsome,
    Entry.item_withTokens, htitle, Bool.false_eq_true, if_false]
  rw [List.map_map]
  rfl

/-- A table has lines of their own for the header and for every item. -/
lemma tidy_rendered (hkind : listKind l.attributes = .table) (hheader : l.header = some header)
    (hitems : ∃ e ∈ l.items, e.isEmpty = false)
    (hcontent : ∀ content, .inr content ∈ l.segments → .plain '<' ∉ content) :
    '<' ∉ (l.map withTokens).rendered ∧
      tidy ("\n\n".toList ++ (l.map withTokens).rendered ++ "\n\n".toList) =
        join ['\n'] ((tableRows header l.items).map withTokens) := by
  have hcells : ∀ cells ∈ header.titles :: l.items.map Entry.row,
      .plain '<' ∉ cells.1 ++ cells.2 ∧ .plain '\n' ∉ cells.1 ++ cells.2 := by
    intro cells hmem
    have hpiece {piece : Piece (Nat × Text)} (h : piece ∈ cells.1 ++ cells.2) :
        piece ≠ .plain '<' ∧ piece ≠ .plain '\n' := by
      refine of_mem_cells (P := (· ≠ .plain '<')) hheader (fun content hin piece h heq => ?_)
        (fun c hc heq => ?_) hmem h
      · exact hcontent content hin (heq ▸ h)
      · rw [Piece.plain.inj heq] at hc
        exact absurd hc (by decide)
    exact ⟨fun h => (hpiece h).1 rfl, fun h => (hpiece h).2 rfl⟩
  obtain ⟨htitles, hrows⟩ := List.forall_mem_cons.1 hcells
  rw [List.forall_mem_map] at hrows
  have hline {cells : List (Piece (Nat × Text)) × List (Piece (Nat × Text))}
      (h : .plain '<' ∉ cells.1 ++ cells.2 ∧ .plain '\n' ∉ cells.1 ++ cells.2) :
      '<' ∉ tableRow (withTokens cells.1) (withTokens cells.2) ∧
        InLine (tableRow (withTokens cells.1) (withTokens cells.2)) := by
    simp only [List.mem_append, not_or] at h
    have hfeed (n : Nat) : '\n' ∉ token n := (inLine_token n).line
    exact ⟨not_mem_tableRow (by decide) (lt_not_mem_withTokens h.1.1) (lt_not_mem_withTokens h.1.2),
      inLine_tableRow (not_mem_withTokens h.2.1 hfeed) (not_mem_withTokens h.2.2 hfeed)⟩
  have hlines : ∀ line ∈ tableTexts header l.items, '<' ∉ line ∧ InLine line := by
    simp only [tableTexts, List.forall_mem_cons, List.forall_mem_map]
    exact ⟨hline htitles, by decide, fun e he => hline (hrows e (List.mem_filter.1 he).1)⟩
  have hescape : (tableTexts header l.items).map escapeAngles =
      (tableRows header l.items).map withTokens := by
    have hruler : escapeAngles ruler = ruler := by decide
    simp only [tableTexts, tableRows, List.map_cons, List.map_map, hruler, withTokens_map_plain,
      escapeAngles_tableRow htitles.1]
    congr 2
    exact List.map_congr_left fun e he =>
      escapeAngles_tableRow (hrows e (List.mem_filter.1 he).1).1
  rw [rendered_table hkind hheader hitems, ← hescape]
  exact ⟨not_mem_join (by decide) fun line h => (hlines line h).1,
    tidy_lines fun line h => (hlines line h).2⟩

end

/-! ### Rendering a table -/

/-- The row of a list whose texts are rows. -/
def flatRow (segments : List (Text ⊕ List (Piece α))) : List (Piece α) :=
  segments.flatMap (Sum.elim (List.map .plain) id)

/-- The tags and the bits of a list. -/
def ListMarkup.bits (l : ListMarkup (List (Bit α))) : List (Text ⊕ Bit α) :=
  l.segments.flatMap (Sum.elim (fun tag => [.inl tag]) (List.map .inr))

/-- The entry as it is shown. -/
def Entry.shown (e : Entry (List (Bit Text))) : Entry (List (Piece Text)) :=
  e.map (List.flatMap Bit.shown)

lemma withTokens_flatRow (segments : List (Text ⊕ List (Piece (Nat × Text)))) :
    withTokens (flatRow segments) = flatten (segments.map (Sum.map id withTokens)) := by
  induction segments with
  | nil => rfl
  | cons segment segments ih =>
    have hcons : flatRow (segment :: segments) =
        Sum.elim (List.map .plain) id segment ++ flatRow segments := List.flatMap_cons
    rw [hcons, withTokens_append, ih]
    cases segment with
    | inl tag => exact congrArg (· ++ _) (withTokens_map_plain tag)
    | inr row => rfl

lemma exists_flatRow {g : α → β} {row : List (Piece α)} {segments : List (Text ⊕ List (Piece β))}
    (h : row.map (Piece.map g) = flatRow segments) :
    ∃ segments' : List (Text ⊕ List (Piece α)), flatRow segments' = row ∧
      segments'.map (Sum.map id (List.map (Piece.map g))) = segments := by
  refine exists_flatMap_of_map (fun row segment hrow => ?_) h
  cases segment with
  | inl tag => exact ⟨.inl tag, (eq_map_plain hrow).symm, rfl⟩
  | inr content => exact ⟨.inr row, rfl, congrArg Sum.inr hrow⟩

lemma mixedShown_bits (l : ListMarkup (List (Bit Text))) :
    mixedShown l.bits = flatRow (l.map (List.flatMap Bit.shown)).segments := by
  rw [mixedShown, ListMarkup.bits, List.flatMap_assoc, ListMarkup.segments_map, flatRow,
    List.flatMap_map]
  refine List.flatMap_congr fun segment _ => ?_
  cases segment with
  | inl tag => exact List.flatMap_singleton _ _
  | inr bits => exact List.flatMap_map ..

/-- No tag of a list begins inline code. -/
lemma throughout_listTag {l : ListMarkup (List (Bit α))} (hattributes : '<' ∉ l.attributes)
    {tag : Text} (h : .inl tag ∈ l.bits) :
    Throughout (fun t => ∀ before, element "c".toList before t = none) tag := by
  have hsegments : .inl tag ∈ l.segments := by
    obtain ⟨segment, hsegment, hmem⟩ := List.mem_flatMap.1 h
    cases segment with
    | inl tag' => exact Sum.inl.inj (List.mem_singleton.1 hmem) ▸ hsegment
    | inr bits => simp at hmem
  have htag {u : Text} (hu : '<' ∉ u)
      (hnone : ∀ rest, afterOpen? "c".toList ('<' :: u ++ rest) = none) :
      Throughout (fun t => ∀ before, element "c".toList before t = none) ('<' :: u) := by
    refine throughout_tag (fun c t hc before => ?_) hu fun rest before => ?_
    · rw [element, afterOpen?_of_ne hc]
      rfl
    · rw [element, hnone]
      rfl
  have htags : ∀ tag ∈ closeTag "list".toList :: listTags, tag.head? = some '<' ∧ '<' ∉ tag.tail ∧
      tag.getLast? = some '>' ∧ afterOpen? "c".toList tag = none := by decide
  rcases ListMarkup.tag_mem_segments hsegments with rfl | hmem
  · exact htag (by simpa using hattributes) fun rest => afterOpen?_opening (by decide)
  · obtain ⟨hhead, htail, hlast, hnone⟩ := htags tag hmem
    obtain ⟨u, rfl⟩ := List.head?_eq_some_iff.1 hhead
    refine htag htail fun rest => ?_
    rw [afterOpen?_seam (by decide) (.inl hlast) (List.cons_ne_nil _ _), hnone]
    rfl

/-- The characters that a table adds to its cells. -/
def tableSigns : Text := " |\\&gt;-".toList

lemma mem_lineRow {piece : Piece α} {cells : List (Piece α) × List (Piece α)}
    (h : piece ∈ lineRow cells) :
    piece ∈ cells.1 ++ cells.2 ∨ ∃ c ∈ tableSigns, piece = .plain c := by
  have hplain {t : Text} (ht : t ⊆ tableSigns) (hmem : piece ∈ t.map .plain) :
      ∃ c ∈ tableSigns, piece = .plain c := by
    obtain ⟨c, hc, rfl⟩ := List.mem_map.1 hmem
    exact ⟨c, ht hc, rfl⟩
  have hcell {row : List (Piece α)} (hrow : row ⊆ cells.1 ++ cells.2) (hmem : piece ∈ cellRow row) :
      piece ∈ cells.1 ++ cells.2 ∨ ∃ c ∈ tableSigns, piece = .plain c := by
    have hangle : "&gt;".toList ⊆ tableSigns := by decide
    have hpipe : "\\|".toList ⊆ tableSigns := by decide
    rcases mem_escape hmem with hmem | ⟨c, hc, rfl⟩
    · rcases mem_replacePlain hmem with hmem | ⟨c, hc, rfl⟩
      · exact .inl (hrow hmem)
      · exact .inr ⟨c, hpipe hc, rfl⟩
    · exact .inr ⟨c, hangle hc, rfl⟩
  simp only [lineRow, List.mem_append] at h
  rcases h with (((h | h) | h) | h) | h
  · exact .inr (hplain (by decide) h)
  · exact hcell (List.subset_append_left _ _) h
  · exact .inr (hplain (by decide) h)
  · exact hcell (List.subset_append_right _ _) h
  · exact .inr (hplain (by decide) h)

/-- The lines of a table have what is in the list, titles and signs. -/
lemma of_mem_tableRows {l : ListMarkup (List (Piece α))} {header : Entry (List (Piece α))}
    {P : Piece α → Prop} (hheader : l.header = some header)
    (hcontent : ∀ content, .inr content ∈ l.segments → ∀ piece ∈ content, P piece)
    (hplain : ∀ c ∈ "TermDescription".toList ++ tableSigns, P (.plain c)) {line : List (Piece α)}
    (hline : line ∈ tableRows header l.items) {piece : Piece α} (h : piece ∈ line) :
    P piece ∧ piece ≠ .plain '\n' := by
  have hfeed : ∀ c ∈ tableSigns, c ≠ '\n' := List.all_iff_forall_prop.1 (by decide)
  have hsign {c : Char} (hc : c ∈ tableSigns) :
      P (.plain c) ∧ (.plain c : Piece α) ≠ .plain '\n' :=
    ⟨hplain c (List.mem_append_right _ hc), fun heq => hfeed c hc (Piece.plain.inj heq)⟩
  have hcells {cells : List (Piece α) × List (Piece α)}
      (hmem : cells ∈ header.titles :: l.items.map Entry.row) (h : piece ∈ lineRow cells) :
      P piece ∧ piece ≠ .plain '\n' := by
    have hchars : " TermDescription".toList ⊆ "TermDescription".toList ++ tableSigns := by decide
    rcases mem_lineRow h with h | ⟨c, hc, rfl⟩
    · exact of_mem_cells hheader hcontent (fun c hc => hplain c (hchars hc)) hmem h
    · exact hsign hc
  rcases List.mem_cons.1 hline with rfl | hline
  · exact hcells List.mem_cons_self h
  rcases List.mem_cons.1 hline with rfl | hline
  · have hruler : ruler ⊆ tableSigns := by decide
    obtain ⟨c, hc, rfl⟩ := List.mem_map.1 h
    exact hsign (hruler hc)
  · obtain ⟨e, he, rfl⟩ := List.mem_map.1 hline
    exact hcells (List.mem_cons_of_mem _ (List.mem_map_of_mem (List.mem_filter.1 he).1)) h

lemma join_map_written (f : α → Text) (line : List (Piece α)) (more : List (List (Piece α))) :
    join ['\n'] ((line :: more).map (written f)) = written f (unlines line more) := by
  rw [List.map_cons, join_cons, written_unlines, below, List.flatMap_map]

/-- With tokens for its code, a table is laid out as its lines. -/
lemma laidOut_table {resolver : Resolver} {s : Stash} {l : ListMarkup (List (Piece (Nat × Text)))}
    {header : Entry (List (Piece (Nat × Text)))}
    (htaken : takenOut resolver t = (withTokens (flatRow l.segments), .ok s))
    (hkind : listKind l.attributes = .table)
    (hattributes : ∀ c ∈ l.attributes, c ≠ '<' ∧ c ≠ '>') (hheader : l.header = some header)
    (hitems : ∃ e ∈ l.items, e.isEmpty = false)
    (hcontent : ∀ content, .inr content ∈ l.segments → .plain '<' ∉ content) :
    laidOut resolver t = .ok (join ['\n'] ((tableRows header l.items).map withTokens), s) := by
  have hsource : withTokens (flatRow l.segments) = flatten (l.map withTokens).segments := by
    rw [withTokens_flatRow, ListMarkup.segments_map]
  have hbare : Bare (l.map withTokens).body := by
    intro text htext
    have hmem : .inr text ∈ (l.map withTokens).segments := by simp [ListMarkup.segments, htext]
    rw [ListMarkup.segments_map] at hmem
    obtain ⟨segment, hsegment, heq⟩ := List.mem_map.1 hmem
    cases segment with
    | inl tag => cases heq
    | inr content =>
      obtain rfl : withTokens content = text := Sum.inr.inj heq
      exact lt_not_mem_withTokens (hcontent content hsegment)
  obtain ⟨hlt, htidy⟩ := tidy_rendered hkind hheader hitems hcontent
  have hne : (l.map withTokens).rendered ≠ [] := by
    rw [rendered_table hkind hheader hitems, tableTexts, join_cons]
    simp [tableRow]
  have hformat := format_segments hbare fun h => (hattributes _ h).1 rfl
  have hlists := layOutLists_segments hbare (fun h => (hattributes _ h).2 rfl) hlt
  rw [laidOut, htaken, hsource]
  dsimp only
  rw [hformat, hlists, if_neg hne, ← htidy]
  rfl

/-- What is in a table is put back from the stash. -/
lemma restore_table {s : Stash} {l : ListMarkup (List (Piece (Nat × Text)))}
    {header : Entry (List (Piece (Nat × Text)))} (hheader : l.header = some header)
    (hholds : s.Holds (flatRow l.segments))
    (hcontent : ∀ content, .inr content ∈ l.segments →
      ∀ piece ∈ content, IsShown (piece.map Prod.snd)) :
    s.restore (join ['\n'] ((tableRows header l.items).map withTokens)) =
        .ok (join ['\n'] ((tableRows header l.items).map (written Prod.snd))) ∨
      s.Overfull ∧ ∃ n, s.restore (join ['\n'] ((tableRows header l.items).map withTokens)) =
        .error (.fault (.longInteger n)) := by
  obtain ⟨line, more, hrows⟩ : ∃ line more, tableRows header l.items = line :: more := ⟨_, _, rfl⟩
  have hpieces : ∀ piece ∈ unlines line more,
      IsShown (piece.map Prod.snd) ∧ ∀ y, piece = .found y → s.items[y.1]? = some y.2 := by
    have hcells (content : List (Piece (Nat × Text))) (hin : .inr content ∈ l.segments)
        (piece : Piece (Nat × Text)) (h : piece ∈ content) :
        IsShown (piece.map Prod.snd) ∧ ∀ y, piece = .found y → s.items[y.1]? = some y.2 := by
      refine ⟨hcontent content hin piece h, fun y hy => hholds y ?_⟩
      exact hy ▸ List.mem_flatMap.2 ⟨.inr content, hin, h⟩
    have hsigns : ∀ c ∈ "TermDescription".toList ++ tableSigns, c ≠ '<' ∧ c ≠ tokenOpen :=
      List.all_iff_forall_prop.1 (by decide)
    have hlines {next : List (Piece (Nat × Text))} (hnext : next ∈ line :: more)
        {piece : Piece (Nat × Text)} (h : piece ∈ next) :=
      (of_mem_tableRows (P := fun piece => IsShown (piece.map Prod.snd) ∧
        ∀ y, piece = .found y → s.items[y.1]? = some y.2) hheader hcells
        (fun c hc => ⟨hsigns c hc, fun y hy => by cases hy⟩) (hrows ▸ hnext) h).1
    intro piece hpiece
    rcases mem_unlines.1 hpiece with h | ⟨next, hnext, rfl | h⟩
    · exact hlines List.mem_cons_self h
    · exact ⟨⟨by decide, by decide⟩, fun y hy => by cases hy⟩
    · exact hlines (List.mem_cons_of_mem _ hnext) h
  rw [hrows, join_map_written]
  have htokens : join ['\n'] ((line :: more).map withTokens) = withTokens (unlines line more) :=
    join_map_written _ line more
  rw [htokens]
  rcases @restoreOnce_withTokens _ s (unlines line more) id (fun h => (hpieces _ h).1.2 rfl)
    (fun y hy => (hpieces _ hy).2 y rfl) with hok | ⟨hfull, n, herror⟩
  · left
    refine Stash.restore_of_restoreOnce hok fun hmem => ?_
    obtain ⟨piece, hpiece, hmem⟩ := List.mem_flatMap.1 hmem
    cases piece with
    | plain c => exact (hpieces _ hpiece).1.2 (List.mem_singleton.1 hmem).symm
    | found y => exact (hpieces _ hpiece).1.2.2 hmem
  · exact .inr ⟨hfull, n, Stash.restore_of_error herror⟩

/-- The lines of a table are as they were written. -/
lemma splitOn_table {l : ListMarkup (List (Piece Text))} {header : Entry (List (Piece Text))}
    (hheader : l.header = some header)
    (hcontent : ∀ content, .inr content ∈ l.segments → ∀ piece ∈ content, IsShown piece) :
    splitOn '\n' (join ['\n'] ((tableRows header l.items).map (written id))) =
      tableLine header.titles :: ruler ::
        (l.items.filter (!·.isEmpty)).map fun e => tableLine e.row := by
  have hsigns : ∀ c ∈ "TermDescription".toList ++ tableSigns, c ≠ '<' ∧ c ≠ tokenOpen :=
    List.all_iff_forall_prop.1 (by decide)
  have hlines : ∀ text ∈ (tableRows header l.items).map (written id), '\n' ∉ text := by
    rw [List.forall_mem_map]
    intro line hline hmem
    obtain ⟨piece, hpiece, hmem⟩ := List.mem_flatMap.1 hmem
    obtain ⟨hshown, hfeed⟩ := of_mem_tableRows (P := IsShown) hheader hcontent hsigns hline hpiece
    cases piece with
    | plain c => exact hfeed (congrArg Piece.plain (List.mem_singleton.1 hmem).symm)
    | found x => exact hshown.2.1 hmem
  have htexts : (tableRows header l.items).map (written id) = tableLine header.titles :: ruler ::
      (l.items.filter (!·.isEmpty)).map fun e => tableLine e.row := by
    rw [tableRows, List.map_cons, List.map_cons, List.map_map, written_map_plain]
    rfl
  rw [htexts] at hlines ⊢
  exact splitOn_lines hlines

lemma isShown_of_mem {l : ListMarkup (List (Bit Text))} (h : Readable t l.bits)
    (hmarks : Unmarked t) (content : List (Piece Text))
    (hin : .inr content ∈ (l.map (List.flatMap Bit.shown)).segments) :
    ∀ piece ∈ content, IsShown piece := by
  rw [ListMarkup.segments_map] at hin
  obtain ⟨segment, hsegment, heq⟩ := List.mem_map.1 hin
  cases segment with
  | inl tag => cases heq
  | inr bits =>
    obtain rfl : bits.flatMap Bit.shown = content := Sum.inr.inj heq
    intro piece hpiece
    obtain ⟨b, hb, hpiece⟩ := List.mem_flatMap.1 hpiece
    refine h.isShown hmarks (List.mem_flatMap.2 ⟨.inr bits, hsegment, ?_⟩) hpiece
    exact List.mem_map_of_mem hb

lemma lt_mem_of_readable {l : ListMarkup (List (Bit Text))}
    (h : Readable (dropTokenMarks t) l.bits) : '<' ∈ t := by
  have hlt : '<' ∈ dropTokenMarks t := by
    rw [← h.written_source]
    simp [ListMarkup.bits, ListMarkup.segments, ListMarkup.opening, mixedSource, Piece.text]
  exact (List.mem_filter.1 hlt).1

/-- With tokens for its code a list has the same tags, header and items. -/
lemma exists_marked_list {l : ListMarkup (List (Bit Text))} {row : List (Piece (Nat × Text))}
    (h : row.map (Piece.map Prod.snd) = mixedShown l.bits) :
    ∃ l' : ListMarkup (List (Piece (Nat × Text))), flatRow l'.segments = row ∧
      l'.map (List.map (Piece.map Prod.snd)) = l.map (List.flatMap Bit.shown) := by
  obtain ⟨segments, hrow, hsegments⟩ := exists_flatRow (h.trans (mixedShown_bits l))
  obtain ⟨l', rfl, hl⟩ := ListMarkup.exists_segments hsegments
  exact ⟨l', hrow, hl⟩

lemma written_tableRows (header : Entry (List (Piece (Nat × Text))))
    (items : List (Entry (List (Piece (Nat × Text))))) :
    (tableRows header items).map (written Prod.snd) =
      (tableRows (header.map (List.map (Piece.map Prod.snd)))
        (items.map (Entry.map (List.map (Piece.map Prod.snd))))).map (written id) := by
  rw [tableRows_map, List.map_map]
  exact List.map_congr_left fun line _ => (written_map Prod.snd id line).symm

/-- A table is rendered as its lines. -/
lemma text_table {resolver : Resolver} {l : ListMarkup (List (Bit Text))}
    {header : Entry (List (Bit Text))} (hkind : listKind l.attributes = .table)
    (hattributes : ∀ c ∈ l.attributes, c ≠ '<' ∧ c ≠ '>') (hheader : l.header = some header)
    (hread : Readable (dropTokenMarks t) l.bits) (hitems : ∃ e ∈ l.items, e.shown.isEmpty = false) :
    (render resolver t).text = .ok (join ['\n']
      ((tableRows header.shown (l.items.map Entry.shown)).map (written id))) ∨
    10 ^ Numeral.maxDigits < t.length ∧
      ∃ n, (render resolver t).text = .error (.fault (.longInteger n)) := by
  have hwork : needsWork t = true := needsWork_of (.inl (lt_mem_of_readable hread))
  have hshown := isShown_of_mem hread (unmarked_dropTokenMarks t)
  rw [render, if_pos hwork, text_convert]
  rcases @takenOut_mixed resolver t l.bits hread fun tag htag =>
    throughout_listTag (fun h => (hattributes _ h).1 rfl) htag
    with ⟨row, s, htaken, hholds, hrow⟩ | ⟨hlong, n, herror⟩
  · obtain ⟨l', rfl, hl⟩ := exists_marked_list hrow
    have hattributes' : l'.attributes = l.attributes := congrArg ListMarkup.attributes hl
    have hheaders := congrArg ListMarkup.header hl
    have hentries : l'.items.map (Entry.map (List.map (Piece.map Prod.snd))) =
        l.items.map Entry.shown := congrArg ListMarkup.items hl
    simp only [ListMarkup.map, hheader, Option.map_some] at hheaders
    obtain ⟨header', hheader', htitles⟩ := Option.map_eq_some_iff.1 hheaders
    have hcontent : ∀ content, .inr content ∈ l'.segments →
        ∀ piece ∈ content, IsShown (piece.map Prod.snd) := by
      intro content hin piece hpiece
      refine hshown (content.map (Piece.map Prod.snd)) ?_ _ (List.mem_map_of_mem hpiece)
      rw [← hl, ListMarkup.segments_map]
      exact List.mem_map_of_mem (f := Sum.map id (List.map (Piece.map Prod.snd))) hin
    have hitems' : ∃ e ∈ l'.items, e.isEmpty = false := by
      obtain ⟨e, he, hempty⟩ := hitems
      have hmem := List.mem_map_of_mem (f := Entry.shown) he
      rw [← hentries] at hmem
      obtain ⟨e', he', heq⟩ := List.mem_map.1 hmem
      rw [← heq, Entry.isEmpty_map] at hempty
      exact ⟨e', he', hempty⟩
    have hout := written_tableRows header' l'.items
    rw [htitles, hentries] at hout
    have hlaid := laidOut_table htaken (hattributes'.symm ▸ hkind) (hattributes'.symm ▸ hattributes)
      hheader' hitems' fun content hin h => (hcontent content hin _ h).1 rfl
    rw [hlaid, Entry.shown, ← hout]
    rcases restore_table hheader' hholds hcontent with hok | ⟨hfull, n, herror⟩
    · exact .inl hok
    · exact .inr ⟨Nat.lt_of_lt_of_le hfull (PutsBack.last hlaid).size_le, n, herror⟩
  · refine .inr ⟨hlong, n, ?_⟩
    rw [laidOut, herror]
    rfl

/-- **The text of its cells does not break a table, but their code does.** A list of the kind table
has a header and some item that is not empty, and in its tags there is text with code spans and
inline code. It is rendered as a line for the header, the line below it, and a line for each item
that is not empty, in their order. Each line has three pipes without a backslash just before them,
and those that are in the code of its cells. The one exception is a text with more characters than
there are numbers that can be read. -/
theorem render_table {resolver : Resolver} {l : ListMarkup (List (Bit Text))}
    {header : Entry (List (Bit Text))} (hkind : listKind l.attributes = .table)
    (hattributes : ∀ c ∈ l.attributes, c ≠ '<' ∧ c ≠ '>') (hheader : l.header = some header)
    (hread : Readable (dropTokenMarks t) l.bits) (hitems : ∃ e ∈ l.items, e.shown.isEmpty = false) :
    (∃ out, (render resolver t).text = .ok out ∧
      splitOn '\n' out = tableLine header.shown.titles :: ruler ::
        ((l.items.map Entry.shown).filter (!·.isEmpty)).map (fun e => tableLine e.row) ∧
      barePipes none ruler = 3 ∧
      ∀ cells ∈ header.shown.titles :: (l.items.map Entry.shown).map Entry.row,
        barePipes none (tableLine cells) =
          3 + ((findsOf (cells.1 ++ cells.2)).map (barePipes none)).sum) ∨
    10 ^ Numeral.maxDigits < t.length ∧
      ∃ n, (render resolver t).text = .error (.fault (.longInteger n)) := by
  have hshown := isShown_of_mem hread (unmarked_dropTokenMarks t)
  have hheaders : (l.map (List.flatMap Bit.shown)).header = some header.shown := by
    simp [ListMarkup.map, hheader, Entry.shown]
  have hentries : (l.map (List.flatMap Bit.shown)).items = l.items.map Entry.shown := rfl
  have hsplit := splitOn_table hheaders hshown
  rw [hentries] at hsplit
  rcases @text_table t resolver l header hkind hattributes hheader hread hitems with hok | hlong
  · refine .inl ⟨_, hok, hsplit, by decide, fun cells hcells => ?_⟩
    refine barePipes_tableLine fun x hx => ?_
    have hsigns : ∀ c ∈ " TermDescription".toList, c ≠ '<' ∧ c ≠ tokenOpen :=
      List.all_iff_forall_prop.1 (by decide)
    rw [← hentries] at hcells
    exact (of_mem_cells (P := IsShown) hheaders hshown hsigns hcells hx).1.1
  · exact .inr hlong

/-- Bits without code. -/
def plainBits (t : Text) : List (Bit Text) :=
  t.map fun c => .piece (.plain c)

/-- A table with pipes in its text, a span with angle brackets, code over two lines, and an empty
item. -/
def sampleTable : ListMarkup (List (Bit Text)) where
  attributes := " type=\"table\"".toList
  lead := []
  header := some ⟨[], some (plainBits "T|U".toList, []), some (plainBits " ".toList, []), []⟩
  items :=
    [⟨[], some (plainBits "a|b ".toList ++ [.piece (.found "`x<y>`".toList)], []),
        some ([.code ("p\n q".toList.map .plain)], []), plainBits "\n".toList⟩,
      ⟨[], none, none, []⟩]

def sampleTableNote : Text :=
  ("<list type=\"table\"><listheader><term>T|U</term><description> </description></listheader>" ++
    "<item><term>a|b `x<y>`</term><description><c>p\n q</c></description></item>\n" ++
    "<item></item></list>").toList

theorem render_sampleTable :
    listKind sampleTable.attributes = .table ∧ (∀ c ∈ sampleTable.attributes, c ≠ '<' ∧ c ≠ '>') ∧
      Readable (dropTokenMarks sampleTableNote) sampleTable.bits ∧
      (∃ e ∈ sampleTable.items, e.shown.isEmpty = false) ∧
      ∃ out, (render {} sampleTableNote).text = .ok out ∧
        splitOn '\n' out = ["| T\\|U | Description |".toList, "| --- | --- |".toList,
          "| a\\|b `x<y>` | `p q` |".toList] := by
  have hkind : listKind sampleTable.attributes = .table := by decide +kernel
  have hattributes : ∀ c ∈ sampleTable.attributes, c ≠ '<' ∧ c ≠ '>' :=
    List.all_iff_forall_prop.1 (by decide +kernel)
  have hread : Readable (dropTokenMarks sampleTableNote) sampleTable.bits := by decide +kernel
  have hitems : ∃ e ∈ sampleTable.items, e.shown.isEmpty = false :=
    ⟨_, List.mem_cons_self, by decide +kernel⟩
  refine ⟨hkind, hattributes, hread, hitems, ?_⟩
  rcases @render_table sampleTableNote {} sampleTable _ hkind hattributes rfl hread hitems
    with ⟨out, htext, hlines, -⟩ | ⟨hlong, -⟩
  · exact ⟨out, htext, hlines.trans (by decide +kernel)⟩
  · have hpow : Numeral.maxDigits < 10 ^ Numeral.maxDigits := Nat.lt_pow_self (by decide)
    have hshort : sampleTableNote.length < Numeral.maxDigits := by decide +kernel
    omega

/-- A pipe in a code span is left as it is, and is a fourth one in its line. -/
theorem table_broken_by_code :
    (render {} ("<list type=\"table\"><listheader><term>T</term><description>D</description>" ++
        "</listheader><item><term>`a|b`</term><description>x</description></item></list>").toList
      ).text.toOption = some "| T | D |\n| --- | --- |\n| `a|b` | x |".toList ∧
      barePipes none "| `a|b` | x |".toList = 4 :=
  ⟨congrArg Except.toOption (text_render_of_within (n := 2) (by decide +kernel) (by decide +kernel)),
    by decide +kernel⟩

end LinkedDocs.Markup
