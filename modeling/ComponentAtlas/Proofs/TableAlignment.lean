import ComponentAtlas.CommandLine.Answer
import ComponentAtlas.Proofs.Lexemes
import Mathlib.Data.List.Forall2
import Mathlib.Order.Bounds.Basic

/-!
# Aligned tables

The headers, the rule and the rows of a table are put together from blocks with separators of the
same length between them. Blocks of one column have one width, so each column starts at the same
offset in all lines, whatever texts stand in it and however long the rows are.
-/

namespace ComponentAtlas

/-- Whether a text stands in a line behind a number of characters. -/
def StandsAt (offset : Nat) (text line : String) : Prop :=
  ∃ before after, line = before ++ text ++ after ∧ before.length = offset

/-- Where a block starts behind blocks of given widths, with a gap after each of them. -/
def blockStart (gap : Nat) (width : Nat → Nat) : Nat → Nat
  | 0 => 0
  | i + 1 => blockStart gap width i + width i + gap

/-- Whether the first of several blocks have given widths. -/
def HaveWidths (count : Nat) (width : Nat → Nat) (blocks : List String) : Prop :=
  ∀ i < count, ∀ block, blocks[i]? = some block → block.length = width i

section Blocks

variable {block : String} {blocks : List String} {width : Nat → Nat} {i : Nat}

/-- Fewer of the blocks have their widths as well. -/
theorem HaveWidths.mono {count : Nat} (h : HaveWidths count width blocks) (hi : i ≤ count) :
    HaveWidths i width blocks :=
  fun j hj => h j (Nat.lt_of_lt_of_le hj hi)

/-- A block is followed by a separator and the blocks after it. -/
theorem intercalate_drop (separator : String) (hi : i + 1 < blocks.length) :
    separator.intercalate (blocks.drop i) =
      blocks[i] ++ separator ++ separator.intercalate (blocks.drop (i + 1)) := by
  have hrest : blocks.drop (i + 1) ≠ [] := by
    rw [ne_eq, List.drop_eq_nil_iff]
    exact Nat.not_le.mpr hi
  rw [List.drop_eq_getElem_cons (Nat.lt_of_succ_lt hi), String.intercalate_cons_of_ne_nil hrest]

/-- Nothing follows the last block. -/
theorem intercalate_drop_last (separator : String) (hi : i < blocks.length)
    (hlast : blocks.length ≤ i + 1) :
    separator.intercalate (blocks.drop i) = blocks[i] := by
  rw [List.drop_eq_getElem_cons hi, List.drop_eq_nil_of_le hlast, String.intercalate_singleton]

/-- What stands before a block is as long as the blocks before it with their gaps. -/
theorem exists_intercalate_eq (separator : String) (hi : i < blocks.length)
    (hwidth : HaveWidths i width blocks) :
    ∃ before, separator.intercalate blocks = before ++ separator.intercalate (blocks.drop i) ∧
      before.length = blockStart separator.length width i := by
  induction i with
  | zero => exact ⟨"", String.empty_append.symm, rfl⟩
  | succ i ih =>
    obtain ⟨before, hline, hlength⟩ := ih (Nat.lt_of_succ_lt hi) (hwidth.mono (Nat.le_succ i))
    have hblock := hwidth i (Nat.lt_succ_self i) blocks[i] (List.getElem?_eq_getElem _)
    refine ⟨before ++ blocks[i] ++ separator, ?_, ?_⟩
    · rw [hline, intercalate_drop separator hi]
      simp only [String.append_assoc]
    · rw [String.length_append, String.length_append, hlength, hblock]
      rfl

/-- A block stands behind the widths of those before it and their gaps. -/
theorem standsAt_block (separator : String) (hblock : blocks[i]? = some block)
    (hwidth : HaveWidths i width blocks) :
    StandsAt (blockStart separator.length width i) block (separator.intercalate blocks) := by
  obtain ⟨hi, rfl⟩ := List.getElem?_eq_some_iff.mp hblock
  obtain ⟨before, hline, hlength⟩ := exists_intercalate_eq separator hi hwidth
  by_cases hnext : i + 1 < blocks.length
  · refine ⟨before, separator ++ separator.intercalate (blocks.drop (i + 1)), ?_, hlength⟩
    rw [hline, intercalate_drop separator hnext]
    simp only [String.append_assoc]
  · refine ⟨before, "", ?_, hlength⟩
    rw [hline, intercalate_drop_last separator hi (Nat.not_lt.mp hnext), String.append_empty]

/-- A separator stands where the block before it ends. -/
theorem standsAt_separator (separator : String) (hi : i + 1 < blocks.length)
    (hwidth : HaveWidths (i + 1) width blocks) :
    StandsAt (blockStart separator.length width i + width i) separator
      (separator.intercalate blocks) := by
  obtain ⟨before, hline, hlength⟩ :=
    exists_intercalate_eq separator (Nat.lt_of_succ_lt hi) (hwidth.mono (Nat.le_succ i))
  have hblock := hwidth i (Nat.lt_succ_self i) blocks[i] (List.getElem?_eq_getElem _)
  refine ⟨before ++ blocks[i], separator.intercalate (blocks.drop (i + 1)), ?_, ?_⟩
  · rw [hline, intercalate_drop separator hi]
    simp only [String.append_assoc]
  · rw [String.length_append, hlength, hblock]

/-- Blocks of given widths make a line that ends where the last of them does. -/
theorem length_intercalate (separator : String)
    (hwidth : HaveWidths blocks.length width blocks) :
    (separator.intercalate blocks).length =
      blockStart separator.length width blocks.length - separator.length := by
  cases hcount : blocks.length with
  | zero =>
    rw [List.eq_nil_of_length_eq_zero hcount, String.intercalate_nil]
    exact (Nat.zero_sub _).symm
  | succ i =>
    have hi : i < blocks.length := hcount ▸ Nat.lt_succ_self i
    obtain ⟨before, hline, hlength⟩ := exists_intercalate_eq separator hi (hwidth.mono hi.le)
    have hblock := hwidth i hi blocks[i] (List.getElem?_eq_getElem _)
    rw [hline, intercalate_drop_last separator hi hcount.le, String.length_append, hlength, hblock,
      blockStart, Nat.add_sub_cancel]

/-- A character that is in no block and not in the separator is not in the line. -/
theorem not_mem_intercalate {c : Char} {separator : String} (hseparator : c ∉ separator.toList)
    (hblocks : ∀ block ∈ blocks, c ∉ block.toList) :
    c ∉ (separator.intercalate blocks).toList := by
  induction blocks with
  | nil => exact List.not_mem_nil
  | cons block rest ih =>
    obtain ⟨hblock, hrest⟩ := List.forall_mem_cons.mp hblocks
    by_cases hnil : rest = []
    · rwa [hnil, String.intercalate_singleton]
    · simp only [String.intercalate_cons_of_ne_nil hnil, String.toList_append, List.mem_append]
      rintro ((hmem | hmem) | hmem)
      exacts [hblock hmem, hseparator hmem, ih hrest hmem]

end Blocks

/-- Printed lines without line feeds in them are the pieces of the text, and nothing follows the
last one. -/
theorem splitOn_linesText {lines : List String} (hlines : ∀ line ∈ lines, '\n' ∉ line.toList) :
    (linesText lines).toList.splitOn '\n' = lines.map String.toList ++ [[]] := by
  have htext : (linesText lines).toList = (lines.map String.toList).flatMap (· ++ ['\n']) := by
    simp [linesText, List.flatMap_map]
  rw [htext]
  exact SourceText.splitOn_flatMap_append (List.forall_mem_map.mpr hlines)

namespace Table

/-- The texts in a column: its header, and the cells of the rows that are long enough. -/
def column (table : Table) (i : Nat) : List String :=
  (table.headers :: table.rows).filterMap (·[i]?)

/-- The width of a column. -/
def columnWidth (table : Table) (i : Nat) : Nat :=
  table.widths[i]?.getD 0

/-- Where a column starts. -/
def columnStart (table : Table) : Nat → Nat :=
  blockStart bar.length table.columnWidth

section Widths

variable {widths : List Nat} {cells : List String} {i : Nat}

/-- A width is that of the cell of the row where this is longer. -/
theorem getElem?_widen (widths : List Nat) (cells : List String) (i : Nat) :
    (widen widths cells)[i]? =
      widths[i]?.map fun width => cells[i]?.elim width fun cell => max width cell.length := by
  induction widths generalizing cells i with
  | nil => rfl
  | cons width widths ih =>
    cases cells with
    | nil => simp [widen]
    | cons cell cells =>
      cases i with
      | zero => rfl
      | succ i => exact ih cells i

/-- A cell is padded to the width of its column and left alone where there is no column. -/
theorem getElem?_aligned (widths : List Nat) (cells : List String) (i : Nat) :
    (aligned widths cells)[i]? =
      cells[i]?.map fun cell => widths[i]?.elim cell (padded · cell) := by
  induction cells generalizing widths i with
  | nil => cases widths <;> rfl
  | cons cell cells ih =>
    cases widths with
    | nil => simp [aligned]
    | cons width widths =>
      cases i with
      | zero => rfl
      | succ i => exact ih widths i

/-- A row has as many cells when they are padded. -/
theorem length_aligned (widths : List Nat) (cells : List String) :
    (aligned widths cells).length = cells.length := by
  induction cells generalizing widths with
  | nil => cases widths <;> rfl
  | cons cell cells ih =>
    cases widths with
    | nil => rfl
    | cons width widths => exact congrArg (· + 1) (ih widths)

/-- There are as many widths whatever the row. -/
theorem length_widen (widths : List Nat) (cells : List String) :
    (widen widths cells).length = widths.length := by
  induction widths generalizing cells with
  | nil => rfl
  | cons width widths ih =>
    cases cells with
    | nil => rfl
    | cons cell cells => exact congrArg (· + 1) (ih cells)

/-- There is a width for each header. -/
theorem length_widths (table : Table) : table.widths.length = table.headers.length := by
  have hrun : ∀ (rows : List (List String)) (widths : List Nat),
      (rows.foldl widen widths).length = widths.length := by
    intro rows
    induction rows with
    | nil => exact fun _ => rfl
    | cons row rest ih => exact fun widths => (ih _).trans (length_widen widths row)
  rw [widths, hrun, List.length_map]

/-- Whether a number is the largest number of characters in texts. -/
def IsWidthOf (texts : List String) (width : Nat) : Prop :=
  IsGreatest {count | ∃ text ∈ texts, text.length = count} width

/-- A row makes a column as wide as its cell there, if it has one. -/
theorem IsWidthOf.widen {texts : List String} {width : Nat} (h : IsWidthOf texts width)
    (cell : Option String) :
    IsWidthOf (texts ++ cell.toList) (cell.elim width fun cell => max width cell.length) := by
  cases cell with
  | none => rwa [Option.toList_none, List.append_nil]
  | some cell =>
    have hlengths : {count | ∃ text ∈ texts ++ [cell], text.length = count} =
        insert cell.length {count | ∃ text ∈ texts, text.length = count} := by
      ext count
      simp [or_comm, eq_comm, or_and_right, exists_or]
    rw [IsWidthOf, Option.toList_some, hlengths, Option.elim_some, max_comm]
    exact IsGreatest.insert cell.length h

/-- Rows make a column as wide as the widest of their cells in it. -/
theorem IsWidthOf.foldl_widen {texts : List String} {width : Nat} (h : IsWidthOf texts width)
    {widths : List Nat} {i : Nat} (hi : widths[i]? = some width) (rows : List (List String)) :
    ∃ found, (rows.foldl Table.widen widths)[i]? = some found ∧
      IsWidthOf (texts ++ rows.filterMap (·[i]?)) found := by
  induction rows generalizing texts widths width with
  | nil => exact ⟨width, hi, by rwa [List.filterMap_nil, List.append_nil]⟩
  | cons row rest ih =>
    have hcells : texts ++ row[i]?.toList ++ rest.filterMap (·[i]?) =
        texts ++ (row :: rest).filterMap (·[i]?) := by
      rw [List.append_assoc, List.filterMap_cons]
      cases row[i]? <;> rfl
    rw [← hcells]
    refine ih (h.widen row[i]?) ?_
    rw [getElem?_widen, hi, Option.map_some]

/-- The width of a column is the largest number of characters in it. -/
theorem exists_widths (table : Table) {i : Nat} (hi : i < table.headers.length) :
    table.widths[i]? = some (table.columnWidth i) ∧
      IsWidthOf (table.column i) (table.columnWidth i) := by
  have hheader : IsWidthOf [table.headers[i]] table.headers[i].length :=
    ⟨⟨_, List.mem_singleton_self _, rfl⟩, by
      rintro count ⟨text, htext, rfl⟩
      rw [List.mem_singleton.mp htext]⟩
  have hstart : (table.headers.map String.length)[i]? = some table.headers[i].length := by
    rw [List.getElem?_map, List.getElem?_eq_getElem hi, Option.map_some]
  obtain ⟨width, hwidth, hwidest⟩ := hheader.foldl_widen hstart table.rows
  have hcolumn : table.column i = [table.headers[i]] ++ table.rows.filterMap (·[i]?) := by
    rw [column, List.filterMap_cons, List.getElem?_eq_getElem hi]
    rfl
  have hfound : table.columnWidth i = width := by
    rw [columnWidth, widths, hwidth, Option.getD_some]
  rw [hfound, hcolumn]
  exact ⟨hwidth, hwidest⟩

end Widths

/-- Whether a line shows cells in the columns of a table: each cell stands in full where its column
starts, with blanks up to the width of the column, there is a bar behind the column before the next
cell, and what goes beyond the last column follows as it is. -/
structure ShowsCells (table : Table) (cells : List String) (line : String) : Prop where
  cell : ∀ i < table.headers.length, ∀ text, cells[i]? = some text →
    StandsAt (table.columnStart i)
      (text ++ String.ofList (List.replicate (table.columnWidth i - text.length) ' ')) line
  bar : ∀ i < table.headers.length, i + 1 < cells.length →
    StandsAt (table.columnStart i + table.columnWidth i) bar line
  others : table.headers.length < cells.length → ∃ before,
    line = before ++ Table.bar.intercalate (cells.drop table.headers.length) ∧
      before.length = table.columnStart table.headers.length
  length : cells.length ≤ table.headers.length →
    line.length = table.columnStart cells.length - Table.bar.length

/-- Whether a line is the rule of a table: a dash for each character of a column, and a crossing for
each bar. -/
structure ShowsRule (table : Table) (line : String) : Prop where
  dashes : ∀ i < table.headers.length,
    StandsAt (table.columnStart i) (String.ofList (List.replicate (table.columnWidth i) '─')) line
  crossing : ∀ i, i + 1 < table.headers.length →
    StandsAt (table.columnStart i + table.columnWidth i) crossing line
  length : line.length = table.columnStart table.headers.length - Table.bar.length

section Lines

variable {table : Table} {cells : List String}

/-- Cells of a table fit into its columns. -/
theorem length_le_columnWidth (hcells : cells ∈ table.headers :: table.rows) {i : Nat}
    (hi : i < table.headers.length) {text : String} (htext : cells[i]? = some text) :
    text.length ≤ table.columnWidth i :=
  (table.exists_widths hi).2.2 ⟨text, List.mem_filterMap.mpr ⟨cells, hcells, htext⟩, rfl⟩

/-- The padded cells of a row are as wide as their columns. -/
theorem haveWidths_aligned (hcells : cells ∈ table.headers :: table.rows) :
    HaveWidths table.headers.length table.columnWidth (aligned table.widths cells) := by
  intro i hi block hblock
  rw [getElem?_aligned, (table.exists_widths hi).1] at hblock
  obtain ⟨text, htext, rfl⟩ := Option.map_eq_some_iff.mp hblock
  have hfits := length_le_columnWidth hcells hi htext
  rw [Option.elim_some, padded, String.length_append, String.length_ofList, List.length_replicate]
  omega

/-- Cells beyond the last column are left alone. -/
theorem drop_aligned (table : Table) (cells : List String) :
    (aligned table.widths cells).drop table.headers.length = cells.drop table.headers.length := by
  refine List.ext_getElem? fun i => ?_
  have hnone : table.widths[table.headers.length + i]? = none := by
    rw [List.getElem?_eq_none_iff, length_widths]
    exact Nat.le_add_right _ _
  rw [List.getElem?_drop, List.getElem?_drop, getElem?_aligned, hnone]
  exact Option.map_id'

/-- The line of a row shows its cells. -/
theorem showsCells_rowLine (hcells : cells ∈ table.headers :: table.rows) :
    table.ShowsCells cells (rowLine table.widths cells) where
  cell i hi text htext := by
    refine standsAt_block bar ?_ ((haveWidths_aligned hcells).mono hi.le)
    rw [getElem?_aligned, htext, (table.exists_widths hi).1]
    rfl
  bar i hi hnext :=
    standsAt_separator bar (by rwa [length_aligned]) ((haveWidths_aligned hcells).mono hi)
  others hmore := by
    obtain ⟨before, hline, hlength⟩ := exists_intercalate_eq bar (by rwa [length_aligned])
      (haveWidths_aligned hcells)
    rw [drop_aligned] at hline
    exact ⟨before, hline, hlength⟩
  length hshort := by
    have hline := length_intercalate bar
      ((haveWidths_aligned hcells).mono (by rwa [length_aligned]))
    rw [length_aligned] at hline
    exact hline

/-- The line of headers without emphasis is a line like those of the rows. -/
theorem headerLine_id (table : Table) :
    table.headerLine id = rowLine table.widths table.headers := by
  rw [headerLine, List.map_id, rowLine]

/-- The dashes of the rule below each column. -/
def ruleBlocks (table : Table) : List String :=
  table.widths.map fun width => String.ofList (List.replicate width '─')

/-- The rule has dashes for the width of each column. -/
theorem getElem?_ruleBlocks (table : Table) {i : Nat} (hi : i < table.headers.length) :
    table.ruleBlocks[i]? = some (String.ofList (List.replicate (table.columnWidth i) '─')) := by
  rw [ruleBlocks, List.getElem?_map, (table.exists_widths hi).1, Option.map_some]

/-- The rule has dashes for each header. -/
theorem length_ruleBlocks (table : Table) : table.ruleBlocks.length = table.headers.length := by
  rw [ruleBlocks, List.length_map, length_widths]

/-- The dashes of the rule are as wide as their columns. -/
theorem haveWidths_ruleBlocks (table : Table) :
    HaveWidths table.headers.length table.columnWidth table.ruleBlocks := by
  intro i hi block hblock
  rw [← Option.some.inj ((table.getElem?_ruleBlocks hi).symm.trans hblock), String.length_ofList,
    List.length_replicate]

/-- The rule of a table has a dash below each character of a header with its blanks, and a crossing
below each bar. -/
theorem showsRule_ruleLine (table : Table) : table.ShowsRule table.ruleLine where
  dashes _ hi :=
    standsAt_block crossing (table.getElem?_ruleBlocks hi) (table.haveWidths_ruleBlocks.mono hi.le)
  crossing _ hi :=
    standsAt_separator crossing (table.length_ruleBlocks ▸ hi)
      (table.haveWidths_ruleBlocks.mono (Nat.le_of_lt hi))
  length := by
    have hline := length_intercalate crossing
      (table.haveWidths_ruleBlocks.mono table.length_ruleBlocks.le)
    rw [length_ruleBlocks] at hline
    exact hline

end Lines

section LineFeeds

variable {table : Table} {cells : List String}

/-- Padding brings in no line feed. -/
theorem newline_not_mem_padded {width : Nat} {text : String} (htext : '\n' ∉ text.toList) :
    '\n' ∉ (padded width text).toList := by
  rw [padded, String.toList_append, String.toList_ofList, List.mem_append, List.mem_replicate]
  rintro (hmem | ⟨-, hblank⟩)
  · exact htext hmem
  · exact absurd hblank (by decide)

/-- The line of a row holds no line feed when no cell does. -/
theorem newline_not_mem_rowLine (widths : List Nat) (hcells : ∀ text ∈ cells, '\n' ∉ text.toList) :
    '\n' ∉ (rowLine widths cells).toList := by
  refine not_mem_intercalate (by decide) fun block hblock => ?_
  obtain ⟨i, hi⟩ := List.mem_iff_getElem?.mp hblock
  rw [getElem?_aligned] at hi
  obtain ⟨text, htext, rfl⟩ := Option.map_eq_some_iff.mp hi
  have hfeed := hcells text (List.mem_of_getElem? htext)
  cases widths[i]? with
  | none => exact hfeed
  | some width => exact newline_not_mem_padded hfeed

/-- The rule holds no line feed. -/
theorem newline_not_mem_ruleLine (table : Table) : '\n' ∉ table.ruleLine.toList := by
  refine not_mem_intercalate (by decide) fun block hblock => ?_
  obtain ⟨width, -, rfl⟩ := List.mem_map.mp hblock
  rw [String.toList_ofList, List.mem_replicate]
  exact fun hmem => absurd hmem.2 (by decide)

/-- A table whose texts hold no line feed is printed line by line. -/
theorem splitOn_linesText_lines
    (hfeeds : ∀ cells ∈ table.headers :: table.rows, ∀ text ∈ cells, '\n' ∉ text.toList) :
    (linesText (table.lines id)).toList.splitOn '\n' =
      (table.lines id).map String.toList ++ [[]] := by
  obtain ⟨hheaders, hrows⟩ := List.forall_mem_cons.mp hfeeds
  refine splitOn_linesText fun line hline => ?_
  rw [lines, headerLine_id, List.mem_cons, List.mem_cons, List.mem_map] at hline
  obtain rfl | rfl | ⟨cells, hcells, rfl⟩ := hline
  · exact newline_not_mem_rowLine _ hheaders
  · exact newline_not_mem_ruleLine table
  · exact newline_not_mem_rowLine _ (hrows cells hcells)

end LineFeeds

/-- A table without emphasis is aligned and complete. Each column is as wide as its longest text.
The headers and the cells of every row stand in full where their columns start, with blanks up to
the width of the column and a bar behind it; cells beyond the last column follow as they are. The
rule and every row with as many cells as headers are as long as the line of headers. Where no text
holds a line feed, these lines are the lines of what is printed. -/
theorem tableLines_aligned (table : Table) (terminal : Terminal)
    (hplain : terminal.coloured = false) :
    (∀ i < table.headers.length, IsWidthOf (table.column i) (table.columnWidth i)) ∧
    ∃ header rule lines,
      tableLines terminal table.headers table.rows = header :: rule :: lines ∧
      table.ShowsCells table.headers header ∧ table.ShowsRule rule ∧
      List.Forall₂ table.ShowsCells table.rows lines ∧
      rule.length = header.length ∧
      List.Forall₂ (fun cells line => cells.length = table.headers.length →
        line.length = header.length) table.rows lines ∧
      ((∀ cells ∈ table.headers :: table.rows, ∀ text ∈ cells, '\n' ∉ text.toList) →
        (linesText (tableLines terminal table.headers table.rows)).toList.splitOn '\n' =
          (header :: rule :: lines).map String.toList ++ [[]]) := by
  have hemphasis : terminal.paint .bold = id := by
    funext text
    rw [Terminal.paint, hplain]
    rfl
  have hlines : tableLines terminal table.headers table.rows = table.lines id := by
    rw [tableLines, hemphasis]
  have hheader : table.ShowsCells table.headers (rowLine table.widths table.headers) :=
    showsCells_rowLine List.mem_cons_self
  have hrows : ∀ cells ∈ table.rows, table.ShowsCells cells (rowLine table.widths cells) :=
    fun cells hcells => showsCells_rowLine (List.mem_cons_of_mem _ hcells)
  have hrule := showsRule_ruleLine table
  have hheaderLength := hheader.length le_rfl
  refine ⟨fun i hi => (table.exists_widths hi).2, rowLine table.widths table.headers,
    table.ruleLine, table.rows.map (rowLine table.widths), ?_, hheader, hrule, ?_, ?_, ?_, ?_⟩
  · rw [hlines, lines, headerLine_id]
  · exact List.forall₂_map_right_iff.mpr (List.forall₂_same.mpr hrows)
  · rw [hrule.length, hheaderLength]
  · refine List.forall₂_map_right_iff.mpr (List.forall₂_same.mpr fun cells hcells hcount => ?_)
    rw [(hrows cells hcells).length hcount.le, hcount, hheaderLength]
  · intro hfeeds
    rw [hlines, splitOn_linesText_lines hfeeds, lines, headerLine_id]

/-- A table with a short row, a text of more bytes than characters, and a row that goes beyond the
last column. -/
theorem tableLines_aligned_of_ragged :
    let table : Table := {
      headers := ["Name", "N"]
      rows := [["long-name", "1"], ["é"], ["a", "b", "c"]] }
    let header := "Name      │ N"
    let rule := "──────────┼──"
    let lines := ["long-name │ 1", "é        ", "a         │ b │ c"]
    tableLines {} table.headers table.rows = header :: rule :: lines ∧
      table.columnWidth 0 = 9 ∧ IsWidthOf (table.column 0) 9 ∧
      table.ShowsCells table.headers header ∧ table.ShowsRule rule ∧
      List.Forall₂ table.ShowsCells table.rows lines ∧ rule.length = header.length ∧
      (∀ cells ∈ table.headers :: table.rows, ∀ text ∈ cells, '\n' ∉ text.toList) ∧
      (linesText (tableLines {} table.headers table.rows)).toList.splitOn '\n' =
        (header :: rule :: lines).map String.toList ++ [[]] := by
  intro table header rule lines
  have hprinted : tableLines {} table.headers table.rows = header :: rule :: lines := by
    decide +kernel
  have hfeeds : ∀ cells ∈ table.headers :: table.rows, ∀ text ∈ cells, '\n' ∉ text.toList := by
    decide
  obtain ⟨hwidths, _, _, _, hlines, hheader, hrule, hrows, hlength, -, htext⟩ :=
    tableLines_aligned table {} rfl
  obtain ⟨rfl, rfl, rfl⟩ : _ = header ∧ _ = rule ∧ _ = lines := by
    simpa only [List.cons.injEq] using hlines.symm.trans hprinted
  exact ⟨hprinted, rfl, hwidths 0 (by decide), hheader, hrule, hrows, hlength, hfeeds, htext hfeeds⟩

end Table

end ComponentAtlas
