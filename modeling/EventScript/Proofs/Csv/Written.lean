import EventScript.Csv.Table
import EventScript.Proofs.Csv.Scan

/-!
# Tables are read back

However a table is written, its rows are read back. A scan leaves a cell in a mode in which a comma
or a line ending closes it, whether it was quoted or not, and line endings before a row change
nothing.
-/

namespace EventScript.Csv

/-- Modes in which the field being read may end. -/
def Mode.IsClosable (mode : Mode) : Prop :=
  mode = .fieldStart ∨ mode = .plain ∨ mode = .markInQuoted

/-- A field of `size` code points is not too long. -/
def Fits (limit : Option Nat) (size : Nat) : Prop :=
  ∀ most ∈ limit, size ≤ most

theorem Fits.mono {limit : Option Nat} {size smaller : Nat} (fits : Fits limit size)
    (le : smaller ≤ size) : Fits limit smaller :=
  fun most given => Nat.le_trans le (fits most given)

namespace Reader

/-- The reader that holds these lists. -/
def of (mode : Mode) (field : Text) (row : List Text) (rows : List (List Text)) : Reader :=
  ⟨mode, field.toArray, row.toArray, rows.toArray⟩

variable {limit : Option Nat} {mode next : Mode} {c : CodePoint} {field : Text}
  {row : List Text} {rows : List (List Text)}

theorem take_of_turn (found : Move.of? mode c = some (.turn next)) (inRow : next ≠ .rowEnd) :
    (of mode field row rows).take limit c = .ok (of next field row rows) := by
  rw [take, step_eq]
  simp [of, found, carryOut, Except.map, settle, inRow]

theorem take_of_keep (found : Move.of? mode c = some (.keep next)) (inRow : next ≠ .rowEnd)
    (fits : Fits limit (field.length + 1)) :
    (of mode field row rows).take limit c = .ok (of next (field ++ [c]) row rows) := by
  rw [take, step_eq]
  cases limit with
  | none => simp [of, found, carryOut, add, Except.map, settle, inRow]
  | some most =>
    have free : ¬most ≤ field.length := Nat.not_le.mpr (fits most rfl)
    simp [of, found, carryOut, add, free, Except.map, settle, inRow]

theorem take_of_close (found : Move.of? mode c = some (.close .fieldStart)) :
    (of mode field row rows).take limit c = .ok (of .fieldStart [] (row ++ [field]) rows) := by
  rw [take, step_eq]
  simp [of, found, carryOut, endField, Except.map, settle]

theorem take_of_close_rowEnd (found : Move.of? mode c = some (.close .rowEnd)) :
    (of mode field row rows).take limit c =
      .ok (of .rowStart [] [] (rows ++ [row ++ [field]])) := by
  rw [take, step_eq]
  simp [of, found, carryOut, endField, endRow, Except.map, settle]

theorem move_comma (closable : mode.IsClosable ∨ mode = .rowStart) :
    Move.of? mode (CodePoint.ofChar ',') = some (.close .fieldStart) := by
  rcases closable with (rfl | rfl | rfl) | rfl <;> decide

theorem move_isBreak (closable : mode.IsClosable) (ends : isBreak c = true) :
    Move.of? mode c = some (.close .rowEnd) := by
  have noMark : c ≠ CodePoint.ofChar '"' := by
    rintro rfl
    revert ends
    decide
  rcases closable with rfl | rfl | rfl <;> simp [Move.of?, Move.atFieldStart, ends, noMark]

theorem scan_doubled (text : Text) (fits : Fits limit (field.length + text.length)) :
    (of .quoted field row rows).scan limit (text.flatMap WrittenCell.doubleMark) =
      .ok (of .quoted (field ++ text) row rows) := by
  induction text generalizing field with
  | nil => rw [List.append_nil]; rfl
  | cons c text ih =>
    have now : Fits limit (field.length + 1) := fits.mono (by simp)
    have later : Fits limit ((field ++ [c]).length + text.length) := fits.mono (by simp; omega)
    have continued := ih later
    rw [List.append_assoc, List.singleton_append] at continued
    rw [List.flatMap_cons, scan_append, WrittenCell.doubleMark]
    by_cases mark : c = CodePoint.ofChar '"'
    · have first : Move.of? .quoted c = some (.turn .markInQuoted) := by simp [Move.of?, mark]
      have second : Move.of? .markInQuoted c = some (.keep .quoted) := by simp [Move.of?, mark]
      rw [if_pos mark, scan_cons, take_of_turn first (by decide)]
      simp only [Except.bind]
      rw [scan_cons, take_of_keep second (by decide) now]
      exact continued
    · have only : Move.of? .quoted c = some (.keep .quoted) := by simp [Move.of?, mark]
      rw [if_neg mark, scan_cons, take_of_keep only (by decide) now]
      exact continued

theorem move_plain (ordinary : WrittenCell.isSpecial c = false) :
    Move.of? .plain c = some (.keep .plain) := by
  simp only [WrittenCell.isSpecial, Bool.or_eq_false_iff, decide_eq_false_iff_not] at ordinary
  simp [Move.of?, isBreak, ordinary]

theorem scan_plain (text : Text) (ordinary : ∀ c ∈ text, WrittenCell.isSpecial c = false)
    (fits : Fits limit (field.length + text.length)) :
    (of .plain field row rows).scan limit text = .ok (of .plain (field ++ text) row rows) := by
  induction text generalizing field with
  | nil => rw [List.append_nil]; rfl
  | cons c text ih =>
    have now : Fits limit (field.length + 1) := fits.mono (by simp)
    have later : Fits limit ((field ++ [c]).length + text.length) := fits.mono (by simp; omega)
    have continued := ih (fun d membership => ordinary d (List.mem_cons_of_mem c membership)) later
    rw [List.append_assoc, List.singleton_append] at continued
    rw [scan_cons, take_of_keep (move_plain (ordinary c List.mem_cons_self)) nofun now]
    exact continued

theorem isBreak_eq_false_of_isSpecial (ordinary : WrittenCell.isSpecial c = false) :
    isBreak c = false := by
  simp only [WrittenCell.isSpecial, Bool.or_eq_false_iff] at ordinary
  simp [isBreak, ordinary]

theorem ne_comma_of_isSpecial (ordinary : WrittenCell.isSpecial c = false) :
    c ≠ CodePoint.ofChar ',' := by
  rintro rfl
  revert ordinary
  decide

theorem move_atFieldStart (start : mode = .fieldStart ∨ mode = .rowStart)
    (noBreak : isBreak c = false) : Move.of? mode c = some (Move.atFieldStart c) := by
  rcases start with rfl | rfl <;> simp [Move.of?, noBreak]

/-- A cell leaves its text in the field. Only a cell written as nothing leaves the reader where it
was. -/
theorem scan_cell (row : List Text) (rows : List (List Text)) {cell : WrittenCell}
    (valid : cell.isValid = true) (start : mode = .fieldStart ∨ mode = .rowStart)
    (fits : Fits limit cell.text.length) :
    ∃ after, (of mode [] row rows).scan limit cell.written = .ok (of after cell.text row rows) ∧
      (after = .plain ∨ after = .markInQuoted ∨ (after = mode ∧ cell = ⟨[], false⟩)) := by
  obtain ⟨text, quoted⟩ := cell
  cases quoted with
  | true =>
    have opening : Move.of? mode (CodePoint.ofChar '"') = some (.turn .quoted) := by
      rcases start with rfl | rfl <;> decide
    have closing : Move.of? .quoted (CodePoint.ofChar '"') = some (.turn .markInQuoted) := by decide
    have inside : (of .quoted [] row rows).scan limit (text.flatMap WrittenCell.doubleMark) =
        .ok (of .quoted text row rows) := scan_doubled text (by simpa using fits)
    refine ⟨.markInQuoted, ?_, .inr (.inl rfl)⟩
    simp only [WrittenCell.written, if_true, List.cons_append]
    rw [scan_cons, take_of_turn opening (by decide)]
    simp only [Except.bind]
    rw [scan_append, inside]
    simp only [Except.bind]
    rw [scan_cons, take_of_turn closing (by decide)]
    rfl
  | false =>
    simp only [WrittenCell.isValid, Bool.false_or, Bool.and_eq_true, Bool.not_eq_true',
      List.any_eq_false, Bool.not_eq_true, bne_iff_ne] at valid
    obtain ⟨ordinary, noMark⟩ := valid
    cases text with
    | nil => exact ⟨mode, rfl, .inr (.inr ⟨rfl, rfl⟩)⟩
    | cons c text =>
      have plain := ordinary c List.mem_cons_self
      have first : Move.of? mode c = some (.keep .plain) := by
        rw [move_atFieldStart start (isBreak_eq_false_of_isSpecial plain), Move.atFieldStart]
        have other : c ≠ CodePoint.ofChar '"' := by simpa using noMark
        simp [isBreak_eq_false_of_isSpecial plain, ne_comma_of_isSpecial plain, other]
      have others : (of .plain [c] row rows).scan limit text =
          .ok (of .plain (c :: text) row rows) := scan_plain text
        (fun d membership => ordinary d (List.mem_cons_of_mem c membership))
        (fits.mono (by simp; omega))
      refine ⟨.plain, ?_, .inl rfl⟩
      simp only [WrittenCell.written, Bool.false_eq_true, if_false]
      rw [scan_cons, take_of_keep first (by decide) (fits.mono (by simp))]
      exact others

/-- A row leaves its last cell in the field, ready to end. A row written as nothing would leave the
reader at the start of a row. -/
theorem scan_row (row : List Text) {cells : WrittenRow} (nonempty : cells ≠ [])
    (valid : ∀ cell ∈ cells, cell.isValid = true)
    (start : mode = .fieldStart ∨ (mode = .rowStart ∧ cells ≠ [⟨[], false⟩]))
    (fits : ∀ cell ∈ cells, Fits limit cell.text.length) :
    ∃ after field front,
      (of mode [] row rows).scan limit (WrittenRow.written cells) =
        .ok (of after field front rows) ∧
      after.IsClosable ∧ front ++ [field] = row ++ WrittenRow.cells cells := by
  induction cells generalizing mode row with
  | nil => exact absurd rfl nonempty
  | cons cell cells ih =>
    have beginning : mode = .fieldStart ∨ mode = .rowStart := start.imp_right And.left
    obtain ⟨after, read, left⟩ := scan_cell row rows (valid cell List.mem_cons_self) beginning
      (fits cell List.mem_cons_self)
    cases cells with
    | nil =>
      refine ⟨after, cell.text, row, read, ?_, rfl⟩
      rcases left with rfl | rfl | ⟨rfl, rfl⟩
      · exact .inr (.inl rfl)
      · exact .inr (.inr rfl)
      · exact .inl (start.resolve_right fun other => other.2 rfl)
    | cons next cells =>
      have closable : after.IsClosable ∨ after = .rowStart := by
        rcases left with rfl | rfl | ⟨rfl, -⟩
        · exact .inl (.inr (.inl rfl))
        · exact .inl (.inr (.inr rfl))
        · exact beginning.imp_left .inl
      obtain ⟨last, field, front, remaining, ready, same⟩ :=
        ih (row ++ [cell.text]) (List.cons_ne_nil next cells)
          (fun other membership => valid other (List.mem_cons_of_mem cell membership))
          (.inl rfl) (fun other membership => fits other (List.mem_cons_of_mem cell membership))
      refine ⟨last, field, front, ?_, ready, ?_⟩
      · have cut : WrittenRow.written (cell :: next :: cells) =
            cell.written ++ (CodePoint.ofChar ',' :: WrittenRow.written (next :: cells)) := by
          simp [WrittenRow.written, Text.joinWith, Text.ofString]
        rw [cut, scan_append, read]
        simp only [Except.bind]
        rw [scan_cons, take_of_close (move_comma closable)]
        exact remaining
      · rw [same]
        simp [WrittenRow.cells]

theorem scan_valid_row (rows : List (List Text)) {cells : WrittenRow} (valid : cells.isValid = true)
    (fits : ∀ cell ∈ cells, Fits limit cell.text.length) :
    ∃ after field front,
      (of .rowStart [] [] rows).scan limit (WrittenRow.written cells) =
        .ok (of after field front rows) ∧
      after.IsClosable ∧ front ++ [field] = WrittenRow.cells cells := by
  simp only [WrittenRow.isValid, Bool.and_eq_true, Bool.not_eq_true', List.isEmpty_eq_false_iff,
    List.all_eq_true, bne_iff_ne] at valid
  obtain ⟨⟨nonempty, cellsValid⟩, visible⟩ := valid
  exact scan_row [] nonempty cellsValid (.inr ⟨rfl, visible⟩) fits

theorem scan_breaks {t : Text} (breaks : ∀ c ∈ t, isBreak c = true) :
    (of .rowStart [] [] rows).scan limit t = .ok (of .rowStart [] [] rows) := by
  induction t with
  | nil => rfl
  | cons c t ih =>
    rw [scan_cons, take_eq_self_of_isBreak rfl rfl (breaks c List.mem_cons_self)]
    exact ih fun d membership => breaks d (List.mem_cons_of_mem c membership)

theorem isBreak_of_mem_text (ending : LineEnd) : ∀ c ∈ ending.text, isBreak c = true := by
  cases ending <;> decide

theorem scan_ending {ending : LineEnd} (closable : mode.IsClosable) :
    (of mode field row rows).scan limit ending.text =
      .ok (of .rowStart [] [] (rows ++ [row ++ [field]])) := by
  have breaks := isBreak_of_mem_text ending
  cases written : ending.text with
  | nil => cases ending <;> cases written
  | cons c rest =>
    rw [written] at breaks
    have first := move_isBreak closable (breaks c List.mem_cons_self)
    rw [scan_cons, take_of_close_rowEnd first]
    exact scan_breaks fun d membership => breaks d (List.mem_cons_of_mem c membership)

theorem scan_lines (rows : List (List Text)) {lines : List WrittenLine}
    (valid : ∀ row ∈ lines.filterMap WrittenLine.row?, row.isValid = true)
    (fits : ∀ row ∈ lines.filterMap WrittenLine.row?, ∀ cell ∈ row, Fits limit cell.text.length) :
    (of .rowStart [] [] rows).scan limit (lines.flatMap WrittenLine.written) =
      .ok (of .rowStart [] []
        (rows ++ (lines.filterMap WrittenLine.row?).map WrittenRow.cells)) := by
  induction lines generalizing rows with
  | nil => simp only [List.flatMap_nil, List.filterMap_nil, List.map_nil, List.append_nil]; rfl
  | cons line lines ih =>
    rw [List.flatMap_cons, scan_append]
    cases line with
    | empty ending =>
      rw [show (WrittenLine.empty ending).written = ending.text from rfl,
        scan_breaks (isBreak_of_mem_text ending)]
      exact ih rows valid fits
    | row cells ending =>
      have rowValid := valid cells List.mem_cons_self
      obtain ⟨after, field, front, read, closable, same⟩ := scan_valid_row rows rowValid
        (fits cells List.mem_cons_self)
      have others := ih (rows ++ [WrittenRow.cells cells])
        (fun other membership => valid other (List.mem_cons_of_mem cells membership))
        (fun other membership => fits other (List.mem_cons_of_mem cells membership))
      rw [show (WrittenLine.row cells ending).written = cells.written ++ ending.text from rfl,
        scan_append, read]
      simp only [Except.bind]
      rw [scan_ending closable, same]
      simpa [Except.bind, WrittenLine.row?] using others

theorem close_of_rowStart : (of .rowStart field row rows).close = rows := rfl

theorem close_of_isClosable (closable : mode.IsClosable) :
    (of mode field row rows).close = rows ++ [row ++ [field]] := by
  rcases closable with rfl | rfl | rfl <;> simp [close, of, endField, endRow]

end Reader

open Reader

theorem WrittenTable.isValid_iff {table : WrittenTable} :
    table.isValid = true ↔ ∀ row ∈ table.writtenRows, row.isValid = true := by
  simp [WrittenTable.isValid]

/-- The rows of a table are read back from every way of writing it. -/
theorem read_eq_rows {limit : Option Nat} {table : WrittenTable} (valid : table.isValid = true)
    (fits : ∀ row ∈ table.rows, ∀ t ∈ row, Fits limit t.length) :
    read limit table.written = .ok table.rows := by
  have rowValid := WrittenTable.isValid_iff.mp valid
  have cellFits : ∀ row ∈ table.writtenRows, ∀ cell ∈ row, Fits limit cell.text.length := by
    intro row membership cell inside
    exact fits _ (List.mem_map_of_mem membership) _ (List.mem_map_of_mem inside)
  have lines := scan_lines []
    (fun row membership => rowValid row (List.mem_append_left _ membership))
    (fun row membership => cellFits row (List.mem_append_left _ membership))
  rw [List.nil_append] at lines
  rw [read_eq_scan, WrittenTable.written, scan_append,
    show Reader.start = of .rowStart [] [] [] from rfl, lines]
  simp only [Except.bind]
  cases ended : table.last with
  | none =>
    simp only [WrittenTable.rows, WrittenTable.writtenRows, ended, Option.toList_none,
      List.append_nil]
    exact congrArg Except.ok close_of_rowStart
  | some row =>
    have inside : row ∈ table.writtenRows := by simp [WrittenTable.writtenRows, ended]
    obtain ⟨after, field, front, read, closable, same⟩ := scan_valid_row
      ((table.lines.filterMap WrittenLine.row?).map WrittenRow.cells) (rowValid row inside)
      (cellFits row inside)
    simp only [Option.map_some, Option.getD_some, read, Except.map, close_of_isClosable closable,
      same, WrittenTable.rows, WrittenTable.writtenRows, ended, Option.toList_some, List.map_append,
      List.map_cons, List.map_nil]

end EventScript.Csv
