import EventScript.Csv.Table

/-!
# The code points of a written table

Apart from its cells a written table holds quotation marks, commas and line endings. It begins with
one of these, or as the first cell of a row begins.
-/

namespace EventScript.Csv

/-- What is written between cells and around them. -/
def isLayout (c : CodePoint) : Bool :=
  c = '"' || WrittenCell.isSpecial c

theorem val_lt_of_isLayout {c : CodePoint} (layout : isLayout c = true) : c.val < 0x80 := by
  simp only [isLayout, WrittenCell.isSpecial, Bool.or_eq_true, decide_eq_true_eq] at layout
  rcases layout with rfl | (rfl | rfl) | rfl <;> decide

theorem isLayout_of_mem_text {ending : LineEnd} : ∀ c ∈ ending.text, isLayout c = true := by
  cases ending <;> decide

section

variable {p : CodePoint → Prop}

theorem forall_head?_append {front back : Text} (first : ∀ c ∈ front.head?, p c)
    (second : ∀ c ∈ back.head?, p c) : ∀ c ∈ (front ++ back).head?, p c := by
  cases front with
  | nil => exact second
  | cons c front => exact first

theorem forall_joinWith {pieces : List Text} (comma : p ',')
    (inside : ∀ t ∈ pieces, ∀ c ∈ t, p c) : ∀ c ∈ Text.joinWith "," pieces, p c := by
  induction pieces with
  | nil => exact nofun
  | cons t rest ih =>
    have first := inside t List.mem_cons_self
    have others := ih fun u membership => inside u (List.mem_cons_of_mem t membership)
    cases rest with
    | nil => exact first
    | cons u rest =>
      intro c membership
      simp only [Text.joinWith, List.append_assoc, List.mem_append] at membership
      rcases membership with early | between | late
      · exact first c early
      · rw [List.mem_singleton.mp between]
        exact comma
      · exact others c late

theorem forall_head?_joinWith {pieces : List Text} (comma : p ',')
    (start : ∀ t ∈ pieces.head?, ∀ c ∈ t.head?, p c) :
    ∀ c ∈ (Text.joinWith "," pieces).head?, p c := by
  rcases pieces with - | ⟨t, - | ⟨u, rest⟩⟩
  · exact nofun
  · exact start t rfl
  · rw [Text.joinWith, List.append_assoc]
    apply forall_head?_append (start t rfl)
    intro c first
    cases first
    exact comma

namespace WrittenCell

theorem forall_written {cell : WrittenCell} (mark : p '"') (inside : ∀ c ∈ cell.text, p c) :
    ∀ c ∈ cell.written, p c := by
  intro c membership
  unfold written at membership
  split at membership
  · simp only [List.mem_append, List.mem_cons, List.mem_flatMap, List.not_mem_nil, or_false]
      at membership
    rcases membership with (rfl | ⟨d, within, doubled⟩) | rfl
    · exact mark
    · have same : c = d := by
        unfold doubleMark at doubled
        split at doubled <;> simpa using doubled
      rw [same]
      exact inside d within
    · exact mark
  · exact inside c membership

theorem forall_head?_written {cell : WrittenCell} (mark : p '"')
    (start : ∀ c ∈ cell.text.head?, p c) : ∀ c ∈ cell.written.head?, p c := by
  unfold written
  split
  · intro c first
    cases first
    exact mark
  · exact start

end WrittenCell

namespace WrittenTable

variable {table : WrittenTable}

/-- What holds of the layout and of the cells holds of the whole table as it is written. -/
theorem forall_written (layout : ∀ c, isLayout c = true → p c)
    (inside : ∀ row ∈ table.rows, ∀ t ∈ row, ∀ c ∈ t, p c) : ∀ c ∈ table.written, p c := by
  have rowInside (row : WrittenRow) (written : row ∈ table.writtenRows) :
      ∀ c ∈ row.written, p c := by
    apply forall_joinWith (layout _ rfl)
    intro t membership
    obtain ⟨cell, listed, rfl⟩ := List.mem_map.mp membership
    apply WrittenCell.forall_written (layout _ rfl)
    exact inside row.cells (List.mem_map_of_mem written) cell.text (List.mem_map_of_mem listed)
  intro c membership
  rcases List.mem_append.mp membership with inLines | inLast
  · obtain ⟨line, listed, within⟩ := List.mem_flatMap.mp inLines
    cases line with
    | empty ending => exact layout c (isLayout_of_mem_text c within)
    | row cells ending =>
      rcases List.mem_append.mp within with inRow | inEnding
      · apply rowInside cells _ c inRow
        exact List.mem_append_left _ (List.mem_filterMap.mpr ⟨_, listed, rfl⟩)
      · exact layout c (isLayout_of_mem_text c inEnding)
  · cases last : table.last with
    | none => simp [last] at inLast
    | some cells =>
      rw [last] at inLast
      apply rowInside cells _ c inLast
      exact List.mem_append_right _ (by simp [last])

/-- What holds of the layout and of the beginnings of first cells holds of the beginning. -/
theorem forall_head?_written (layout : ∀ c, isLayout c = true → p c)
    (firsts : ∀ row ∈ table.rows, ∀ t ∈ row.head?, ∀ c ∈ t.head?, p c) :
    ∀ c ∈ table.written.head?, p c := by
  have endingStart (ending : LineEnd) : ∀ c ∈ ending.text.head?, p c := by
    intro c first
    exact layout c (isLayout_of_mem_text c (List.mem_of_head? first))
  have rowStart (row : WrittenRow) (written : row ∈ table.writtenRows) :
      ∀ c ∈ row.written.head?, p c := by
    apply forall_head?_joinWith (layout _ rfl)
    intro t first
    cases row with
    | nil => cases first
    | cons cell rest =>
      cases first
      apply WrittenCell.forall_head?_written (layout _ rfl)
      exact firsts (WrittenRow.cells (cell :: rest)) (List.mem_map_of_mem written) cell.text rfl
  unfold written
  apply forall_head?_append
  · have lineStart : ∀ line ∈ table.lines, ∀ c ∈ line.written.head?, p c := by
      intro line listed
      cases line with
      | empty ending => exact endingStart ending
      | row cells ending =>
        apply forall_head?_append _ (endingStart ending)
        apply rowStart
        exact List.mem_append_left _ (List.mem_filterMap.mpr ⟨_, listed, rfl⟩)
    generalize table.lines = lines at lineStart
    induction lines with
    | nil => exact nofun
    | cons line rest ih =>
      rw [List.flatMap_cons]
      apply forall_head?_append (lineStart line List.mem_cons_self)
      exact ih fun other listed => lineStart other (List.mem_cons_of_mem line listed)
  · cases last : table.last with
    | none => exact nofun
    | some cells =>
      apply rowStart
      exact List.mem_append_right _ (by simp [last])

end WrittenTable

end

end EventScript.Csv
