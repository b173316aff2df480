import EventScript.Proofs.Json.Embedding

/-!
# Spelled lists and dictionaries

A list of arrays and a dictionary of them, with the arrays and the keys spelled in any way that is
read, and with white space wherever it may stand. What is around the arrays takes one level more
than they do.
-/

namespace EventScript.Json

open Machine

variable {levels : Option Nat}

/-- An array under a key, as a JSON text may spell them, white space included. -/
structure SpelledMember (levels : Option Nat) where
  keyText : Text
  key : Text
  rowText : Text
  row : Row
  key_read : read levels keyText = .ok (.text key)
  row_read : read levels rowText = .ok (.list row)

/-- What is spelled. -/
def SpelledMember.entry (member : SpelledMember levels) : Text × Row :=
  (member.key, member.row)

def SpelledMember.text (member : SpelledMember levels) : Text :=
  member.keyText ++ ":" ++ member.rowText

/-- White space that brackets may have around them. -/
structure Margins where
  before : Text
  inside : Text
  after : Text
  blank : ∀ t ∈ [before, inside, after], ∀ c ∈ t, isSpace c = true

def Margins.enclose (margins : Margins) (opening closing : CodePoint) (items : List Text) : Text :=
  margins.before ++
    (opening :: (margins.inside ++ (Text.joinWith "," items ++ [closing])) ++ margins.after)

/-- The rows alone, as the items of a list. -/
def Margins.listText (margins : Margins) (members : List (SpelledMember levels)) : Text :=
  margins.enclose '[' ']' (members.map SpelledMember.rowText)

/-- The rows under their keys. -/
def Margins.dictText (margins : Margins) (members : List (SpelledMember levels)) : Text :=
  margins.enclose '\x7b' '\x7d' (members.map SpelledMember.text)

theorem joinWith_comma_append (t u : Text) (rest : List Text) (closing : CodePoint) :
    Text.joinWith "," (t :: u :: rest) ++ [closing] =
      (t ++ [CodePoint.ofChar ',']) ++ (Text.joinWith "," (u :: rest) ++ [closing]) :=
  List.append_assoc ..

/-- Rows are read one after the other, and the bracket after the last one closes their list. -/
theorem reads_rowTexts {members : List (SpelledMember levels)} (nonempty : members ≠ [])
    (done : List Value) :
    Reads (levels.map (· + 1))
      (Text.joinWith "," (members.map SpelledMember.rowText) ++ [CodePoint.ofChar ']'])
      ⟨[.list done], .value⟩
      ⟨[], .complete (.list (done.reverse ++ members.map fun member => .list member.row))⟩ := by
  induction members generalizing done with
  | nil => contradiction
  | cons member rest ih =>
    cases rest with
    | nil =>
      have row : ReadsBefore (levels.map (· + 1)) ']' member.rowText ⟨[.list done], .value⟩
          ⟨[], .afterItem (.list member.row :: done)⟩ :=
        readsBefore_of_read rfl member.row_read [.list done]
      have whole := row.append_mark reads_closeList
      rw [List.reverse_cons] at whole
      exact whole
    | cons other rest =>
      have row : ReadsBefore (levels.map (· + 1)) ',' member.rowText ⟨[.list done], .value⟩
          ⟨[], .afterItem (.list member.row :: done)⟩ :=
        readsBefore_of_read rfl member.row_read [.list done]
      have others := ih (List.cons_ne_nil other rest) (.list member.row :: done)
      rw [List.reverse_cons, List.append_assoc] at others
      have divided := joinWith_comma_append member.rowText other.rowText
        (rest.map SpelledMember.rowText) ']'
      exact divided ▸ (row.append_mark reads_nextItem).append others

theorem reads_memberTexts {members : List (SpelledMember levels)} (nonempty : members ≠ [])
    (done : List (Text × Value)) (mayClose : Bool) :
    Reads (levels.map (· + 1))
      (Text.joinWith "," (members.map SpelledMember.text) ++ [CodePoint.ofChar '\x7d'])
      ⟨[], .key done mayClose⟩
      ⟨[], .complete (.ofMembers
        (done.reverse ++ members.map fun member => (member.key, .list member.row)))⟩ := by
  induction members generalizing done mayClose with
  | nil => contradiction
  | cons member rest ih =>
    have key : Reads (levels.map (· + 1)) (member.keyText ++ ":") ⟨[], .key done mayClose⟩
        ⟨[.dict done member.key], .value⟩ :=
      (readsBefore_key member.key_read _).append_mark reads_colon
    cases rest with
    | nil =>
      have row : ReadsBefore (levels.map (· + 1)) '\x7d' member.rowText
          ⟨[.dict done member.key], .value⟩
          ⟨[], .afterMember ((member.key, .list member.row) :: done)⟩ :=
        readsBefore_of_read rfl member.row_read [.dict done member.key]
      have whole := key.append (row.append_mark reads_closeDict)
      rw [← List.append_assoc, List.reverse_cons] at whole
      exact whole
    | cons other rest =>
      have row : ReadsBefore (levels.map (· + 1)) ',' member.rowText
          ⟨[.dict done member.key], .value⟩
          ⟨[], .afterMember ((member.key, .list member.row) :: done)⟩ :=
        readsBefore_of_read rfl member.row_read [.dict done member.key]
      have others := ih (List.cons_ne_nil other rest) ((member.key, .list member.row) :: done) false
      rw [List.reverse_cons, List.append_assoc] at others
      have first := key.append (row.append_mark reads_nextMember)
      rw [← List.append_assoc] at first
      have divided := joinWith_comma_append member.text other.text
        (rest.map SpelledMember.text) '\x7d'
      exact divided ▸ first.append others

/-- Margins change nothing in what is read between the brackets. -/
theorem read_enclose (margins : Margins) {opening closing : CodePoint} {items : List Text}
    {v : Value} {opened : Machine} (unmarked : opening ≠ .ofNat 0xFEFF)
    (opens : Reads levels [opening] start opened)
    (inside : Reads levels (margins.inside ++ (Text.joinWith "," items ++ [closing])) opened
      ⟨[], .complete v⟩) :
    read levels (margins.enclose opening closing items) = .ok v := by
  apply read_eq_ok
  · have noSpace : isSpace (.ofNat 0xFEFF) = false := by decide
    have blank := margins.blank margins.before (by simp)
    cases first : margins.before with
    | nil => simpa [startsWithMark, Margins.enclose, first] using unmarked
    | cons c rest =>
      have other : c ≠ .ofNat 0xFEFF := by
        rintro rfl
        rw [first] at blank
        cases noSpace.symm.trans (blank _ List.mem_cons_self)
      simpa [startsWithMark, Margins.enclose, first] using other
  · have before := reads_spaces levels start (margins.blank margins.before (by simp))
    have after := reads_spaces levels ⟨[], .complete v⟩ (margins.blank margins.after (by simp))
    exact before.append ((opens.append inside).append after)

theorem allows_one (levels : Option Nat) : allows (levels.map (· + 1)) 1 = true := by
  cases levels with
  | none => rfl
  | some most => exact decide_eq_true (Nat.le_add_left 1 most)

theorem read_listText (margins : Margins) (members : List (SpelledMember levels)) :
    read (levels.map (· + 1)) (margins.listText members) =
      .ok (.list (members.map fun member => .list member.row)) := by
  refine read_enclose margins (by decide) (reads_openList (allows_one levels)) ?_
  have spaces := fun machine =>
    reads_spaces (levels.map (· + 1)) machine (margins.blank margins.inside (by simp))
  cases members with
  | nil => exact (spaces _).append reads_closeEmptyList
  | cons member rest =>
    have items := reads_rowTexts (List.cons_ne_nil member rest) []
    exact ((spaces _).append items).firstItem nofun

theorem read_dictText (margins : Margins) (members : List (SpelledMember levels)) :
    read (levels.map (· + 1)) (margins.dictText members) =
      .ok (.ofMembers (members.map fun member => (member.key, .list member.row))) := by
  refine read_enclose margins (by decide) (reads_openDict (allows_one levels)) ?_
  have spaces := fun machine =>
    reads_spaces (levels.map (· + 1)) machine (margins.blank margins.inside (by simp))
  cases members with
  | nil => exact (spaces _).append reads_closeEmptyDict
  | cons member rest =>
    exact (spaces _).append (reads_memberTexts (List.cons_ne_nil member rest) [] true)

end EventScript.Json
