import EventScript.Text.Basic
import Mathlib.Data.List.Basic

/-!
# Cutting texts

A text is cut where a condition first fails or first holds: by taking and dropping from its front,
by trimming both of its ends, and at every mark in it. What was put together in front of such a
place is cut off there again.
-/

namespace EventScript.Text

variable {p : CodePoint → Bool} {front t back piece : Text} {pieces : List Text}
  {mark c : CodePoint}

/-! ## At the ends -/

theorem takeWhile_append_eq (inFront : ∀ c ∈ front, p c = true)
    (first : ∀ c ∈ t.head?, p c = false) : (front ++ t).takeWhile p = front := by
  rw [List.takeWhile_append_of_pos inFront]
  cases t with
  | nil => exact List.append_nil front
  | cons c rest => rw [List.takeWhile_cons_of_neg (by simp [first c rfl]), List.append_nil]

theorem dropWhile_append_eq (inFront : ∀ c ∈ front, p c = true)
    (first : ∀ c ∈ t.head?, p c = false) : (front ++ t).dropWhile p = t := by
  rw [List.dropWhile_append_of_pos inFront]
  cases t with
  | nil => rfl
  | cons c rest => exact List.dropWhile_cons_of_neg (by simp [first c rfl])

/-- Trimming stops at both ends of a text that neither begins nor ends with what is trimmed. -/
theorem trim_append (inFront : ∀ c ∈ front, p c = true) (behind : ∀ c ∈ back, p c = true)
    (nonempty : t ≠ []) (first : ∀ c ∈ t.head?, p c = false)
    (last : ∀ c ∈ t.getLast?, p c = false) : (front ++ t ++ back).trim p = t := by
  have started : (front ++ (t ++ back)).dropWhile p = t ++ back := by
    apply dropWhile_append_eq inFront
    rwa [List.head?_append_of_ne_nil t nonempty]
  have ended : (back.reverse ++ t.reverse).dropWhile p = t.reverse := by
    apply dropWhile_append_eq
    · simpa using behind
    · rwa [List.head?_reverse]
  rw [trim, List.append_assoc, started, List.reverse_append, ended, List.reverse_reverse]

theorem trim_eq_self (nonempty : t ≠ []) (untrimmed : ∀ c ∈ t, p c = false) : t.trim p = t := by
  have first : ∀ c ∈ t.head?, p c = false := fun c head => untrimmed c (List.mem_of_head? head)
  have last : ∀ c ∈ t.getLast?, p c = false :=
    fun c tail => untrimmed c (List.mem_of_getLast? tail)
  have ends : trim p ([] ++ t ++ []) = t :=
    trim_append (List.forall_mem_nil _) (List.forall_mem_nil _) nonempty first last
  simpa using ends

/-- What is trimmed away satisfies the condition of trimming. -/
theorem mem_trim_of_not (membership : c ∈ t) (kept : p c = false) : c ∈ t.trim p := by
  have remains {u : Text} (inside : c ∈ u) : c ∈ u.dropWhile p := by
    rw [← List.takeWhile_append_dropWhile (p := p) (l := u)] at inside
    rcases List.mem_append.mp inside with taken | left
    · rw [List.all_eq_true.mp List.all_takeWhile c taken] at kept
      cases kept
    · exact left
  unfold trim
  rw [List.mem_reverse]
  apply remains
  rw [List.mem_reverse]
  exact remains membership

/-! ## At marks -/

@[simp] theorem splitOn_mark (mark : CodePoint) (t : Text) :
    splitOn mark (mark :: t) = [] :: splitOn mark t := by
  rw [splitOn, if_pos rfl]

theorem splitOn_cons_of_ne (other : c ≠ mark) (divided : splitOn mark t = piece :: pieces) :
    splitOn mark (c :: t) = (c :: piece) :: pieces := by
  rw [splitOn, if_neg other, divided]

theorem splitOn_append (absent : mark ∉ front) (divided : splitOn mark t = piece :: pieces) :
    splitOn mark (front ++ t) = (front ++ piece) :: pieces := by
  induction front with
  | nil => exact divided
  | cons c rest ih =>
    rw [List.mem_cons, not_or] at absent
    exact splitOn_cons_of_ne (Ne.symm absent.1) (ih absent.2)

theorem splitOn_eq_singleton (absent : mark ∉ t) : splitOn mark t = [t] := by
  have whole := splitOn_append absent (show splitOn mark [] = [[]] from rfl)
  rwa [List.append_nil] at whole

theorem splitOn_ne_nil (mark : CodePoint) (t : Text) : splitOn mark t ≠ [] := by
  cases t with
  | nil => exact List.cons_ne_nil _ _
  | cons c rest =>
    rw [splitOn]
    split
    · exact List.cons_ne_nil _ _
    · split <;> exact List.cons_ne_nil _ _

theorem notMem_of_mem_splitOn (listed : piece ∈ splitOn mark t) : mark ∉ piece := by
  induction t generalizing piece with
  | nil =>
    rw [List.mem_singleton.mp listed]
    exact List.not_mem_nil
  | cons c rest ih =>
    by_cases same : c = mark
    · rw [same, splitOn_mark] at listed
      rcases List.mem_cons.mp listed with rfl | later
      · exact List.not_mem_nil
      · exact ih later
    · obtain ⟨first, others, divided⟩ := List.exists_cons_of_ne_nil (splitOn_ne_nil mark rest)
      rw [splitOn_cons_of_ne same divided] at listed
      rcases List.mem_cons.mp listed with rfl | later
      · rw [List.mem_cons, not_or]
        exact ⟨Ne.symm same, ih (divided ▸ List.mem_cons_self)⟩
      · exact ih (divided ▸ List.mem_cons_of_mem first later)

/-- Pieces without the mark are found again between the marks they are joined with. -/
theorem splitOn_joinWith (nonempty : pieces ≠ []) (clean : ∀ piece ∈ pieces, mark ∉ piece) :
    splitOn mark (joinWith [mark] pieces) = pieces := by
  induction pieces with
  | nil => contradiction
  | cons piece rest ih =>
    rw [List.forall_mem_cons] at clean
    cases rest with
    | nil => exact splitOn_eq_singleton clean.1
    | cons next rest =>
      have others := ih (List.cons_ne_nil next rest) clean.2
      rw [joinWith, List.append_assoc, List.singleton_append]
      have divided := splitOn_mark mark (joinWith [mark] (next :: rest))
      rw [others] at divided
      rw [splitOn_append clean.1 divided, List.append_nil]

end EventScript.Text
