import AccessGate.Text.Blank
import Mathlib.Data.List.DropRight
import Mathlib.Data.List.TakeWhile

/-! # What trimming takes away, and what cutting leaves

    Trimming takes the blanks at both ends of a text and nothing else: the text is what is
    left with blanks on either side (`exists_around`), and what is left has no blank at an
    end (`starts_trimChars`, `ends_trimChars`).  That is all there is to it, since whatever
    stands between blanks and has none at its own ends is what is left:
    `trimChars_of_around`.  A text that is cut is left in segments with no cut in them. -/

namespace AccessGate.Text

variable {s : List Char}

/-! ## The ends of what is left -/

theorem dropWhile_of_starts (h : ∀ c ∈ s.head?, isBlank c = false) : s.dropWhile isBlank = s := by
  cases s with
  | nil => rfl
  | cons c rest => exact List.dropWhile_cons_of_neg (Bool.eq_false_iff.mp (h c rfl))

/-- Without the blanks at its start, a text does not start with one. -/
theorem starts_dropWhile (s : List Char) :
    ∀ c ∈ (s.dropWhile isBlank).head?, isBlank c = false := by
  intro c hc
  have hhead := List.head?_dropWhile_not isBlank s
  rw [hc] at hhead
  exact hhead

/-- Trimming at the end leaves a front of the text. -/
theorem trimEnd_isPrefix (s : List Char) : trimEnd s <+: s := List.rdropWhile_prefix isBlank s

/-- Trimming leaves no blank in front: what it takes away behind is not the front, unless
    it is everything. -/
theorem starts_trimChars (s : List Char) : ∀ c ∈ (trimChars s).head?, isBlank c = false := by
  intro c hc
  obtain ⟨behind, hbehind⟩ := trimEnd_isPrefix (trimStart s)
  refine starts_dropWhile s c ?_
  rw [show s.dropWhile isBlank = trimChars s ++ behind from hbehind.symm, List.head?_append, hc]
  rfl

/-- A trimmed text does not end in a blank. -/
theorem ends_trimChars (s : List Char) : ∀ c ∈ (trimChars s).getLast?, isBlank c = false := by
  rw [trimChars, trimEnd, List.getLast?_reverse]
  exact starts_dropWhile _

/-! ## What is taken away -/

/-- A text is what is left of it, with blanks on either side. -/
theorem exists_around (s : List Char) :
    ∃ before after, s = before ++ (trimChars s ++ after) ∧ (∀ c ∈ before, isBlank c = true) ∧
      ∀ c ∈ after, isBlank c = true := by
  let back := (trimStart s).reverse
  have hback : trimChars s ++ (back.takeWhile isBlank).reverse = trimStart s := by
    rw [trimChars, trimEnd, ← List.reverse_append, List.takeWhile_append_dropWhile,
      List.reverse_reverse]
  refine ⟨s.takeWhile isBlank, (back.takeWhile isBlank).reverse, ?_, ?_, ?_⟩
  · rw [hback]
    exact List.takeWhile_append_dropWhile.symm
  · exact fun c hc => List.mem_takeWhile_imp hc
  · exact fun c hc => List.mem_takeWhile_imp (List.mem_reverse.mp hc)

/-- Trimming adds nothing. -/
theorem mem_of_mem_trimChars {c : Char} (h : c ∈ trimChars s) : c ∈ s := by
  obtain ⟨before, after, hs, -, -⟩ := exists_around s
  rw [hs]
  exact List.mem_append_right _ (List.mem_append_left _ h)

theorem isBlank_of_trimChars (h : trimChars s = []) : ∀ c ∈ s, isBlank c = true := by
  obtain ⟨before, after, hs, hbefore, hafter⟩ := exists_around s
  rw [h] at hs
  rw [hs]
  exact List.forall_mem_append.mpr ⟨hbefore, hafter⟩

/-- Blanks around a text that has none at its ends are what is taken away. -/
theorem trimChars_of_around {before core after : List Char}
    (hbefore : ∀ c ∈ before, isBlank c = true) (hstarts : ∀ c ∈ core.head?, isBlank c = false)
    (hends : ∀ c ∈ core.getLast?, isBlank c = false) (hafter : ∀ c ∈ after, isBlank c = true) :
    trimChars (before ++ (core ++ after)) = core := by
  rw [trimChars, trimStart, List.dropWhile_append_of_pos hbefore]
  cases core with
  | nil =>
      rw [List.nil_append, List.dropWhile_eq_nil_iff.mpr hafter]
      rfl
  | cons first rest =>
      have hfirst : ¬ isBlank first = true := Bool.eq_false_iff.mp (hstarts first rfl)
      have hback : ∀ c ∈ (first :: rest).reverse.head?, isBlank c = false := by
        rw [List.head?_reverse]
        exact hends
      rw [List.cons_append, List.dropWhile_cons_of_neg hfirst, ← List.cons_append, trimEnd,
        List.reverse_append,
        List.dropWhile_append_of_pos fun c hc => hafter c (List.mem_reverse.mp hc),
        dropWhile_of_starts hback, List.reverse_reverse]

/-- A text with no blank at its ends stays as it is. -/
theorem trimChars_of_ends (hstarts : ∀ c ∈ s.head?, isBlank c = false)
    (hends : ∀ c ∈ s.getLast?, isBlank c = false) : trimChars s = s := by
  have haround := trimChars_of_around (List.forall_mem_nil _) hstarts hends (List.forall_mem_nil _)
  rwa [List.nil_append, List.append_nil] at haround

/-! ## Segments -/

/-- No cut is in a segment. -/
theorem not_cut_of_mem_splitOnP {α : Type} {isCut : α → Bool} {l segment : List α}
    (h : segment ∈ l.splitOnP isCut) : ∀ a ∈ segment, isCut a = false := by
  induction l generalizing segment with
  | nil =>
      rw [List.mem_singleton.mp h]
      exact List.forall_mem_nil _
  | cons a rest ih =>
      rw [List.splitOnP_cons_eq_if_modifyHead] at h
      by_cases ha : isCut a = true
      · rw [if_pos ha] at h
        rcases List.mem_cons.mp h with rfl | h
        · exact List.forall_mem_nil _
        · exact ih h
      · rw [if_neg ha] at h
        obtain ⟨head, tail, heq⟩ := List.exists_cons_of_ne_nil (List.splitOnP_ne_nil isCut rest)
        rw [heq] at h ih
        rcases List.mem_cons.mp h with rfl | h
        · exact List.forall_mem_cons.mpr ⟨Bool.eq_false_iff.mpr ha, ih List.mem_cons_self⟩
        · exact ih (List.mem_cons_of_mem _ h)

theorem not_mem_of_mem_splitOn {sign : Char} {segment : List Char} (h : segment ∈ s.splitOn sign) :
    sign ∉ segment := by
  rw [List.splitOn_eq_splitOnP] at h
  exact fun hmem => absurd (not_cut_of_mem_splitOnP h sign hmem) (by simp)

end AccessGate.Text
