import AccessGate.Rule.PathMatcher

/-! # Where the stretches end that a pattern describes

    `Pattern.ends` computes with sets of positions what `Pattern.Matches` says of single
    stretches (`mem_ends_iff`).  The hard case is repetition: positions are added until
    nothing new turns up, for at most as many rounds as the text has places.  That is enough
    because a step never goes back, so a step that counts goes on by a character. -/

namespace AccessGate.Pattern

/-! ## Steps -/

/-- So many steps lead from one position to another. -/
inductive Steps (r : Nat → Nat → Prop) : Nat → Nat → Nat → Prop where
  | none {i : Nat} : Steps r 0 i i
  | next {n i j k : Nat} : r i j → Steps r n j k → Steps r (n + 1) i k

namespace Steps

variable {r : Nat → Nat → Prop} {m n i j k : Nat}

/-- Steps that go on from where others ended are steps together. -/
theorem trans (h : Steps r m i j) (h' : Steps r n j k) : Steps r (m + n) i k := by
  induction h with
  | none => exact (Nat.zero_add n).symm ▸ h'
  | next hstep _ ih =>
      rw [Nat.add_right_comm]
      exact .next hstep (ih h')

/-- Steps can be cut anywhere. -/
theorem split (h : Steps r (m + n) i k) : ∃ j, Steps r m i j ∧ Steps r n j k := by
  induction m generalizing i with
  | zero => exact ⟨i, .none, Nat.zero_add n ▸ h⟩
  | succ m ih =>
      rw [Nat.add_right_comm] at h
      cases h with
      | next hstep hrest =>
          obtain ⟨j, hfirst, hlast⟩ := ih hrest
          exact ⟨j, .next hstep hfirst, hlast⟩

/-- Steps do not lead out of a set that is closed. -/
theorem stays {found : List Nat} (h : Steps r n i j)
    (hclosed : ∀ i ∈ found, ∀ j, r i j → j ∈ found) (hi : i ∈ found) : j ∈ found := by
  induction h with
  | none => exact hi
  | next hr _ ih => exact ih (hclosed _ hi _ hr)

/-- Of steps that never go back, those that go on are enough. -/
theorem shorten (hr : ∀ i j, r i j → i ≤ j) (h : Steps r n i j) :
    ∃ m ≤ n, i + m ≤ j ∧ Steps r m i j := by
  induction h with
  | none => exact ⟨0, Nat.le_refl _, Nat.le_refl _, .none⟩
  | @next n i j k hstep _ ih =>
      obtain ⟨m, hm, hle, hrest⟩ := ih
      rcases Nat.eq_or_lt_of_le (hr i j hstep) with heq | hlt
      · subst heq
        exact ⟨m, Nat.le_succ_of_le hm, hle, hrest⟩
      · exact ⟨m + 1, Nat.succ_le_succ hm, by omega, .next hstep hrest⟩

end Steps

variable {text : Array Char} {p q : Pattern} {i j : Nat}

/-- A repetition is a number of steps within its bounds. -/
theorem matches_many_iff {least : Nat} {most : Option Nat} :
    Matches text (.many p least most) i j ↔
      ∃ n, least ≤ n ∧ (∀ m ∈ most, n ≤ m) ∧ Steps (Matches text p) n i j := by
  constructor
  · intro h
    generalize hmany : Pattern.many p least most = q at h
    induction h generalizing least most with
    | manyStop =>
        cases hmany
        exact ⟨0, Nat.le_refl _, fun m _ => Nat.zero_le m, .none⟩
    | manyMust hmost hstep _ _ ih =>
        cases hmany
        obtain ⟨n, hleast, hbound, hsteps⟩ := ih rfl
        refine ⟨n + 1, Nat.succ_le_succ hleast, fun m hm => ?_, .next hstep hsteps⟩
        have hrest := hbound (m - 1) (Option.mem_map_of_mem (· - 1) hm)
        have hne : m ≠ 0 := fun h => hmost (h ▸ hm)
        omega
    | manyMay hmost hstep _ _ ih =>
        cases hmany
        obtain ⟨n, hleast, hbound, hsteps⟩ := ih rfl
        refine ⟨n + 1, Nat.zero_le _, fun m hm => ?_, .next hstep hsteps⟩
        have hrest := hbound (m - 1) (Option.mem_map_of_mem (· - 1) hm)
        have hne : m ≠ 0 := fun h => hmost (h ▸ hm)
        omega
    | _ => cases hmany
  · rintro ⟨n, hleast, hbound, hsteps⟩
    induction hsteps generalizing least most with
    | none =>
        obtain rfl : least = 0 := Nat.le_zero.mp hleast
        exact .manyStop
    | @next n i j k hstep _ ih =>
        have hmost : most ≠ some 0 := fun h => absurd (hbound 0 h) (Nat.not_succ_le_zero n)
        have hrest : ∀ m ∈ most.map (· - 1), n ≤ m := by
          intro m hm
          obtain ⟨m', hm', rfl⟩ := Option.map_eq_some_iff.mp hm
          exact Nat.le_sub_one_of_lt (hbound m' hm')
        cases least with
        | zero => exact .manyMay hmost hstep (ih (Nat.zero_le _) hrest)
        | succ least => exact .manyMust hmost hstep (ih (Nat.le_of_succ_le_succ hleast) hrest)

/-- A stretch ends no earlier than it starts, and not behind the text unless it starts there. -/
theorem Matches.forward (h : Matches text p i j) : i ≤ j ∧ (j = i ∨ j ≤ text.size) := by
  induction h with
  | empty => exact ⟨Nat.le_refl _, .inl rfl⟩
  | set hchar _ =>
      obtain ⟨hlt, -⟩ := Array.getElem?_eq_some_iff.mp hchar
      exact ⟨Nat.le_succ _, .inr hlt⟩
  | look _ => exact ⟨Nat.le_refl _, .inl rfl⟩
  | seq _ _ ih ih' => omega
  | altLeft _ ih => exact ih
  | altRight _ ih => exact ih
  | manyStop => exact ⟨Nat.le_refl _, .inl rfl⟩
  | manyMust _ _ _ ih ih' => omega
  | manyMay _ _ _ ih ih' => omega

/-! ## Sets of positions -/

/-- Adding what is new adds all of it, and nothing else. -/
theorem mem_addNew_iff {found l : List Nat} : i ∈ addNew found l ↔ i ∈ found ∨ i ∈ l := by
  induction l generalizing found with
  | nil => simp [addNew]
  | cons k rest ih =>
      rw [addNew]
      by_cases hk : found.contains k = true
      · have hmem : k ∈ found := List.contains_iff_mem.mp hk
        rw [if_pos hk, ih, List.mem_cons]
        constructor
        · rintro (h | h)
          · exact .inl h
          · exact .inr (.inr h)
        · rintro (h | rfl | h)
          · exact .inl h
          · exact .inl hmem
          · exact .inr h
      · rw [if_neg hk, ih, List.mem_cons, List.mem_cons, or_left_comm, or_assoc]

section

variable {r : Nat → Nat → Prop} {step : List Nat → List Nat}
  (hstep : ∀ l j, j ∈ step l ↔ ∃ i ∈ l, r i j)

include hstep

/-- The positions after a number of steps are those that such steps lead to. -/
theorem mem_stepTimes_iff {n : Nat} {l : List Nat} :
    j ∈ stepTimes step n l ↔ ∃ i ∈ l, Steps r n i j := by
  induction n generalizing l with
  | zero =>
      constructor
      · exact fun h => ⟨j, h, .none⟩
      · rintro ⟨_, hi, ⟨⟩⟩
        exact hi
  | succ n ih =>
      rw [stepTimes]
      by_cases hempty : l.isEmpty = true
      · rw [if_pos hempty, List.isEmpty_iff.mp hempty]
        simp
      · rw [if_neg hempty, ih]
        constructor
        · rintro ⟨k, hk, hsteps⟩
          obtain ⟨i, hi, hfirst⟩ := (hstep l k).mp hk
          exact ⟨i, hi, .next hfirst hsteps⟩
        · rintro ⟨i, hi, hsteps⟩
          cases hsteps with
          | next hfirst hrest => exact ⟨_, (hstep l _).mpr ⟨i, hi, hfirst⟩, hrest⟩

/-- The rounds add just what so many steps reach, if only fresh positions still lead on. -/
theorem mem_reach_iff {n : Nat} {found fresh : List Nat} (hfresh : ∀ i ∈ fresh, i ∈ found)
    (hdone : ∀ i ∈ found, i ∉ fresh → ∀ j, r i j → j ∈ found) :
    j ∈ reach step n found fresh ↔ ∃ i ∈ found, ∃ m ≤ n, Steps r m i j := by
  induction n generalizing found fresh with
  | zero =>
      constructor
      · exact fun h => ⟨j, h, 0, Nat.le_refl _, .none⟩
      · rintro ⟨i, hi, m, hm, hsteps⟩
        obtain rfl : m = 0 := Nat.le_zero.mp hm
        cases hsteps
        exact hi
  | succ n ih =>
      have hnext : ∀ k, k ∈ (step fresh).filter (fun i => !found.contains i) ↔
          (∃ i ∈ fresh, r i k) ∧ k ∉ found := by
        intro k
        rw [List.mem_filter, hstep]
        simp
      show j ∈ (if ((step fresh).filter fun i => !found.contains i).isEmpty then found else _) ↔ _
      generalize (step fresh).filter (fun i => !found.contains i) = next at hnext ⊢
      have hgrown : ∀ i ∈ found, ∀ k, r i k → k ∈ found ∨ k ∈ next := by
        intro i hi k hr
        by_cases hk : k ∈ found
        · exact .inl hk
        · by_cases hi' : i ∈ fresh
          · exact .inr ((hnext k).mpr ⟨⟨i, hi', hr⟩, hk⟩)
          · exact .inl (hdone i hi hi' k hr)
      by_cases hempty : next.isEmpty = true
      · -- nothing leads out of what was found
        obtain rfl : next = [] := List.isEmpty_iff.mp hempty
        have hclosed : ∀ i ∈ found, ∀ k, r i k → k ∈ found := fun i hi k hr =>
          (hgrown i hi k hr).resolve_right List.not_mem_nil
        rw [if_pos hempty]
        constructor
        · exact fun h => ⟨j, h, 0, Nat.zero_le _, .none⟩
        · rintro ⟨i, hi, m, -, hsteps⟩
          exact hsteps.stays hclosed hi
      · have hfresh' : ∀ i ∈ addNew [] next, i ∈ addNew found next := by
          intro i hi
          have hi' := (mem_addNew_iff.mp hi).resolve_left List.not_mem_nil
          exact mem_addNew_iff.mpr (.inr hi')
        have hdone' : ∀ i ∈ addNew found next, i ∉ addNew [] next → ∀ k, r i k →
            k ∈ addNew found next := by
          intro i hi hold k hr
          rcases mem_addNew_iff.mp hi with hi | hi
          · exact mem_addNew_iff.mpr (hgrown i hi k hr)
          · exact absurd (mem_addNew_iff.mpr (.inr hi)) hold
        rw [if_neg hempty, ih hfresh' hdone']
        constructor
        · rintro ⟨i, hi, m, hm, hsteps⟩
          rcases mem_addNew_iff.mp hi with hi | hi
          · exact ⟨i, hi, m, Nat.le_succ_of_le hm, hsteps⟩
          · obtain ⟨⟨k, hk, hr⟩, -⟩ := (hnext i).mp hi
            exact ⟨k, hfresh k hk, m + 1, Nat.succ_le_succ hm, .next hr hsteps⟩
        · rintro ⟨i, hi, m, hm, hsteps⟩
          cases hsteps with
          | none => exact ⟨j, mem_addNew_iff.mpr (.inl hi), 0, Nat.zero_le _, .none⟩
          | next hr hrest =>
              exact ⟨_, mem_addNew_iff.mpr (hgrown i hi _ hr), _, Nat.le_of_succ_le_succ hm, hrest⟩

end

/-! ## All patterns -/

theorem ends_many (text : Array Char) (p : Pattern) (least : Nat) (most : Option Nat)
    (at_ : List Nat) :
    (Pattern.many p least most).ends text at_ =
      if most.any (· < least) then [] else
        let start := addNew [] (stepTimes (fun l => addNew [] (p.ends text l)) least at_)
        reach (fun l => addNew [] (p.ends text l))
          (match most with
            | some m => min (m - least) (text.size + 1)
            | none => text.size + 1) start start := rfl

/-- If the ends of a pattern are right, so are those of its repetitions: as many rounds as the text
    has places are enough. -/
theorem mem_ends_many_iff {least : Nat} {most : Option Nat} {at_ : List Nat}
    (ih : ∀ {at_ j}, j ∈ p.ends text at_ ↔ ∃ i ∈ at_, Matches text p i j) :
    j ∈ (Pattern.many p least most).ends text at_ ↔
      ∃ i ∈ at_, Matches text (.many p least most) i j := by
  have hstep : ∀ l k, k ∈ addNew [] (p.ends text l) ↔ ∃ i ∈ l, Matches text p i k := by
    intro l k
    rw [mem_addNew_iff, ih]
    simp
  rw [ends_many]
  by_cases hbounds : most.any (· < least) = true
  · rw [if_pos hbounds]
    obtain ⟨m, hm, hlt⟩ := (Option.any_eq_true _ _).mp hbounds
    constructor
    · exact fun h => absurd h List.not_mem_nil
    · rintro ⟨i, -, hmany⟩
      obtain ⟨n, hleast, hbound, -⟩ := matches_many_iff.mp hmany
      have hn := hbound m hm
      have hlt' : m < least := of_decide_eq_true hlt
      omega
  · have hleast : ∀ m ∈ most, least ≤ m := by
      intro m hm
      rcases Nat.lt_or_ge m least with hlt | hle
      · exact absurd ((Option.any_eq_true _ _).mpr ⟨m, hm, decide_eq_true hlt⟩) hbounds
      · exact hle
    rw [if_neg hbounds, mem_reach_iff hstep (fun _ => id) fun i hi hi' => absurd hi hi']
    constructor
    · rintro ⟨k, hk, m, hm, hrest⟩
      rw [mem_addNew_iff, mem_stepTimes_iff hstep] at hk
      obtain ⟨i, hi, hfirst⟩ := hk.resolve_left List.not_mem_nil
      refine ⟨i, hi, matches_many_iff.mpr ⟨least + m, Nat.le_add_right _ _, ?_, hfirst.trans hrest⟩⟩
      rintro b ⟨⟩
      have hb := hleast b rfl
      have hmin : m ≤ b - least := Nat.le_trans hm (Nat.min_le_left _ _)
      omega
    · rintro ⟨i, hi, hmany⟩
      obtain ⟨n, hn, hbound, hsteps⟩ := matches_many_iff.mp hmany
      rw [show n = least + (n - least) by omega] at hsteps
      obtain ⟨k, hfirst, hrest⟩ := hsteps.split
      obtain ⟨m, hm, hm', hshort⟩ := hrest.shorten fun _ _ h => h.forward.1
      have hk : k ∈ addNew [] (stepTimes (fun l => addNew [] (p.ends text l)) least at_) :=
        mem_addNew_iff.mpr (.inr ((mem_stepTimes_iff hstep).mpr ⟨i, hi, hfirst⟩))
      have hend := (matches_many_iff.mpr ⟨m, Nat.zero_le _, nofun, hshort⟩ :
        Matches text (.many p 0 none) k j).forward.2
      have hsize : m ≤ text.size + 1 := by omega
      refine ⟨k, hk, m, ?_, hshort⟩
      cases most with
      | none => exact hsize
      | some b =>
          have hb := hbound b rfl
          exact Nat.le_min.mpr ⟨by omega, hsize⟩

/-- The computed ends are the ends of the stretches that the pattern describes. -/
theorem mem_ends_iff {at_ : List Nat} : j ∈ p.ends text at_ ↔ ∃ i ∈ at_, Matches text p i j := by
  induction p generalizing at_ j with
  | empty =>
      constructor
      · exact fun h => ⟨j, h, .empty⟩
      · rintro ⟨_, hi, ⟨⟩⟩
        exact hi
  | set s =>
      rw [ends, List.mem_filterMap]
      constructor
      · rintro ⟨i, hi, hend⟩
        cases hchar : text[i]? with
        | none => simp [hchar] at hend
        | some c =>
            by_cases hc : s.mem c = true
            · obtain rfl : i + 1 = j := by simpa [hchar, hc] using hend
              exact ⟨i, hi, .set hchar hc⟩
            · simp [hchar, hc] at hend
      · rintro ⟨i, hi, hset⟩
        cases hset with
        | set hchar hc => exact ⟨i, hi, by simp [hchar, hc]⟩
  | look l =>
      rw [ends, List.mem_filter]
      constructor
      · rintro ⟨hj, hl⟩
        exact ⟨j, hj, .look hl⟩
      · rintro ⟨_, hi, ⟨⟩⟩
        exact ⟨hi, by assumption⟩
  | seq p q ihp ihq =>
      rw [ends, ihq]
      constructor
      · rintro ⟨k, hk, hq⟩
        obtain ⟨i, hi, hp⟩ := ihp.mp (by simpa [mem_addNew_iff] using hk)
        exact ⟨i, hi, .seq hp hq⟩
      · rintro ⟨i, hi, hseq⟩
        cases hseq with
        | seq hp hq => exact ⟨_, mem_addNew_iff.mpr (.inr (ihp.mpr ⟨i, hi, hp⟩)), hq⟩
  | alt p q ihp ihq =>
      rw [ends, mem_addNew_iff, mem_addNew_iff, ihp, ihq]
      constructor
      · rintro ((h | ⟨i, hi, hp⟩) | ⟨i, hi, hq⟩)
        · exact absurd h List.not_mem_nil
        · exact ⟨i, hi, .altLeft hp⟩
        · exact ⟨i, hi, .altRight hq⟩
      · rintro ⟨i, hi, halt⟩
        cases halt with
        | altLeft hp => exact .inl (.inr ⟨i, hi, hp⟩)
        | altRight hq => exact .inr ⟨i, hi, hq⟩
  | many p least most ih => exact mem_ends_many_iff ih

/-! ## Whole texts -/

/-- A pattern describes a text from its start to its end. -/
def Describes (p : Pattern) (text : String) : Prop :=
  Matches text.toList.toArray p 0 text.toList.toArray.size

/-- A pattern between tests of the start and of the end, as it is read for a path matcher. -/
def anchored (p : Pattern) : Pattern := .seq (.look .textStart) (.seq p (.look .textEnd))

/-- A pattern occurs in a text just when it describes a stretch of it. -/
theorem occursIn_iff {text : String} :
    p.occursIn text = true ↔
      ∃ i ≤ text.toList.toArray.size, ∃ j, Matches text.toList.toArray p i j := by
  rw [occursIn, Bool.not_eq_true', List.isEmpty_eq_false_iff_exists_mem]
  constructor
  · rintro ⟨j, hj⟩
    obtain ⟨i, hi, hmatch⟩ := mem_ends_iff.mp hj
    exact ⟨i, Nat.le_of_lt_succ (List.mem_range.mp hi), j, hmatch⟩
  · rintro ⟨i, hi, j, hmatch⟩
    exact ⟨j, mem_ends_iff.mpr ⟨i, List.mem_range.mpr (Nat.lt_succ_of_le hi), hmatch⟩⟩

/-- Only the first position of a text has no character before it. -/
theorem eq_zero_of_charBefore (hi : i ≤ text.size) (h : charBefore text i = none) : i = 0 := by
  cases i with
  | zero => rfl
  | succ i =>
      have hnone : text[i]? = none := h
      have hle := Array.getElem?_eq_none_iff.mp hnone
      omega

/-- Between the two tests, a pattern occurs in a text just when it describes the whole of it. -/
theorem anchored_occursIn_iff {text : String} :
    p.anchored.occursIn text = true ↔ p.Describes text := by
  rw [occursIn_iff]
  constructor
  · rintro ⟨i, hi, j, hmatch⟩
    cases hmatch with
    | seq hstart hrest =>
        cases hstart with
        | look hfirst =>
            cases hrest with
            | seq hp hend =>
                cases hend with
                | look hlast =>
                    obtain rfl := eq_zero_of_charBefore hi (Option.isNone_iff_eq_none.mp hfirst)
                    have hlast' := Array.getElem?_eq_none_iff.mp (Option.isNone_iff_eq_none.mp hlast)
                    have hforward := hp.forward.2
                    obtain rfl : j = text.toList.toArray.size := by omega
                    exact hp
  · intro h
    refine ⟨0, Nat.zero_le _, _, .seq (.look rfl) (.seq h (.look ?_))⟩
    show (text.toList.toArray[text.toList.toArray.size]?).isNone = true
    rw [Array.getElem?_eq_none (Nat.le_refl _)]
    rfl

end AccessGate.Pattern
