import AccessGate.Proofs.PatternBodies
import AccessGate.Proofs.PatternMatches

/-! # Which patterns leave out whole paths

    The text of a pattern is put into a group between tests of the start and of the end, and is
    read there, by whichever library.  For most texts that is as good as reading the text and
    asking for a match of the whole path.  `leavesOutWhole_iff` says for which it is not: for a
    text that ends inside of a comment, which takes in the parenthesis of the group, for a text
    that closes the group itself, and for a text that is within the limits of a pattern only
    without the group or only with it.  The first is refused though it is a pattern, and so is
    one that outgrows a limit.  The second is no pattern, and what it leaves out need not fit
    to any. -/

namespace AccessGate

namespace Pattern

/-- A text spells a pattern, whatever its size. -/
def WellFormed (lib : Library) (text : String) : Prop := (parse? lib text).isSome = true

/-- A text is a pattern by itself, within the limits of one. -/
def IsPattern (lib : Library) (text : String) : Prop := (read? lib text).isSome = true

/-- A pattern ends inside of a comment: it still is one with a parenthesis behind it. -/
def EndsInComment (lib : Library) (text : String) : Prop :=
  WellFormed lib text ∧ WellFormed lib (text ++ ")")

variable {lib : Library} {text : String}

instance : Decidable (WellFormed lib text) := inferInstanceAs (Decidable (_ = true))

instance : Decidable (IsPattern lib text) := inferInstanceAs (Decidable (_ = true))

instance : Decidable (EndsInComment lib text) := inferInstanceAs (Decidable (_ ∧ _))

/-- A body is read in one way, however many steps are allowed. -/
theorem readBody_unique {m n : Nat} {b : Body} {s : List Char}
    {found found' : Nested Pattern × List String × List Char} (h : readBody m b s = some found)
    (h' : readBody n b s = some found') : found = found' :=
  Option.some.inj ((readBody_bound h (Nat.lt_succ_self _)).symm.trans
    (readBody_bound h' (Nat.lt_succ_self _)))

/-- A text spells a pattern just when nothing is left of it. -/
theorem parse?_eq_some_iff {p : Nested Pattern} :
    parse? lib text = some p ↔
      ∃ n names, readBody n (start lib) text.toList = some (p, names, []) := by
  constructor
  · intro h
    rw [parse?] at h
    split at h
    · rename_i q names hread
      cases h
      exact ⟨_, names, hread⟩
    · cases h
  · rintro ⟨n, names, hread⟩
    rw [parse?, readBody_bound hread (Nat.lt_succ_self _)]

/-- A pattern is read within its limits only. -/
theorem read?_eq_some_iff {p : Pattern} :
    read? lib text = some p ↔
      ∃ q, parse? lib text = some q ∧ (q.depth ≤ nestLimit ∧ lib.fits text = true) ∧
        q.value = p := by
  rw [read?, Option.bind_eq_some_iff]
  refine exists_congr fun q => and_congr_right fun _ => ?_
  split
  · rename_i hlimits
    exact ⟨fun h => ⟨hlimits, Option.some.inj h⟩, fun h => congrArg some h.2⟩
  · rename_i hlimits
    exact ⟨nofun, fun h => absurd h.1 hlimits⟩

/-- A text is a pattern if it spells one, and that keeps the limits. -/
theorem isPattern_iff :
    IsPattern lib text ↔
      ∃ q, parse? lib text = some q ∧ q.depth ≤ nestLimit ∧ lib.fits text = true := by
  rw [IsPattern, Option.isSome_iff_exists]
  constructor
  · rintro ⟨p, hp⟩
    obtain ⟨q, hq, hlimits, -⟩ := read?_eq_some_iff.mp hp
    exact ⟨q, hq, hlimits⟩
  · rintro ⟨q, hq, hlimits⟩
    exact ⟨q.value, read?_eq_some_iff.mpr ⟨q, hq, hlimits, rfl⟩⟩

theorem IsPattern.wellFormed (h : IsPattern lib text) : WellFormed lib text := by
  obtain ⟨q, hq, -⟩ := isPattern_iff.mp h
  exact Option.isSome_iff_exists.mpr ⟨q, hq⟩

/-- A text of which something is left does not spell a pattern. -/
theorem not_wellFormed_of_rest {n : Nat} {p : Nested Pattern} {names : List String} {c : Char}
    {rest : List Char} (hread : readBody n (start lib) text.toList = some (p, names, c :: rest)) :
    ¬ WellFormed lib text := by
  intro h
  obtain ⟨q, hq⟩ := Option.isSome_iff_exists.mp h
  obtain ⟨m, names', hread'⟩ := parse?_eq_some_iff.mp hq
  cases readBody_unique hread hread'

/-- What a pattern comes to in front of a parenthesis: it is closed there, or it ends inside of a
    comment. -/
theorem body_of_pattern {p : Nested Pattern} (h : parse? lib text = some p) :
    ∃ n names, (¬ EndsInComment lib text ∧
        ∀ v, Closing v → readBody n (start lib) (text.toList ++ v) = some (p, names, v)) ∨
      EndsInComment lib text ∧ ∀ v, Closing v → '\n' ∉ v →
        readBody n (start lib) (text.toList ++ v) = some (p, names, []) := by
  obtain ⟨n, names, hread⟩ := parse?_eq_some_iff.mp h
  have hparen : (text ++ ")").toList = text.toList ++ [')'] := String.toList_append
  have hnil : readBody n (start lib) (text.toList ++ []) = some (p, names, [] ++ []) := by
    rwa [List.append_nil]
  refine ⟨n, names, ?_⟩
  rcases readBody_swap closing_nil hnil with hclosed | ⟨-, -, hopen⟩
  · refine .inl ⟨fun hcomment => ?_, hclosed⟩
    have hread' := hclosed [')'] (closing_cons [])
    rw [← hparen] at hread'
    exact not_wellFormed_of_rest hread' hcomment.2
  · refine .inr ⟨⟨Option.isSome_iff_exists.mpr ⟨p, h⟩, ?_⟩, hopen⟩
    have hread' := hopen [')'] (closing_cons []) (by decide)
    rw [← hparen] at hread'
    exact Option.isSome_iff_exists.mpr ⟨p, parse?_eq_some_iff.mpr ⟨n, names, hread'⟩⟩

end Pattern

namespace PathMatcher

open Pattern

variable {lib : Library} {text : String}

/-- The body that is read behind the group. -/
def behindGroup (lib : Library) (p : Nested Pattern) (names : List String) : Body :=
  { ((start lib).pushFlat (.look .textStart)).push p.deeper with names := names }

theorem readBody_anchors (lib : Library) (n : Nat) (cs : List Char) :
    readBody (n + 2) (start lib) ('^' :: '(' :: '?' :: ':' :: cs) =
      match readBody n (start lib) cs with
      | some (p, names, ')' :: rest) => readBody n (behindGroup lib p names) rest
      | _ => none := rfl

theorem whole_toList (text : String) :
    (whole text).toList = '^' :: '(' :: '?' :: ':' :: (text.toList ++ [')', '$']) := by
  rw [whole, String.toList_append, String.toList_append]
  rfl

/-- In its group, a text is a pattern just when a parenthesis closes the group and nothing is left
    behind it. -/
theorem parse?_whole_eq_some_iff {whole' : Nested Pattern} :
    parse? lib (whole text) = some whole' ↔ ∃ n p names rest names',
      readBody n (start lib) (text.toList ++ [')', '$']) = some (p, names, ')' :: rest) ∧
      readBody n (behindGroup lib p names) rest = some (whole', names', []) := by
  rw [parse?_eq_some_iff, whole_toList]
  constructor
  · rintro ⟨n, names', hread⟩
    have hread' := readBody_bound hread
      (show _ < ('^' :: '(' :: '?' :: ':' :: (text.toList ++ [')', '$'])).length + 2 by omega)
    rw [readBody_anchors] at hread'
    split at hread'
    · rename_i p names rest hgroup
      exact ⟨_, p, names, rest, names', hgroup, hread'⟩
    · cases hread'
  · rintro ⟨n, p, names, rest, names', hgroup, hrest⟩
    refine ⟨n + 2, names', ?_⟩
    rw [readBody_anchors, hgroup]
    exact hrest

/-- A pattern that ends outside of comments is read between the tests, two levels deeper. -/
theorem parse?_whole_of_pattern {p : Nested Pattern} (h : parse? lib text = some p)
    (hcomment : ¬ EndsInComment lib text) :
    parse? lib (whole text) = some ⟨p.value.anchored, p.depth + 2⟩ := by
  obtain ⟨n, names, ⟨-, hclosed⟩ | ⟨hends, -⟩⟩ := body_of_pattern h
  · have hgroup := hclosed [')', '$'] (closing_cons _)
    have hgroup' := readBody_bound hgroup
      (show _ < (text.toList ++ [')', '$']).length + 2 by omega)
    exact parse?_whole_eq_some_iff.mpr ⟨_, p, names, ['$'], names, hgroup', rfl⟩
  · exact absurd hends hcomment

/-- A pattern that ends inside of a comment leaves its group open. -/
theorem not_wellFormed_whole_of_comment (h : EndsInComment lib text) :
    ¬ WellFormed lib (whole text) := by
  intro hwhole
  obtain ⟨p, hp⟩ := Option.isSome_iff_exists.mp h.1
  obtain ⟨whole', hwhole'⟩ := Option.isSome_iff_exists.mp hwhole
  obtain ⟨n, q, names, rest, -, hgroup, -⟩ := parse?_whole_eq_some_iff.mp hwhole'
  obtain ⟨m, names', ⟨hends, -⟩ | ⟨-, hopen⟩⟩ := body_of_pattern hp
  · exact hends h
  · cases readBody_unique hgroup (hopen [')', '$'] (closing_cons _) (by decide))

example : WellFormed .standard "(?x)/a # b" ∧ ¬ WellFormed .standard (whole "(?x)/a # b") := by
  decide +kernel

/-- A parenthesis of the text closes the group around it: what stands before it is a pattern that
    ends there, and with what stands behind it the whole is read. -/
def ClosesGroup (lib : Library) (text : String) : Prop :=
  ∃ front back, text = front ++ ")" ++ back ∧ WellFormed lib front ∧ ¬ EndsInComment lib front ∧
    WellFormed lib (whole text)

/-- A text that closes the group does not spell a pattern by itself. -/
theorem not_wellFormed_of_closesGroup (h : ClosesGroup lib text) : ¬ WellFormed lib text := by
  obtain ⟨front, back, rfl, hfront, hcomment, -⟩ := h
  obtain ⟨p, hp⟩ := Option.isSome_iff_exists.mp hfront
  obtain ⟨n, names, ⟨-, hclosed⟩ | ⟨hends, -⟩⟩ := body_of_pattern hp
  · have hread := hclosed (')' :: back.toList) (closing_cons _)
    have htext : (front ++ ")" ++ back).toList = front.toList ++ ')' :: back.toList := by
      rw [String.toList_append, String.toList_append, List.append_assoc]
      rfl
    rw [← htext] at hread
    exact not_wellFormed_of_rest hread
  · exact absurd hends hcomment

/-- A text that is read in its group without being a pattern closes the group. -/
theorem closesGroup_of_read (htext : ¬ WellFormed lib text) (hwhole : WellFormed lib (whole text)) :
    ClosesGroup lib text := by
  obtain ⟨whole', hwhole'⟩ := Option.isSome_iff_exists.mp hwhole
  obtain ⟨n, p, names, rest, -, hgroup, -⟩ := parse?_whole_eq_some_iff.mp hwhole'
  -- a front of the text that is closed by what stands behind it is a pattern
  have hfront : ∀ {front u : List Char}, Closing u → u ≠ [] →
      readBody n (start lib) (front ++ u) = some (p, names, u) →
      ∀ v, Closing v → readBody n (start lib) (front ++ v) = some (p, names, v) := by
    intro front u hu hne hread
    cases readBody_swap (r := []) hu hread with
    | closed hclosed => exact hclosed
    | comment _ hnil => exact absurd hnil hne
  have hrest : rest ≠ ['$'] := by
    rintro rfl
    have hread := hfront (closing_cons _) (List.cons_ne_nil _ _) hgroup [] closing_nil
    rw [List.append_nil] at hread
    exact htext (Option.isSome_iff_exists.mpr ⟨p, parse?_eq_some_iff.mpr ⟨n, names, hread⟩⟩)
  obtain ⟨front, hsplit⟩ := (readBody_suffix hgroup).trans (Flags.skip_suffix _ _)
  rcases List.append_eq_append_iff.mp hsplit with ⟨back, hback, htail⟩ | ⟨more, -, htail⟩
  · cases back with
    | nil => exact absurd (List.cons.inj htail).2 hrest
    | cons c back =>
        obtain rfl : ')' = c := (List.cons.inj htail).1
        rw [← hsplit] at hgroup
        have hread := hfront (closing_cons _) (List.cons_ne_nil _ _) hgroup
        refine ⟨String.ofList front, String.ofList back, ?_, ?_, fun hcomment => ?_, hwhole⟩
        · rw [← String.toList_inj, String.toList_append, String.toList_append, hback,
            String.toList_ofList, String.toList_ofList, List.append_assoc]
          exact congrArg (front ++ ·) (congrArg _ String.toList_ofList.symm)
        · have hread' := hread [] closing_nil
          rw [List.append_nil, ← String.toList_ofList (l := front)] at hread'
          exact Option.isSome_iff_exists.mpr ⟨p, parse?_eq_some_iff.mpr ⟨n, names, hread'⟩⟩
        · have hread' := hread [')'] (closing_cons _)
          have hparen : (String.ofList front ++ ")").toList = front ++ [')'] := by
            rw [String.toList_append, String.toList_ofList]
            rfl
          rw [← hparen] at hread'
          exact not_wellFormed_of_rest hread' hcomment.2
  · -- the group is closed by its own parenthesis: the text is all that stands before it
    cases more with
    | nil => exact absurd (List.cons.inj htail).2.symm hrest
    | cons c more =>
        cases more with
        | nil => cases htail
        | cons d more =>
            have hlength := congrArg List.length htail
            simp at hlength

/-! ## What is left out -/

/-- The group makes a difference to the limits of a pattern: they are kept without it and not with
    it, or the other way around. -/
def Outgrown (lib : Library) (text : String) : Prop :=
  ∃ p, parse? lib text = some p ∧ ¬ EndsInComment lib text ∧
    ¬ ((p.depth ≤ nestLimit ∧ lib.fits text = true) ↔
      (p.depth + 2 ≤ nestLimit ∧ lib.fits (whole text) = true))

/-- A text is accepted just when it is a pattern, and then just the paths that it describes as a
    whole are left out, besides those that were left out before. -/
def LeavesOutWhole (lib : Library) (text : String) : Prop :=
  ∀ m : PathMatcher,
    ((∃ m', m.excludePattern lib text = .ok m') ↔ ∃ p, read? lib text = some p) ∧
    ∀ m' p, m.excludePattern lib text = .ok m' → read? lib text = some p → ∀ c : Context,
      m'.matcher c = .ok false ↔ m.matcher c = .ok false ∨ p.Describes c.request.path

section

variable {m m' : PathMatcher}

/-- A text that is accepted adds the pattern that it spells in its group. -/
theorem excludePattern_eq_ok :
    m.excludePattern lib text = .ok m' ↔
      ∃ p, read? lib (whole text) = some p ∧ m' = { m with patterns := m.patterns ++ [p] } := by
  rw [excludePattern]
  cases read? lib (whole text) with
  | none => simp
  | some p =>
      constructor
      · rintro ⟨⟩
        exact ⟨p, rfl, rfl⟩
      · rintro ⟨q, hq, rfl⟩
        cases hq
        rfl

/-- A text is accepted just when it is a pattern in its group. -/
theorem exists_excludePattern_iff :
    (∃ m', m.excludePattern lib text = .ok m') ↔ IsPattern lib (whole text) := by
  rw [IsPattern, Option.isSome_iff_exists]
  constructor
  · rintro ⟨m', hm'⟩
    obtain ⟨p, hp, -⟩ := excludePattern_eq_ok.mp hm'
    exact ⟨p, hp⟩
  · rintro ⟨p, hp⟩
    exact ⟨_, excludePattern_eq_ok.mpr ⟨p, hp, rfl⟩⟩

theorem matcher_eq_false_iff {c : Context} :
    m.matcher c = .ok false ↔ m.excludes c.request.path = true := by
  rw [matcher]
  cases m.excludes c.request.path <;> simp

/-- Texts are accepted in the group just when they are patterns by themselves, apart from those that
    the group is no match for. -/
theorem isPattern_whole_iff (hcomment : ¬ (EndsInComment lib text ∧ IsPattern lib text))
    (hcloses : ¬ (ClosesGroup lib text ∧ IsPattern lib (whole text))) (hsize : ¬ Outgrown lib text) :
    IsPattern lib (whole text) ↔ IsPattern lib text := by
  by_cases htext : WellFormed lib text
  · by_cases hends : EndsInComment lib text
    · exact iff_of_false (mt IsPattern.wellFormed (not_wellFormed_whole_of_comment hends))
        fun h => hcomment ⟨hends, h⟩
    · obtain ⟨p, hp⟩ := Option.isSome_iff_exists.mp htext
      have hlimits : (p.depth ≤ nestLimit ∧ lib.fits text = true) ↔
          (p.depth + 2 ≤ nestLimit ∧ lib.fits (whole text) = true) :=
        Classical.not_not.mp fun h => hsize ⟨p, hp, hends, h⟩
      rw [isPattern_iff, isPattern_iff, parse?_whole_of_pattern hp hends, hp]
      simpa using hlimits.symm
  · exact iff_of_false (fun h => hcloses ⟨closesGroup_of_read htext h.wellFormed, h⟩)
      (mt IsPattern.wellFormed htext)

end

/-- A text leaves out whole paths unless it ends inside of a comment, closes the group that is put
    around it, or is within the limits of a pattern only without the group or only with it. -/
theorem leavesOutWhole_iff (lib : Library) (text : String) :
    LeavesOutWhole lib text ↔
      ¬ (EndsInComment lib text ∧ IsPattern lib text) ∧
      ¬ (ClosesGroup lib text ∧ IsPattern lib (whole text)) ∧ ¬ Outgrown lib text := by
  constructor
  · intro h
    have haccept : IsPattern lib (whole text) ↔ IsPattern lib text := by
      rw [← exists_excludePattern_iff (m := all), (h all).1, IsPattern, Option.isSome_iff_exists]
    refine ⟨fun ⟨hends, htext⟩ => ?_, fun ⟨hcloses, hwhole⟩ => ?_, fun ⟨p, hp, hends, hlimits⟩ => ?_⟩
    · exact not_wellFormed_whole_of_comment hends (haccept.mpr htext).wellFormed
    · exact not_wellFormed_of_closesGroup hcloses (haccept.mp hwhole).wellFormed
    · rw [isPattern_iff, isPattern_iff, parse?_whole_of_pattern hp hends, hp] at haccept
      exact hlimits (by simpa using haccept.symm)
  · rintro ⟨hcomment, hcloses, hsize⟩ m
    constructor
    · rw [exists_excludePattern_iff, isPattern_whole_iff hcomment hcloses hsize, IsPattern,
        Option.isSome_iff_exists]
    · intro m' p hm' hp c
      obtain ⟨q, hq, rfl⟩ := excludePattern_eq_ok.mp hm'
      obtain ⟨text', htext, -, rfl⟩ := read?_eq_some_iff.mp hp
      obtain ⟨whole', hwhole, -, rfl⟩ := read?_eq_some_iff.mp hq
      have hends : ¬ EndsInComment lib text := fun h =>
        not_wellFormed_whole_of_comment h (Option.isSome_iff_exists.mpr ⟨_, hwhole⟩)
      cases hwhole.symm.trans (parse?_whole_of_pattern htext hends)
      rw [matcher_eq_false_iff, matcher_eq_false_iff, excludes, excludes, List.any_append,
        List.any_cons, List.any_nil, Bool.or_false, ← Bool.or_assoc, Bool.or_eq_true,
        anchored_occursIn_iff]

/-- The request of a path that starts with a match of the text below. -/
def longerPath : Context := .ofRequest ⟨"GET", ⟨none, none, "/ax", none⟩, [], []⟩ none

/-- A text that closes the group is accepted without being a pattern, and leaves out a path that
    only starts with a match. -/
theorem bypassed_behind_group : read? .standard "/a)|(?:/b" = none ∧
    ∃ m, all.excludePattern .standard "/a)|(?:/b" = .ok m ∧ m.matcher longerPath = .ok false := by
  constructor
  · decide +kernel
  · refine ⟨_, rfl, ?_⟩
    rw [matcher_eq_false_iff]
    decide +kernel

/-- A group is read like the text in it, one level deeper, up to its parenthesis. -/
theorem readBody_group {p : Nested Pattern} (h : parse? lib text = some p)
    (hcomment : ¬ EndsInComment lib text) {u : List Char} (hu : Closing u) :
    ∃ n names, readBody n (start lib) ('(' :: '?' :: ':' :: (text.toList ++ ')' :: u)) =
      some (p.deeper, names, u) := by
  obtain ⟨n, names, ⟨-, hclosed⟩ | ⟨hends, -⟩⟩ := body_of_pattern h
  · have hopen : ∀ m cs, readBody (m + 1) (start lib) ('(' :: '?' :: ':' :: cs) =
        match readBody m (start lib) cs with
        | some (p, names, ')' :: rest) =>
            readBody m { (start lib).push p.deeper with names := names } rest
        | _ => none := fun _ _ => rfl
    have hread := readBody_bound (hclosed (')' :: u) (closing_cons u)) (Nat.lt_succ_self _)
    refine ⟨(text.toList ++ ')' :: u).length.succ + 1, names, (hopen _ _).trans ?_⟩
    rw [hread]
    rcases hu.eq with rfl | ⟨rest, rfl⟩ <;> rfl
  · exact absurd hends hcomment

/-- A group is a pattern that ends outside of comments. -/
theorem parse?_group {p : Nested Pattern} (h : parse? lib text = some p)
    (hcomment : ¬ EndsInComment lib text) :
    parse? lib ("(?:" ++ text ++ ")") = some p.deeper ∧
      ¬ EndsInComment lib ("(?:" ++ text ++ ")") := by
  have htext : ("(?:" ++ text ++ ")").toList = '(' :: '?' :: ':' :: (text.toList ++ [')']) := by
    rw [String.toList_append, String.toList_append]
    rfl
  constructor
  · rw [parse?_eq_some_iff, htext]
    exact readBody_group h hcomment closing_nil
  · rintro ⟨-, hmore⟩
    obtain ⟨n, names, hread⟩ := readBody_group h hcomment (closing_cons [])
    have hparen : ("(?:" ++ text ++ ")" ++ ")").toList =
        '(' :: '?' :: ':' :: (text.toList ++ ')' :: [')']) := by
      rw [String.toList_append, htext, List.cons_append, List.cons_append, List.cons_append,
        List.append_assoc]
      rfl
    rw [← hparen] at hread
    exact not_wellFormed_of_rest hread hmore

/-- So many groups, each inside of the one before it. -/
def groups : Nat → String
  | 0 => ""
  | n + 1 => "(?:" ++ groups n ++ ")"

/-- Such groups are a pattern that is nested as deep as they are many. -/
theorem parse?_groups (lib : Library) (n : Nat) :
    ∃ p, parse? lib (groups n) = some p ∧ p.depth = n ∧ ¬ EndsInComment lib (groups n) := by
  induction n with
  | zero =>
      have hparen : ¬ WellFormed lib (groups 0 ++ ")") := Bool.false_ne_true
      exact ⟨_, rfl, rfl, fun h => hparen h.2⟩
  | succ n ih =>
      obtain ⟨p, hp, hdepth, hcomment⟩ := ih
      obtain ⟨hgroup, hcomment'⟩ := parse?_group hp hcomment
      exact ⟨_, hgroup, congrArg (· + 1) hdepth, hcomment'⟩

/-- Groups that are nested just to the limit outgrow it in one more group. -/
theorem outgrown_groups_iff {n : Nat} (h : lib.fits (groups n) = true)
    (hwhole : lib.fits (whole (groups n)) = true) :
    Outgrown lib (groups n) ↔ n ≤ nestLimit ∧ nestLimit < n + 2 := by
  obtain ⟨p, hp, rfl, hcomment⟩ := parse?_groups lib n
  rw [Outgrown, hp]
  constructor
  · rintro ⟨_, ⟨⟩, -, hlimits⟩
    simp only [h, hwhole, and_true] at hlimits
    omega
  · rintro ⟨hle, hlt⟩
    refine ⟨p, rfl, hcomment, fun hlimits => ?_⟩
    simp only [h, hwhole, and_true] at hlimits
    omega

end PathMatcher

end AccessGate
