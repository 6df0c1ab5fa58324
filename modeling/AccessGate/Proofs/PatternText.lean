import AccessGate.Pattern.Reader

/-! # What a reader of patterns finds does not depend on what follows

    The readers of patterns look ahead, and they skip comments, so that what stands behind a
    part may count for it.  But as long as a reader leaves untouched what stands behind, and
    that is nothing or a parenthesis, it finds the same before anything else of that kind
    (`Confined`).  The law is proved for each reader from its parts.  Where a reader looks
    ahead without taking what it sees, the law holds only at some rests, and the reader that
    comes next supplies the condition. -/

namespace AccessGate.Pattern

/-! ## Behind a text -/

/-- Nothing follows, or a parenthesis. -/
def Closing (u : List Char) : Prop := ∀ c ∈ u.head?, c = ')'

theorem closing_nil : Closing [] := nofun

theorem closing_cons (u : List Char) : Closing (')' :: u) := by
  rintro c ⟨⟩
  rfl

/-- What follows is nothing or begins with a parenthesis. -/
theorem Closing.eq {u : List Char} (h : Closing u) : u = [] ∨ ∃ rest, u = ')' :: rest := by
  cases u with
  | nil => exact .inl rfl
  | cons c rest =>
      obtain rfl : c = ')' := h c rfl
      exact .inr ⟨rest, rfl⟩

section

variable {p : Char → Bool} {s u : List Char}

/-- What is dropped from a text without parentheses in front does not reach into what follows. -/
theorem dropWhile_append_closing (hp : p ')' = false) (hu : Closing u) :
    (s ++ u).dropWhile p = s.dropWhile p ++ u := by
  induction s with
  | nil =>
      rcases hu.eq with rfl | ⟨rest, rfl⟩
      · rfl
      · exact List.dropWhile_cons_of_neg (by simp [hp])
  | cons c rest ih =>
      rw [List.cons_append]
      by_cases hc : p c = true
      · rw [List.dropWhile_cons_of_pos hc, List.dropWhile_cons_of_pos hc, ih]
      · rw [List.dropWhile_cons_of_neg hc, List.dropWhile_cons_of_neg hc, List.cons_append]

/-- A sign that is no parenthesis is not the first one of what follows. -/
theorem head?_append_closing {c : Char} (hc : c ≠ ')') (hu : Closing u) :
    (s ++ u).head? = some c ↔ s.head? = some c := by
  cases s with
  | nil => exact ⟨fun h => absurd (hu c h) hc, nofun⟩
  | cons => exact Iff.rfl

/-- A text that does not start with a sign does not come to start with it by what follows. -/
theorem append_ne_cons {c : Char} (hc : c ≠ ')') (hu : Closing u) (h : ∀ rest, s ≠ c :: rest)
    (rest : List Char) : s ++ u ≠ c :: rest := by
  intro heq
  have hhead := (head?_append_closing hc hu).mp (congrArg List.head? heq)
  obtain ⟨rest', hrest'⟩ := List.head?_eq_some_iff.mp hhead
  exact h rest' hrest'

end

/-- What lies in front of a part of a text that it ends with. -/
theorem exists_eq_append {t r u : List Char} (h : r ++ u <:+ t) : ∃ t', t = t' ++ u := by
  obtain ⟨front, hfront⟩ := h
  exact ⟨front ++ r, by rw [List.append_assoc, hfront]⟩

/-! ## Signs -/

section

variable {c : Char} {s front : List Char}

theorem drop_length_takeWhile (p : Char → Bool) (s : List Char) :
    s.drop (s.takeWhile p).length = s.dropWhile p := by
  have hdrop := @List.drop_left _ (s.takeWhile p) (s.dropWhile p)
  rwa [List.takeWhile_append_dropWhile] at hdrop

/-- A sign stands first, or it does not. -/
theorem cons_or_ne (c : Char) (s : List Char) :
    (∃ rest, s = c :: rest) ∨ ∀ rest, s ≠ c :: rest := by
  by_cases h : ∃ rest, s = c :: rest
  · exact .inl h
  · exact .inr (not_exists.mp h)

theorem bne_of_not_mem (h : c ∉ s) : ∀ d ∈ s, (d != c) = true :=
  fun _ hd => bne_iff_ne.mpr fun heq => h (heq ▸ hd)

/-- Up to the first place where a sign stands is all that is before it. -/
theorem takeWhile_bne_append (h : c ∉ front) (rest : List Char) :
    (front ++ c :: rest).takeWhile (· != c) = front := by
  rw [List.takeWhile_append_of_pos (bne_of_not_mem h), List.takeWhile_cons_of_neg (by simp),
    List.append_nil]

/-- From there on is the sign and the rest. -/
theorem dropWhile_bne_append (h : c ∉ front) (rest : List Char) :
    (front ++ c :: rest).dropWhile (· != c) = c :: rest := by
  rw [List.dropWhile_append_of_pos (bne_of_not_mem h), List.dropWhile_cons_of_neg (by simp)]

end

/-! ## Blanks and comments -/

/-- Dropping comments leaves an end of the text. -/
theorem skipComments_suffix (inside : Bool) (s : List Char) : skipComments inside s <:+ s := by
  induction s generalizing inside with
  | nil => cases inside <;> exact List.suffix_refl _
  | cons c rest ih =>
      cases inside with
      | true => exact (ih _).trans (List.suffix_cons c rest)
      | false =>
          rw [skipComments]
          split
          · exact (ih _).trans (List.suffix_cons c rest)
          · split
            · exact (ih _).trans (List.suffix_cons c rest)
            · exact List.suffix_refl _

/-- Dropping what does not count leaves an end of the text. -/
theorem Flags.skip_suffix (f : Flags) (s : List Char) : f.skip s <:+ s := by
  rw [Flags.skip]
  split
  · exact skipComments_suffix false s
  · exact List.suffix_refl _

/-- A comment that nothing ends takes in everything. -/
theorem skipComments_quiet {v : List Char} (h : '\n' ∉ v) : skipComments true v = [] := by
  induction v with
  | nil => rfl
  | cons c rest ih =>
      obtain ⟨hc, hrest⟩ := not_or.mp (mt List.mem_cons.mpr h)
      have hopen : (c != '\n') = true := bne_iff_ne.mpr (Ne.symm hc)
      rw [skipComments, hopen]
      exact ih hrest

/-- What skipping comes to, whatever follows: a part that counts is reached, or the end is, or
    the end is inside of a comment, which goes on there. -/
inductive Skips (skip : List Char → List Char) (s : List Char) : Prop where
  | part (c : Char) (rest : List Char) (h : ∀ u, skip (s ++ u) = c :: (rest ++ u))
  | done (h : ∀ u, Closing u → skip (s ++ u) = u)
  | inside (h : ∀ u, skip (s ++ u) <:+ u.tail) (hquiet : ∀ v, '\n' ∉ v → skip (s ++ v) = [])

/-- Two ways of dropping that come to the same drop alike. -/
theorem Skips.of_eq {skip skip' : List Char → List Char} {s s' : List Char} (h : Skips skip' s')
    (heq : ∀ u, skip (s ++ u) = skip' (s' ++ u)) : Skips skip s := by
  cases h with
  | part c rest h => exact .part c rest fun u => (heq u).trans (h u)
  | done h => exact .done fun u hu => (heq u).trans (h u hu)
  | inside h hquiet => exact .inside (fun u => heq u ▸ h u) fun v hv => (heq v).trans (hquiet v hv)

/-- Comments are dropped alike whatever follows, unless one of them is left open. -/
theorem skips_comments (inside : Bool) (s : List Char) : Skips (skipComments inside) s := by
  induction s generalizing inside with
  | nil =>
      cases inside with
      | true =>
          refine .inside (fun u => ?_) fun v => skipComments_quiet
          cases u with
          | nil => exact List.suffix_refl _
          | cons c rest => exact skipComments_suffix _ rest
      | false =>
          refine .done fun u hu => ?_
          rcases hu.eq with rfl | ⟨rest, rfl⟩
          · rfl
          · rfl
  | cons c rest ih =>
      cases inside with
      | true => exact (ih (c != '\n')).of_eq fun u => rfl
      | false =>
          by_cases hblank : Text.isBlank c = true
          · exact (ih false).of_eq fun u => if_pos hblank
          · by_cases hsign : c = '#'
            · exact (ih true).of_eq fun u => (if_neg hblank).trans (if_pos hsign)
            · exact .part c rest fun u => (if_neg hblank).trans (if_neg hsign)

/-- The same holds of all that does not count. -/
theorem Flags.skips (f : Flags) (s : List Char) : Skips f.skip s := by
  cases hverbose : f.verbose with
  | true =>
      have heq : f.skip = skipComments false := by
        funext s
        rw [Flags.skip, if_pos hverbose]
      exact heq ▸ skips_comments false s
  | false =>
      have heq : ∀ s, f.skip s = s := fun s => if_neg (Bool.eq_false_iff.mp hverbose)
      cases s with
      | nil => exact .done fun u _ => heq u
      | cons c rest => exact .part c rest fun u => heq _

/-- A part that counts is reached, or nothing counts in a text, and then at most what follows is
    left. -/
theorem Flags.part_or_rest (f : Flags) (s : List Char) :
    (∃ c rest, ∀ u, f.skip (s ++ u) = c :: (rest ++ u)) ∨
      f.skip s = [] ∧ ∀ u, Closing u → (f.skip (s ++ u)).length ≤ u.length := by
  rcases f.skips s with ⟨c, rest, hpart⟩ | hdone | ⟨hinside, hquiet⟩
  · exact .inl ⟨c, rest, hpart⟩
  · have hnil := hdone [] closing_nil
    rw [List.append_nil] at hnil
    exact .inr ⟨hnil, fun u hu => Nat.le_of_eq (congrArg List.length (hdone u hu))⟩
  · have hnil := hquiet [] List.not_mem_nil
    rw [List.append_nil] at hnil
    exact .inr ⟨hnil, fun u _ => Nat.le_trans (hinside u).length_le (List.tail_suffix u).length_le⟩

/-- Where nothing counts, no more is left in front of what follows than that. -/
theorem length_skip_append_le {f : Flags} {s u : List Char} (hu : Closing u) (h : f.skip s = []) :
    (f.skip (s ++ u)).length ≤ u.length := by
  rcases f.part_or_rest s with ⟨c, rest, hpart⟩ | ⟨-, hrest⟩
  · have hnil := hpart []
    rw [List.append_nil, h] at hnil
    cases hnil
  · exact hrest u hu

/-- A sign that counts is not dropped. -/
theorem Flags.skip_cons (f : Flags) {c : Char} (hblank : Text.isBlank c = false) (hc : c ≠ '#')
    (rest : List Char) : f.skip (c :: rest) = c :: rest := by
  rw [Flags.skip]
  split
  · rw [skipComments, if_neg (Bool.eq_false_iff.mp hblank), if_neg hc]
  · rfl

/-! ## Readers -/

/-- Every result of a reader, every rest, and all that may follow. -/
def Anywhere {α : Type} (_ : α) (_ _ : List Char) : Prop := True

/-- A reader leaves an end of the text, and what it finds does not depend on what follows as
    long as it stops before that.  This may need a property of the result, of the rest, and of
    what is to follow instead. -/
structure Confined {α : Type} (P : α → List Char → List Char → Prop)
    (read : List Char → Option (α × List Char)) : Prop where
  suffix : ∀ {s x r}, read s = some (x, r) → r <:+ s
  swap : ∀ {s x r u v}, Closing u → Closing v → P x r v → read (s ++ u) = some (x, r ++ u) →
    read (s ++ v) = some (x, r ++ v)

/-- A confined reader that takes at least one character. -/
structure Consuming {α : Type} (P : α → List Char → List Char → Prop)
    (read : List Char → Option (α × List Char)) : Prop extends Confined P read where
  less : ∀ {s x r}, read s = some (x, r) → r.length < s.length

/-- Read on by the first character. -/
def onHead {α : Type} (k : Char → List Char → Option α) : List Char → Option α
  | [] => none
  | c :: rest => k c rest

/-- Read on behind a sign if it stands first, and from there if not. -/
def peek {α : Type} (c : Char) (k k' : List Char → Option α) (s : List Char) : Option α :=
  if s.head? = some c then k s.tail else k' s

theorem peek_cons_self {α : Type} (c : Char) (k k' : List Char → Option α) (rest : List Char) :
    peek c k k' (c :: rest) = k rest := if_pos rfl

/-- Without the sign, a choice by a sign goes the other way. -/
theorem peek_of_ne {α : Type} {c : Char} {s : List Char} (h : ∀ rest, s ≠ c :: rest)
    (k k' : List Char → Option α) : peek c k k' s = k' s := by
  refine if_neg fun hhead => ?_
  obtain ⟨rest, hrest⟩ := List.head?_eq_some_iff.mp hhead
  exact h rest hrest

theorem peek_cons_of_ne {α : Type} {c d : Char} (h : d ≠ c) (k k' : List Char → Option α)
    (rest : List Char) : peek c k k' (d :: rest) = k' (d :: rest) :=
  peek_of_ne (fun _ heq => h (List.cons.inj heq).1) k k'

/-- Read, and make something of what was found. -/
def pick {α β : Type} (read : List Char → Option (α × List Char)) (f : α → Option β)
    (s : List Char) : Option (β × List Char) :=
  (read s).bind fun found => (f found.1).map fun y => (y, found.2)

section

variable {α β : Type} {P : α → List Char → List Char → Prop}
  {Q : β → List Char → List Char → Prop}
  {read : List Char → Option (α × List Char)} {k : α → List Char → Option (β × List Char)}

/-- A choice by what was read is found by every reader that finds as much. -/
theorem pick_bound {read' : List Char → Option (α × List Char)} {f : α → Option β} {s : List Char}
    {found : β × List Char} (hread : pick read f s = some found)
    (h : ∀ found, read s = some found → read' s = some found) : pick read' f s = some found := by
  obtain ⟨first, hfirst, hfound⟩ := Option.bind_eq_some_iff.mp hread
  exact Option.bind_eq_some_iff.mpr ⟨first, h first hfirst, hfound⟩

/-- A reader that takes something does not reach into what follows without taking of it. -/
theorem Consuming.no_stay (h : Consuming P read) {x : α} {r t u : List Char}
    (hlength : t.length ≤ u.length) : read t ≠ some (x, r ++ u) := by
  intro hread
  have hless := h.less hread
  rw [List.length_append] at hless
  omega

/-- A reader that finds nothing is confined. -/
theorem confined_none : Confined P fun _ => none := ⟨nofun, nofun⟩

theorem consuming_none : Consuming P fun _ => none := ⟨confined_none, nofun⟩

theorem confined_some (x : α) : Confined P fun s => some (x, s) := by
  refine ⟨?_, ?_⟩
  · rintro s _ _ ⟨⟩
    exact List.suffix_refl _
  · intro s y r u v _ _ _ hread
    obtain ⟨rfl, hrest⟩ := Prod.mk.inj (Option.some.inj hread)
    rw [List.append_cancel_right hrest]

/-- A reader is confined under every weaker condition on what follows. -/
theorem Confined.mono {P' : α → List Char → List Char → Prop} (h : Confined P read)
    (hP : ∀ x r v, P' x r v → P x r v) : Confined P' read :=
  ⟨h.suffix, fun hu hv hx => h.swap hu hv (hP _ _ _ hx)⟩

/-- One reader after another: the second one supplies what the first one asks of its rest. -/
theorem Confined.bind (h : Confined P read) (hk : ∀ x, Confined Q (k x))
    (hP : ∀ {x t y r u v}, Closing u → Q y r v → k x (t ++ u) = some (y, r ++ u) → P x t v) :
    Confined Q fun s => (read s).bind fun found => k found.1 found.2 := by
  refine ⟨?_, ?_⟩
  · intro s y r hread
    obtain ⟨⟨x, t⟩, hfirst, hsecond⟩ := Option.bind_eq_some_iff.mp hread
    exact ((hk x).suffix hsecond).trans (h.suffix hfirst)
  · intro s y r u v hu hv hy hread
    obtain ⟨⟨x, t⟩, hfirst, hsecond⟩ := Option.bind_eq_some_iff.mp hread
    obtain ⟨t, rfl⟩ := exists_eq_append ((hk x).suffix hsecond)
    rw [h.swap hu hv (hP hu hy hsecond) hfirst]
    exact (hk x).swap hu hv hy hsecond

/-- One after the other, readers are confined, and the first of them takes a sign. -/
theorem Consuming.bind (h : Consuming P read) (hk : ∀ x, Confined Q (k x))
    (hP : ∀ {x t y r u v}, Closing u → Q y r v → k x (t ++ u) = some (y, r ++ u) → P x t v) :
    Consuming Q fun s => (read s).bind fun found => k found.1 found.2 := by
  refine ⟨h.toConfined.bind hk hP, ?_⟩
  intro s y r hread
  obtain ⟨⟨x, t⟩, hfirst, hsecond⟩ := Option.bind_eq_some_iff.mp hread
  exact Nat.lt_of_le_of_lt ((hk x).suffix hsecond).length_le (h.less hfirst)

/-- What is made of the result does not matter. -/
theorem Confined.map (h : Confined Anywhere read) (f : α → β) :
    Confined Q fun s => (read s).map fun found => (f found.1, found.2) := by
  have heq : (fun s => (read s).map fun found => (f found.1, found.2))
      = fun s => (read s).bind fun found => some (f found.1, found.2) := by
    funext s
    cases read s <;> rfl
  rw [heq]
  exact h.bind (fun x => confined_some (f x)) fun _ _ _ => trivial

/-- What is made only of results with a property asks for the property of them. -/
theorem Consuming.pickOf (h : Consuming P read) {f : α → Option β}
    (hf : ∀ {x y r v}, f x = some y → Q y r v → P x r v) : Consuming Q (Pattern.pick read f) := by
  refine h.bind (k := fun x s => (f x).map fun y => (y, s)) (fun x => ?_) fun _ hy hread => ?_
  · cases f x with
    | none => exact confined_none
    | some y => exact confined_some y
  · obtain ⟨y, hfound, heq⟩ := Option.map_eq_some_iff.mp hread
    obtain ⟨rfl, hrest⟩ := Prod.mk.inj heq
    rw [List.append_cancel_right hrest]
    exact hf hfound hy

/-- Nor does it matter if some results are refused. -/
theorem Consuming.pick (h : Consuming Anywhere read) (f : α → Option β) :
    Consuming Q (Pattern.pick read f) := h.pickOf fun _ _ => trivial

/-- A value that does not come from the text may be missing. -/
theorem Confined.value {γ : Type} {value : Option γ} {k : γ → List Char → Option (α × List Char)}
    (h : ∀ z, Confined P (k z)) : Confined P fun s => value.bind fun z => k z s := by
  cases value with
  | none => exact confined_none
  | some z => exact h z

/-- A choice by a condition that does not hang on the text is confined if both ways are. -/
theorem Confined.iteOf {c : Prop} [Decidable c] {k k' : List Char → Option (α × List Char)}
    (h : c → Confined P k) (h' : Confined P k') : Confined P fun s => if c then k s else k' s := by
  by_cases hc : c
  · simp only [if_pos hc]
    exact h hc
  · simp only [if_neg hc]
    exact h'

theorem Confined.iteProp {c : Prop} [Decidable c] {k k' : List Char → Option (α × List Char)}
    (h : Confined P k) (h' : Confined P k') : Confined P fun s => if c then k s else k' s :=
  .iteOf (fun _ => h) h'

/-- A reader that takes something is confined behind the first character that it takes. -/
theorem Consuming.behind (h : Consuming P read) (c : Char) :
    Confined P fun rest => read (c :: rest) := by
  refine ⟨?_, fun hu hv hx hread => h.swap (s := c :: _) hu hv hx hread⟩
  intro s x r hread
  rcases List.suffix_cons_iff.mp (h.suffix hread) with heq | hsuffix
  · have hless := h.less hread
    rw [heq] at hless
    exact absurd hless (Nat.lt_irrefl _)
  · exact hsuffix

/-- A reader that looks at the first sign takes it. -/
theorem Consuming.head {k : Char → List Char → Option (α × List Char)}
    (h : ∀ c, Confined P (k c)) : Consuming P (onHead k) := by
  have hless : ∀ {s x r}, onHead k s = some (x, r) → r.length < s.length := by
    intro s x r hread
    cases s with
    | nil => cases hread
    | cons c rest => exact Nat.lt_succ_of_le ((h c).suffix hread).length_le
  refine ⟨⟨?_, ?_⟩, hless⟩
  · intro s x r hread
    cases s with
    | nil => cases hread
    | cons c rest => exact ((h c).suffix hread).trans (List.suffix_cons c rest)
  · intro s x r u v hu hv hx hread
    cases s with
    | nil =>
        have hlt := hless hread
        rw [List.nil_append, List.length_append] at hlt
        omega
    | cons c rest => exact (h c).swap hu hv hx hread

/-- A choice by a sign other than the parenthesis is confined if both ways are. -/
theorem Confined.peek {c : Char} (hc : c ≠ ')') {k k' : List Char → Option (α × List Char)}
    (h : Confined P k) (h' : Confined P k') : Confined P (peek c k k') := by
  refine ⟨?_, ?_⟩
  · intro s x r hread
    rw [Pattern.peek] at hread
    split at hread
    · exact (h.suffix hread).trans (List.tail_suffix s)
    · exact h'.suffix hread
  · intro s x r u v hu hv hx hread
    rw [Pattern.peek] at hread ⊢
    by_cases hhead : s.head? = some c
    · rw [if_pos ((head?_append_closing hc hu).mpr hhead)] at hread
      rw [if_pos ((head?_append_closing hc hv).mpr hhead)]
      cases s with
      | nil => cases hhead
      | cons d rest => exact h.swap hu hv hx hread
    · rw [if_neg (mt (head?_append_closing hc hu).mp hhead)] at hread
      rw [if_neg (mt (head?_append_closing hc hv).mp hhead)]
      exact h'.swap hu hv hx hread

/-- It takes a sign if the other way does. -/
theorem Consuming.peek {c : Char} (hc : c ≠ ')') {k k' : List Char → Option (α × List Char)}
    (h : Confined P k) (h' : Consuming P k') : Consuming P (peek c k k') := by
  refine ⟨h.peek hc h'.toConfined, ?_⟩
  intro s x r hread
  rw [Pattern.peek] at hread
  by_cases hhead : s.head? = some c
  · rw [if_pos hhead] at hread
    cases s with
    | nil => cases hhead
    | cons d rest => exact Nat.lt_succ_of_le (h.suffix hread).length_le
  · rw [if_neg hhead] at hread
    exact h'.less hread

/-- Skipping first changes nothing: a reader that takes something reaches a part. -/
theorem Consuming.skip (f : Flags) (h : Consuming P read) : Consuming P fun s => read (f.skip s) := by
  refine ⟨⟨fun hread => (h.suffix hread).trans (f.skip_suffix _), ?_⟩,
    fun hread => Nat.lt_of_lt_of_le (h.less hread) (f.skip_suffix _).length_le⟩
  intro s x r u v hu hv hx hread
  rcases f.part_or_rest s with ⟨c, rest, hpart⟩ | ⟨-, hrest⟩
  · rw [hpart] at hread ⊢
    exact h.swap (s := c :: rest) hu hv hx hread
  · exact absurd hread (h.no_stay (hrest u hu))

/-- What a reader finds behind the first part is found with another bound, too. -/
theorem onHead_bound {k k' : Char → List Char → Option α} {f : Flags} {s : List Char} {n : Nat}
    {found : α} (hread : onHead k (f.skip s) = some found) (hn : s.length < n + 1)
    (hk : ∀ c rest, rest.length < n → k c rest = some found → k' c rest = some found) :
    onHead k' (f.skip s) = some found := by
  have hsuffix := (f.skip_suffix s).length_le
  cases hskip : f.skip s with
  | nil =>
      rw [hskip] at hread
      cases hread
  | cons c rest =>
      rw [hskip] at hread hsuffix
      exact hk c rest (Nat.lt_of_lt_of_le hsuffix (Nat.le_of_lt_succ hn)) hread

/-- The length of the text is a bound on the steps that can be made. -/
theorem Confined.bounded {R : Nat → List Char → Option (α × List Char)}
    (h : ∀ n, Confined P (R n))
    (hbound : ∀ {m n s found}, R m s = some found → s.length < n → R n s = some found) :
    Confined P fun s => R (s.length + 1) s :=
  ⟨(h _).suffix, fun hu hv hx hread => hbound ((h _).swap hu hv hx hread) (Nat.lt_succ_self _)⟩

/-- The same, for a loop whose first step takes a sign. -/
theorem Consuming.bounded {R : Nat → List Char → Option (α × List Char)}
    (h : ∀ n, Consuming P (R n))
    (hbound : ∀ {m n s found}, R m s = some found → s.length < n → R n s = some found) :
    Consuming P fun s => R (s.length + 1) s :=
  ⟨.bounded (fun n => (h n).toConfined) hbound, (h _).less⟩

end

end AccessGate.Pattern
