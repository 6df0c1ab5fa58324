import AccessGate.Proofs.PatternClasses

/-! # What a body comes to, whatever closes it

    A body is read part by part.  Between two parts, two things may be open that what follows
    could close: a brace behind the test of a position, and a comment behind a repetition, where
    a mark of preference is looked for.  The first one is excluded by the rest of the body, which
    cannot be read then (`not_openBrace`).  The second one is left as a case of its own: the text
    ends inside of a comment, and the comment takes in what follows (`readBody_swap`). -/

namespace AccessGate.Pattern

/-! ## Repetitions -/

/-- It is enough that what follows is added to the rest. -/
theorem Confined.of_append {α : Type} {P : α → List Char → List Char → Prop}
    {read : List Char → Option (α × List Char)}
    (hsuffix : ∀ {s x r}, read s = some (x, r) → r <:+ s)
    (happend : ∀ {s u}, Closing u →
      read (s ++ u) = (read s).map fun found => (found.1, found.2 ++ u)) : Confined P read := by
  refine ⟨hsuffix, ?_⟩
  intro s x r u v hu hv _ hread
  rw [happend hu] at hread
  obtain ⟨found, hfound, heq⟩ := Option.map_eq_some_iff.mp hread
  obtain ⟨rfl, hrest⟩ := Prod.mk.inj heq
  rw [happend hv, hfound, ← List.append_cancel_right hrest]
  rfl

/-- A reader stops inside of the text. -/
def Inside {α : Type} (_ : α) (rest _ : List Char) : Prop := rest ≠ []

section

variable {α β : Type} {P : α → List Char → List Char → Prop}
  {Q : β → List Char → List Char → Prop} {f : Flags} {p : Char → Bool}
  {read : List Char → Option (α × List Char)} {k : List Char → Option (β × List Char)}

/-- What stops inside of a text has something of it to read. -/
theorem Confined.inside (h : Confined Q k) {t r u : List Char} {y : β}
    (hread : k (t ++ u) = some (y, r ++ u)) (hr : r ≠ []) : t ≠ [] := by
  rintro rfl
  have hlength := (h.suffix hread).length_le
  have hpos := List.length_pos_iff.mpr hr
  rw [List.nil_append, List.length_append] at hlength
  omega

/-- What takes a sign has one to take. -/
theorem Consuming.inside (h : Consuming Q k) {t r u : List Char} {y : β}
    (hread : k (t ++ u) = some (y, r ++ u)) : t ≠ [] := by
  rintro rfl
  exact h.no_stay (Nat.le_refl _) hread

/-- A reader that stops inside of the text may skip first. -/
theorem Confined.skipInside (h : Confined Inside read) (f : Flags) :
    Confined Inside fun s => read (f.skip s) := by
  refine ⟨fun hread => (h.suffix hread).trans (f.skip_suffix _), ?_⟩
  intro s x r u v hu hv hr hread
  rcases f.part_or_rest s with ⟨c, rest, hpart⟩ | ⟨-, hrest⟩
  · rw [hpart] at hread ⊢
    exact h.swap (s := c :: rest) hu hv hr hread
  · have hlength := (h.suffix hread).length_le
    have hlength' := hrest u hu
    have hpos := List.length_pos_iff.mpr hr
    rw [List.length_append] at hlength
    omega

/-- Signs that are no parenthesis may be dropped before a reader. -/
theorem Consuming.dropWhile (h : Consuming P read) (hp : p ')' = false) :
    Consuming P fun s => read (s.dropWhile p) := by
  refine ⟨⟨fun hread => (h.suffix hread).trans (List.dropWhile_suffix p), ?_⟩, fun hread =>
    Nat.lt_of_lt_of_le (h.less hread) (List.dropWhile_suffix p).length_le⟩
  intro s x r u v hu hv hx hread
  rw [dropWhile_append_closing hp hu] at hread
  rw [dropWhile_append_closing hp hv]
  exact h.swap hu hv hx hread

/-- To pass over signs other than the parenthesis is confined. -/
theorem confined_dropWhile (hp : p ')' = false) (x : α) :
    Confined P fun s => some (x, s.dropWhile p) := by
  refine .of_append ?_ fun hu => ?_
  · rintro s _ _ ⟨⟩
    exact List.dropWhile_suffix p
  · rw [dropWhile_append_closing hp hu]
    rfl

end

section

variable {f : Flags} {m n acc : Nat} {s r : List Char}

/-- Digits leave an end of the text. -/
theorem readDigits_suffix {x : Nat} (hread : readDigits f n acc s = some (x, r)) : r <:+ s := by
  induction n generalizing acc s with
  | zero => cases hread
  | succ n ih =>
      cases s with
      | nil => cases hread
      | cons c rest =>
          rw [readDigits] at hread
          split at hread
          · exact ((ih hread).trans (f.skip_suffix rest)).trans (List.suffix_cons c rest)
          · cases hread
            exact List.suffix_refl _

/-- Digits are read up to a sign of the text, whatever follows that. -/
theorem confined_readDigits (f : Flags) (n acc : Nat) : Confined Inside (readDigits f n acc) := by
  induction n generalizing acc with
  | zero => exact confined_none
  | succ n ih =>
      refine ⟨readDigits_suffix, ?_⟩
      intro s x r u v hu hv hr hread
      cases s with
      | nil =>
          have hlength := (readDigits_suffix hread).length_le
          have hpos := List.length_pos_iff.mpr hr
          rw [List.nil_append, List.length_append] at hlength
          omega
      | cons c rest =>
          rw [List.cons_append, readDigits] at hread ⊢
          by_cases hc : c.isDigit = true
          · rw [if_pos hc] at hread ⊢
            exact ((ih _).skipInside f).swap hu hv hr hread
          · rw [if_neg hc] at hread ⊢
            obtain ⟨rfl, hrest⟩ := Prod.mk.inj (Option.some.inj hread)
            have hrest' : c :: rest ++ u = r ++ u := hrest
            rw [← List.append_cancel_right hrest']
            rfl

/-- Digits take no more steps than the text has characters. -/
theorem readDigits_bound {found : Nat × List Char} (hread : readDigits f m acc s = some found)
    (hn : s.length < n) : readDigits f n acc s = some found := by
  induction m generalizing n acc s with
  | zero => cases hread
  | succ m ih =>
      cases n with
      | zero => exact absurd hn (Nat.not_lt_zero _)
      | succ n =>
          cases s with
          | nil => cases hread
          | cons c rest =>
              have hlength := (f.skip_suffix rest).length_le
              rw [readDigits] at hread ⊢
              split at hread
              · rw [if_pos (by assumption)]
                exact ih hread (Nat.lt_of_le_of_lt hlength (Nat.lt_of_succ_lt_succ hn))
              · rwa [if_neg (by assumption)]

end

/-- A number begins with a digit behind the blanks. -/
theorem readCount_eq (f : Flags) (s : List Char) :
    readCount f s = onHead (fun c rest =>
      if c.isDigit then
        (readDigits f (rest.length + 1) (c.toNat - 48) (f.skip rest)).bind fun found =>
          if found.1 < UInt32.size then some (found.1, found.2.dropWhile Text.isBlank) else none
      else none) (s.dropWhile Text.isBlank) := by
  rw [readCount]
  cases s.dropWhile Text.isBlank <;> rfl

/-- A number is read up to a sign of the text that is no blank. -/
theorem consuming_readCount (f : Flags) : Consuming Inside (readCount f) := by
  rw [funext (readCount_eq f)]
  refine Consuming.dropWhile (.head fun c => .iteProp ?_ confined_none) (by decide)
  have hdigits : Confined Inside fun rest =>
      readDigits f (rest.length + 1) (c.toNat - 48) (f.skip rest) :=
    Confined.bounded (fun n => (confined_readDigits f n (c.toNat - 48)).skipInside f)
      fun hread hn => readDigits_bound hread (Nat.lt_of_le_of_lt (f.skip_suffix _).length_le hn)
  have hblanks : ∀ n : Nat, Confined Inside fun s : List Char =>
      if n < UInt32.size then some (n, s.dropWhile Text.isBlank) else none := fun n =>
    .iteProp (confined_dropWhile (by decide) n) confined_none
  exact hdigits.bind hblanks fun _ hr hread => (hblanks _).inside hread hr

/-- The bounds of a repetition after its first number. -/
def boundsFrom (f : Flags) (least : Nat) : List Char → Option ((Nat × Option Nat) × List Char) :=
  onHead fun c rest =>
    if c = '\x7d' then some ((least, some least), rest)
    else if c = ',' then
      peek '\x7d' (fun rest => some ((least, none), rest))
        (fun s => (readCount f s).bind fun most =>
          onHead (fun c rest =>
            if c = '\x7d' then
              if least ≤ most.1 then some ((least, some most.1), rest) else none
            else none) most.2) (f.skip rest)
    else none

/-- Bounds are a number and what goes on from it. -/
theorem readBounds_eq (f : Flags) (s : List Char) :
    readBounds f s = ((readCount f (f.skip s)).bind fun least => boundsFrom f least.1 least.2).map
      fun found => (found.1.1, found.1.2, found.2) := by
  rw [readBounds]
  cases readCount f (f.skip s) with
  | none => rfl
  | some found =>
      obtain ⟨least, t⟩ := found
      rw [Option.bind_some, boundsFrom]
      dsimp only [bind, Option.bind_some]
      split
      · rfl
      · rename_i rest
        rw [onHead, if_neg (by decide), if_pos rfl]
        rcases cons_or_ne '\x7d' (f.skip rest) with ⟨more, hmore⟩ | hopen
        · rw [hmore]
          rfl
        · rw [peek_of_ne hopen]
          split
          · rename_i more hmore
            exact absurd hmore (hopen more)
          · cases readCount f (f.skip rest) with
            | none => rfl
            | some found =>
                obtain ⟨most, t⟩ := found
                dsimp only [Option.bind_some]
                split
                · rename_i more
                  rw [onHead, if_pos rfl]
                  by_cases hle : least ≤ most
                  · rw [if_pos hle, if_pos hle]
                    rfl
                  · rw [if_neg hle, if_neg hle]
                    rfl
                · rename_i hne
                  cases t with
                  | nil => rfl
                  | cons c more =>
                      have hc : c ≠ '\x7d' := fun h => hne more (h ▸ rfl)
                      rw [onHead, if_neg hc]
                      rfl
      · rename_i hclose hcomma
        cases t with
        | nil => rfl
        | cons c rest =>
            have hc : c ≠ '\x7d' := fun h => hclose rest (h ▸ rfl)
            have hc' : c ≠ ',' := fun h => hcomma rest (h ▸ rfl)
            rw [onHead, if_neg hc, if_neg hc']
            rfl

/-- Bounds are read whatever follows their brace. -/
theorem consuming_bounds (f : Flags) :
    Consuming Anywhere fun s => (readCount f s).bind fun least => boundsFrom f least.1 least.2 := by
  have hmost : ∀ least, Consuming Anywhere fun s => (readCount f s).bind fun most =>
      onHead (fun c rest =>
        if c = '\x7d' then
          if least ≤ most.1 then some ((least, some most.1), rest) else none
        else none) most.2 := by
    intro least
    have hclose : ∀ most, Consuming Anywhere (onHead fun c rest =>
        if c = '\x7d' then if least ≤ most then some ((least, some most), rest) else none
        else none) := fun most =>
      .head fun c => .iteProp (.iteProp (confined_some _) confined_none) confined_none
    exact (consuming_readCount f).bind (fun most => (hclose most).toConfined)
      fun _ _ hread => (hclose _).inside hread
  have hfrom : ∀ least, Consuming Anywhere (boundsFrom f least) := fun least =>
    .head fun c => .iteProp (confined_some _) (.iteProp
      (Consuming.skip f (.peek (by decide) (confined_some _) (hmost least))).toConfined
      confined_none)
  exact (consuming_readCount f).bind (fun least => (hfrom least).toConfined)
    fun _ _ hread => (hfrom _).inside hread

theorem dropPreference_of_ne {s : List Char} (h : ∀ rest, s ≠ '?' :: rest) :
    dropPreference s = s := by
  unfold dropPreference
  split
  · exact absurd rfl (h _)
  · rfl

/-- A mark that says which match is preferred is looked for right behind a sign of repetition. -/
theorem confined_dropPreference {α : Type} {P : α → List Char → List Char → Prop} (x : α) :
    Confined P fun s => some (x, dropPreference s) := by
  refine .of_append ?_ fun {s u} hu => ?_
  · rintro s _ _ ⟨⟩
    rcases cons_or_ne '?' s with ⟨rest, rfl⟩ | hne
    · exact List.suffix_cons '?' rest
    · simp only [dropPreference_of_ne hne, List.suffix_refl]
  · rcases cons_or_ne '?' s with ⟨rest, rfl⟩ | hne
    · rfl
    · rw [dropPreference_of_ne hne, dropPreference_of_ne (append_ne_cons (by decide) hu hne)]
      rfl

/-- A text ends inside of a comment. -/
def Unfinished (f : Flags) (s : List Char) : Prop := ∀ u, f.skip (s ++ u) <:+ u.tail

/-- Behind bounds, a mark of preference is looked for behind a comment, too. -/
theorem confined_skipPreference {α : Type} {P : α → List Char → List Char → Prop} {f : Flags} {x : α}
    (hP : ∀ {r v}, P x r v → '\n' ∈ v → ¬ Unfinished f r) :
    Confined P fun s => some (x, skipPreference f s) := by
  have hmark : ∀ {s rest}, f.skip s = '?' :: rest → skipPreference f s = rest := by
    intro s rest hskip
    rw [skipPreference, hskip]
    rfl
  have hplain : ∀ {s}, (∀ rest, f.skip s ≠ '?' :: rest) → skipPreference f s = s := by
    intro s hne
    rw [skipPreference]
    split
    · rename_i rest hskip
      exact absurd hskip (hne rest)
    · rfl
  refine ⟨?_, ?_⟩
  · rintro s _ _ ⟨⟩
    rcases cons_or_ne '?' (f.skip s) with ⟨rest, hrest⟩ | hskip
    · rw [hmark hrest]
      exact (List.suffix_cons '?' rest).trans (hrest ▸ f.skip_suffix s)
    · exact (hplain hskip).symm ▸ List.suffix_refl s
  · intro s y r u v hu hv hy hread
    obtain ⟨rfl, hrest⟩ := Prod.mk.inj (Option.some.inj hread)
    refine congrArg (fun t => some (x, t)) ?_
    rcases f.skips s with ⟨c, rest, hpart⟩ | hdone | ⟨hinside, hquiet⟩
    · by_cases hc : c = '?'
      · subst hc
        rw [hmark (hpart u)] at hrest
        rw [hmark (hpart v), List.append_cancel_right hrest]
      · have hne : ∀ w rest, f.skip (s ++ w) ≠ '?' :: rest := fun w rest h =>
          hc (List.cons.inj ((hpart w).symm.trans h)).1
        rw [hplain (hne u)] at hrest
        rw [hplain (hne v), List.append_cancel_right hrest]
    · have hne : ∀ w rest, Closing w → f.skip (s ++ w) ≠ '?' :: rest := by
        intro w rest hw h
        rw [hdone w hw] at h
        subst h
        exact absurd (hw '?' rfl) (by decide)
      rw [hplain fun rest => hne u rest hu] at hrest
      rw [hplain fun rest => hne v rest hv, List.append_cancel_right hrest]
    · rcases cons_or_ne '?' (f.skip (s ++ u)) with ⟨rest, hmore⟩ | hskip
      · -- a mark behind the comment stands behind the text, too
        rw [hmark hmore] at hrest
        have hlength := (hinside u).length_le
        rw [hmore, hrest, List.length_cons, List.length_append, List.length_tail] at hlength
        omega
      · rw [hplain hskip] at hrest
        obtain rfl : s = r := List.append_cancel_right hrest
        have hne : ∀ rest, f.skip (s ++ v) ≠ '?' :: rest := by
          intro rest h
          rw [hquiet v fun hline => hP hy hline hinside] at h
          cases h
        exact hplain hne

/-! ## Names and flags of groups -/

/-- What comes of the name of a group and of what stands behind it. -/
def closeName (name : List Char) : List Char → Option (String × List Char) :=
  onHead fun c rest =>
    if c = '>' then
      match name with
      | [] => none
      | c :: more =>
        if isNameChar true c && more.all (isNameChar false) then some (String.ofList name, rest)
        else none
    else none

/-- A name goes up to its bracket. -/
theorem readName_eq (s : List Char) :
    readName s = closeName (s.takeWhile (· != '>')) (s.dropWhile (· != '>')) := by
  rw [← drop_length_takeWhile, readName]
  generalize s.takeWhile (· != '>') = name
  cases s.drop name.length with
  | nil => cases name <;> rfl
  | cons c rest =>
      rw [closeName, onHead]
      by_cases hc : c = '>'
      · subst hc
        rw [if_pos rfl]
        cases name <;> rfl
      · rw [if_neg hc]
        cases name with
        | nil => rfl
        | cons d more =>
            split
            · rename_i heq
              exact absurd (List.cons.inj heq).1 hc
            · rfl

theorem consuming_closeName (name : List Char) : Consuming Anywhere (closeName name) := by
  refine .head fun c => .iteProp ?_ confined_none
  cases name with
  | nil => exact confined_none
  | cons c more => exact .iteProp (confined_some _) confined_none

/-- A name is read whatever follows its bracket. -/
theorem consuming_readName : Consuming Anywhere readName := by
  have hclose := fun name => consuming_closeName name
  refine ⟨⟨?_, ?_⟩, ?_⟩
  · intro s x r hread
    rw [readName_eq] at hread
    exact ((hclose _).suffix hread).trans (List.dropWhile_suffix _)
  · intro s x r u v hu hv _ hread
    by_cases hmark : '>' ∈ s
    · obtain ⟨front, back, rfl, hfront⟩ := List.eq_append_cons_of_mem hmark
      have hname : ∀ t, readName (front ++ '>' :: t) = closeName front ('>' :: t) := by
        intro t
        rw [readName_eq, takeWhile_bne_append hfront, dropWhile_bne_append hfront]
      rw [List.append_assoc, List.cons_append, hname] at hread ⊢
      exact (hclose front).swap (s := '>' :: back) hu hv trivial hread
    · rw [readName_eq, List.dropWhile_append_of_pos (bne_of_not_mem hmark)] at hread
      exact absurd hread ((hclose _).no_stay (List.dropWhile_suffix _).length_le)
  · intro s x r hread
    rw [readName_eq] at hread
    exact Nat.lt_of_lt_of_le ((hclose _).less hread) (List.dropWhile_suffix _).length_le

/-- What the opening of a group says, apart from where it ends. -/
inductive Heading where
  | group (flags : Flags) (name : Option String)
  | flags (flags : Flags)

/-- The parts of an opening. -/
def Opening.parts : Opening → Heading × List Char
  | .group f name rest => (.group f name, rest)
  | .flags f rest => (.flags f, rest)

/-- What flags open, by the sign that ends them. -/
def endFlags : Option (Bool × Flags × List Char) → Option (Heading × List Char)
  | some (_, g, ':' :: rest) => some (.group g none, rest)
  | some (true, g, ')' :: rest) => some (.flags g, rest)
  | _ => none

/-- The heading that a sign makes of flags. -/
def headingOf (f : Flags) (any : Bool) (c : Char) : Option Heading :=
  if c = ':' then some (.group f none)
  else if c = ')' ∧ any = true then some (.flags f)
  else none

theorem endFlags_some (f : Flags) (any : Bool) (c : Char) (rest : List Char) :
    endFlags (some (any, f, c :: rest)) = (headingOf f any c).map fun x => (x, rest) := by
  rw [headingOf]
  by_cases hcolon : c = ':'
  · subst hcolon
    rfl
  · rw [if_neg hcolon]
    by_cases hparen : c = ')' ∧ any = true
    · obtain ⟨rfl, rfl⟩ := hparen
      rfl
    · rw [if_neg hparen, endFlags]
      · rfl
      · rintro any' g more heq
        cases heq
        exact hcolon rfl
      · rintro g more heq
        cases heq
        exact hparen ⟨rfl, rfl⟩

theorem endFlags_cons (f : Flags) (seen : List Char) (on : Bool) (c : Char) (rest : List Char) :
    endFlags (readFlags f seen on (c :: rest)) =
      if c = ':' ∨ c = ')' then
        if seen.head? = some '-' then none
        else (headingOf f (!seen.isEmpty) c).map fun x => (x, rest)
      else if seen.contains c then none
      else if c = '-' then endFlags (readFlags f (c :: seen) false rest)
      else (f.switch? on c).bind fun g => endFlags (readFlags g (c :: seen) on rest) := by
  rw [readFlags, ← endFlags_some]
  split
  · split <;> rfl
  · split
    · rfl
    · split
      · rfl
      · cases f.switch? on c <;> rfl

/-- Flags leave less than there was. -/
theorem endFlags_spec {f : Flags} {seen s r : List Char} {on : Bool} {x : Heading}
    (hread : endFlags (readFlags f seen on s) = some (x, r)) : r <:+ s ∧ r.length < s.length := by
  induction s generalizing f seen on with
  | nil => cases hread
  | cons c rest ih =>
      have hmore : ∀ {g seen on}, endFlags (readFlags g seen on rest) = some (x, r) →
          r <:+ c :: rest ∧ r.length < (c :: rest).length := fun h =>
        ⟨(ih h).1.trans (List.suffix_cons c rest), Nat.lt_succ_of_lt (ih h).2⟩
      rw [endFlags_cons] at hread
      split at hread
      · split at hread
        · cases hread
        · obtain ⟨_, -, heq⟩ := Option.map_eq_some_iff.mp hread
          obtain rfl := (Prod.mk.inj heq).2
          exact ⟨List.suffix_cons c _, Nat.lt_succ_self _⟩
      · split at hread
        · cases hread
        · split at hread
          · exact hmore hread
          · obtain ⟨g, -, hflags⟩ := Option.bind_eq_some_iff.mp hread
            exact hmore hflags

/-- Flags are read whatever follows the sign that ends them. -/
theorem consuming_flags (f : Flags) (seen : List Char) (on : Bool) :
    Consuming Anywhere fun s => endFlags (readFlags f seen on s) := by
  refine ⟨⟨fun hread => (endFlags_spec hread).1, ?_⟩, fun hread => (endFlags_spec hread).2⟩
  intro s x r u v hu hv _ hread
  induction s generalizing f seen on with
  | nil =>
      have hlength := (endFlags_spec hread).2
      rw [List.nil_append, List.length_append] at hlength
      omega
  | cons c rest ih =>
      rw [List.cons_append, endFlags_cons] at hread ⊢
      split at hread
      · rename_i hend
        rw [if_pos hend]
        split at hread
        · cases hread
        · rename_i hsign
          obtain ⟨y, hy, heq⟩ := Option.map_eq_some_iff.mp hread
          obtain ⟨rfl, hrest⟩ := Prod.mk.inj heq
          rw [if_neg hsign, hy, List.append_cancel_right hrest]
          rfl
      · rename_i hend
        rw [if_neg hend]
        split at hread
        · cases hread
        · rename_i hseen
          rw [if_neg hseen]
          split at hread
          · rename_i hsign
            rw [if_pos hsign]
            exact ih _ _ _ hread
          · rename_i hsign
            rw [if_neg hsign]
            obtain ⟨g, hg, hflags⟩ := Option.bind_eq_some_iff.mp hread
            rw [hg]
            exact ih _ _ _ hflags

/-! ## Openings -/

/-- Read the name of a group, and open it. -/
def readNamed (f : Flags) : List Char → Option (Heading × List Char) :=
  pick readName fun name => some (.group f (some name))

/-- Read an opening after its question mark. -/
def readMarked (f : Flags) : List Char → Option (Heading × List Char) :=
  peek '=' (fun _ => none) (peek '!' (fun _ => none)
    (peek 'P' (peek '<' (readNamed f) fun _ => none)
      (peek '<' (peek '=' (fun _ => none) (peek '!' (fun _ => none) (readNamed f)))
        fun s => endFlags (readFlags f [] true s))))

/-- What an opening says behind its question mark is read whatever follows. -/
theorem consuming_readMarked (f : Flags) : Consuming Anywhere (readMarked f) := by
  have hnamed : Consuming Anywhere (readNamed f) := consuming_readName.pick _
  refine .peek (by decide) confined_none (.peek (by decide) confined_none
    (.peek (by decide) (.peek (by decide) hnamed.toConfined confined_none)
      (.peek (by decide) ?_ (consuming_flags f [] true))))
  exact .peek (by decide) confined_none (.peek (by decide) confined_none hnamed.toConfined)

/-- An opening is a question mark with what follows, or nothing. -/
theorem readOpen_eq (f : Flags) (s : List Char) :
    (readOpen f s).map Opening.parts =
      peek '?' (readMarked f) (fun t => some (.group f none, t)) (f.skip s) := by
  rw [readOpen]
  split
  · rename_i hskip
    rw [hskip]
    rfl
  · rename_i hskip
    rw [hskip]
    rfl
  · rename_i hskip
    rw [hskip]
    rfl
  · rename_i hskip
    rw [hskip]
    rfl
  · rename_i rest hskip
    rw [hskip]
    show _ = readNamed f rest
    rw [readNamed, pick]
    cases readName rest <;> rfl
  · rename_i rest hequal hbang hskip
    rw [hskip, peek_cons_self, readMarked, peek_cons_of_ne (by decide),
      peek_cons_of_ne (by decide), peek_cons_of_ne (by decide), peek_cons_self,
      peek_of_ne hequal, peek_of_ne hbang, readNamed, pick]
    cases readName rest <;> rfl
  · rename_i rest hequal hbang hbehind hbehind' hnamed hless hskip
    have hflags : ∀ found : Option (Bool × Flags × List Char), Option.map Opening.parts (match found with
        | some (_, g, ':' :: rest) => some (.group g none rest)
        | some (true, g, ')' :: rest) => some (.flags g rest)
        | _ => none) = endFlags found := by
      intro found
      rw [endFlags.eq_def]
      split <;> rfl
    rw [hskip, peek_cons_self, readMarked, peek_of_ne hequal, peek_of_ne hbang]
    rcases cons_or_ne 'P' rest with ⟨more, rfl⟩ | hsign
    · have hne : ∀ t, more ≠ '<' :: t := fun t h => hnamed t (h ▸ rfl)
      rw [peek_cons_self, peek_of_ne hne]
      refine (hflags (readFlags f [] true ('P' :: more))).trans ?_
      rw [endFlags_cons]
      rfl
    · rw [peek_of_ne hsign, peek_of_ne hless]
      exact hflags _
  · rename_i hmarked
    rw [peek_of_ne hmarked]
    rfl

/-- A group is not left at the end of a text. -/
def Entered (heading : Heading) (rest : List Char) : Prop :=
  ∀ f name, heading = .group f name → rest ≠ []

/-- An opening is confined unless a group has nothing behind it. -/
theorem confined_readOpen (f : Flags) :
    Confined (fun heading rest _ => Entered heading rest) fun s => (readOpen f s).map Opening.parts := by
  have hmarked := consuming_readMarked f
  rw [funext (readOpen_eq f)]
  refine ⟨?_, ?_⟩
  · intro s x r hread
    refine List.IsSuffix.trans ?_ (f.skip_suffix s)
    rw [peek] at hread
    split at hread
    · exact (hmarked.suffix hread).trans (List.tail_suffix _)
    · cases hread
      exact List.suffix_refl _
  · intro s x r u v hu hv hr hread
    -- nothing follows an opening that reaches into what stands behind the text
    have hstay : ∀ {t : List Char}, t.length ≤ u.length →
        peek '?' (readMarked f) (fun t => some (.group f none, t)) t ≠ some (x, r ++ u) := by
      intro t hlength hopen
      rw [peek] at hopen
      split at hopen
      · exact hmarked.no_stay (Nat.le_trans (List.tail_suffix t).length_le hlength) hopen
      · obtain ⟨rfl, rfl⟩ := Prod.mk.inj (Option.some.inj hopen)
        have hpos := List.length_pos_iff.mpr (hr _ _ rfl)
        rw [List.length_append] at hlength
        omega
    rcases f.part_or_rest s with ⟨c, rest, hpart⟩ | ⟨-, hrest⟩
    · rw [hpart] at hread ⊢
      by_cases hc : c = '?'
      · subst hc
        rw [peek_cons_self] at hread ⊢
        exact hmarked.swap hu hv trivial hread
      · rw [peek_cons_of_ne hc] at hread
        obtain ⟨rfl, hrest⟩ := Prod.mk.inj (Option.some.inj hread)
        have hrest' : c :: rest ++ u = r ++ u := hrest
        rw [peek_cons_of_ne hc, ← List.append_cancel_right hrest']
        rfl
    · exact absurd hread (hstay (hrest u hu))

/-! ## Bodies -/

/-- Repeat the last part, and drop the mark behind the repetition. -/
def Body.repeated (b : Body) (drop : Flags → List Char → List Char) (least : Nat) (most : Option Nat)
    (rest : List Char) : Option (Body × List Char) :=
  (b.repeatLast least most).bind fun b => some (b, drop b.flags rest)

/-- What a character that is no parenthesis does to a body. -/
def Body.step (b : Body) (c : Char) (rest : List Char) : Option (Body × List Char) :=
  if c = '|' then some (b.nextChoice, rest)
  else if c = '[' then pick (readClass b.flags) (fun x => some (b.push ⟨.set x.value, x.depth⟩)) rest
  else if c = '?' then b.repeated (fun _ => dropPreference) 0 (some 1) rest
  else if c = '*' then b.repeated (fun _ => dropPreference) 0 none rest
  else if c = '+' then b.repeated (fun _ => dropPreference) 1 none rest
  else if c = '\x7b' then
    ((readCount b.flags (b.flags.skip rest)).bind fun least => boundsFrom b.flags least.1 least.2).bind
      fun found => b.repeated skipPreference found.1.1 found.1.2 found.2
  else if c = '.' then b.flags.dot?.bind fun p => some (b.pushFlat p, rest)
  else if c = '^' then some (b.pushFlat (.look b.flags.startLook), rest)
  else if c = '$' then some (b.pushFlat (.look b.flags.endLook), rest)
  else if c = '\\' then
    pick (readEscape b.flags) (fun atom => (b.flags.part? atom).map b.pushFlat) rest
  else (b.flags.part? (.char c false)).bind fun p => some (b.pushFlat p, rest)

/-- Read on behind an opening parenthesis. -/
def readGroup (n : Nat) (b : Body) (rest : List Char) :
    Option (Nested Pattern × List String × List Char) :=
  match (readOpen b.flags rest).map Opening.parts with
  | some (.flags f, rest) => readBody n (b.setFlags f) rest
  | some (.group f name, rest) =>
    if name.any b.names.contains then none
    else
      match readBody n ⟨f, name.toList ++ b.names, [], []⟩ rest with
      | some (p, names, ')' :: rest) => readBody n { b.push p.deeper with names := names } rest
      | _ => none
  | none => none

/-- A step of a body looks at the first sign that counts. -/
theorem readBody_succ (n : Nat) (b : Body) (s : List Char) :
    readBody (n + 1) b s = match b.flags.skip s with
      | [] => some (b.pattern, b.names, [])
      | c :: rest =>
        if c = ')' then some (b.pattern, b.names, c :: rest)
        else if c = '(' then readGroup n b rest
        else (b.step c rest).bind fun next => readBody n next.1 next.2 := by
  rw [readBody]
  split
  · rename_i hskip
    rw [hskip]
  · rename_i rest hskip
    rw [hskip]
    rfl
  · rename_i rest hskip
    rw [hskip]
    rfl
  · rename_i rest hskip
    rw [hskip]
    show _ = readGroup n b rest
    rw [readGroup]
    cases readOpen b.flags rest with
    | none => rfl
    | some opening => cases opening <;> rfl
  · rename_i rest hskip
    rw [hskip]
    simp only [Body.step, Char.reduceEq, ↓reduceIte, pick]
    cases readClass b.flags rest <;> rfl
  · rename_i rest hskip
    rw [hskip]
    simp only [Body.step, Body.repeated, Char.reduceEq, ↓reduceIte]
    cases b.repeatLast 0 (some 1) <;> rfl
  · rename_i rest hskip
    rw [hskip]
    simp only [Body.step, Body.repeated, Char.reduceEq, ↓reduceIte]
    cases b.repeatLast 0 none <;> rfl
  · rename_i rest hskip
    rw [hskip]
    simp only [Body.step, Body.repeated, Char.reduceEq, ↓reduceIte]
    cases b.repeatLast 1 none <;> rfl
  · rename_i rest hskip
    rw [hskip]
    simp only [Body.step, Body.repeated, Char.reduceEq, ↓reduceIte, readBounds_eq]
    cases (readCount b.flags (b.flags.skip rest)).bind fun least => boundsFrom b.flags least.1 least.2 with
    | none => rfl
    | some found => cases hlast : b.repeatLast found.1.1 found.1.2 <;> simp [hlast]
  · rename_i rest hskip
    rw [hskip]
    simp only [Body.step, Char.reduceEq, ↓reduceIte]
    cases b.flags.dot? <;> rfl
  · rename_i rest hskip
    rw [hskip]
    rfl
  · rename_i rest hskip
    rw [hskip]
    rfl
  · rename_i rest hskip
    rw [hskip]
    simp only [Body.step, Char.reduceEq, ↓reduceIte, pick]
    cases readEscape b.flags rest with
    | none => rfl
    | some found => cases hpart : b.flags.part? found.1 <;> simp [hpart]
  · rename_i c rest hclose halt hopen hclass hoption hstar hplus hbounds hdot hstart hend hescape hskip
    rw [hskip]
    simp only [Body.step, if_neg hclose, if_neg halt, if_neg hopen, if_neg hclass, if_neg hoption,
      if_neg hstar, if_neg hplus, if_neg hbounds, if_neg hdot, if_neg hstart, if_neg hend,
      if_neg hescape]
    cases b.flags.part? (.char c false) <;> rfl

/-- A step stops where neither a brace nor a comment is open that what follows may close. -/
structure Stopped (b : Body) (rest v : List Char) : Prop where
  brace : ¬ OpenBrace b.flags rest
  comment : '\n' ∈ v → ¬ Unfinished b.flags rest

/-- A repetition stops where what comes behind it does. -/
theorem confined_repeated (b : Body) {drop : Flags → List Char → List Char} (least : Nat)
    (most : Option Nat) (h : ∀ b : Body, Confined Stopped fun rest => some (b, drop b.flags rest)) :
    Confined Stopped (b.repeated drop least most) := .value h

theorem confined_marked (b : Body) (least : Nat) (most : Option Nat) :
    Confined Stopped (b.repeated (fun _ => dropPreference) least most) :=
  confined_repeated b least most confined_dropPreference

theorem confined_bounded (b : Body) (least : Nat) (most : Option Nat) :
    Confined Stopped (b.repeated skipPreference least most) :=
  confined_repeated b least most fun _ => confined_skipPreference fun h => h.comment

/-- A step is confined that stops where nothing is open. -/
theorem confined_step (b : Body) (c : Char) : Confined Stopped (b.step c) := by
  refine .iteProp (confined_some _) (.iteProp ?_ (.iteProp (confined_marked b _ _) ?_))
  · exact ((consuming_readClass b.flags).pick _).toConfined
  refine .iteProp (confined_marked b _ _) (.iteProp (confined_marked b _ _) ?_)
  refine .iteProp ?_ (.iteProp (.value fun p => confined_some _) ?_)
  · exact ((consuming_bounds b.flags).skip b.flags).toConfined.bind
      (k := fun bounds rest => b.repeated skipPreference bounds.1 bounds.2 rest)
      (fun bounds => confined_bounded b _ _) fun _ _ _ => trivial
  refine .iteProp (confined_some _) (.iteProp (confined_some _) (.iteProp ?_ ?_))
  · refine ((consuming_readEscape b.flags).pickOf fun {atom b' rest v} hpart hrest => ?_).toConfined
    obtain ⟨p, -, rfl⟩ := Option.map_eq_some_iff.mp hpart
    exact fun _ _ => hrest.brace
  · exact .value fun p => confined_some _

section

variable {m n : Nat} {b : Body} {s r u rest : List Char} {p : Nested Pattern} {names : List String}

/-- A group is read in two ways: flags go on with the body, and a group is read up to its
    parenthesis. -/
theorem readGroup_eq_some {result : Nested Pattern × List String × List Char} :
    readGroup n b rest = some result ↔
      (∃ f t, (readOpen b.flags rest).map Opening.parts = some (.flags f, t) ∧
        readBody n (b.setFlags f) t = some result) ∨
      ∃ f name t q names t', (readOpen b.flags rest).map Opening.parts = some (.group f name, t) ∧
        name.any b.names.contains = false ∧
        readBody n ⟨f, name.toList ++ b.names, [], []⟩ t = some (q, names, ')' :: t') ∧
        readBody n { b.push q.deeper with names := names } t' = some result := by
  rw [readGroup]
  constructor
  · intro hread
    split at hread
    · rename_i f t hopen
      exact .inl ⟨f, t, hopen, hread⟩
    · rename_i f name t hopen
      split at hread
      · cases hread
      · rename_i hname
        split at hread
        · rename_i q names t' hgroup
          exact .inr ⟨f, name, t, q, names, t', hopen, Bool.eq_false_iff.mpr hname, hgroup, hread⟩
        · cases hread
    · cases hread
  · rintro (⟨f, t, hopen, hread⟩ | ⟨f, name, t, q, names, t', hopen, hname, hgroup, hread⟩)
    · rw [hopen]
      exact hread
    · rw [hopen]
      dsimp only
      rw [if_neg (Bool.eq_false_iff.mp hname), hgroup]
      exact hread

/-- A body leaves an end of what counts. -/
theorem readBody_suffix (hread : readBody n b s = some (p, names, r)) : r <:+ b.flags.skip s := by
  induction n generalizing b s p names r with
  | zero => cases hread
  | succ n ih =>
      have hend : ∀ {b t}, readBody n b t = some (p, names, r) → r <:+ t := fun h =>
        (ih h).trans (Flags.skip_suffix _ _)
      rw [readBody_succ] at hread
      cases hskip : b.flags.skip s with
      | nil =>
          rw [hskip] at hread
          cases hread
          exact List.nil_suffix
      | cons c rest =>
          rw [hskip] at hread
          dsimp only at hread
          split at hread
          · cases hread
            exact List.suffix_refl _
          · refine List.IsSuffix.trans ?_ (List.suffix_cons c rest)
            split at hread
            · rcases readGroup_eq_some.mp hread with
                ⟨f, t, hopen, hmore⟩ | ⟨f, name, t, q, inner, t', hopen, -, hgroup, hmore⟩
              · exact (hend hmore).trans ((confined_readOpen _).suffix hopen)
              · have ht : ')' :: t' <:+ t := (ih hgroup).trans (Flags.skip_suffix _ _)
                exact ((hend hmore).trans ((List.suffix_cons ')' t').trans ht)).trans
                  ((confined_readOpen _).suffix hopen)
            · obtain ⟨next, hstep, hmore⟩ := Option.bind_eq_some_iff.mp hread
              exact (hend hmore).trans ((confined_step b c).suffix hstep)

/-- No body goes on with a repetition that has no bounds in the text. -/
theorem not_openBrace (hu : Closing u) (hread : readBody n b (s ++ u) = some (p, names, r ++ u)) :
    ¬ OpenBrace b.flags s := by
  rintro ⟨rest, rfl, hskip⟩
  cases n with
  | zero => cases hread
  | succ n =>
      rw [readBody_succ, List.cons_append, b.flags.skip_cons (by decide) (by decide)] at hread
      dsimp only at hread
      rw [if_neg (by decide), if_neg (by decide)] at hread
      obtain ⟨next, hstep, hmore⟩ := Option.bind_eq_some_iff.mp hread
      simp only [Body.step, Char.reduceEq, ↓reduceIte] at hstep
      obtain ⟨bounds, hbounds, hrepeat⟩ := Option.bind_eq_some_iff.mp hstep
      have hless := (consuming_bounds b.flags).less hbounds
      have hnext := ((confined_bounded b _ _).suffix hrepeat).length_le
      have hend := ((readBody_suffix hmore).trans (Flags.skip_suffix _ _)).length_le
      have hlength := length_skip_append_le hu hskip
      rw [List.length_append] at hend
      omega

/-- A body that ends inside of a comment takes in a parenthesis that follows. -/
theorem not_unfinished (hread : readBody n b (s ++ [')']) = some (p, names, r ++ [')'])) :
    ¬ Unfinished b.flags s := by
  intro hinside
  have hsuffix := (readBody_suffix hread).trans (hinside [')'])
  exact List.append_ne_nil_of_right_ne_nil r (List.cons_ne_nil _ _) (List.suffix_nil.mp hsuffix)

/-- What a body that was read before `u` comes to before all that may close it: to the same, or
    the text ends inside of a comment, which nothing closed, and which takes in what follows. -/
inductive Swaps (n : Nat) (b : Body) (s : List Char) (p : Nested Pattern) (names : List String)
    (r u : List Char) : Prop where
  | closed (h : ∀ v, Closing v → readBody n b (s ++ v) = some (p, names, r ++ v))
  | comment (hr : r = []) (hu : u = [])
      (h : ∀ v, Closing v → '\n' ∉ v → readBody n b (s ++ v) = some (p, names, []))

/-- A body that goes on at a place inside of the text comes to what is read from there. -/
theorem Swaps.of_rest {b' : Body} {t : List Char} (h : Swaps n b' t p names r u)
    (hsame : ∀ v, Closing v → ('\n' ∈ v → ¬ Unfinished b'.flags t) →
      readBody m b (s ++ v) = readBody n b' (t ++ v)) : Swaps m b s p names r u := by
  cases h with
  | closed hswap =>
      have hfinished := not_unfinished (hswap [')'] (closing_cons []))
      exact .closed fun v hv => (hsame v hv fun _ => hfinished).trans (hswap v hv)
  | comment hr hu hopen =>
      exact .comment hr hu fun v hv hline =>
        (hsame v hv fun h => absurd h hline).trans (hopen v hv hline)

/-- What follows a body follows the whole of its text. -/
theorem exists_append_of_readBody (hread : readBody n b s = some (p, names, r ++ u)) :
    ∃ t, s = t ++ u := exists_eq_append ((readBody_suffix hread).trans (Flags.skip_suffix _ _))

section

variable (hu : Closing u)
  (ih : ∀ {b s p names r}, readBody n b (s ++ u) = some (p, names, r ++ u) →
    Swaps n b s p names r u)

include hu ih

/-- What holds of a group holds of the body that goes on behind it. -/
theorem swaps_group (hread : readGroup n b (rest ++ u) = some (p, names, r ++ u))
    (hbody : ∀ v, readBody m b (s ++ v) = readGroup n b (rest ++ v)) :
    Swaps m b s p names r u := by
  rcases readGroup_eq_some.mp hread with
    ⟨f, t, hhead, hmore⟩ | ⟨f, name, t, q, inner, t', hhead, hname, hgroup, hmore⟩
  · obtain ⟨t, rfl⟩ := exists_append_of_readBody hmore
    refine (ih hmore).of_rest fun v hv _ => ?_
    have hentered : Entered (.flags f) t := by rintro _ _ ⟨⟩
    rw [hbody, readGroup, (confined_readOpen b.flags).swap hu hv hentered hhead]
  · obtain ⟨t', rfl⟩ := exists_append_of_readBody hmore
    have hsuffix := (readBody_suffix hgroup).trans (Flags.skip_suffix _ _)
    obtain ⟨t, rfl⟩ := exists_eq_append (r := ')' :: t') hsuffix
    -- the parenthesis that closes the group stands behind its opening
    have hentered : Entered (.group f name) t := by
      rintro _ _ _ rfl
      have hlength := hsuffix.length_le
      rw [List.nil_append, List.length_cons, List.length_append] at hlength
      omega
    refine (ih hmore).of_rest fun v hv _ => ?_
    rw [hbody, readGroup, (confined_readOpen b.flags).swap hu hv hentered hhead]
    dsimp only
    cases ih (r := ')' :: t') hgroup with
    | closed hswap =>
        rw [if_neg (Bool.eq_false_iff.mp hname), hswap v hv]
        rfl
    | comment hr => cases hr

/-- And so it is with a step that is no group. -/
theorem swaps_step {c : Char} (hread : (b.step c (rest ++ u)).bind (fun next =>
      readBody n next.1 next.2) = some (p, names, r ++ u))
    (hbody : ∀ v, readBody m b (s ++ v) =
      (b.step c (rest ++ v)).bind fun next => readBody n next.1 next.2) :
    Swaps m b s p names r u := by
  obtain ⟨⟨b', t⟩, hstep, hmore⟩ := Option.bind_eq_some_iff.mp hread
  obtain ⟨t, rfl⟩ := exists_append_of_readBody hmore
  refine (ih hmore).of_rest fun v hv hcomment => ?_
  rw [hbody, (confined_step b c).swap hu hv ⟨not_openBrace hu hmore, hcomment⟩ hstep]
  rfl

end

/-- What a body comes to does not depend on what closes it.  If nothing does, the text may end
    inside of a comment. -/
theorem readBody_swap (hu : Closing u)
    (hread : readBody n b (s ++ u) = some (p, names, r ++ u)) : Swaps n b s p names r u := by
  induction n generalizing b s p names r with
  | zero => cases hread
  | succ n ih =>
      rcases b.flags.skips s with ⟨c, rest, hpart⟩ | hdone | ⟨hinside, hquiet⟩
      · have hbody : ∀ v, readBody (n + 1) b (s ++ v) =
            if c = ')' then some (b.pattern, b.names, c :: (rest ++ v))
            else if c = '(' then readGroup n b (rest ++ v)
            else (b.step c (rest ++ v)).bind fun next => readBody n next.1 next.2 := by
          intro v
          rw [readBody_succ, hpart]
        rw [hbody] at hread
        by_cases hclose : c = ')'
        · rw [if_pos hclose] at hread
          obtain ⟨rfl, hpair⟩ := Prod.mk.inj (Option.some.inj hread)
          obtain ⟨rfl, hrest⟩ := Prod.mk.inj hpair
          have hrest' : c :: rest ++ u = r ++ u := hrest
          refine .closed fun v _ => ?_
          rw [hbody, if_pos hclose, ← List.append_cancel_right hrest']
          rfl
        · simp only [if_neg hclose] at hread hbody
          by_cases hopen : c = '('
          · simp only [if_pos hopen] at hread hbody
            exact swaps_group hu ih hread hbody
          · simp only [if_neg hopen] at hread hbody
            exact swaps_step hu ih hread hbody
      · have hstop : ∀ v, Closing v → readBody (n + 1) b (s ++ v) = some (b.pattern, b.names, v) := by
          intro v hv
          rw [readBody_succ, hdone v hv]
          rcases hv.eq with rfl | ⟨more, rfl⟩
          · rfl
          · rfl
        rw [hstop u hu] at hread
        obtain ⟨rfl, hpair⟩ := Prod.mk.inj (Option.some.inj hread)
        obtain ⟨rfl, hrest⟩ := Prod.mk.inj hpair
        obtain rfl : [] = r := List.append_cancel_right hrest
        exact .closed hstop
      · -- nothing of the text is left, and the comment takes in at least a sign of what follows
        have hend := (readBody_suffix hread).length_le
        have hlength := (hinside u).length_le
        rw [List.length_append] at hend
        rw [List.length_tail] at hlength
        obtain rfl : r = [] := List.eq_nil_of_length_eq_zero (by omega)
        obtain rfl : u = [] := List.eq_nil_of_length_eq_zero (by omega)
        rw [readBody_succ, hquiet [] List.not_mem_nil] at hread
        obtain ⟨rfl, hpair⟩ := Prod.mk.inj (Option.some.inj hread)
        obtain ⟨rfl, -⟩ := Prod.mk.inj hpair
        refine .comment rfl rfl fun v _ hline => ?_
        rw [readBody_succ, hquiet v hline]

/-- The number that bounds the steps does not matter as long as it exceeds the length of the
    text. -/
theorem readBody_bound {result : Nested Pattern × List String × List Char}
    (hread : readBody m b s = some result) (hn : s.length < n) : readBody n b s = some result := by
  induction m generalizing n b s result with
  | zero => cases hread
  | succ m ih =>
      cases n with
      | zero => exact absurd hn (Nat.not_lt_zero _)
      | succ n =>
          have hskip := (b.flags.skip_suffix s).length_le
          rw [readBody_succ] at hread ⊢
          cases hpart : b.flags.skip s with
          | nil => rwa [hpart] at hread
          | cons c rest =>
              rw [hpart] at hread hskip
              dsimp only at hread ⊢
              rw [List.length_cons] at hskip
              by_cases hclose : c = ')'
              · rwa [if_pos hclose] at hread ⊢
              rw [if_neg hclose] at hread ⊢
              by_cases hopen : c = '('
              · rw [if_pos hopen] at hread ⊢
                rcases readGroup_eq_some.mp hread with
                  ⟨f, t, hhead, hmore⟩ | ⟨f, name, t, q, inner, t', hhead, hname, hgroup, hmore⟩
                · have ht := ((confined_readOpen _).suffix hhead).length_le
                  exact readGroup_eq_some.mpr (.inl ⟨f, t, hhead, ih hmore (by omega)⟩)
                · have ht := ((confined_readOpen _).suffix hhead).length_le
                  have ht' := ((readBody_suffix hgroup).trans (Flags.skip_suffix _ _)).length_le
                  rw [List.length_cons] at ht'
                  exact readGroup_eq_some.mpr (.inr ⟨f, name, t, q, inner, t', hhead, hname,
                    ih hgroup (by omega), ih hmore (by omega)⟩)
              · rw [if_neg hopen] at hread ⊢
                obtain ⟨next, hstep, hmore⟩ := Option.bind_eq_some_iff.mp hread
                have ht := ((confined_step b c).suffix hstep).length_le
                exact Option.bind_eq_some_iff.mpr ⟨next, hstep, ih hmore (by omega)⟩

end

end AccessGate.Pattern
