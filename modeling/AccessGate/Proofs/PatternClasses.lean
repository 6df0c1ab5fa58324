import AccessGate.Proofs.PatternParts

/-! # The readers of classes are confined

    Inside of brackets a parenthesis is a sign like others, so that a class may go on behind the
    text and end there.  The readers of the parts may do so, too: a class with a name ends with a
    sign that is looked for as far as it takes, and a range looks for a dash.  But the parts are
    read up to a bracket that closes the class, and where it stands in the text, nothing behind
    the text counts for them. -/

namespace AccessGate.Pattern

/-! ## Classes with a name -/

/-- No named class has a parenthesis in its name. -/
theorem namedClass?_of_paren {name : List Char} (h : ')' ∈ name) :
    namedClass? (String.ofList name) = none := by
  have hne : ∀ known : String, ')' ∉ known.toList → String.ofList name ≠ known := by
    rintro known hknown rfl
    exact hknown (String.toList_ofList.symm ▸ h)
  rw [namedClass?, if_neg (hne _ (by decide)), if_neg (hne _ (by decide)),
    if_neg (hne _ (by decide)), if_neg (hne _ (by decide)), if_neg (hne _ (by decide)),
    if_neg (hne _ (by decide)), if_neg (hne _ (by decide)), if_neg (hne _ (by decide)),
    if_neg (hne _ (by decide)), if_neg (hne _ (by decide)), if_neg (hne _ (by decide)),
    if_neg (hne _ (by decide)), if_neg (hne _ (by decide)), if_neg (hne _ (by decide))]

/-- The end of a class with a name, and what comes of the name. -/
def closeNamed (f : Flags) (negated : Bool) (ranges : List (Nat × Nat)) :
    List Char → Option (CharSet × List Char)
  | ':' :: ']' :: rest =>
    let chars := f.fold (.ranges ranges)
    some (if negated then .compl chars else chars, rest)
  | _ => none

/-- A class with a name, after the sign that negates it. -/
def readClassName (f : Flags) (negated : Bool) (s : List Char) : Option (CharSet × List Char) :=
  (namedClass? (String.ofList (s.takeWhile (· != ':')))).bind fun ranges =>
    closeNamed f negated ranges (s.dropWhile (· != ':'))

theorem readNamedClass_eq (f : Flags) (s : List Char) :
    readNamedClass f (':' :: s) = peek '^' (readClassName f true) (readClassName f false) s := by
  have hname : ∀ negated t, readClassName f negated t =
      (namedClass? (String.ofList (t.takeWhile (· != ':')))).bind fun ranges =>
        closeNamed f negated ranges (t.drop (t.takeWhile (· != ':')).length) := by
    intro negated t
    rw [drop_length_takeWhile]
    rfl
  rcases cons_or_ne '^' s with ⟨t, rfl⟩ | hne
  · rw [peek_cons_self, hname]
    show (namedClass? _ >>= _) = _
    cases namedClass? (String.ofList (t.takeWhile (· != ':'))) <;> rfl
  · rw [peek_of_ne hne, hname, readNamedClass]
    · cases namedClass? (String.ofList (s.takeWhile (· != ':'))) <;> rfl
    · exact hne

section

variable {f : Flags} {s u : List Char}

/-- What closes a named class is not touched by what follows. -/
theorem closeNamed_append (negated : Bool) (ranges : List (Nat × Nat)) (hu : Closing u) :
    closeNamed f negated ranges (':' :: (s ++ u)) =
      (closeNamed f negated ranges (':' :: s)).map fun found => (found.1, found.2 ++ u) := by
  rcases cons_or_ne ']' s with ⟨rest, rfl⟩ | hopen
  · rfl
  · rw [closeNamed, closeNamed]
    · rfl
    · rintro rest ⟨⟩
      exact hopen rest rfl
    · rintro rest heq
      exact append_ne_cons (by decide) hu hopen rest (List.cons.inj heq).2

/-- A named class leaves an end of its text. -/
theorem closeNamed_suffix {negated : Bool} {ranges : List (Nat × Nat)} {r : List Char} {x : CharSet}
    (hread : closeNamed f negated ranges s = some (x, r)) : r <:+ s := by
  rw [closeNamed.eq_def] at hread
  split at hread
  · cases hread
    exact (List.suffix_cons _ _).trans (List.suffix_cons _ _)
  · cases hread

/-- The name of a class reaches up to a colon, and no name has a parenthesis in it. -/
theorem readClassName_append (negated : Bool) (hu : Closing u) :
    readClassName f negated (s ++ u) =
      (readClassName f negated s).map fun found => (found.1, found.2 ++ u) := by
  by_cases hcolon : ':' ∈ s
  · obtain ⟨front, back, rfl, hfront⟩ := List.eq_append_cons_of_mem hcolon
    rw [List.append_assoc, List.cons_append, readClassName, readClassName,
      takeWhile_bne_append hfront, takeWhile_bne_append hfront, dropWhile_bne_append hfront,
      dropWhile_bne_append hfront]
    cases namedClass? (String.ofList front) with
    | none => rfl
    | some ranges => exact closeNamed_append negated ranges hu
  · have hnone : readClassName f negated s = none := by
      have hrest : (s ++ []).dropWhile (· != ':') = [] :=
        List.dropWhile_append_of_pos (bne_of_not_mem hcolon)
      rw [List.append_nil] at hrest
      rw [readClassName, hrest]
      cases namedClass? (String.ofList (s.takeWhile (· != ':'))) <;> rfl
    rw [hnone]
    rcases hu.eq with rfl | ⟨rest, rfl⟩
    · rw [List.append_nil, hnone]
      rfl
    · have hparen : ')' ∈ (s ++ ')' :: rest).takeWhile (· != ':') := by
        rw [List.takeWhile_append_of_pos (bne_of_not_mem hcolon),
          List.takeWhile_cons_of_pos (by decide)]
        exact List.mem_append_right _ List.mem_cons_self
      rw [readClassName, namedClass?_of_paren hparen]
      rfl

/-- So does its name. -/
theorem readClassName_suffix {negated : Bool} {r : List Char} {x : CharSet}
    (hread : readClassName f negated s = some (x, r)) : r <:+ s := by
  obtain ⟨ranges, -, hclose⟩ := Option.bind_eq_some_iff.mp hread
  exact (closeNamed_suffix hclose).trans (List.dropWhile_suffix _)

/-- Whether a class with a name is there does not depend on what follows. -/
theorem readNamedClass_append (hu : Closing u) :
    readNamedClass f (s ++ u) =
      (readNamedClass f s).map fun found => (found.1, found.2 ++ u) := by
  rcases cons_or_ne ':' s with ⟨rest, rfl⟩ | hcolon
  · rw [List.cons_append, readNamedClass_eq, readNamedClass_eq]
    rcases cons_or_ne '^' rest with ⟨more, rfl⟩ | hsign
    · rw [List.cons_append, peek_cons_self, peek_cons_self, readClassName_append true hu]
    · rw [peek_of_ne (append_ne_cons (by decide) hu hsign), peek_of_ne hsign,
        readClassName_append false hu]
  · rw [readNamedClass, readNamedClass]
    · rfl
    · exact hcolon
    · exact append_ne_cons (by decide) hu hcolon

/-- And so does the whole of it, brackets included. -/
theorem readNamedClass_suffix {r : List Char} {x : CharSet}
    (hread : readNamedClass f s = some (x, r)) : r <:+ s := by
  rcases cons_or_ne ':' s with ⟨rest, rfl⟩ | hcolon
  · rw [readNamedClass_eq, peek] at hread
    split at hread
    · exact ((readClassName_suffix hread).trans (List.tail_suffix rest)).trans (List.suffix_cons _ _)
    · exact (readClassName_suffix hread).trans (List.suffix_cons _ _)
  · rw [readNamedClass] at hread
    · cases hread
    · exact hcolon

end

/-! ## Single characters and ranges -/

/-- An item of a bracket is read whatever follows, unless it is a test of a position in front of
    an open brace. -/
theorem consuming_readItem (f : Flags) :
    Consuming (fun atom rest _ => Settled f atom rest) (readItem f) := by
  have heq : readItem f = onHead fun c rest =>
      if c = '\\' then readEscape f rest else some (.char c false, rest) := by
    funext s
    rw [readItem.eq_def]
    split
    · rfl
    · rename_i hne
      exact (if_neg hne).symm
    · rfl
  rw [heq]
  exact .head fun c => .iteProp (consuming_readEscape f).toConfined (confined_some _)

/-- The characters of an item that is no part of a range. -/
def Flags.item? (f : Flags) : Atom → Option CharSet
  | .char c _ => if !f.unicode && c.toNat > 127 then none else some (f.fold (.single c))
  | .set chars => some chars
  | .look _ => none

/-- The characters between two items. -/
def Flags.range? (f : Flags) : Atom → Atom → Option CharSet
  | .char a _, .char b _ =>
    if b < a || (!f.unicode && b.toNat > 127) then none
    else some (f.fold (.ranges [(a.toNat, b.toNat)]))
  | _, _ => none

/-- Does no range go on here?  A dash in front of a bracket or of a dash stands for itself. -/
def endsItem (f : Flags) : List Char → Bool
  | '-' :: rest =>
    match f.skip rest with
    | ']' :: _ | '-' :: _ => true
    | _ => false
  | _ => true

/-- Read what may follow the first item of a range, from the first part that counts. -/
def readRangeEnd (f : Flags) (first : Atom) : List Char → Option (CharSet × List Char)
  | [] => none
  | next =>
    if endsItem f next then (f.item? first).map fun chars => (chars, next)
    else pick (readItem f) (f.range? first) (f.skip (next.drop 1))

theorem map_ite_none {α β : Type} {c : Prop} [Decidable c] (x : α) (g : α → β) :
    (if c then none else some x).map g = if c then none else some (g x) := by
  split <;> rfl

/-- A range is an item, and then what a dash behind it says. -/
theorem readRange_eq (f : Flags) (s : List Char) :
    readRange f s = (readItem f s).bind fun found => readRangeEnd f found.1 (f.skip found.2) := by
  rw [readRange]
  cases readItem f s with
  | none => rfl
  | some found =>
      obtain ⟨first, t⟩ := found
      dsimp only [bind, Option.bind_some]
      generalize f.skip t = next
      cases next with
      | nil => rfl
      | cons c rest =>
          show (if endsItem f (c :: rest) = true then _ else _) = _
          rw [readRangeEnd]
          · split
            · cases first with
              | char a isOctet =>
                  rw [Flags.item?, map_ite_none]
                  rfl
              | set chars => rfl
              | look l => rfl
            · rw [pick]
              cases readItem f (f.skip ((c :: rest).drop 1)) with
              | none => rfl
              | some found =>
                  obtain ⟨second, more⟩ := found
                  cases first with
                  | char a isOctet =>
                      cases second with
                      | char b isOctet' =>
                          dsimp only [Flags.range?, Option.bind_some]
                          rw [map_ite_none]
                          rfl
                      | set chars => rfl
                      | look l => rfl
                  | set chars => rfl
                  | look l => rfl
          · exact List.cons_ne_nil c rest

/-- A part follows, and one behind it if it is a dash. -/
def Followed (f : Flags) (s : List Char) : Prop :=
  ∃ c rest, f.skip s = c :: rest ∧ (c = '-' → f.skip rest ≠ [])

theorem not_followed_nil (f : Flags) : ¬ Followed f [] := by
  rintro ⟨c, rest, hskip, -⟩
  have hlength := (f.skip_suffix []).length_le
  rw [hskip] at hlength
  exact Nat.not_succ_le_zero _ hlength

section

variable {f : Flags} {first : Atom} {s r u v : List Char} {x : CharSet}

theorem readRangeEnd_cons (f : Flags) (first : Atom) (c : Char) (rest : List Char) :
    readRangeEnd f first (c :: rest) =
      if endsItem f (c :: rest) then (f.item? first).map fun chars => (chars, c :: rest)
      else pick (readItem f) (f.range? first) (f.skip rest) := rfl

/-- Nothing but a dash goes on with an item. -/
theorem endsItem_of_ne {c : Char} (hc : c ≠ '-') (rest : List Char) :
    endsItem f (c :: rest) = true := by
  rw [endsItem]
  rintro more ⟨⟩
  exact hc rfl

/-- A dash goes on with an item unless a bracket or another dash stands behind it. -/
theorem endsItem_dash (f : Flags) (rest : List Char) :
    endsItem f ('-' :: rest) = (f.skip rest).head?.any fun d => d == ']' || d == '-' := by
  rw [endsItem]
  cases f.skip rest with
  | nil => rfl
  | cons d more =>
      split
      · rename_i heq
        cases heq
        rfl
      · rename_i heq
        cases heq
        rfl
      · rename_i hbracket hdash
        have hd : (d == ']') = false := beq_eq_false_iff_ne.mpr fun h => hbracket more (h ▸ rfl)
        have hd' : (d == '-') = false := beq_eq_false_iff_ne.mpr fun h => hdash more (h ▸ rfl)
        show false = (d == ']' || d == '-')
        rw [hd, hd']
        rfl

/-- The second item of a range is read whatever follows. -/
theorem consuming_second (f : Flags) (first : Atom) :
    Consuming Anywhere (pick (readItem f) (f.range? first)) := by
  refine (consuming_readItem f).pickOf fun {second chars rest v} hrange _ => ?_
  rintro l rfl
  cases first <;> cases hrange

/-- The end of a range leaves an end of its text. -/
theorem readRangeEnd_suffix (hread : readRangeEnd f first s = some (x, r)) : r <:+ s := by
  cases s with
  | nil => cases hread
  | cons c rest =>
      rw [readRangeEnd_cons] at hread
      split at hread
      · obtain ⟨chars, -, heq⟩ := Option.map_eq_some_iff.mp hread
        cases heq
        exact List.suffix_refl _
      · have hsecond := (consuming_second f first).suffix hread
        exact (hsecond.trans (f.skip_suffix rest)).trans (List.suffix_cons c rest)

/-- The end of a range is read whatever follows, as long as a part of the bracket does. -/
theorem confined_readRangeEnd (f : Flags) (first : Atom) :
    Confined (fun _ r _ => Followed f r) fun s => readRangeEnd f first (f.skip s) := by
  refine ⟨fun hread => (readRangeEnd_suffix hread).trans (f.skip_suffix _), ?_⟩
  intro s x r u v hu hv hfollowed hread
  have hitem : ∀ {c rest}, (f.item? first).map (fun chars => (chars, c :: (rest ++ u)))
      = some (x, r ++ u) → r = c :: rest ∧ f.item? first = some x := by
    intro c rest hmap
    obtain ⟨chars, hchars, heq⟩ := Option.map_eq_some_iff.mp hmap
    obtain ⟨rfl, hrest⟩ := Prod.mk.inj heq
    have hrest' : c :: rest ++ u = r ++ u := hrest
    exact ⟨(List.append_cancel_right hrest').symm, hchars⟩
  rcases f.part_or_rest s with ⟨c, rest, hpart⟩ | ⟨-, hrest⟩
  · rw [hpart, readRangeEnd_cons] at hread ⊢
    by_cases hdash : c = '-'
    · subst hdash
      rw [endsItem_dash] at hread ⊢
      -- a dash that ends the item is all that is left if no part follows it
      have hstop : f.skip rest = [] → (f.item? first).map (fun chars => (chars, '-' :: (rest ++ u)))
          ≠ some (x, r ++ u) := by
        intro hskip hmap
        obtain ⟨rfl, -⟩ := hitem hmap
        obtain ⟨c, more, heq, hmore⟩ := hfollowed
        rw [f.skip_cons (by decide) (by decide)] at heq
        obtain ⟨rfl, rfl⟩ := List.cons.inj heq
        exact hmore rfl hskip
      have hsecond := consuming_second f first
      rcases f.part_or_rest rest with ⟨d, more, hpart'⟩ | ⟨hskip, hmore⟩
      · rw [hpart'] at hread ⊢
        by_cases hd : (some d).any (fun d => d == ']' || d == '-') = true
        · rw [List.head?_cons, if_pos hd] at hread ⊢
          obtain ⟨rfl, hchars⟩ := hitem hread
          rw [hchars]
          rfl
        · rw [List.head?_cons, if_neg hd] at hread ⊢
          exact hsecond.swap (s := d :: more) hu hv trivial hread
      · split at hread
        · exact absurd hread (hstop hskip)
        · exact absurd hread (hsecond.no_stay (hmore u hu))
    · rw [if_pos (endsItem_of_ne hdash _)] at hread ⊢
      obtain ⟨rfl, hchars⟩ := hitem hread
      rw [hchars]
      rfl
  · have hlength := (readRangeEnd_suffix hread).length_le
    have hlength' := hrest u hu
    rw [List.length_append] at hlength
    obtain rfl : r = [] := List.eq_nil_of_length_eq_zero (by omega)
    exact absurd hfollowed (not_followed_nil f)

/-- The same holds of a whole range. -/
theorem consuming_readRange (f : Flags) : Consuming (fun _ r _ => Followed f r) (readRange f) := by
  rw [funext (readRange_eq f)]
  refine (consuming_readItem f).bind (k := fun first t => readRangeEnd f first (f.skip t))
    (confined_readRangeEnd f) fun {first t chars r u v} _ _ hread => ?_
  rintro l rfl
  cases hskip : f.skip (t ++ u) with
  | nil =>
      rw [hskip] at hread
      cases hread
  | cons c rest =>
      rw [hskip, readRangeEnd_cons] at hread
      split at hread
      · cases hread
      · obtain ⟨second, -, hrange⟩ := Option.bind_eq_some_iff.mp hread
        cases hrange

end

/-! ## Brackets -/

/-- Read a bracket behind its opening, with the sign that negates it. -/
def readInner (f : Flags) (n : Nat) (s : List Char) : Option (Nested CharSet × List Char) :=
  readBracket f n (.opened (readNegation f s).1) (readNegation f s).2

/-- Read an item or a range of a bracket from its first character, and go on. -/
def readBracketItem (f : Flags) (n : Nat) (b : Bracket) (c : Char) (rest : List Char) :
    Option (Nested CharSet × List Char) :=
  (readRange f (c :: rest)).bind fun range => readBracket f n (b.add ⟨range.1, 0⟩) range.2

/-- Read an operator of sets that is written as a double sign, or an item. -/
def readOperator (f : Flags) (n : Nat) (b : Bracket) (operator : SetOperator) (c : Char) :
    List Char → Option (Nested CharSet × List Char) :=
  peek c (readBracket f n (b.join operator)) (readBracketItem f n b c)

/-- Read what goes on at a character of a bracket. -/
def readBracketAt (f : Flags) (n : Nat) (b : Bracket) (c : Char) (rest : List Char) :
    Option (Nested CharSet × List Char) :=
  if b.takes c then readBracket f n (b.take c) rest
  else if c = ']' then (b.close? f).map fun chars => (chars, rest)
  else if c = '[' then
    match readNamedClass f rest with
    | some named =>
      (f.admit? named.1).bind fun chars => readBracket f n (b.add ⟨chars, 0⟩) named.2
    | none => (readInner f n rest).bind fun inner => readBracket f n (b.add inner.1) inner.2
  else if c = '&' then readOperator f n b .inter c rest
  else if c = '-' then readOperator f n b .diff c rest
  else if c = '~' then readOperator f n b .symmDiff c rest
  else readBracketItem f n b c rest

/-- A step of a bracket looks at the first sign that counts. -/
theorem readBracket_succ (f : Flags) (n : Nat) (b : Bracket) :
    readBracket f (n + 1) b = fun s => onHead (readBracketAt f n b) (f.skip s) := by
  funext s
  rw [readBracket]
  cases f.skip s with
  | nil => rfl
  | cons c rest =>
      rw [onHead, readBracketAt]
      dsimp only
      split
      · rfl
      · split
        · rfl
        · rw [if_neg (by decide), if_pos rfl]
          cases readNamedClass f _ <;> rfl
        · rfl
        · rfl
        · rfl
        · rename_i hclose hopen hinter hdiff hsymm
          show readBracketItem f n b c rest = _
          rw [if_neg hclose, if_neg hopen]
          -- a sign that is not doubled is no operator
          have hitem : ∀ operator, (∀ more, rest ≠ c :: more) →
              readBracketItem f n b c rest = readOperator f n b operator c rest :=
            fun _ hne => (peek_of_ne hne _ _).symm
          split
          · exact hitem _ fun more h => hinter more ‹_› (‹c = '&'› ▸ h)
          · split
            · exact hitem _ fun more h => hdiff more ‹_› (‹c = '-'› ▸ h)
            · split
              · exact hitem _ fun more h => hsymm more ‹_› (‹c = '~'› ▸ h)
              · rfl

/-- A choice between a named class and a bracket inside of the bracket is read whatever follows,
    if both ways are. -/
theorem confined_named (f : Flags) {α : Type} {k : CharSet → List Char → Option (α × List Char)}
    {k' : List Char → Option (α × List Char)} (h : ∀ x, Confined Anywhere (k x))
    (h' : Confined Anywhere k') :
    Confined Anywhere fun rest => match readNamedClass f rest with
      | some named => k named.1 named.2
      | none => k' rest := by
  refine ⟨?_, ?_⟩
  · intro s x r hread
    cases hnamed : readNamedClass f s with
    | none =>
        rw [hnamed] at hread
        exact h'.suffix hread
    | some named =>
        rw [hnamed] at hread
        exact ((h named.1).suffix hread).trans (readNamedClass_suffix hnamed)
  · intro s x r u v hu hv _ hread
    rw [readNamedClass_append hu] at hread
    rw [readNamedClass_append hv]
    cases hnamed : readNamedClass f s with
    | none =>
        rw [hnamed] at hread
        exact h'.swap hu hv trivial hread
    | some named =>
        rw [hnamed] at hread
        exact (h named.1).swap hu hv trivial hread

/-- A dash that no part follows is an item with which a bracket does not end. -/
theorem readBracketAt_dash {f : Flags} {n : Nat} {b : Bracket} {x : Nested CharSet}
    {rest r u : List Char} (hbracket : ∀ b, Consuming Anywhere (readBracket f n b))
    (hgoes : ∀ b t y r u, Closing u → readBracket f n b (t ++ u) = some (y, r ++ u) → Followed f t)
    (hu : Closing u) (hskip : f.skip rest = []) :
    readBracketAt f n b '-' (rest ++ u) ≠ some (x, r ++ u) := by
  intro hread
  have hne : ∀ more, rest ≠ '-' :: more := by
    rintro more rfl
    rw [f.skip_cons (by decide) (by decide)] at hskip
    cases hskip
  rw [readBracketAt] at hread
  split at hread
  · -- a dash at the start stands for itself, and the bracket goes on behind it
    obtain ⟨c, more, hpart, -⟩ := hgoes _ _ _ _ _ hu hread
    rw [hskip] at hpart
    cases hpart
  · rw [if_neg (by decide), if_neg (by decide), if_neg (by decide), if_pos rfl, readOperator,
      peek_of_ne (append_ne_cons (by decide) hu hne)] at hread
    obtain ⟨range, hrange, hrest⟩ := Option.bind_eq_some_iff.mp hread
    rw [readRange_eq] at hrange
    have hend : readRangeEnd f (.char '-' false) (f.skip (rest ++ u)) = some (range.1, range.2) :=
      hrange
    exact (hbracket _).no_stay
      (Nat.le_trans (readRangeEnd_suffix hend).length_le (length_skip_append_le hu hskip)) hrest

/-- What is read of a bracket behind its opening. -/
theorem consuming_readInner {f : Flags} {n : Nat}
    (h : ∀ b, Consuming Anywhere (readBracket f n b)) : Consuming Anywhere (readInner f n) := by
  have heq : readInner f n = fun s => peek '^' (readBracket f n (.opened true))
      (readBracket f n (.opened false)) (f.skip s) := by
    funext s
    rw [readInner, readNegation]
    rcases cons_or_ne '^' (f.skip s) with ⟨rest, hrest⟩ | hplain
    · rw [hrest]
      rfl
    · rw [peek_of_ne hplain]
      split
      · rename_i rest hrest
        exact absurd hrest (hplain rest)
      · rfl
  rw [heq]
  exact Consuming.skip f (.peek (by decide) (h _).toConfined (h _))

/-- A bracket is confined, and it goes on only where a part follows. -/
theorem readBracket_spec (f : Flags) (n : Nat) :
    (∀ b, Consuming Anywhere (readBracket f n b)) ∧
    ∀ b t y r u, Closing u → readBracket f n b (t ++ u) = some (y, r ++ u) → Followed f t := by
  induction n with
  | zero => exact ⟨fun _ => consuming_none, nofun⟩
  | succ n ih =>
      obtain ⟨hbracket, hgoes⟩ := ih
      have hitem : ∀ b c, Confined Anywhere (readBracketItem f n b c) := fun b c =>
        ((consuming_readRange f).behind c).bind (k := fun chars => readBracket f n (b.add ⟨chars, 0⟩))
          (fun chars => (hbracket _).toConfined) fun hu _ hread => hgoes _ _ _ _ _ hu hread
      have hoperator : ∀ b operator c, c ≠ ')' → Confined Anywhere (readOperator f n b operator c) :=
        fun b operator c hc => .peek hc (hbracket _).toConfined (hitem b c)
      have hhead : ∀ b, Consuming Anywhere (onHead (readBracketAt f n b)) := by
        intro b
        refine .head fun c => .iteProp (hbracket _).toConfined
          (.iteProp ?_ (.iteProp ?_ (.iteOf ?_ (.iteOf ?_ (.iteOf ?_ (hitem b c))))))
        · cases b.close? f with
          | none => exact confined_none
          | some chars => exact confined_some chars
        · refine confined_named f (k := fun named t => (f.admit? named).bind fun chars =>
            readBracket f n (b.add ⟨chars, 0⟩) t) (fun named => .value fun _ =>
              (hbracket _).toConfined) ?_
          exact (consuming_readInner hbracket).toConfined.bind
            (k := fun chars => readBracket f n (b.add chars)) (fun _ => (hbracket _).toConfined)
            fun _ _ _ => trivial
        · exact fun hc => hoperator b _ _ (hc ▸ by decide)
        · exact fun hc => hoperator b _ _ (hc ▸ by decide)
        · exact fun hc => hoperator b _ _ (hc ▸ by decide)
      constructor
      · intro b
        rw [readBracket_succ]
        exact (hhead b).skip f
      · intro b t y r u hu hread
        rw [readBracket_succ] at hread
        dsimp only at hread
        rcases f.part_or_rest t with ⟨c, rest, hpart⟩ | ⟨-, hrest⟩
        · have hskip := hpart []
          rw [List.append_nil, List.append_nil] at hskip
          refine ⟨c, rest, hskip, ?_⟩
          rintro rfl hnone
          rw [hpart] at hread
          exact readBracketAt_dash hbracket hgoes hu hnone hread
        · exact absurd hread ((hhead _).no_stay (hrest u hu))

section

variable {f : Flags} {m n : Nat} {b : Bracket} {s : List Char} {result : Nested CharSet × List Char}

/-- The sign for a negation leaves an end of the text. -/
theorem readNegation_suffix (f : Flags) (s : List Char) : (readNegation f s).2 <:+ s := by
  have hskip := f.skip_suffix s
  rw [readNegation]
  split
  · rename_i rest hrest
    exact (List.suffix_cons '^' rest).trans (hrest ▸ hskip)
  · exact hskip

/-- A bracket takes no more steps than the text has characters. -/
theorem readBracket_bound (hread : readBracket f m b s = some result) (hn : s.length < n) :
    readBracket f n b s = some result := by
  induction m generalizing n b s result with
  | zero => cases hread
  | succ m ih =>
      cases n with
      | zero => exact absurd hn (Nat.not_lt_zero _)
      | succ n =>
          rw [readBracket_succ] at hread ⊢
          refine onHead_bound hread hn fun c rest hrest hfound => ?_
          have hitem : readBracketItem f m b c rest = some result →
              readBracketItem f n b c rest = some result := by
            intro hitem
            obtain ⟨range, hrange, hmore⟩ := Option.bind_eq_some_iff.mp hitem
            have hlength := (((consuming_readRange f).behind c).suffix hrange).length_le
            exact Option.bind_eq_some_iff.mpr ⟨range, hrange, ih hmore (by omega)⟩
          have hoperator : ∀ operator, readOperator f m b operator c rest = some result →
              readOperator f n b operator c rest = some result := by
            intro operator hoperator
            have hlength := (List.tail_suffix rest).length_le
            rw [readOperator, peek] at hoperator ⊢
            split at hoperator
            · rw [if_pos (by assumption)]
              exact ih hoperator (by omega)
            · rw [if_neg (by assumption)]
              exact hitem hoperator
          rw [readBracketAt] at hfound ⊢
          by_cases htakes : b.takes c = true
          · rw [if_pos htakes] at hfound ⊢
            exact ih hfound hrest
          rw [if_neg htakes] at hfound ⊢
          by_cases hclose : c = ']'
          · rwa [if_pos hclose] at hfound ⊢
          rw [if_neg hclose] at hfound ⊢
          by_cases hopen : c = '['
          · rw [if_pos hopen] at hfound ⊢
            cases hnamed : readNamedClass f rest with
            | some named =>
                rw [hnamed] at hfound
                have hlength := (readNamedClass_suffix hnamed).length_le
                obtain ⟨chars, hchars, hmore⟩ := Option.bind_eq_some_iff.mp hfound
                exact Option.bind_eq_some_iff.mpr ⟨chars, hchars, ih hmore (by omega)⟩
            | none =>
                rw [hnamed] at hfound
                obtain ⟨inner, hinner, hmore⟩ := Option.bind_eq_some_iff.mp hfound
                have hstart := (readNegation_suffix f rest).length_le
                have hlength := (((readBracket_spec f m).1 _).suffix hinner).length_le
                exact Option.bind_eq_some_iff.mpr
                  ⟨inner, ih hinner (by omega), ih hmore (by omega)⟩
          rw [if_neg hopen] at hfound ⊢
          by_cases hand : c = '&'
          · rw [if_pos hand] at hfound ⊢
            exact hoperator _ hfound
          rw [if_neg hand] at hfound ⊢
          by_cases hdash : c = '-'
          · rw [if_pos hdash] at hfound ⊢
            exact hoperator _ hfound
          rw [if_neg hdash] at hfound ⊢
          by_cases htilde : c = '~'
          · rw [if_pos htilde] at hfound ⊢
            exact hoperator _ hfound
          rw [if_neg htilde] at hfound ⊢
          exact hitem hfound

end

/-- A class in brackets is read whatever follows. -/
theorem consuming_readClass (f : Flags) : Consuming Anywhere (readClass f) := by
  have heq : readClass f = fun s => readInner f (s.length + 1) s := rfl
  rw [heq]
  refine .bounded (fun n => consuming_readInner (readBracket_spec f n).1) fun hread hn => ?_
  exact readBracket_bound hread (Nat.lt_of_le_of_lt (readNegation_suffix f _).length_le hn)

end AccessGate.Pattern
