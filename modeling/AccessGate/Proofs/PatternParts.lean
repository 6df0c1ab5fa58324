import AccessGate.Proofs.PatternText

/-! # The readers of escapes are confined

    Digits, properties and the names of edges are read with a bound on the steps, and between
    their signs comments are skipped.  Each of them takes something and is confined without a
    condition.  The escape of a word edge is the exception (`Settled`): it looks behind a brace
    for the name of a test, and if there is none, the brace is left to be read as a repetition. -/

namespace AccessGate.Pattern

/-! ## Numbers -/

/-- One more hexadecimal digit is read behind what is skipped. -/
theorem readHexDigits_succ (f : Flags) (n acc : Nat) :
    readHexDigits f (n + 1) acc = fun s => onHead (fun c rest =>
      (hexDigit? c).bind fun d => readHexDigits f n (acc * 16 + d) rest) (f.skip s) := by
  funext s
  rw [readHexDigits]
  cases f.skip s <;> rfl

/-- So many digits are read whatever follows them. -/
theorem confined_readHexDigits (f : Flags) (n acc : Nat) :
    Confined Anywhere (readHexDigits f n acc) := by
  induction n generalizing acc with
  | zero => exact confined_some acc
  | succ n ih =>
      rw [readHexDigits_succ]
      exact ((Consuming.head fun c => .value fun d => ih _).skip f).toConfined

/-- At least one digit is taken if one is asked for. -/
theorem consuming_readHexDigits (f : Flags) {n : Nat} (h : n ≠ 0) (acc : Nat) :
    Consuming Anywhere (readHexDigits f n acc) := by
  cases n with
  | zero => exact absurd rfl h
  | succ n =>
      rw [readHexDigits_succ]
      exact (Consuming.head fun c => .value fun d => confined_readHexDigits f n _).skip f

theorem readHexBrace_succ (f : Flags) (n : Nat) (some? : Bool) (acc : Nat) :
    readHexBrace f (n + 1) some? acc = fun s => onHead (fun c rest =>
      if c = '\x7d' then if some? then some (acc, rest) else none
      else (hexDigit? c).bind fun d =>
        if acc * 16 + d < UInt32.size then readHexBrace f n true (acc * 16 + d) rest
        else none) (f.skip s) := by
  funext s
  rw [readHexBrace]
  split <;> rename_i heq <;> rw [heq]
  · rfl
  · rename_i hne
    exact (if_neg hne).symm
  · rfl

/-- A number in braces is read whatever follows its brace. -/
theorem consuming_readHexBrace (f : Flags) (n : Nat) (some? : Bool) (acc : Nat) :
    Consuming Anywhere (readHexBrace f n some? acc) := by
  induction n generalizing some? acc with
  | zero => exact consuming_none
  | succ n ih =>
      rw [readHexBrace_succ]
      refine (Consuming.head fun c => ?_).skip f
      exact .iteProp (.iteProp (confined_some acc) confined_none)
        (.value fun d => .iteProp (ih true _).toConfined confined_none)

/-- A number in braces takes no more steps than the text has characters. -/
theorem readHexBrace_bound {f : Flags} {m n acc : Nat} {some? : Bool} {s : List Char}
    {found : Nat × List Char} (hread : readHexBrace f m some? acc s = some found)
    (hn : s.length < n) : readHexBrace f n some? acc s = some found := by
  induction m generalizing n some? acc s with
  | zero => cases hread
  | succ m ih =>
      cases n with
      | zero => exact absurd hn (Nat.not_lt_zero _)
      | succ n =>
          rw [readHexBrace_succ] at hread ⊢
          refine onHead_bound hread hn fun c rest hrest hfound => ?_
          by_cases hc : c = '\x7d'
          · rwa [if_pos hc] at hfound ⊢
          · rw [if_neg hc] at hfound ⊢
            obtain ⟨d, hd, hfound⟩ := Option.bind_eq_some_iff.mp hfound
            rw [hd, Option.bind_some]
            by_cases hsize : acc * 16 + d < UInt32.size
            · rw [if_pos hsize] at hfound ⊢
              exact ih hfound hrest
            · rw [if_neg hsize] at hfound
              cases hfound

/-- A number stands in braces or has a fixed number of digits. -/
theorem readHexEscape_eq (f : Flags) (width : Nat) :
    readHexEscape f width = fun s => peek '\x7b'
      (pick (fun rest => readHexBrace f (rest.length + 1) false 0 rest) fun n =>
        (charOf? n).map fun c => Atom.char c false)
      (pick (readHexDigits f width 0) fun n => (charOf? n).map fun c => Atom.char c (width == 2))
      (f.skip s) := by
  funext s
  rw [readHexEscape]
  split <;> rename_i heq
  · rw [heq, peek_cons_self, pick]
    cases readHexBrace f _ false 0 _ with
    | none => rfl
    | some found => cases hchar : charOf? found.1 <;> simp [hchar]
  · rw [peek_of_ne heq, pick]
    cases readHexDigits f width 0 _ with
    | none => rfl
    | some found => cases hchar : charOf? found.1 <;> simp [hchar]

/-- A character's number is read whatever follows it. -/
theorem consuming_readHexEscape (f : Flags) {width : Nat} (h : width ≠ 0) :
    Consuming Anywhere (readHexEscape f width) := by
  rw [readHexEscape_eq]
  have hbrace : Consuming Anywhere fun rest => readHexBrace f (rest.length + 1) false 0 rest :=
    .bounded (fun n => consuming_readHexBrace f n false 0) readHexBrace_bound
  refine Consuming.skip f (.peek (by decide) ?_ ?_)
  · exact (hbrace.pick _).toConfined
  · exact (consuming_readHexDigits f h 0).pick _

/-! ## Properties -/

namespace Property

theorem readBraced_succ (f : Flags) (n : Nat) :
    readBraced f (n + 1) = fun s => onHead (fun c rest =>
      if c = '\x7d' then some ([], rest)
      else (readBraced f n rest).map fun found => (c :: found.1, found.2)) (f.skip s) := by
  funext s
  rw [readBraced]
  split <;> rename_i heq <;> rw [heq]
  · rfl
  · rename_i hne
    exact (if_neg hne).symm
  · rfl

/-- A name in braces is read whatever follows its brace. -/
theorem consuming_readBraced (f : Flags) (n : Nat) : Consuming Anywhere (readBraced f n) := by
  induction n with
  | zero => exact consuming_none
  | succ n ih =>
      rw [readBraced_succ]
      exact (Consuming.head fun c => .iteProp (confined_some []) (ih.toConfined.map _)).skip f

theorem readBraced_bound {f : Flags} {m n : Nat} {s : List Char} {found : List Char × List Char}
    (hread : readBraced f m s = some found) (hn : s.length < n) :
    readBraced f n s = some found := by
  induction m generalizing n s found with
  | zero => cases hread
  | succ m ih =>
      cases n with
      | zero => exact absurd hn (Nat.not_lt_zero _)
      | succ n =>
          rw [readBraced_succ] at hread ⊢
          refine onHead_bound hread hn fun c rest hrest hfound => ?_
          by_cases hc : c = '\x7d'
          · rwa [if_pos hc] at hfound ⊢
          · rw [if_neg hc] at hfound ⊢
            obtain ⟨inner, hinner, heq⟩ := Option.map_eq_some_iff.mp hfound
            rw [ih hinner hrest, Option.map_some, heq]

/-- A property is a name in braces or one letter. -/
theorem read?_eq (f : Flags) :
    read? f = fun s => onHead (fun c rest =>
      if c = '\x7b' then
        (readBraced f (rest.length + 1) rest).map fun found => (ofChars found.1, found.2)
      else if c = '\\' then none else some (⟨none, [c], false⟩, rest)) (f.skip s) := by
  funext s
  rw [read?]
  split <;> rename_i heq <;> rw [heq]
  · rfl
  · rename_i hne
    exact (if_neg hne).symm
  · rfl

/-- A property is read whatever follows it. -/
theorem consuming_read? (f : Flags) : Consuming Anywhere (read? f) := by
  rw [read?_eq]
  have hbraced : Consuming Anywhere fun rest => readBraced f (rest.length + 1) rest :=
    .bounded (consuming_readBraced f) readBraced_bound
  refine Consuming.skip f (.head fun c => ?_)
  exact .iteProp (hbraced.toConfined.map _) (.iteProp confined_none (confined_some _))

end Property

theorem consuming_readProperty (f : Flags) (negated : Bool) :
    Consuming Anywhere (readProperty f negated) := by
  have heq : readProperty f negated = pick (Property.read? f) fun property =>
      (if f.unicode then f.property? f.ignoreCase property else none).map fun chars =>
        Atom.set (if negated then .compl chars else chars) := by
    funext s
    rw [readProperty, pick]
    cases Property.read? f s with
    | none => rfl
    | some found =>
        cases f.unicode with
        | false => rfl
        | true => cases hchars : f.property? f.ignoreCase found.1 <;> simp [hchars]
  rw [heq]
  exact (Property.consuming_read? f).pick _

/-! ## Escapes -/

theorem readEdgeName_succ (f : Flags) (n : Nat) :
    readEdgeName f (n + 1) = onHead fun c rest =>
      if c = '\x7d' then some ([], rest)
      else if isEdgeChar c then
        (readEdgeName f n (f.skip rest)).map fun found => (c :: found.1, found.2)
      else none := by
  funext s
  rw [readEdgeName.eq_def]
  dsimp only
  split
  · rfl
  · rename_i hne
    exact (if_neg hne).symm
  · rfl

/-- The name of an edge is read whatever follows its brace. -/
theorem consuming_readEdgeName (f : Flags) (n : Nat) : Consuming Anywhere (readEdgeName f n) := by
  induction n with
  | zero => exact consuming_none
  | succ n ih =>
      rw [readEdgeName_succ]
      exact .head fun c =>
        .iteProp (confined_some []) (.iteProp ((ih.skip f).toConfined.map _) confined_none)

/-- The name of an edge takes no more steps than the text has characters. -/
theorem readEdgeName_bound {f : Flags} {m n : Nat} {s : List Char} {found : List Char × List Char}
    (hread : readEdgeName f m s = some found) (hn : s.length < n) :
    readEdgeName f n s = some found := by
  induction m generalizing n s found with
  | zero => cases hread
  | succ m ih =>
      cases n with
      | zero => exact absurd hn (Nat.not_lt_zero _)
      | succ n =>
          rw [readEdgeName_succ] at hread ⊢
          cases s with
          | nil => cases hread
          | cons c rest =>
              rw [onHead] at hread ⊢
              by_cases hc : c = '\x7d'
              · rwa [if_pos hc] at hread ⊢
              · rw [if_neg hc] at hread ⊢
                by_cases hedge : isEdgeChar c = true
                · rw [if_pos hedge] at hread ⊢
                  obtain ⟨inner, hinner, heq⟩ := Option.map_eq_some_iff.mp hread
                  have hlength := (f.skip_suffix rest).length_le
                  rw [ih hinner (Nat.lt_of_le_of_lt hlength (Nat.lt_of_succ_lt_succ hn)),
                    Option.map_some, heq]
                · rw [if_neg hedge] at hread
                  cases hread

/-- A brace with nothing that counts behind it. -/
def OpenBrace (f : Flags) (s : List Char) : Prop := ∃ rest, s = '\x7b' :: rest ∧ f.skip rest = []

/-- A test of a position is not followed by an open brace.  The escape of a word edge looks
    behind a brace for the name of a test, and it stops in front of the brace if there is none. -/
def Settled (f : Flags) (atom : Atom) (rest : List Char) : Prop :=
  ∀ l, atom = .look l → ¬ OpenBrace f rest

/-- Behind a brace, the name of a test is read if a letter of such a name comes next. -/
theorem readEdge_brace (f : Flags) (word : CharSet) (rest : List Char) :
    readEdge f word ('\x7b' :: rest) = match f.skip rest with
      | [] => none
      | c :: more =>
        if isEdgeChar c then
          pick (readEdgeName f (rest.length + 1))
            (fun name => (namedEdge? word (String.ofList name)).map Atom.look) (c :: more)
        else some (.look (.wordEdge word), '\x7b' :: rest) := by
  rw [readEdge]
  cases f.skip rest with
  | nil => rfl
  | cons c more =>
      dsimp only
      split
      · rw [pick]
        cases readEdgeName f _ _ with
        | none => rfl
        | some found => cases hedge : namedEdge? word (String.ofList found.1) <;> simp [hedge]
      · rfl

/-- Without a brace, there is no name of a test. -/
theorem readEdge_of_ne {s : List Char} (f : Flags) (word : CharSet)
    (h : ∀ rest, s ≠ '\x7b' :: rest) : readEdge f word s = some (.look (.wordEdge word), s) := by
  rw [readEdge]
  exact h

/-- What follows a word edge is left as it stands. -/
theorem readEdge_suffix {f : Flags} {word : CharSet} {s r : List Char} {x : Atom}
    (hread : readEdge f word s = some (x, r)) : r <:+ s := by
  rcases cons_or_ne '\x7b' s with ⟨rest, rfl⟩ | hbrace
  · have hsuffix := f.skip_suffix rest
    rw [readEdge_brace] at hread
    cases hskip : f.skip rest with
    | nil =>
        rw [hskip] at hread
        cases hread
    | cons c more =>
        rw [hskip] at hread hsuffix
        dsimp only at hread
        split at hread
        · have hname := ((consuming_readEdgeName f _).pick (Q := Anywhere) _).suffix hread
          exact (hname.trans hsuffix).trans (List.suffix_cons _ rest)
        · cases hread
          exact List.suffix_refl _
  · rw [readEdge_of_ne f word hbrace] at hread
    cases hread
    exact List.suffix_refl _

/-- A word edge with no open brace behind it is read whatever follows. -/
theorem confined_readEdge (f : Flags) (word : CharSet) :
    Confined (fun atom rest _ => Settled f atom rest) (readEdge f word) := by
  refine ⟨readEdge_suffix, ?_⟩
  intro s x r u v hu hv hx hread
  rcases cons_or_ne '\x7b' s with ⟨rest, rfl⟩ | hbrace
  · -- a word edge that stops in front of the brace has nothing but skipped signs behind it
    have hstay : f.skip rest = [] →
        some (Atom.look (.wordEdge word), '\x7b' :: (rest ++ u)) ≠ some (x, r ++ u) := by
      intro hskip heq
      obtain ⟨rfl, hrest⟩ := Prod.mk.inj (Option.some.inj heq)
      exact hx _ rfl ⟨rest, (List.append_cancel_right hrest).symm, hskip⟩
    rw [List.cons_append, readEdge_brace] at hread ⊢
    have hless : ∀ {n} {g : List Char → Option Atom},
        Consuming Anywhere (pick (readEdgeName f n) g) := (consuming_readEdgeName f _).pick _
    rcases f.part_or_rest rest with ⟨c, more, hpart⟩ | ⟨hskip, hrest⟩
    · have hlength := (f.skip_suffix (rest ++ v)).length_le
      rw [hpart] at hread hlength ⊢
      dsimp only at hread ⊢
      by_cases hc : isEdgeChar c = true
      · rw [if_pos hc] at hread ⊢
        have hswap := hless.swap (s := c :: more) hu hv trivial hread
        exact pick_bound hswap fun found hfound =>
          readEdgeName_bound hfound (Nat.lt_succ_of_le hlength)
      · rw [if_neg hc] at hread ⊢
        obtain ⟨rfl, hrest⟩ := Prod.mk.inj (Option.some.inj hread)
        obtain rfl : '\x7b' :: rest = r := List.append_cancel_right hrest
        rfl
    · have hlength := hrest u hu
      cases hmore : f.skip (rest ++ u) with
      | nil =>
          rw [hmore] at hread
          cases hread
      | cons c more =>
          rw [hmore] at hread hlength
          dsimp only at hread
          split at hread
          · exact absurd hread (hless.no_stay hlength)
          · exact absurd hread (hstay hskip)
  · rw [readEdge_of_ne f word (append_ne_cons (by decide) hu hbrace)] at hread
    rw [readEdge_of_ne f word (append_ne_cons (by decide) hv hbrace)]
    obtain ⟨rfl, hrest⟩ := Prod.mk.inj (Option.some.inj hread)
    rw [List.append_cancel_right hrest]

/-- An escape is read whatever follows it, unless it is a word edge with an open brace behind it. -/
theorem consuming_readEscape (f : Flags) :
    Consuming (fun atom rest _ => Settled f atom rest) (readEscape f) := by
  have heq : readEscape f = onHead fun c rest => readEscape f (c :: rest) := by
    funext s
    cases s <;> rfl
  have hsettled : ∀ {read : List Char → Option (Atom × List Char)}, Consuming Anywhere read →
      Confined (fun atom rest _ => Settled f atom rest) read :=
    fun h => h.toConfined.mono fun _ _ _ _ => trivial
  rw [heq]
  refine .head fun c => ?_
  simp only [readEscape]
  refine .iteProp (hsettled (consuming_readHexEscape f (by decide))) ?_
  refine .iteProp (hsettled (consuming_readHexEscape f (by decide))) ?_
  refine .iteProp (hsettled (consuming_readHexEscape f (by decide))) ?_
  refine .iteProp (hsettled (consuming_readProperty f _)) ?_
  refine .iteProp (confined_some _) ?_
  refine .iteProp (.iteProp (confined_some _) confined_none) ?_
  refine .iteProp (confined_some _) (.iteProp (confined_some _) ?_)
  refine .iteProp (confined_some _) (.iteProp (confined_some _) ?_)
  refine .iteProp (confined_readEdge f _) ?_
  refine .iteProp (confined_some _) (.iteProp (confined_some _) (.iteProp (confined_some _) ?_))
  cases controlEscape? c with
  | none => exact confined_none
  | some d => exact confined_some _

end AccessGate.Pattern
