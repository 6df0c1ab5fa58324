import AccessGate.Json.Printer
import AccessGate.Json.Reader
import AccessGate.Proofs.InstantText

/-! # Values survive their text

    A value whose numbers are integers of 64 bits is read back from its text as it was,
    whatever stands behind the text (`readValue_write`).  The one thing that can go wrong
    is depth: the reader gives up inside a value that is nested more deeply than it is
    allowed to go, and then it reads nothing at all.  So the law of a whole text is an
    `if` on the depth (`read?_toText`). -/

namespace AccessGate

namespace Json

mutual

/-- Is every number in a value an integer of 64 bits? -/
def isWhole : Json → Bool
  | .int n => decide (Int64.minValue.toInt ≤ n) && decide (n < UInt64.size)
  | .decimal _ _ => false
  | .arr items => areWhole items
  | .obj members => areMembersWhole members
  | _ => true

/-- Are the items of a list such values? -/
def areWhole : List Json → Bool
  | [] => true
  | item :: rest => isWhole item && areWhole rest

/-- Are the values of members such values? -/
def areMembersWhole : List (String × Json) → Bool
  | [] => true
  | (_, value) :: rest => isWhole value && areMembersWhole rest

end

mutual

/-- How many lists and objects stand around the innermost part of a value. -/
def nesting : Json → Nat
  | .arr items => nestingOfItems items + 1
  | .obj members => nestingOfMembers members + 1
  | _ => 0

/-- The depth of the deepest item. -/
def nestingOfItems : List Json → Nat
  | [] => 0
  | item :: rest => max (nesting item) (nestingOfItems rest)

/-- The depth of the deepest value of a member. -/
def nestingOfMembers : List (String × Json) → Nat
  | [] => 0
  | (_, value) :: rest => max (nesting value) (nestingOfMembers rest)

end

/-! ## Texts -/

/-- A character within a text is read back. -/
theorem readTextChar_writeChar (c : Char) (rest : List Char) :
    readTextChar (writeChar c ++ rest) = some (some c, rest) := by
  unfold writeChar
  split
  · next h => subst h; rfl
  split
  · next h => subst h; rfl
  split
  · next h => subst h; rfl
  split
  · next h => subst h; rfl
  split
  · next h => subst h; rfl
  split
  · next h => subst h; rfl
  split
  · next h => subst h; rfl
  split
  · next hlow =>
      have hsmall : ∀ n < 0x20, hexFour? '0' '0' (smallHexDigit (n / 16)) (smallHexDigit (n % 16))
          = some n := by decide
      show readTextChar ('\\' :: 'u' :: '0' :: '0' :: smallHexDigit (c.toNat / 16)
        :: smallHexDigit (c.toNat % 16) :: rest) = _
      rw [readTextChar, hsmall c.toNat hlow]
      have hfirst : ¬ (0xD800 ≤ c.toNat ∧ c.toNat < 0xDC00) := by omega
      have hsecond : ¬ (0xDC00 ≤ c.toNat ∧ c.toNat < 0xE000) := by omega
      simp only [Option.bind_eq_bind, Option.bind_some, if_neg hfirst, if_neg hsecond,
        Char.ofNat_toNat]
  · next hquote hback _ _ _ _ _ hhigh =>
      show readTextChar (c :: rest) = _
      unfold readTextChar
      split
      · next heq => exact absurd (List.cons.inj heq).1 hquote
      · next heq => exact absurd (List.cons.inj heq).1 hback
      · next heq => exact absurd (List.cons.inj heq).1 hback
      · next heq =>
          obtain ⟨rfl, rfl⟩ := List.cons.inj heq
          rw [if_neg]
          simpa [hback] using hhigh
      · next heq => cases heq

/-- A text is read back up to its closing quote. -/
theorem readText_write {cs : List Char} {fuel : Nat} (rest : List Char) (h : cs.length < fuel) :
    readText fuel (cs.flatMap writeChar ++ '"' :: rest) = some (cs, rest) := by
  induction cs generalizing fuel with
  | nil =>
      cases fuel with
      | zero => cases h
      | succ fuel => rfl
  | cons c more ih =>
      cases fuel with
      | zero => cases h
      | succ fuel =>
          rw [List.flatMap_cons, List.append_assoc, readText, readTextChar_writeChar]
          simp only [ih (Nat.lt_of_succ_lt_succ h), Option.map_some]

/-- No character is lost when it is written. -/
theorem writeChar_ne_nil (c : Char) : writeChar c ≠ [] := by
  unfold writeChar
  repeat' split
  all_goals exact List.cons_ne_nil _ _

/-- A text is not written any shorter than it is. -/
theorem length_le_flatMap_writeChar (cs : List Char) :
    cs.length ≤ (cs.flatMap writeChar).length := by
  induction cs with
  | nil => exact Nat.le_refl _
  | cons c rest ih =>
      have hpos := List.length_pos_iff.mpr (writeChar_ne_nil c)
      rw [List.flatMap_cons, List.length_append, List.length_cons]
      omega

/-- What stands between the quotes of a text is read as the text. -/
theorem readText_text (s : String) (rest : List Char) :
    readText ((s.toList.flatMap writeChar ++ '"' :: rest).length + 1)
      (s.toList.flatMap writeChar ++ '"' :: rest) = some (s.toList, rest) := by
  have hlength := length_le_flatMap_writeChar s.toList
  refine readText_write rest ?_
  rw [List.length_append]
  omega

/-! ## Numbers -/

/-- What may stand behind a value: nothing, or a sign that ends it. -/
def Ends (rest : List Char) : Prop := ∀ c ∈ rest.head?, c ∈ [',', ']', '\x7d']

theorem ends_nil : Ends [] := fun _ h => absurd h (Option.not_mem_none _)

theorem ends_cons {c : Char} (h : c ∈ [',', ']', '\x7d']) (rest : List Char) : Ends (c :: rest) :=
  fun _ hd => Option.some.inj hd ▸ h

/-- The value of digits is that of the library. -/
theorem decimalValue_eq (digits : List Char) : decimalValue digits = Nat.ofDigitChars 10 digits 0 := by
  rw [decimalValue, Nat.ofDigitChars_eq_foldl]
  congr 1
  funext acc c
  rw [Nat.mul_comm]
  rfl

/-- Only zero is written with a leading zero. -/
theorem eq_zero_of_head?_toDigits {n : Nat} (h : (Nat.toDigits 10 n).head? = some '0') : n = 0 := by
  induction n using Nat.strongRecOn with
  | ind n ih =>
      by_cases hlt : n < 10
      · rw [Nat.toDigits_of_lt_base hlt] at h
        exact Nat.digitChar_eq_zero.mp (Option.some.inj h)
      · obtain ⟨c, more, heq⟩ := List.exists_cons_of_ne_nil (Nat.toDigits_ne_nil (n := n / 10) (b := 10))
        rw [Nat.toDigits_of_base_le (by decide) (Nat.le_of_not_lt hlt), heq] at h
        have hzero := ih (n / 10) (by omega) (heq ▸ h)
        omega

/-- Digits end where a value ends. -/
theorem spanDigits_append {digits rest : List Char} (hdigits : ∀ c ∈ digits, c.isDigit = true)
    (hrest : Ends rest) : spanDigits (digits ++ rest) = (digits, rest) := by
  have htaken : rest.takeWhile Char.isDigit = [] ∧ rest.dropWhile Char.isDigit = rest := by
    cases rest with
    | nil => exact ⟨rfl, rfl⟩
    | cons c more =>
        have hno : ¬ c.isDigit = true := by
          have hall : ∀ d ∈ [',', ']', '\x7d'], ¬ d.isDigit = true := by simp
          exact hall c (hrest c rfl)
        exact ⟨List.takeWhile_cons_of_neg hno, List.dropWhile_cons_of_neg hno⟩
  rw [spanDigits, List.takeWhile_append_of_pos hdigits, List.dropWhile_append_of_pos hdigits,
    htaken.1, htaken.2, List.append_nil]

/-- Where a number ends there is no exponent. -/
theorem readExponent_of_ends {rest : List Char} (hrest : Ends rest) :
    readExponent rest = some (none, rest) := by
  cases rest with
  | nil => rfl
  | cons c more =>
      have hno : ¬ (c = 'e' ∨ c = 'E') := by
        have hall : ∀ d ∈ [',', ']', '\x7d'], ¬ (d = 'e' ∨ d = 'E') := by simp
        exact hall c (hrest c rfl)
      unfold readExponent
      exact if_neg hno

/-- The digits of a number are read as the number, with its sign, if it has 64 bits. -/
theorem readUnsigned_toDigits {negative : Bool} {n : Nat} {rest : List Char} (hrest : Ends rest)
    (hlow : negative = true → n ≠ 0 ∧ Int64.minValue.toInt ≤ -(n : Int))
    (hhigh : negative = false → n < UInt64.size) :
    readUnsigned negative (Nat.toDigits 10 n ++ rest)
      = some (.int (if negative then -(n : Int) else n), rest) := by
  have hspan : spanDigits (Nat.toDigits 10 n ++ rest) = (Nat.toDigits 10 n, rest) :=
    spanDigits_append (fun c hc => Nat.isDigit_of_mem_toDigits (by decide) (by decide) hc) hrest
  have hleading : ((Nat.toDigits 10 n).isEmpty || ((Nat.toDigits 10 n).head? == some '0'
      && decide ((Nat.toDigits 10 n).length > 1))) = false := by
    have hsome : (Nat.toDigits 10 n).isEmpty = false := by
      rw [List.isEmpty_eq_false_iff]
      exact Nat.toDigits_ne_nil
    rw [hsome, Bool.false_or, Bool.and_eq_false_iff]
    by_cases hhead : (Nat.toDigits 10 n).head? = some '0'
    · rw [eq_zero_of_head?_toDigits hhead]
      exact .inr rfl
    · exact .inl (beq_eq_false_iff_ne.mpr hhead)
  have hvalue : decimalValue (Nat.toDigits 10 n) = n := by
    rw [decimalValue_eq, Nat.ofDigitChars_ten_toDigits]
  unfold readUnsigned
  simp only [hspan, hleading, Bool.false_eq_true, if_false]
  split
  · next more => exact absurd (hrest '.' rfl) (by decide)
  · simp only [Bool.false_and, Bool.false_eq_true, if_false, readExponent_of_ends hrest,
      List.append_nil, hvalue]
    refine if_pos ?_
    cases negative with
    | true =>
        obtain ⟨hne, hlow⟩ := hlow rfl
        simp only [if_true, Bool.not_false, Option.isNone_none, Bool.true_and, Bool.and_eq_true,
          bne_iff_ne, decide_eq_true_eq]
        exact ⟨by omega, hlow⟩
    | false =>
        have hlt := hhigh rfl
        simp only [Bool.false_eq_true, if_false, Bool.not_false, Option.isNone_none, Bool.true_and,
          decide_eq_true_eq]
        omega

/-- An integer of 64 bits is read back, and no more than it is read. -/
theorem readNumber_writeInt {n : Int} {rest : List Char} (h : isWhole (.int n) = true)
    (hrest : Ends rest) : readNumber (writeInt n ++ rest) = some (.int n, rest) := by
  obtain ⟨hlow, hhigh⟩ := Bool.and_eq_true_iff.mp h
  have hlow : Int64.minValue.toInt ≤ n := of_decide_eq_true hlow
  have hhigh : n < UInt64.size := of_decide_eq_true hhigh
  by_cases hneg : n < 0
  · have habs : -(n.natAbs : Int) = n := by omega
    rw [writeInt, if_pos hneg]
    show readUnsigned true (Nat.toDigits 10 n.natAbs ++ rest) = _
    rw [@readUnsigned_toDigits true n.natAbs rest hrest (fun _ => ⟨by omega, by omega⟩)
      (fun h => nomatch h), if_pos rfl, habs]
  · have habs : (n.natAbs : Int) = n := by omega
    obtain ⟨c, more, heq⟩ :=
      List.exists_cons_of_ne_nil (Nat.toDigits_ne_nil (n := n.natAbs) (b := 10))
    have hdigit : c.isDigit = true :=
      Nat.isDigit_of_mem_toDigits (by decide) (by decide) (heq ▸ List.mem_cons_self)
    have hunsigned : readNumber (Nat.toDigits 10 n.natAbs ++ rest)
        = readUnsigned false (Nat.toDigits 10 n.natAbs ++ rest) := by
      rw [heq, List.cons_append]
      unfold readNumber
      split
      · next hminus =>
          rw [(List.cons.inj hminus).1] at hdigit
          cases hdigit
      · rfl
    rw [writeInt, if_neg hneg, List.nil_append, hunsigned,
      @readUnsigned_toDigits false n.natAbs rest hrest (fun h => nomatch h) (fun _ => by omega)]
    show some (Json.int n.natAbs, rest) = _
    rw [habs]

/-! ## Values -/

/-- A number begins with its sign or with a digit. -/
theorem writeInt_eq_cons (n : Int) :
    ∃ c more, writeInt n = c :: more ∧ (c = '-' ∨ c.isDigit = true) := by
  obtain ⟨c, more, heq⟩ := List.exists_cons_of_ne_nil (Nat.toDigits_ne_nil (n := n.natAbs) (b := 10))
  rw [writeInt, heq]
  split
  · exact ⟨'-', c :: more, rfl, .inl rfl⟩
  · exact ⟨c, more, rfl, .inr
      (Nat.isDigit_of_mem_toDigits (by decide) (by decide) (heq ▸ List.mem_cons_self))⟩

/-- Nothing else begins so. -/
theorem of_numeral {c : Char} (h : c = '-' ∨ c.isDigit = true) :
    c ∉ ['n', 't', 'f', '"', '[', '\x7b', ']', ' ', '\n', '\t', '\r'] := by
  intro hc
  have hall : ∀ d ∈ ['n', 't', 'f', '"', '[', '\x7b', ']', ' ', '\n', '\t', '\r'],
      ¬ (d = '-' ∨ d.isDigit = true) := by simp
  exact hall c hc h

theorem skipSpace_cons {c : Char} (h : isSpace c = false) (rest : List Char) :
    skipSpace (c :: rest) = c :: rest := by
  rw [skipSpace, List.dropWhile_cons_of_neg (by rw [h]; decide)]

theorem isSpace_of_numeral {c : Char} (h : c = '-' ∨ c.isDigit = true) : isSpace c = false := by
  have hno := of_numeral h
  refine Bool.eq_false_iff.mpr fun hspace => ?_
  simp only [isSpace, Bool.or_eq_true, beq_iff_eq] at hspace
  rcases hspace with ((rfl | rfl) | rfl) | rfl
  all_goals exact hno (by decide)

/-- The text of a value starts with a character that is no blank and closes no list. -/
theorem write_eq_cons (v : Json) :
    ∃ c more, write v = c :: more ∧ isSpace c = false ∧ c ≠ ']' := by
  have hint : ∀ (n : Int) (rest : List Char),
      ∃ c more, writeInt n ++ rest = c :: more ∧ isSpace c = false ∧ c ≠ ']' := by
    intro n rest
    obtain ⟨c, more, heq, hc⟩ := writeInt_eq_cons n
    refine ⟨c, more ++ rest, by rw [heq, List.cons_append], isSpace_of_numeral hc, ?_⟩
    rintro rfl
    exact of_numeral hc (by decide)
  cases v with
  | null => exact ⟨_, _, write.eq_1, by decide, by decide⟩
  | bool value => cases value with
    | true => exact ⟨_, _, write.eq_2, by decide, by decide⟩
    | false => exact ⟨_, _, write.eq_3, by decide, by decide⟩
  | int n => simpa [write] using hint n []
  | decimal m e => simpa [write] using hint m ('e' :: writeInt e)
  | str s => exact ⟨_, _, by rw [write, writeText]; rfl, by decide, by decide⟩
  | arr items => exact ⟨_, _, by rw [write]; rfl, by decide, by decide⟩
  | obj members => exact ⟨_, _, by rw [write]; rfl, by decide, by decide⟩

/-- A text that starts like a number is read as one. -/
theorem readValue_of_numeral {c : Char} {fuel depth : Nat} {rest : List Char}
    (h : c = '-' ∨ c.isDigit = true) :
    readValue (fuel + 1) depth (c :: rest) = readNumber (c :: rest) := by
  have hno := of_numeral h
  simp only [List.mem_cons, not_or] at hno
  rw [readValue, skipSpace_cons (isSpace_of_numeral h)]
  split
  all_goals simp_all

/-- A list that is not empty is read as its items, one level further in. -/
theorem readValue_bracket {c : Char} {fuel depth : Nat} {items : List Char} (hspace : isSpace c = false)
    (hclose : c ≠ ']') (hdepth : 1 < depth) :
    readValue (fuel + 1) depth ('[' :: c :: items)
      = (readItems fuel (depth - 1) (c :: items)).map fun found => (.arr found.1, found.2) := by
  rw [readValue]
  show (if depth ≤ 1 then none else _) = _
  rw [if_neg (by omega), skipSpace_cons hspace]
  split
  · next heq => exact absurd (List.cons.inj heq).1 hclose
  · rfl

/-- An object that is not empty is read as its members, one level further in. -/
theorem readValue_brace {fuel depth : Nat} {members : List Char} (hdepth : 1 < depth) :
    readValue (fuel + 1) depth ('\x7b' :: '"' :: members)
      = (readMembers fuel (depth - 1) ('"' :: members)).map fun found => (.obj found.1, found.2) := by
  rw [readValue]
  show (if depth ≤ 1 then none else _) = _
  rw [if_neg (by omega)]
  rfl

theorem writeItems_cons_cons (item next : Json) (rest : List Json) :
    writeItems (item :: next :: rest) = write item ++ ',' :: writeItems (next :: rest) := by
  rw [writeItems]
  exact List.cons_ne_nil _ _

theorem writeMembers_cons_cons (name : String) (value : Json) (next : String × Json)
    (rest : List (String × Json)) : writeMembers ((name, value) :: next :: rest)
      = writeText name ++ ':' :: (write value ++ ',' :: writeMembers (next :: rest)) := by
  rw [writeMembers]
  exact List.cons_ne_nil _ _

/-- A list begins with its first item. -/
theorem writeItems_starts (item : Json) (rest : List Json) :
    ∃ more, writeItems (item :: rest) = write item ++ more := by
  cases rest with
  | nil => exact ⟨[], by rw [writeItems, List.append_nil]⟩
  | cons next others => exact ⟨_, writeItems_cons_cons item next others⟩

/-- An object begins with the name of its first member. -/
theorem writeMembers_starts (name : String) (value : Json) (rest : List (String × Json)) :
    ∃ more, writeMembers ((name, value) :: rest) = '"' :: more := by
  cases rest with
  | nil => exact ⟨_, by rw [writeMembers, writeText]; rfl⟩
  | cons next others => exact ⟨_, by rw [writeMembers_cons_cons, writeText]; rfl⟩

/-- A member is read by its name, which is a text, and its value. -/
theorem readMembers_member (name : String) (fuel depth : Nat) (rest : List Char) :
    readMembers (fuel + 1) depth (writeText name ++ ':' :: rest)
      = match readValue fuel depth rest with
        | some (value, rest) =>
          match skipSpace rest with
          | ',' :: more =>
            (readMembers fuel depth more).map fun found => ((name, value) :: found.1, found.2)
          | '\x7d' :: more => some ([(name, value)], more)
          | _ => none
        | none => none := by
  have hshape : writeText name ++ ':' :: rest
      = '"' :: (name.toList.flatMap writeChar ++ '"' :: ':' :: rest) := by
    rw [writeText, List.append_assoc]
    rfl
  have hskip : skipSpace ('"' :: (name.toList.flatMap writeChar ++ '"' :: ':' :: rest))
      = '"' :: (name.toList.flatMap writeChar ++ '"' :: ':' :: rest) := rfl
  rw [hshape, readMembers, hskip]
  simp only [readText_text, String.ofList_toList]
  rfl

/-- The nesting of a list or an object leaves one level less for what is in it. -/
theorem ite_nesting {α β : Type} {inner depth : Nat} {found : α} {f : α → β} (h : 1 < depth) :
    (if inner < depth - 1 then some found else none).map f
      = if inner + 1 < depth then some (f found) else none := by
  by_cases hlt : inner + 1 < depth
  · rw [if_pos hlt, if_pos (by omega)]
    rfl
  · rw [if_neg hlt, if_neg (by omega)]
    rfl

mutual

/-- A value is read back from its text whatever follows, unless it is too deep. -/
theorem readValue_write : ∀ (v : Json) (fuel depth : Nat) (rest : List Char), isWhole v = true →
    Ends rest → 2 * (write v).length ≤ fuel → 0 < depth →
    readValue fuel depth (write v ++ rest) = if nesting v < depth then some (v, rest) else none
  | v, 0, _, _, _, _, hfuel, _ => by
      obtain ⟨c, more, heq, -⟩ := write_eq_cons v
      rw [heq] at hfuel
      exact absurd hfuel (by simp)
  | .null, fuel + 1, depth, rest, _, _, _, hdepth => by
      rw [if_pos (show nesting .null < depth from hdepth)]
      rfl
  | .bool true, fuel + 1, depth, rest, _, _, _, hdepth => by
      rw [if_pos (show nesting (.bool true) < depth from hdepth)]
      rfl
  | .bool false, fuel + 1, depth, rest, _, _, _, hdepth => by
      rw [if_pos (show nesting (.bool false) < depth from hdepth)]
      rfl
  | .int n, fuel + 1, depth, rest, hwhole, hrest, _, hdepth => by
      obtain ⟨c, more, heq, hc⟩ := writeInt_eq_cons n
      have hread := readNumber_writeInt hwhole hrest
      rw [if_pos (show nesting (.int n) < depth from hdepth), write, heq, List.cons_append,
        readValue_of_numeral hc]
      rwa [heq, List.cons_append] at hread
  | .decimal m e, fuel + 1, depth, rest, hwhole, _, _, _ => nomatch hwhole
  | .str s, fuel + 1, depth, rest, _, _, _, hdepth => by
      have hshape : write (.str s) ++ rest
          = '"' :: (s.toList.flatMap writeChar ++ '"' :: rest) := by
        rw [write, writeText, List.append_assoc]
        rfl
      rw [if_pos (show nesting (.str s) < depth from hdepth), hshape]
      show (readText _ _).map _ = _
      rw [readText_text]
      show some (Json.str (String.ofList s.toList), rest) = _
      rw [String.ofList_toList]
  | .arr [], fuel + 1, depth, rest, _, _, _, hdepth => by
      show (if depth ≤ 1 then none else some (Json.arr [], rest)) = if 0 + 1 < depth then _ else _
      by_cases hle : depth ≤ 1
      · rw [if_pos hle, if_neg (by omega)]
      · rw [if_neg hle, if_pos (by omega)]
  | .arr (item :: items), fuel + 1, depth, rest, hwhole, _, hfuel, hdepth => by
      have hshape : write (.arr (item :: items)) ++ rest
          = '[' :: (writeItems (item :: items) ++ ']' :: rest) := by
        rw [write, List.append_assoc]
        rfl
      have hlength : (write (.arr (item :: items))).length
          = (writeItems (item :: items)).length + 2 := by
        rw [write, List.length_append, List.length_cons]
        rfl
      rw [hshape]
      by_cases hle : depth ≤ 1
      · rw [nesting, if_neg (by omega)]
        exact if_pos hle
      · have hitems := readItems_write (item :: items) fuel (depth - 1) rest (List.cons_ne_nil _ _)
          hwhole (by omega) (by omega)
        obtain ⟨c, first, hfirst, hspace, hclose⟩ := write_eq_cons item
        obtain ⟨more, hmore⟩ := writeItems_starts item items
        rw [hmore, hfirst, List.cons_append, List.cons_append] at hitems ⊢
        rw [readValue_bracket hspace hclose (by omega), hitems, ite_nesting (by omega)]
        rfl
  | .obj [], fuel + 1, depth, rest, _, _, _, hdepth => by
      show (if depth ≤ 1 then none else some (Json.obj [], rest)) = if 0 + 1 < depth then _ else _
      by_cases hle : depth ≤ 1
      · rw [if_pos hle, if_neg (by omega)]
      · rw [if_neg hle, if_pos (by omega)]
  | .obj ((name, value) :: members), fuel + 1, depth, rest, hwhole, _, hfuel, hdepth => by
      have hshape : write (.obj ((name, value) :: members)) ++ rest
          = '\x7b' :: (writeMembers ((name, value) :: members) ++ '\x7d' :: rest) := by
        rw [write, List.append_assoc]
        rfl
      have hlength : (write (.obj ((name, value) :: members))).length
          = (writeMembers ((name, value) :: members)).length + 2 := by
        rw [write, List.length_append, List.length_cons]
        rfl
      rw [hshape]
      by_cases hle : depth ≤ 1
      · rw [nesting, if_neg (by omega)]
        exact if_pos hle
      · have hmembers := readMembers_write ((name, value) :: members) fuel (depth - 1) rest
          (List.cons_ne_nil _ _) hwhole (by omega) (by omega)
        obtain ⟨more, hmore⟩ := writeMembers_starts name value members
        rw [hmore, List.cons_append] at hmembers ⊢
        rw [readValue_brace (by omega), hmembers, ite_nesting (by omega)]
        rfl

/-- Items are read back up to the bracket that closes them. -/
theorem readItems_write : ∀ (items : List Json) (fuel depth : Nat) (rest : List Char),
    items ≠ [] → areWhole items = true → 2 * (writeItems items).length + 1 ≤ fuel → 0 < depth →
    readItems fuel depth (writeItems items ++ ']' :: rest)
      = if nestingOfItems items < depth then some (items, rest) else none
  | [], _, _, _, hne, _, _, _ => absurd rfl hne
  | _ :: _, 0, _, _, _, _, hfuel, _ => absurd hfuel (by simp)
  | [item], fuel + 1, depth, rest, _, hwhole, hfuel, hdepth => by
      rw [writeItems] at hfuel
      have hitem := readValue_write item fuel depth (']' :: rest) (Bool.and_eq_true_iff.mp hwhole).1
        (ends_cons (by decide) _) (by omega) hdepth
      rw [writeItems, readItems, hitem, nestingOfItems, nestingOfItems, Nat.max_zero]
      by_cases hlt : nesting item < depth
      · rw [if_pos hlt, if_pos hlt]
        rfl
      · rw [if_neg hlt, if_neg hlt]
  | item :: next :: more, fuel + 1, depth, rest, _, hwhole, hfuel, hdepth => by
      obtain ⟨hitem, hmore⟩ := Bool.and_eq_true_iff.mp hwhole
      rw [writeItems_cons_cons, List.length_append, List.length_cons] at hfuel
      have hfirst := readValue_write item fuel depth
        (',' :: (writeItems (next :: more) ++ ']' :: rest)) hitem (ends_cons (by decide) _)
        (by omega) hdepth
      have hothers := readItems_write (next :: more) fuel depth rest (List.cons_ne_nil _ _) hmore
        (by omega) hdepth
      rw [writeItems_cons_cons, List.append_assoc, List.cons_append, readItems, hfirst,
        nestingOfItems]
      by_cases hlt : nesting item < depth
      · rw [if_pos hlt]
        show (readItems fuel depth _).map _ = _
        rw [hothers]
        by_cases hdeep : nestingOfItems (next :: more) < depth
        · rw [if_pos hdeep, if_pos (by omega)]
          rfl
        · rw [if_neg hdeep, if_neg (by omega)]
          rfl
      · rw [if_neg hlt, if_neg (by omega)]

/-- Members are read back up to the brace that closes them. -/
theorem readMembers_write : ∀ (members : List (String × Json)) (fuel depth : Nat)
    (rest : List Char), members ≠ [] → areMembersWhole members = true →
    2 * (writeMembers members).length + 1 ≤ fuel → 0 < depth →
    readMembers fuel depth (writeMembers members ++ '\x7d' :: rest)
      = if nestingOfMembers members < depth then some (members, rest) else none
  | [], _, _, _, hne, _, _, _ => absurd rfl hne
  | _ :: _, 0, _, _, _, _, hfuel, _ => absurd hfuel (by simp)
  | [(name, value)], fuel + 1, depth, rest, _, hwhole, hfuel, hdepth => by
      rw [writeMembers, List.length_append, List.length_cons] at hfuel
      have hvalue := readValue_write value fuel depth ('\x7d' :: rest)
        (Bool.and_eq_true_iff.mp hwhole).1 (ends_cons (by decide) _) (by omega) hdepth
      rw [writeMembers, List.append_assoc, List.cons_append, readMembers_member, hvalue,
        nestingOfMembers, nestingOfMembers, Nat.max_zero]
      by_cases hlt : nesting value < depth
      · rw [if_pos hlt, if_pos hlt]
        rfl
      · rw [if_neg hlt, if_neg hlt]
  | (name, value) :: next :: more, fuel + 1, depth, rest, _, hwhole, hfuel, hdepth => by
      obtain ⟨hvalue, hmore⟩ := Bool.and_eq_true_iff.mp hwhole
      rw [writeMembers_cons_cons, List.length_append, List.length_cons, List.length_append,
        List.length_cons] at hfuel
      have hfirst := readValue_write value fuel depth
        (',' :: (writeMembers (next :: more) ++ '\x7d' :: rest)) hvalue (ends_cons (by decide) _)
        (by omega) hdepth
      have hothers := readMembers_write (next :: more) fuel depth rest (List.cons_ne_nil _ _) hmore
        (by omega) hdepth
      rw [writeMembers_cons_cons, List.append_assoc, List.cons_append, List.append_assoc,
        List.cons_append, readMembers_member, hfirst, nestingOfMembers]
      by_cases hlt : nesting value < depth
      · rw [if_pos hlt]
        show (readMembers fuel depth _).map _ = _
        rw [hothers]
        by_cases hdeep : nestingOfMembers (next :: more) < depth
        · rw [if_pos hdeep, if_pos (by omega)]
          rfl
        · rw [if_neg hdeep, if_neg (by omega)]
          rfl
      · rw [if_neg hlt, if_neg (by omega)]

end

/-- The text of a value is read as the value, unless the value is nested too deeply. -/
theorem read?_toText {v : Json} (h : isWhole v = true) :
    read? v.toText = if nesting v < 128 then some v else none := by
  have hread := readValue_write v (2 * (write v).length + 2) 128 [] h ends_nil (by omega) (by decide)
  rw [List.append_nil] at hread
  rw [read?, toText, String.toList_ofList]
  simp only [hread]
  by_cases hlt : nesting v < 128
  · rw [if_pos hlt, if_pos hlt]
    rfl
  · rw [if_neg hlt, if_neg hlt]

/-- An object is as deep as the deepest value in it. -/
theorem nestingOfMembers_lt_iff {members : List (String × Json)} {depth : Nat} (h : 0 < depth) :
    nestingOfMembers members < depth ↔ ∀ m ∈ members, nesting m.2 < depth := by
  induction members with
  | nil => exact ⟨fun _ => List.forall_mem_nil _, fun _ => h⟩
  | cons m rest ih =>
      obtain ⟨name, value⟩ := m
      rw [nestingOfMembers, Nat.max_lt, ih, List.forall_mem_cons]

/-- An object holds whole numbers only, just when each of its members does. -/
theorem areMembersWhole_iff {members : List (String × Json)} :
    areMembersWhole members = true ↔ ∀ m ∈ members, isWhole m.2 = true := by
  induction members with
  | nil => exact ⟨fun _ => List.forall_mem_nil _, fun _ => rfl⟩
  | cons m rest ih =>
      obtain ⟨name, value⟩ := m
      rw [areMembersWhole, Bool.and_eq_true, ih, List.forall_mem_cons]

/-! ## Lists of texts -/

theorem areWhole_texts (texts : List String) : areWhole (texts.map .str) = true := by
  induction texts with
  | nil => rfl
  | cons text rest ih => exact ih

theorem nestingOfItems_texts (texts : List String) : nestingOfItems (texts.map .str) = 0 := by
  induction texts with
  | nil => rfl
  | cons text rest ih =>
      rw [List.map_cons, nestingOfItems, ih]
      rfl

end Json
end AccessGate
