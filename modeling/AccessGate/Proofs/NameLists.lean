import AccessGate.Proofs.Resolution
import AccessGate.Proofs.Stages
import Mathlib.Data.Option.Basic
import Mathlib.Tactic.MkIffOfInductiveProp

/-! # What a text of names lists

    A text lists names between commas and without the blanks around them, so not every name
    can be listed.  Those that can are plain: no comma is in them, and no blank at either
    end.  A text lists plain names only (`plain_of_mem_names`), a plain name is the list of
    itself alone (`names_of_plain`), and for any other name no text lists it, not even up to
    ASCII case: `lists_itself_iff`.

    `listed` are the names of a text that may be missing. -/

namespace AccessGate

namespace Text

variable {name text a b : String} {s : List Char}

/-! ## Plain names -/

/-- A name that a text can list: without a comma, and without a blank at either end. -/
@[mk_iff] structure Plain (name : String) : Prop where
  no_comma : ',' ∉ name.toList
  starts : ∀ c ∈ name.toList.head?, isBlank c = false
  ends : ∀ c ∈ name.toList.getLast?, isBlank c = false

/-- The character at an end is looked at, not every character that there is. -/
instance (name : String) : Decidable (Plain name) :=
  letI _atEnd (side : Option Char) : Decidable (∀ c ∈ side, isBlank c = false) :=
    Option.decidableForallMem side
  decidable_of_iff _ (plain_iff name).symm

/-- Whatever a text lists is plain. -/
theorem plain_of_mem_names (h : name ∈ names text) : Plain name := by
  obtain ⟨hmem, -⟩ := List.mem_filter.mp h
  obtain ⟨segment, hsegment, rfl⟩ := List.mem_map.mp hmem
  rw [plain_iff, String.toList_ofList]
  exact ⟨fun hcomma => not_mem_of_mem_splitOn hsegment (mem_of_mem_trimChars hcomma),
    starts_trimChars segment, ends_trimChars segment⟩

/-- A plain name is a list of itself alone. -/
theorem names_of_plain (h : Plain name) (hne : name ≠ "") : names name = [name] := by
  have hkept : (!name.isEmpty) = true := by
    rw [Bool.not_eq_true', Bool.eq_false_iff]
    exact fun hempty => hne (String.isEmpty_iff.mp hempty)
  rw [names, List.splitOn_eq_singleton h.no_comma, List.map_singleton,
    trimChars_of_ends h.starts h.ends, String.ofList_toList]
  exact List.filter_cons_of_pos hkept

/-! ## Plain names up to case

    The case of letters has no part in what a text lists: a capital is neither a comma nor
    a blank. -/

theorem toNat_lowerChar {c : Char} (h : 'A' ≤ c ∧ c ≤ 'Z') :
    65 ≤ c.toNat ∧ c.toNat ≤ 90 ∧ (lowerChar c).toNat = c.toNat + 32 := by
  have hlow : 65 ≤ c.toNat := h.1
  have hhigh : c.toNat ≤ 90 := h.2
  refine ⟨hlow, hhigh, ?_⟩
  have hvalid : (c.toNat + 32).isValidChar := .inl (by omega)
  rw [lowerChar, if_pos h, Char.ofNat, dif_pos hvalid]
  rfl

/-- Small letters are blank just where the capitals are. -/
theorem isBlank_lowerChar (c : Char) : isBlank (lowerChar c) = isBlank c := by
  by_cases h : 'A' ≤ c ∧ c ≤ 'Z'
  · obtain ⟨hlow, hhigh, hlower⟩ := toNat_lowerChar h
    have hne : ∀ n, 65 ≤ n → n ≤ 122 → ∀ d : Char, d.toNat = n → isBlank d = false := by
      intro n hn hn' d hd
      simp only [isBlank, hd, Bool.or_eq_false_iff, Bool.and_eq_false_iff, decide_eq_false_iff_not,
        beq_eq_false_iff_ne]
      omega
    rw [hne _ hlow (by omega) c rfl, hne _ (by omega) (by omega) _ hlower]
  · rw [lowerChar, if_neg h]

theorem lowerChar_eq_comma {c : Char} : lowerChar c = ',' ↔ c = ',' := by
  by_cases h : 'A' ≤ c ∧ c ≤ 'Z'
  · obtain ⟨hlow, hhigh, hlower⟩ := toNat_lowerChar h
    constructor
    · intro heq
      rw [heq] at hlower
      have : (44 : Nat) = c.toNat + 32 := hlower
      omega
    · rintro rfl
      exact absurd hlow (by decide)
  · rw [lowerChar, if_neg h]

/-- A name is plain just when the same name in small letters is. -/
theorem plain_lower : Plain (lower name) ↔ Plain name := by
  have hchars : (lower name).toList = name.toList.map lowerChar := String.toList_ofList
  have hcomma : ',' ∈ name.toList.map lowerChar ↔ ',' ∈ name.toList := by
    rw [List.mem_map]
    constructor
    · rintro ⟨c, hc, heq⟩
      exact lowerChar_eq_comma.mp heq ▸ hc
    · intro hc
      exact ⟨',', hc, lowerChar_eq_comma.mpr rfl⟩
  rw [plain_iff, plain_iff, hchars, hcomma, List.head?_map, List.getLast?_map]
  simp only [Option.forall_mem_map, isBlank_lowerChar]

/-- A name is plain if another one is that differs by case only. -/
theorem plain_of_sameName (h : sameName a b = true) (hb : Plain b) : Plain a := by
  rw [sameName, beq_iff_eq] at h
  exact plain_lower.mp (h ▸ plain_lower.mpr hb)

theorem ne_empty_of_not_blank (h : isBlankText name = false) : name ≠ "" := by
  rintro rfl
  cases h

/-- A name that is not blank is in its own list, up to ASCII case, just when it is plain. -/
theorem lists_itself_iff (h : isBlankText name = false) :
    (∃ own ∈ names name, sameName name own = true) ↔ Plain name := by
  constructor
  · rintro ⟨own, hmem, hsame⟩
    exact plain_of_sameName hsame (plain_of_mem_names hmem)
  · intro hplain
    rw [names_of_plain hplain (ne_empty_of_not_blank h)]
    exact ⟨name, List.mem_singleton_self name, sameName_self name⟩

/-! ## Texts that may be missing -/

/-- The names that a text lists, if there is a text. -/
def listed (given : Option String) : List String := given.elim [] names

/-- Who says nothing lists nothing. -/
theorem listed_of_silent {given : Option String} (h : Silent given) : listed given = [] := by
  cases given with
  | none => rfl
  | some text =>
      rcases nonBlank_some text with hsays | ⟨-, hnames⟩
      · cases hsays.symm.trans (nonBlank_eq_none.mpr h)
      · exact hnames

end Text

end AccessGate
