import AccessGate.Proofs.NameLists

/-! # Every way to write a list of names

    Who writes a list of names may put blanks around each of them and leave out names
    between commas.  A `Layout` says how a list is written, segment by segment, where a
    segment has a name that can be listed, or none, and blanks on either side of it.

    A text lists names just when it is one of their layouts (`names_eq_iff`): every text is
    a layout (`exists_layout`), and each layout is read back (`names_text`).  So what a text
    lists is known from how it was written, and a text after another, with a comma between
    the two, lists what the two of them list. -/

namespace AccessGate.Text

/-! ## Segments -/

/-- A stretch between commas: a name, or nothing, with blanks on either side. -/
structure Segment where
  before : List Char
  name : String
  after : List Char
  before_blank : ∀ c ∈ before, isBlank c = true
  name_plain : Plain name
  after_blank : ∀ c ∈ after, isBlank c = true

namespace Segment

/-- A segment as it stands in a text. -/
def chars (segment : Segment) : List Char :=
  segment.before ++ (segment.name.toList ++ segment.after)

theorem trimChars_chars (segment : Segment) : trimChars segment.chars = segment.name.toList :=
  trimChars_of_around segment.before_blank segment.name_plain.starts segment.name_plain.ends
    segment.after_blank

theorem no_comma (segment : Segment) : ',' ∉ segment.chars := by
  have hblank : ∀ {s : List Char}, (∀ c ∈ s, isBlank c = true) → ',' ∉ s := fun h hmem =>
    absurd (h ',' hmem) (by decide)
  rw [chars, List.mem_append, List.mem_append, not_or, not_or]
  exact ⟨hblank segment.before_blank, segment.name_plain.no_comma, hblank segment.after_blank⟩

/-- A stretch without a comma is a segment. -/
theorem exists_chars {s : List Char} (h : ',' ∉ s) : ∃ segment : Segment, segment.chars = s := by
  obtain ⟨before, after, hs, hbefore, hafter⟩ := exists_around s
  have hplain : Plain (String.ofList (trimChars s)) := by
    rw [plain_iff, String.toList_ofList]
    exact ⟨fun hmem => h (mem_of_mem_trimChars hmem), starts_trimChars s, ends_trimChars s⟩
  refine ⟨⟨before, String.ofList (trimChars s), after, hbefore, hplain, hafter⟩, ?_⟩
  rw [chars, String.toList_ofList, ← hs]

end Segment

/-! ## Layouts -/

/-- How a list of names is written. -/
abbrev Layout := List Segment

namespace Layout

/-- The text of a layout: its segments, with a comma between two of them. -/
def text (layout : Layout) : String := String.ofList ([','].intercalate (layout.map Segment.chars))

/-- The names that are written, in order. -/
def names (layout : Layout) : List String := (layout.map Segment.name).filter (· ≠ "")

end Layout

/-- Every text is a layout. -/
theorem exists_layout (text : String) : ∃ layout : Layout, layout.text = text := by
  have hlayout : ∀ parts : List (List Char), (∀ part ∈ parts, ',' ∉ part) →
      ∃ layout : Layout, layout.map Segment.chars = parts := by
    intro parts h
    induction parts with
    | nil => exact ⟨[], rfl⟩
    | cons part rest ih =>
        obtain ⟨hpart, hrest⟩ := List.forall_mem_cons.mp h
        obtain ⟨segment, rfl⟩ := Segment.exists_chars hpart
        obtain ⟨layout, rfl⟩ := ih hrest
        exact ⟨segment :: layout, rfl⟩
  obtain ⟨layout, hparts⟩ := hlayout (text.toList.splitOn ',') fun _ => not_mem_of_mem_splitOn
  refine ⟨layout, ?_⟩
  rw [Layout.text, hparts, List.intercalate_splitOn, String.ofList_toList]

/-- A layout is read back. -/
theorem names_text (layout : Layout) : names layout.text = layout.names := by
  have htrimmed : (fun s => String.ofList (trimChars s)) ∘ Segment.chars = Segment.name := by
    funext segment
    show String.ofList (trimChars segment.chars) = segment.name
    rw [segment.trimChars_chars, String.ofList_toList]
  cases layout with
  | nil => rfl
  | cons first rest =>
      have hparts : ∀ part ∈ (first :: rest).map Segment.chars, ',' ∉ part := by
        intro part hpart
        obtain ⟨segment, -, rfl⟩ := List.mem_map.mp hpart
        exact segment.no_comma
      rw [names, Layout.text, String.toList_ofList, List.splitOn_intercalate ',' hparts (by simp),
        List.map_map, htrimmed, Layout.names]
      refine List.filter_congr fun name _ => ?_
      by_cases hname : name = ""
      · simp [hname]
      · simp [hname]

/-- A text lists names just when it is one of the ways to write them. -/
theorem names_eq_iff {text : String} {listed : List String} :
    names text = listed ↔ ∃ layout : Layout, layout.text = text ∧ layout.names = listed := by
  constructor
  · rintro rfl
    obtain ⟨layout, rfl⟩ := exists_layout text
    exact ⟨layout, rfl, (names_text layout).symm⟩
  · rintro ⟨layout, rfl, rfl⟩
    exact names_text layout

/-- Two texts with a comma between them list what the first one lists, then what the second
    one does. -/
theorem names_append_comma (text other : String) :
    names (text ++ "," ++ other) = names text ++ names other := by
  have hchars : (text ++ "," ++ other).toList = text.toList ++ ',' :: other.toList := by
    rw [String.toList_append, String.toList_append, List.append_assoc]
    rfl
  rw [names, hchars, List.splitOn_append_cons_self, List.map_append, List.filter_append]
  rfl

/-- The names of a text are those of whichever layout it is: each is plain and not empty, and
    whatever blanks and empty segments there are do not count.  Texts that are put together
    with a comma list their names one after the other. -/
theorem lists_layout (text : String) :
    (∀ listed, names text = listed ↔
        ∃ layout : Layout, layout.text = text ∧ layout.names = listed) ∧
      (∀ name ∈ names text, Plain name ∧ name ≠ "") ∧
      ∀ other, names (text ++ "," ++ other) = names text ++ names other :=
  ⟨fun _ => names_eq_iff, fun _ h => ⟨plain_of_mem_names h, ne_empty_of_mem_names h⟩,
    names_append_comma text⟩

end AccessGate.Text
