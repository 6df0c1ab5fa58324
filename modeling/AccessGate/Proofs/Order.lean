import AccessGate.Proofs.Lookup
import AccessGate.Proofs.WireForm

/-! # Profile sets as ordered maps

    A profile set is a list in which every client stands once.  What is put at a
    client that is there takes the place of the old profile, what is put at another
    goes to the end.  Here the entries of a set after each change are written out
    as plain lists, so that nothing later follows `putInOrder` along its recursion.

    `survives_wire` is about what passes through the wire form.  A list that is read
    may name a client several times: the set that comes of it has each client once,
    where it first stood, with the profile that it last had. -/

namespace AccessGate

variable {α : Type}

/-! ## Lists of entries -/

/-- Put a value at a key: in place of the old one, or at the end. -/
def putAt (key : String) (value : α) (l : List (String × α)) : List (String × α) :=
  if key ∈ l.map Prod.fst then l.map fun e => if e.1 = key then (key, value) else e
  else l ++ [(key, value)]

/-- The entries of a list but that of one key. -/
def without (key : String) (l : List (String × α)) : List (String × α) :=
  l.filter fun e => e.1 ≠ key

/-- Lay a list over another: where a key stands in both the value is that of the
    list above, and what stands only above comes last. -/
def overlay (below above : List (String × α)) : List (String × α) :=
  below.map (fun e => (e.1, (above.lookup e.1).getD e.2))
    ++ above.filter fun e => e.1 ∉ below.map Prod.fst

theorem map_replace_of_not_mem {key : String} {value : α} {l : List (String × α)}
    (h : key ∉ l.map Prod.fst) : (l.map fun e => if e.1 = key then (key, value) else e) = l := by
  have hkeep : ∀ e ∈ l, (if e.1 = key then (key, value) else e) = e := by
    intro e he
    have hne : e.1 ≠ key := fun heq => h (heq ▸ List.mem_map_of_mem he)
    rw [if_neg hne]
  rw [List.map_congr_left hkeep, List.map_id']

/-- Under names that do not repeat, a value is put where its name stands, or at the end. -/
theorem putInOrder_eq {key : String} {value : α} {l : List (String × α)}
    (h : (l.map Prod.fst).Nodup) : putInOrder key value l = putAt key value l := by
  induction l with
  | nil => rfl
  | cons head rest ih =>
      obtain ⟨first, v⟩ := head
      obtain ⟨hfirst, hrest⟩ := List.nodup_cons.mp h
      rw [putInOrder]
      by_cases hk : first = key
      · -- the key stands nowhere else
        subst hk
        have hmem : first ∈ ((first, v) :: rest).map Prod.fst := List.mem_cons_self
        rw [if_pos rfl, putAt, if_pos hmem, List.map_cons, if_pos rfl, map_replace_of_not_mem hfirst]
      · rw [if_neg hk, ih hrest, putAt, putAt]
        by_cases hmem : key ∈ rest.map Prod.fst
        · have hmem' : key ∈ ((first, v) :: rest).map Prod.fst := List.mem_cons_of_mem _ hmem
          rw [if_pos hmem, if_pos hmem', List.map_cons, if_neg hk]
        · have hmem' : key ∉ ((first, v) :: rest).map Prod.fst := by
            intro hin
            rcases List.mem_cons.mp hin with heq | hin
            · exact hk heq.symm
            · exact hmem hin
          rw [if_neg hmem, if_neg hmem', List.cons_append]

/-- A new name goes to the end, and a known one keeps its place. -/
theorem keys_putAt (key : String) (value : α) (l : List (String × α)) :
    (putAt key value l).map Prod.fst
      = if key ∈ l.map Prod.fst then l.map Prod.fst else l.map Prod.fst ++ [key] := by
  rw [putAt]
  by_cases hmem : key ∈ l.map Prod.fst
  · rw [if_pos hmem, if_pos hmem, List.map_map]
    refine List.map_congr_left fun e _ => ?_
    show (if e.1 = key then (key, value) else e).1 = e.1
    by_cases he : e.1 = key
    · rw [if_pos he, he]
    · rw [if_neg he]
  · rw [if_neg hmem, if_neg hmem, List.map_append]
    rfl

/-- To take away a name that is not there changes nothing. -/
theorem without_of_not_mem {key : String} {l : List (String × α)} (h : key ∉ l.map Prod.fst) :
    without key l = l := by
  refine List.filter_eq_self.mpr fun e he => ?_
  have hne : e.1 ≠ key := fun heq => h (heq ▸ List.mem_map_of_mem he)
  exact decide_eq_true hne

/-- Nothing is in the list but what was there and what was put. -/
theorem mem_putAt {key : String} {value : α} {l : List (String × α)} {e : String × α}
    (h : e ∈ putAt key value l) : e = (key, value) ∨ e ∈ l := by
  rw [putAt] at h
  split at h
  · obtain ⟨old, hold, rfl⟩ := List.mem_map.mp h
    by_cases hkey : old.1 = key
    · exact .inl (if_pos hkey)
    · rw [if_neg hkey]
      exact .inr hold
  · rcases List.mem_append.mp h with h | h
    · exact .inr h
    · exact .inl (List.mem_singleton.mp h)

/-- What lies over a list and what is left of it come from the two. -/
theorem mem_overlay {below above : List (String × α)} {e : String × α}
    (h : e ∈ overlay below above) : e ∈ below ∨ e ∈ above := by
  rcases List.mem_append.mp h with h | h
  · obtain ⟨old, hold, rfl⟩ := List.mem_map.mp h
    cases hvalue : above.lookup old.1 with
    | none => exact .inl hold
    | some value =>
        obtain ⟨before, after, rfl, -⟩ := List.lookup_eq_some_iff.mp hvalue
        exact .inr (List.mem_append_right _ List.mem_cons_self)
  · exact .inr (List.mem_filter.mp h).1

/-- A list that is laid over another may begin with an entry that is put there first. -/
theorem overlay_cons {key : String} {value : α} {below rest : List (String × α)}
    (h : key ∉ rest.map Prod.fst) :
    overlay below ((key, value) :: rest) = overlay (putAt key value below) rest := by
  have hnone : rest.lookup key = none := by
    rw [List.lookup_eq_none_iff]
    intro e he
    have hne : key ≠ e.1 := fun heq => h (heq ▸ List.mem_map_of_mem he)
    exact bne_iff_ne.mpr hne
  rw [overlay, overlay, keys_putAt]
  by_cases hmem : key ∈ below.map Prod.fst
  · -- the old value at the key gives way, whichever way it is replaced
    rw [if_pos hmem, putAt, if_pos hmem, List.map_map,
      List.filter_cons_of_neg (by simpa using hmem)]
    refine congrArg (· ++ _) (List.map_congr_left fun e _ => ?_)
    show (e.1, (((key, value) :: rest).lookup e.1).getD e.2)
      = ((if e.1 = key then (key, value) else e).1,
          (rest.lookup (if e.1 = key then (key, value) else e).1).getD
            (if e.1 = key then (key, value) else e).2)
    by_cases he : e.1 = key
    · rw [if_pos he, he, lookup_cons_eq, if_pos rfl, hnone]
      rfl
    · rw [if_neg he, lookup_cons_eq, if_neg he]
  · rw [if_neg hmem, putAt, if_neg hmem, List.filter_cons_of_pos (by simpa using hmem),
      List.map_append, List.map_singleton, hnone, List.append_assoc]
    have hbelow : ∀ e ∈ below, (e.1, (((key, value) :: rest).lookup e.1).getD e.2)
        = (e.1, (rest.lookup e.1).getD e.2) := by
      intro e he
      have hne : e.1 ≠ key := fun heq => hmem (heq ▸ List.mem_map_of_mem he)
      rw [lookup_cons_eq, if_neg hne]
    have hrest : ∀ e ∈ rest, (decide (e.1 ∉ below.map Prod.fst))
        = decide (e.1 ∉ below.map Prod.fst ++ [key]) := by
      intro e he
      have hne : e.1 ≠ key := fun heq => h (heq ▸ List.mem_map_of_mem he)
      simp [hne]
    rw [List.map_congr_left hbelow, List.filter_congr hrest]
    rfl

namespace ProfileSet

variable {s t : ProfileSet} {client : String} {profile : Profile}

/-! ## The entries after a change -/

theorem entries_insert (s : ProfileSet) (client : String) (profile : Profile) :
    (s.insert client profile).entries = putAt client profile s.entries := putInOrder_eq s.nodup

theorem entries_erase (s : ProfileSet) (client : String) :
    (s.erase client).entries = without client s.entries := by
  show s.entries.filter (fun e => e.1 != client) = s.entries.filter fun e => e.1 ≠ client
  refine List.filter_congr fun e _ => ?_
  by_cases he : e.1 = client
  · simp [he]
  · simp [he]

/-- Merging lays one set over the other. -/
theorem entries_merge (s t : ProfileSet) : (s.merge t).entries = overlay s.entries t.entries := by
  obtain ⟨entries, nodup⟩ := t
  show (s.insertAll entries).entries = overlay s.entries entries
  induction entries generalizing s with
  | nil =>
      show s.entries = s.entries.map (fun e => (e.1, e.2)) ++ []
      rw [List.append_nil, List.map_id']
  | cons entry rest ih =>
      obtain ⟨hfirst, hrest⟩ := List.nodup_cons.mp nodup
      rw [overlay_cons hfirst, ← entries_insert]
      exact ih (s.insert entry.1 entry.2) hrest

/-- A set knows a client just when an entry has its name. -/
theorem contains_iff : s.contains client = true ↔ client ∈ s.entries.map Prod.fst := by
  rw [contains, Option.isSome_iff_exists]
  constructor
  · rintro ⟨profile, h⟩
    exact List.mem_map_of_mem (s.mem_entries_iff.mpr h)
  · intro h
    obtain ⟨⟨name, profile⟩, hmem, rfl⟩ := List.mem_map.mp h
    exact ⟨profile, s.mem_entries_iff.mp hmem⟩

/-! ## Lists that name a client several times -/

/-- New clients come behind the known ones, in the order in which they first occur. -/
theorem clients_insertAll (s : ProfileSet) (entries : List (String × Profile)) :
    (s.insertAll entries).clients
      = s.clients ++ ((entries.map Prod.fst).filter fun name => name ∉ s.clients).eraseDups := by
  induction entries generalizing s with
  | nil => exact (List.append_nil _).symm
  | cons entry rest ih =>
      have hinsert : (s.insert entry.1 entry.2).clients
          = if entry.1 ∈ s.clients then s.clients else s.clients ++ [entry.1] := by
        rw [clients, entries_insert, keys_putAt]
        rfl
      show ((s.insert entry.1 entry.2).insertAll rest).clients = _
      rw [ih, hinsert, List.map_cons]
      by_cases hmem : entry.1 ∈ s.clients
      · rw [if_pos hmem, List.filter_cons_of_neg (by simpa using hmem)]
      · -- the first to name a client leaves nothing for those after it
        rw [if_neg hmem, List.filter_cons_of_pos (by simpa using hmem), List.eraseDups_cons,
          List.filter_filter, List.append_assoc, List.singleton_append]
        refine congrArg (fun l => s.clients ++ entry.1 :: List.eraseDups l) ?_
        refine List.filter_congr fun name _ => ?_
        by_cases hname : name = entry.1
        · simp [hname]
        · simp [hname]

/-- A list makes a set of its clients, each where it first stands. -/
theorem clients_ofList (entries : List (String × Profile)) :
    (ofList entries).clients = (entries.map Prod.fst).eraseDups := by
  rw [ofList, clients_insertAll]
  show ((entries.map Prod.fst).filter fun name => name ∉ ([] : List String)).eraseDups = _
  rw [List.filter_eq_self.mpr fun name _ => decide_eq_true List.not_mem_nil]

/-- The last profile of a client counts, and one that was there only if none is new. -/
theorem get?_insertAll (s : ProfileSet) (entries : List (String × Profile)) (name : String) :
    (s.insertAll entries).get? name = (entries.reverse.lookup name).or (s.get? name) := by
  induction entries generalizing s with
  | nil => rfl
  | cons entry rest ih =>
      show ((s.insert entry.1 entry.2).insertAll rest).get? name = _
      rw [ih, get?_insert, List.reverse_cons, List.lookup_append, Option.or_assoc]
      refine congrArg _ ?_
      rw [← Prod.eta entry, lookup_cons_eq]
      by_cases hname : name = entry.1
      · rw [if_pos hname, if_pos hname]
        rfl
      · rw [if_neg hname, if_neg hname]
        rfl

/-- A client of a list has the profile that it last has there. -/
theorem get?_ofList {entries : List (String × Profile)} :
    (ofList entries).get? client = some profile ↔
      ∃ before after, entries = before ++ (client, profile) :: after ∧
        client ∉ after.map Prod.fst := by
  have hlast : (ofList entries).get? client = entries.reverse.lookup client := by
    rw [ofList, get?_insertAll]
    exact Option.or_none
  rw [hlast, List.lookup_eq_some_iff]
  constructor
  · rintro ⟨after, before, hsplit, hother⟩
    refine ⟨before.reverse, after.reverse, ?_, ?_⟩
    · rw [← List.reverse_reverse entries, hsplit]
      simp
    · intro hmem
      obtain ⟨e, he, heq⟩ := List.mem_map.mp hmem
      exact bne_iff_ne.mp (hother e (List.mem_reverse.mp he)) heq.symm
  · rintro ⟨before, after, rfl, hother⟩
    refine ⟨after.reverse, before.reverse, by simp, ?_⟩
    intro e he
    have hne : client ≠ e.1 := fun heq =>
      hother (heq ▸ List.mem_map_of_mem (List.mem_reverse.mp he))
    exact bne_iff_ne.mpr hne

/-! ## What is read -/

/-- A value lists entries: it is an array with a pair for each of them, of the client
    and a profile in one of its forms. -/
def Lists (value : Json) (entries : List (String × Profile)) : Prop :=
  ∃ items, value = .arr items ∧
    List.Forall₂ (fun item entry => ∃ form, item = .arr [.str entry.1, form] ∧
      Profile.ofJson? form = some entry.2) items entries

/-- An entry is written as a pair of a name and a profile. -/
theorem readEntry_eq_some {item : Json} {entry : String × Profile} :
    readEntry item = some entry ↔
      ∃ form, item = .arr [.str entry.1, form] ∧ Profile.ofJson? form = some entry.2 := by
  constructor
  · intro h
    unfold readEntry at h
    split at h
    · obtain ⟨profile, hprofile, rfl⟩ := Option.map_eq_some_iff.mp h
      exact ⟨_, rfl, hprofile⟩
    · cases h
  · rintro ⟨form, rfl, hform⟩
    rw [readEntry, hform]
    rfl

/-- A value is read as the set of the entries that it lists, and no other value is read. -/
theorem ofJson?_eq_some {value : Json} :
    ofJson? value = some s ↔ ∃ entries, Lists value entries ∧ s = ofList entries := by
  constructor
  · intro h
    unfold ofJson? at h
    split at h
    · obtain ⟨entries, hentries, rfl⟩ := Option.map_eq_some_iff.mp h
      exact ⟨entries, ⟨_, rfl, (mapM_eq_some.mp hentries).imp fun _ _ => readEntry_eq_some.mp⟩, rfl⟩
    · cases h
  · rintro ⟨entries, ⟨items, rfl, hitems⟩, rfl⟩
    have hread : items.mapM readEntry = some entries :=
      mapM_eq_some.mpr (hitems.imp fun _ _ => readEntry_eq_some.mpr)
    rw [ofJson?, hread]
    rfl

/-- Profile sets survive the wire.  Every set is read back as it was written, entry by
    entry.  And whatever value is read as a set lists entries, in which a client may stand
    several times: the set has every client once, in the order in which they first stand,
    with the profile that each of them last has; and written again it is read back. -/
theorem survives_wire :
    (∀ s : ProfileSet, ofJson? s.toJson = some s) ∧
      ∀ value s, ofJson? value = some s →
        ofJson? s.toJson = some s ∧
          ∃ entries, Lists value entries ∧ s.clients = (entries.map Prod.fst).eraseDups ∧
            ∀ client profile, s.get? client = some profile ↔
              ∃ before after, entries = before ++ (client, profile) :: after ∧
                client ∉ after.map Prod.fst := by
  refine ⟨ofJson?_toJson, fun value s h => ⟨ofJson?_toJson s, ?_⟩⟩
  obtain ⟨entries, hlists, rfl⟩ := ofJson?_eq_some.mp h
  exact ⟨entries, hlists, clients_ofList entries, fun _ _ => get?_ofList⟩

/-- A list that names `A` twice: first with an object that has a field too many, then
    with a list of the first fields.  The profile of `B` has an end. -/
def naming : Json :=
  .arr [.arr [.str "A", .obj [("age", .int 7), ("id", .str "jdoe")]],
    .arr [.str "B", .obj [("expires_at", .str "2030-01-01T00:00:00Z"), ("id", .str "guest")]],
    .arr [.str "A", .arr [.str "asmith", .str "A"]]]

/-- The profile of `B` in `naming`. -/
def guest : Profile := (Profile.ofId "guest").withExpiry (.mk 1893456000 0)

theorem survives_wire_naming :
    ∃ s, ofJson? naming = some s ∧ s.clients = ["A", "B"] ∧
      s.get? "A" = some ((Profile.ofId "asmith").withClientName "A") ∧ s.get? "B" = some guest ∧
      ofJson? s.toJson = some s := by
  let s := ofList [("A", .ofId "jdoe"), ("B", guest), ("A", (Profile.ofId "asmith").withClientName "A")]
  have hread : ofJson? naming = some s := by decide
  obtain ⟨hback, -⟩ := survives_wire.2 naming s hread
  exact ⟨s, hread, by decide, by decide, by decide, hback⟩

end ProfileSet

end AccessGate
