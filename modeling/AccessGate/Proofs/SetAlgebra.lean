import AccessGate.Proofs.Order

/-! # The algebra of profile sets

    A set keeps the place where a client first came and the profile that it was
    given last.  Every change of a set is one of a plain list here, in which no
    client is ever named twice, whatever the changes and however many.

    To merge is an operation with laws: the empty set is its unit, the order in
    which three sets are put together does not matter, and a set adds nothing to
    itself.  The laws hold because two sets with the same clients, in order, and
    the same profiles are one set. -/

namespace AccessGate

namespace ProfileSet

variable {s t : ProfileSet}

/-! ## Sequences of changes -/

/-- A change of a profile set. -/
inductive Change where
  /-- Put a profile at a client. -/
  | insert (client : String) (profile : Profile)
  /-- Put the profiles of another set over those there are. -/
  | merge (other : ProfileSet)
  /-- Take the profile of a client away. -/
  | remove (client : String)
  /-- Drop what is stale at an instant. -/
  | removeExpired (now : Instant)
  /-- Begin anew with the set of a list. -/
  | build (entries : List (String × Profile))

namespace Change

/-- The set after a change. -/
def on (s : ProfileSet) : Change → ProfileSet
  | .insert client profile => s.insert client profile
  | .merge other => s.merge other
  | .remove client => s.erase client
  | .removeExpired now => (s.dropExpired now).2
  | .build entries => ofList entries

/-- The list of entries after a change. -/
def onEntries (l : List (String × Profile)) : Change → List (String × Profile)
  | .insert client profile => putAt client profile l
  | .merge other => overlay l other.entries
  | .remove client => without client l
  | .removeExpired now => l.filter fun e => !e.2.isExpired now
  | .build entries => entries.foldl (fun l e => putAt e.1 e.2 l) []

end Change

/-- To insert many is to put one after the other. -/
theorem entries_insertAll (s : ProfileSet) (entries : List (String × Profile)) :
    (s.insertAll entries).entries = entries.foldl (fun l e => putAt e.1 e.2 l) s.entries :=
  (List.foldl_hom ProfileSet.entries fun s e => (s.entries_insert e.1 e.2).symm).symm

/-- A change of a set is the same change of its list. -/
theorem entries_on (s : ProfileSet) (change : Change) :
    (change.on s).entries = change.onEntries s.entries := by
  cases change with
  | insert client profile => exact s.entries_insert client profile
  | merge other => exact s.entries_merge other
  | remove client => exact s.entries_erase client
  | removeExpired now => rfl
  | build entries => exact empty.entries_insertAll entries

/-- So is a sequence of changes. -/
theorem entries_foldl_on (s : ProfileSet) (changes : List Change) :
    (changes.foldl Change.on s).entries = changes.foldl Change.onEntries s.entries :=
  (List.foldl_hom ProfileSet.entries fun s change => (s.entries_on change).symm).symm

/-! ## What a set is known by -/

/-- The entries of a set are its clients, in order, with what is found at each. -/
theorem entries_eq_filterMap (s : ProfileSet) :
    s.entries = s.clients.filterMap fun name => (s.get? name).map fun profile => (name, profile) := by
  have hfound : ∀ e ∈ s.entries,
      ((s.get? e.1).map fun profile => (e.1, profile)) = some e := by
    intro e he
    rw [s.mem_entries_iff.mp he]
    rfl
  rw [clients, List.filterMap_map]
  exact (List.filterMap_some.symm.trans (List.filterMap_congr fun e he => (hfound e he).symm))

/-- Two sets with the same clients, in order, and the same profiles are one set. -/
theorem ext_get? (hclients : s.clients = t.clients) (hget : ∀ name, s.get? name = t.get? name) :
    s = t := by
  have hentries : s.entries = t.entries := by
    rw [entries_eq_filterMap s, entries_eq_filterMap t, hclients, funext hget]
  cases s
  cases t
  exact (ProfileSet.mk.injEq ..).mpr hentries

/-! ## Merging -/

/-- The clients of the first set come first, then those that only the second has. -/
theorem clients_merge (s t : ProfileSet) :
    (s.merge t).clients = s.clients ++ t.clients.filter fun name => name ∉ s.clients := by
  have hbelow : (Prod.fst ∘ fun e : String × Profile => (e.1, (t.entries.lookup e.1).getD e.2))
      = Prod.fst := rfl
  rw [clients, entries_merge, overlay, List.map_append, List.map_map, hbelow]
  refine congrArg (s.clients ++ ·) ?_
  rw [clients, clients, List.filter_map]
  rfl

/-- Of three sets, it does not matter which two are merged first. -/
theorem merge_assoc (a b c : ProfileSet) : (a.merge b).merge c = a.merge (b.merge c) := by
  refine ext_get? ?_ fun name => ?_
  · rw [clients_merge, clients_merge, clients_merge a, clients_merge b, List.filter_append,
      List.filter_filter, List.append_assoc]
    refine congrArg (fun l => a.clients ++ (_ ++ l)) (List.filter_congr fun name _ => ?_)
    by_cases hname : name ∈ a.clients
    · simp [hname]
    · simp [hname]
  · rw [get?_merge, get?_merge, get?_merge, get?_merge, Option.or_assoc]

/-- A set merged with itself is that set. -/
theorem merge_self (a : ProfileSet) : a.merge a = a := by
  refine ext_get? ?_ fun name => ?_
  · rw [clients_merge, List.filter_eq_nil_iff.mpr fun name hname => by simpa using hname,
      List.append_nil]
  · rw [get?_merge, Option.or_self]

/-- To put profiles one after the other is to merge the set that they make. -/
theorem insertAll_eq_merge (s : ProfileSet) (entries : List (String × Profile)) :
    s.insertAll entries = s.merge (ofList entries) := by
  induction entries using List.reverseRecOn with
  | nil => rfl
  | append_singleton before entry ih =>
      have hsplit (r : ProfileSet) : r.insertAll (before ++ [entry])
          = (r.insertAll before).merge (single entry.1 entry.2) := List.foldl_append
      rw [ofList, hsplit, hsplit, ih, merge_assoc]
      rfl

/-! ## Entries that are kept -/

/-- A set keeps of another the entries of which a condition holds: those and no
    others, in the order in which they stood. -/
def Keeps (s kept : ProfileSet) (keep : String × Profile → Prop) : Prop :=
  kept.entries.Sublist s.entries ∧ ∀ e, e ∈ kept.entries ↔ e ∈ s.entries ∧ keep e

theorem keeps_filter {keep : String × Profile → Bool} {holds : String × Profile → Prop}
    (h : ∀ e, keep e = true ↔ holds e) : s.Keeps (s.filter keep) holds :=
  ⟨List.filter_sublist, fun e => List.mem_filter.trans (and_congr_right' (h e))⟩

/-- To take a client away keeps all entries but its own. -/
theorem keeps_erase (s : ProfileSet) (client : String) :
    s.Keeps (s.erase client) fun e => e.1 ≠ client := keeps_filter fun _ => bne_iff_ne

/-- To drop what is stale keeps what is fresh. -/
theorem keeps_dropExpired (s : ProfileSet) (now : Instant) :
    s.Keeps (s.dropExpired now).2 fun e => e.2.isExpired now = false :=
  keeps_filter fun _ => .of_eq (Bool.not_eq_true' _)

/-- The number that is told is that of the profiles that are dropped. -/
theorem dropExpired_fst (s : ProfileSet) (now : Instant) :
    (s.dropExpired now).1 = s.entries.countP fun e => e.2.isExpired now := by
  have hparts := List.length_eq_countP_add_countP (fun e => e.2.isExpired now) (l := s.entries)
  have hkept : (s.unexpired now).size = s.entries.countP fun e => !e.2.isExpired now :=
    List.countP_eq_length_filter.symm
  show s.entries.length - (s.unexpired now).size = _
  rw [hkept]
  simp only [Bool.not_eq_true, Bool.decide_eq_false] at hparts
  omega

/-! ## The laws -/

/-- The algebra of profile sets.  After any sequence of changes the entries of a set
    are those of the plain list that undergoes them, in which no client stands twice.
    To merge is associative, has the empty set as its unit on either side, and a set
    adds nothing to itself; the clients of what is merged are those of the first in
    their order and then the others of the second in theirs, and where both have a
    client the second gives the profile.  The set of a list of pairs is had by putting
    them one by one: each client where it first stands, with its last profile.  To
    take a client away keeps all other entries as they stood; to drop what is stale
    keeps the fresh entries as they stood, and tells how many were dropped. -/
theorem ordered_map_laws :
    (∀ (s : ProfileSet) (changes : List Change),
      (changes.foldl Change.on s).entries = changes.foldl Change.onEntries s.entries ∧
        ((changes.foldl Change.onEntries s.entries).map Prod.fst).Nodup) ∧
    (∀ a b c : ProfileSet, (a.merge b).merge c = a.merge (b.merge c)) ∧
    (∀ a : ProfileSet, empty.merge a = a ∧ a.merge empty = a ∧ a.merge a = a) ∧
    (∀ a b : ProfileSet,
      (a.merge b).clients = a.clients ++ b.clients.filter (fun name => name ∉ a.clients) ∧
        ∀ name, (a.merge b).get? name = (b.get? name).or (a.get? name)) ∧
    (∀ pairs : List (String × Profile),
      ofList pairs = pairs.foldl (fun s pair => s.insert pair.1 pair.2) empty ∧
        (ofList pairs).clients = (pairs.map Prod.fst).eraseDups ∧
        (∀ client profile, (ofList pairs).get? client = some profile ↔
          ∃ before after, pairs = before ++ (client, profile) :: after ∧
            client ∉ after.map Prod.fst) ∧
        ∀ more, ofList (pairs ++ more) = (ofList pairs).merge (ofList more)) ∧
    (∀ (s : ProfileSet) (client : String), s.Keeps (s.erase client) fun e => e.1 ≠ client) ∧
    ∀ (s : ProfileSet) (now : Instant),
      s.Keeps (s.dropExpired now).2 (fun e => e.2.isExpired now = false) ∧
        (s.dropExpired now).1 = s.entries.countP fun e => e.2.isExpired now := by
  refine ⟨fun s changes => ?_, merge_assoc, fun a => ?_, fun a b => ?_, fun pairs => ?_,
    keeps_erase, fun s now => ⟨s.keeps_dropExpired now, s.dropExpired_fst now⟩⟩
  · have hentries := s.entries_foldl_on changes
    exact ⟨hentries, hentries ▸ (changes.foldl Change.on s).nodup⟩
  · exact ⟨ofList_entries a, rfl, merge_self a⟩
  · exact ⟨clients_merge a b, get?_merge a b⟩
  · refine ⟨rfl, clients_ofList pairs, fun _ _ => get?_ofList, fun more => ?_⟩
    rw [← insertAll_eq_merge]
    exact List.foldl_append

end ProfileSet

end AccessGate
