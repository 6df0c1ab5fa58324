import AccessGate.Context
import AccessGate.Profile.Set
import AccessGate.Session.Store

/-! # Look-ups — what is read after a change

    A dictionary is known by its look-ups, and so is a store.  Each change is
    described by what every look-up gives after it; nothing later opens the
    sorted lists underneath. -/

namespace AccessGate

variable {α : Type}

theorem lookup_cons_eq (k key : String) (value : α) (l : List (String × α)) :
    ((key, value) :: l).lookup k = if k = key then some value else l.lookup k := by
  rw [List.lookup_cons]
  by_cases h : k = key
  · rw [if_pos h, beq_iff_eq.mpr h]
  · rw [if_neg h, beq_eq_false_iff_ne.mpr h]

/-- At a key that stands nowhere nothing is looked up. -/
theorem lookup_eq_none_of_key {key : String} {l : List (String × α)}
    (h : key ∉ l.map Prod.fst) : l.lookup key = none :=
  List.lookup_eq_none_iff.mpr fun e he => bne_iff_ne.mpr fun heq =>
    h (List.mem_map.mpr ⟨e, he, heq.symm⟩)

/-- In a list in which no key stands twice, the entries are what is looked up. -/
theorem mem_iff_lookup {key : String} {value : α} {l : List (String × α)}
    (h : (l.map Prod.fst).Nodup) : (key, value) ∈ l ↔ l.lookup key = some value := by
  induction l with
  | nil => simp
  | cons head rest ih =>
      obtain ⟨first, v⟩ := head
      obtain ⟨hfirst, hrest⟩ := List.nodup_cons.mp h
      rw [lookup_cons_eq, List.mem_cons]
      by_cases hk : key = first
      · have hnot : (key, value) ∉ rest := by
          intro hmem
          have hkey : key ∈ rest.map Prod.fst := List.mem_map.mpr ⟨_, hmem, rfl⟩
          exact hfirst (hk ▸ hkey)
        rw [if_pos hk, Option.some.injEq, Prod.mk.injEq]
        constructor
        · rintro (⟨-, rfl⟩ | hmem)
          · rfl
          · exact absurd hmem hnot
        · rintro rfl
          exact .inl ⟨hk, rfl⟩
      · rw [if_neg hk, ← ih hrest, Prod.mk.injEq]
        exact or_iff_right fun h => hk h.1

namespace Dict

theorem lookup_insertEntry (k key : String) (value : α) (l : List (String × α)) :
    (insertEntry key value l).lookup k = if k = key then some value else l.lookup k := by
  induction l with
  | nil => exact lookup_cons_eq k key value []
  | cons head rest ih =>
      obtain ⟨first, v⟩ := head
      rw [insertEntry]
      by_cases hlt : key < first
      · rw [if_pos hlt]
        exact lookup_cons_eq k key value _
      · rw [if_neg hlt]
        by_cases heq : key = first
        · subst heq
          rw [if_pos rfl, lookup_cons_eq, lookup_cons_eq]
          split
          · rfl
          · rfl
        · rw [if_neg heq, lookup_cons_eq, lookup_cons_eq, ih]
          by_cases hk : k = first
          · rw [if_pos hk, if_pos hk, if_neg fun h => heq (h.symm.trans hk)]
          · rw [if_neg hk, if_neg hk]

/-- What is read after a value was put at a key. -/
theorem get?_insert (d : Dict α) (key : String) (value : α) (k : String) :
    (d.insert key value).get? k = if k = key then some value else d.get? k :=
  lookup_insertEntry k key value d.entries

@[simp] theorem get?_insert_self (d : Dict α) (key : String) (value : α) :
    (d.insert key value).get? key = some value := by
  rw [get?_insert, if_pos rfl]

theorem get?_insert_of_ne (d : Dict α) {key k : String} (value : α) (h : k ≠ key) :
    (d.insert key value).get? k = d.get? k := by
  rw [get?_insert, if_neg h]

theorem insertEntry_eq_self {key : String} {value : α} {l : List (String × α)}
    (hs : l.Pairwise fun a b => a.1 < b.1) (h : l.lookup key = some value) :
    insertEntry key value l = l := by
  induction l with
  | nil => cases h
  | cons head rest ih =>
      obtain ⟨first, v⟩ := head
      obtain ⟨hfirst, hrest⟩ := List.pairwise_cons.mp hs
      rw [lookup_cons_eq] at h
      rw [insertEntry]
      by_cases hk : key = first
      · rw [if_pos hk] at h
        cases h
        rw [if_neg (hk ▸ String.lt_irrefl key), if_pos hk, hk]
      · rw [if_neg hk] at h
        -- the key stands further on, so it comes after the first one
        have hlt : first < key := by
          obtain ⟨before, after, rfl, -⟩ := List.lookup_eq_some_iff.mp h
          exact hfirst (key, value) (List.mem_append_right _ List.mem_cons_self)
        rw [if_neg (String.lt_asymm hlt), if_neg hk, ih hrest h]

/-- To put a value where it stands changes nothing. -/
theorem insert_eq_self {d : Dict α} {key : String} {value : α} (h : d.get? key = some value) :
    d.insert key value = d := by
  obtain ⟨entries, sorted⟩ := d
  rw [insert]
  congr 1
  exact insertEntry_eq_self sorted h

/-- What is read after a key was taken away. -/
theorem get?_erase (d : Dict α) (key k : String) :
    (d.erase key).get? k = if k = key then none else d.get? k := by
  obtain ⟨entries, sorted⟩ := d
  show (entries.filter fun e => e.1 != key).lookup k = if k = key then none else entries.lookup k
  -- the order of the keys plays no part in what is left
  clear sorted
  induction entries with
  | nil => exact (ite_self none).symm
  | cons head rest ih =>
      obtain ⟨first, v⟩ := head
      rw [lookup_cons_eq]
      by_cases hf : first = key
      · rw [List.filter_cons_of_neg (by simp [hf]), ih]
        by_cases hk : k = key
        · rw [if_pos hk, if_pos hk]
        · rw [if_neg hk, if_neg hk, if_neg fun h => hk (h.trans hf)]
      · rw [List.filter_cons_of_pos (by simp [hf]), lookup_cons_eq, ih]
        by_cases hk : k = first
        · rw [if_pos hk, if_pos hk, if_neg fun h => hf (hk.symm.trans h)]
        · rw [if_neg hk, if_neg hk]

theorem nodup_keys (d : Dict α) : d.keys.Nodup := by
  refine List.pairwise_map.mpr (d.sorted.imp fun hlt => ?_)
  intro heq
  exact String.lt_irrefl _ (heq ▸ hlt)

/-- The entries of a dictionary are what is read in it. -/
theorem mem_entries_iff (d : Dict α) {key : String} {value : α} :
    (key, value) ∈ d.entries ↔ d.get? key = some value := mem_iff_lookup d.nodup_keys

/-- The keys are those at which something is read. -/
theorem mem_keys_iff (d : Dict α) {key : String} :
    key ∈ d.keys ↔ (d.get? key).isSome = true := by
  rw [keys, List.mem_map, Option.isSome_iff_exists]
  constructor
  · rintro ⟨⟨k, value⟩, hmem, rfl⟩
    exact ⟨value, d.mem_entries_iff.mp hmem⟩
  · rintro ⟨value, hget⟩
    exact ⟨_, d.mem_entries_iff.mpr hget, rfl⟩

/-- What is read when only some entries were kept. -/
theorem get?_filter (d : Dict α) (keep : String → α → Bool) (key : String) :
    (d.filter keep).get? key = (d.get? key).filter (keep key) := by
  refine Option.ext fun value => ?_
  rw [← mem_entries_iff, filter, List.mem_filter, mem_entries_iff, Option.filter_eq_some_iff]

/-- A value that is to be kept is read as before. -/
theorem get?_filter_of_keep {d : Dict α} {keep : String → α → Bool} {key : String} {value : α}
    (h : d.get? key = some value) (hkeep : keep key value = true) :
    (d.filter keep).get? key = some value := by
  rw [get?_filter, h, Option.filter_some, if_pos hkeep]

/-- What is read after the entries of a dictionary were put over others. -/
theorem get?_insertAll (d e : Dict α) (key : String) :
    (d.insertAll e.entries).get? key = (e.get? key).or (d.get? key) := by
  have hnodup : (e.entries.map Prod.fst).Nodup := e.nodup_keys
  show (d.insertAll e.entries).get? key = (e.entries.lookup key).or (d.get? key)
  generalize e.entries = entries at hnodup ⊢
  induction entries generalizing d with
  | nil => rfl
  | cons head rest ih =>
      obtain ⟨first, v⟩ := head
      obtain ⟨hfirst, hrest⟩ := List.nodup_cons.mp hnodup
      refine (ih (d.insert first v) hrest).trans ?_
      rw [get?_insert, lookup_cons_eq]
      by_cases hk : key = first
      · rw [if_pos hk, if_pos hk, lookup_eq_none_of_key (hk ▸ hfirst)]
        rfl
      · rw [if_neg hk, if_neg hk]

end Dict

namespace NameSet

theorem mem_insertName_iff {name other : String} {l : List String} :
    other ∈ insertName name l ↔ other = name ∨ other ∈ l := by
  induction l with
  | nil => simp [insertName]
  | cons first rest ih =>
      rw [insertName]
      by_cases hlt : name < first
      · rw [if_pos hlt, List.mem_cons]
      · rw [if_neg hlt]
        by_cases heq : name = first
        · rw [if_pos heq, heq, List.mem_cons, ← or_assoc, or_self]
        · rw [if_neg heq, List.mem_cons, List.mem_cons, ih, or_left_comm]

/-- A set has the texts from which it was made, and no other. -/
theorem mem_names_ofList {name : String} {l : List String} :
    name ∈ (ofList l).names ↔ name ∈ l := by
  have hfold : ∀ s : NameSet, name ∈ (l.foldl insert s).names ↔ name ∈ s.names ∨ name ∈ l := by
    induction l with
    | nil => simp
    | cons first rest ih =>
        intro s
        have hinsert : name ∈ (s.insert first).names ↔ name = first ∨ name ∈ s.names :=
          mem_insertName_iff
        rw [List.foldl_cons, ih, hinsert, List.mem_cons, or_assoc, or_left_comm]
  rw [ofList, hfold]
  exact or_iff_right List.not_mem_nil

end NameSet

/-! ## Profile sets -/

namespace ProfileSet

variable (s t : ProfileSet)

/-- What is read after a profile was put at a client. -/
theorem get?_insert (client : String) (profile : Profile) (name : String) :
    (s.insert client profile).get? name = if name = client then some profile else s.get? name := by
  obtain ⟨entries, nodup⟩ := s
  show (putInOrder client profile entries).lookup name
    = if name = client then some profile else entries.lookup name
  clear nodup
  induction entries with
  | nil => exact lookup_cons_eq name client profile []
  | cons head rest ih =>
      obtain ⟨first, p⟩ := head
      rw [putInOrder]
      by_cases hf : first = client
      · subst hf
        rw [if_pos rfl, lookup_cons_eq, lookup_cons_eq]
        split
        · rfl
        · rfl
      · rw [if_neg hf, lookup_cons_eq, lookup_cons_eq, ih]
        by_cases hn : name = first
        · rw [if_pos hn, if_pos hn, if_neg fun h => hf (hn.symm.trans h)]
        · rw [if_neg hn, if_neg hn]

/-- The entries of a set are what is read in it. -/
theorem mem_entries_iff {name : String} {profile : Profile} :
    (name, profile) ∈ s.entries ↔ s.get? name = some profile := mem_iff_lookup s.nodup

/-- What is read after profiles were put over others. -/
theorem get?_merge (name : String) : (s.merge t).get? name = (t.get? name).or (s.get? name) := by
  obtain ⟨entries, nodup⟩ := t
  show (s.insertAll entries).get? name = (entries.lookup name).or (s.get? name)
  induction entries generalizing s with
  | nil => rfl
  | cons head rest ih =>
      obtain ⟨first, p⟩ := head
      obtain ⟨hfirst, hrest⟩ := List.nodup_cons.mp nodup
      rw [lookup_cons_eq]
      refine (ih (s.insert first p) hrest).trans ?_
      rw [get?_insert]
      by_cases hn : name = first
      · -- nothing that comes later is put in its place
        rw [if_pos hn, if_pos hn, lookup_eq_none_of_key (hn ▸ hfirst)]
        rfl
      · rw [if_neg hn, if_neg hn]

/-- What is read when only some entries were kept. -/
theorem get?_filter (keep : String × Profile → Bool) (name : String) :
    (s.filter keep).get? name = (s.get? name).filter fun profile => keep (name, profile) := by
  refine Option.ext fun profile => ?_
  rw [← mem_entries_iff, filter, List.mem_filter, mem_entries_iff, Option.filter_eq_some_iff]

/-- What is read after a client was taken away. -/
theorem get?_erase (client name : String) :
    (s.erase client).get? name = if name = client then none else s.get? name := by
  rw [erase, get?_filter]
  by_cases hn : name = client
  · rw [if_pos hn, Option.filter_eq_none_iff]
    intro profile _
    rw [hn, bne_self_eq_false]
    decide
  · have hkept : (name != client) = true := bne_iff_ne.mpr hn
    rw [if_neg hn]
    cases s.get? name with
    | none => rfl
    | some profile => rw [Option.filter_some, hkept, if_pos rfl]

end ProfileSet

/-! ## Stores -/

namespace MemoryStore

variable {m m' : MemoryStore} {lifetime : Lifetime} {now : Instant}

/-- What can be read is kept in a session that lives. -/
theorem get?_eq_some {id key : String} {value : Json} :
    m.get? now id key = some value ↔
      ∃ s, m.sessions.get? id = some s ∧ s.isLive now = true ∧ s.values.get? key = some value := by
  rw [get?, live?, Option.bind_eq_some_iff]
  constructor
  · rintro ⟨s, hs, hv⟩
    obtain ⟨hs, hl⟩ := Option.filter_eq_some_iff.mp hs
    exact ⟨s, hs, hl, hv⟩
  · rintro ⟨s, hs, hl, hv⟩
    exact ⟨s, Option.filter_eq_some_iff.mpr ⟨hs, hl⟩, hv⟩

theorem get?_of_kept {id : String} {s : Session} (h : m.sessions.get? id = some s)
    (key : String) : m.get? now id key = if s.isLive now then s.values.get? key else none := by
  rw [get?, live?, h, Option.filter_some]
  cases s.isLive now with
  | true => rfl
  | false => rfl

theorem get?_of_none {id : String} (h : m.sessions.get? id = none) (key : String) :
    m.get? now id key = none := by
  rw [get?, live?, h]
  rfl

/-- What can be read under an id depends on what is kept there. -/
theorem get?_congr {id : String} (h : m'.sessions.get? id = m.sessions.get? id) (key : String) :
    m'.get? now id key = m.get? now id key := by
  rw [get?, get?, live?, live?, h]

/-- The values to which one is written: those of the session if it lives, else none. -/
def valuesAt (m : MemoryStore) (now : Instant) (id : String) : Dict Json :=
  ((m.live? now id).map Session.values).getD .empty

theorem get?_valuesAt (m : MemoryStore) (now : Instant) (id key : String) :
    (m.valuesAt now id).get? key = m.get? now id key := by
  rw [valuesAt, get?]
  cases m.live? now id with
  | none => rfl
  | some s => rfl

/-- What is kept under an id after a value was written. -/
theorem sessions_set? {id key : String} {value : Json}
    (h : m.set? lifetime now id key value = some m') (other : String) :
    ∃ deadline, now.add? lifetime = some deadline ∧
      m'.sessions.get? other
        = if other = id then some ⟨(m.valuesAt now id).insert key value, deadline⟩
          else m.sessions.get? other := by
  obtain ⟨deadline, hd, rfl⟩ := Option.map_eq_some_iff.mp h
  exact ⟨deadline, hd, Dict.get?_insert _ _ _ _⟩

/-- What can be read after a value was written: under its id, if the new
    deadline has not passed, that value and what could be read there before. -/
theorem get?_set? {id key : String} {value : Json}
    (h : m.set? lifetime now id key value = some m') :
    ∃ deadline, now.add? lifetime = some deadline ∧ ∀ instant other k,
      m'.get? instant other k
        = if other = id then
            (if deadline.before instant then none
              else if k = key then some value else m.get? now id k)
          else m.get? instant other k := by
  obtain ⟨deadline, hd, -⟩ := sessions_set? h id
  refine ⟨deadline, hd, fun instant other k => ?_⟩
  obtain ⟨_, hd', hget⟩ := sessions_set? h other
  cases hd.symm.trans hd'
  by_cases ho : other = id
  · rw [if_pos ho] at hget ⊢
    rw [get?_of_kept hget, Session.isLive, Dict.get?_insert, get?_valuesAt]
    cases deadline.before instant with
    | true => rfl
    | false => rfl
  · rw [if_neg ho] at hget ⊢
    exact get?_congr hget k

/-- What is kept under an id after a value was taken away. -/
theorem sessions_remove (m : MemoryStore) (id key other : String) :
    (m.remove id key).sessions.get? other
      = if other = id then
          (m.sessions.get? id).map fun s => { s with values := s.values.erase key }
        else m.sessions.get? other := by
  rw [remove]
  cases hid : m.sessions.get? id with
  | none =>
      by_cases ho : other = id
      · rw [if_pos ho, ho]
        exact hid
      · rw [if_neg ho]
  | some s => exact Dict.get?_insert _ _ _ _

/-- A value that was taken away cannot be read. -/
theorem get?_remove_self (m : MemoryStore) (instant : Instant) (id key : String) :
    (m.remove id key).get? instant id key = none := by
  have hget := m.sessions_remove id key id
  rw [if_pos rfl] at hget
  cases hs : m.sessions.get? id with
  | none =>
      rw [hs, Option.map_none] at hget
      exact get?_of_none hget key
  | some s =>
      rw [hs, Option.map_some] at hget
      rw [get?_of_kept hget, Dict.get?_erase, if_pos rfl, ite_self]

/-- Nothing can be read in a session that was dropped. -/
theorem get?_destroy_self (m : MemoryStore) (instant : Instant) (id key : String) :
    (m.destroy id).get? instant id key = none :=
  get?_of_none ((Dict.get?_erase _ _ _).trans (if_pos rfl)) key

/-! Moving a session, in the four ways in which it can go. -/

theorem renew_of_none {old new : String} (h : m.sessions.get? old = none) :
    m.renew lifetime now old new = (.ok (), m) := by
  rw [renew, h]

theorem renew_of_ended {old new : String} {s : Session} (h : m.sessions.get? old = some s)
    (hl : s.isLive now = false) : m.renew lifetime now old new = (.ok (), m.destroy old) := by
  simp only [renew, h, hl, Bool.not_false, if_true]

theorem renew_of_outside {old new : String} {s : Session} (h : m.sessions.get? old = some s)
    (hl : s.isLive now = true) (hd : now.add? lifetime = none) :
    m.renew lifetime now old new = (.error .calendar, m.destroy old) := by
  simp only [renew, h, hl, hd, Bool.not_true, Bool.false_eq_true, if_false]

theorem renew_of_live {old new : String} {s : Session} {deadline : Instant}
    (h : m.sessions.get? old = some s) (hl : s.isLive now = true)
    (hd : now.add? lifetime = some deadline) :
    m.renew lifetime now old new
      = (.ok (), ⟨(m.sessions.erase old).insert new { s with deadline := deadline }⟩) := by
  simp only [renew, h, hl, hd, Bool.not_true, Bool.false_eq_true, if_false]
  rfl

/-- What can be read after a session that lives was moved. -/
theorem get?_renew_of_live {old new : String} {s : Session} {deadline : Instant}
    (h : m.sessions.get? old = some s) (hl : s.isLive now = true)
    (hd : now.add? lifetime = some deadline) (id key : String) :
    (m.renew lifetime now old new).2.get? now id key
      = if id = new then (if deadline.before now then none else s.values.get? key)
        else if id = old then none else m.get? now id key := by
  rw [renew_of_live h hl hd]
  by_cases hn : id = new
  · rw [if_pos hn, get?_of_kept (by rw [hn]; exact Dict.get?_insert_self _ _ _), Session.isLive]
    cases deadline.before now with
    | true => rfl
    | false => rfl
  · rw [if_neg hn]
    have hrest : ((m.sessions.erase old).insert new { s with deadline := deadline }).get? id
        = if id = old then none else m.sessions.get? id := by
      rw [Dict.get?_insert_of_ne _ _ hn, Dict.get?_erase]
    by_cases ho : id = old
    · rw [if_pos ho] at hrest ⊢
      exact get?_of_none hrest key
    · rw [if_neg ho] at hrest ⊢
      exact get?_congr hrest key

/-- Nothing can be read where a session was moved away. -/
theorem get?_renew_self {old new : String} (hne : new ≠ old) (instant : Instant) (key : String) :
    (m.renew lifetime now old new).2.get? instant old key = none := by
  cases ho : m.sessions.get? old with
  | none =>
      rw [renew_of_none ho]
      exact get?_of_none ho key
  | some s =>
      cases hl : s.isLive now with
      | false =>
          rw [renew_of_ended ho hl]
          exact get?_destroy_self m instant old key
      | true =>
          cases hd : now.add? lifetime with
          | none =>
              rw [renew_of_outside ho hl hd]
              exact get?_destroy_self m instant old key
          | some deadline =>
              rw [renew_of_live ho hl hd]
              refine get?_of_none ?_ key
              rw [Dict.get?_insert_of_ne _ _ (Ne.symm hne), Dict.get?_erase, if_pos rfl]

/-- Dropping a session that has ended shows nowhere. -/
theorem get?_destroy_of_ended {old : String} {s : Session} (h : m.sessions.get? old = some s)
    (hl : s.isLive now = false) (id key : String) :
    (m.destroy old).get? now id key = m.get? now id key := by
  have hrest : (m.destroy old).sessions.get? id
      = if id = old then none else m.sessions.get? id := Dict.get?_erase _ _ _
  by_cases ho : id = old
  · subst ho
    rw [if_pos rfl] at hrest
    rw [get?_of_none hrest, get?_of_kept h, hl]
    rfl
  · rw [if_neg ho] at hrest
    exact get?_congr hrest key

/-- What is kept after a session was moved was kept before: under the same id,
    or under the old one, and then it is now under the new one. -/
theorem sessions_renew {old new other : String} {s : Session}
    (h : (m.renew lifetime now old new).2.sessions.get? other = some s) :
    m.sessions.get? other = some s ∨
      other = new ∧ ∃ before, m.sessions.get? old = some before ∧ s.values = before.values := by
  -- three of the four ways only take the old session away
  have herase : (m.destroy old).sessions.get? other = some s →
      m.sessions.get? other = some s := by
    intro he
    rw [destroy, Dict.get?_erase] at he
    split at he
    · cases he
    · exact he
  cases ho : m.sessions.get? old with
  | none =>
      rw [renew_of_none ho] at h
      exact .inl h
  | some before =>
      cases hl : before.isLive now with
      | false =>
          rw [renew_of_ended ho hl] at h
          exact .inl (herase h)
      | true =>
          cases hd : now.add? lifetime with
          | none =>
              rw [renew_of_outside ho hl hd] at h
              exact .inl (herase h)
          | some deadline =>
              rw [renew_of_live ho hl hd, Dict.get?_insert] at h
              split at h
              · next hnew =>
                cases h
                exact .inr ⟨hnew, before, rfl, rfl⟩
              · exact .inl (herase h)

/-- What can be read after a session was moved to a fresh id: all of it there,
    nothing where it was, and what could be read before under every other id. -/
theorem get?_renew_fresh {old new : String} (hok : (m.renew lifetime now old new).1 = .ok ())
    (hfresh : m.sessions.get? new = none) (hlife : 0 ≤ lifetime.nanos) (id key : String) :
    (m.renew lifetime now old new).2.get? now id key
      = if id = new then m.get? now old key
        else if id = old then none else m.get? now id key := by
  -- a session that was not there or had ended could not be read before either
  have hgone : (∀ key, m.get? now old key = none) →
      m.get? now id key
        = if id = new then m.get? now old key
          else if id = old then none else m.get? now id key := by
    intro hold
    by_cases hn : id = new
    · rw [if_pos hn, hn, hold, get?_of_none hfresh]
    · rw [if_neg hn]
      by_cases ho : id = old
      · rw [if_pos ho, ho, hold]
      · rw [if_neg ho]
  cases hs : m.sessions.get? old with
  | none =>
      rw [renew_of_none hs]
      exact hgone fun key => get?_of_none hs key
  | some s =>
      cases hl : s.isLive now with
      | false =>
          rw [renew_of_ended hs hl, get?_destroy_of_ended hs hl]
          exact hgone fun key => by rw [get?_of_kept hs, hl]; rfl
      | true =>
          cases hd : now.add? lifetime with
          | none =>
              rw [renew_of_outside hs hl hd] at hok
              cases hok
          | some deadline =>
              rw [get?_renew_of_live hs hl hd, Instant.not_before_of_add hd hlife, get?_of_kept hs,
                hl]
              rfl

/-- The only way for a move to fail at its work is to run out of calendar. -/
theorem renew_error {e : Error} (h : (m.renew lifetime now old new).1 = .error e) :
    e = .calendar := by
  cases hs : m.sessions.get? old with
  | none =>
      rw [renew_of_none hs] at h
      cases h
  | some s =>
      cases hl : s.isLive now with
      | false =>
          rw [renew_of_ended hs hl] at h
          cases h
      | true =>
          cases hd : now.add? lifetime with
          | none =>
              rw [renew_of_outside hs hl hd] at h
              exact (Except.error.inj h).symm
          | some deadline =>
              rw [renew_of_live hs hl hd] at h
              cases h

/-- A move is done when the calendar has the new deadline. -/
theorem renew_of_add {old new : String} {deadline : Instant}
    (hd : now.add? lifetime = some deadline) : (m.renew lifetime now old new).1 = .ok () := by
  cases hs : m.sessions.get? old with
  | none => rw [renew_of_none hs]
  | some s =>
      cases hl : s.isLive now with
      | false => rw [renew_of_ended hs hl]
      | true => rw [renew_of_live hs hl hd]

/-- The only way for a store in memory to fail at its work is to run out of calendar. -/
theorem apply_error {step : StoreStep} {e : Error}
    (h : (m.apply lifetime now step).1 = .error e) : e = .calendar := by
  cases step with
  | get id key => cases h
  | remove id key => cases h
  | destroy id => cases h
  | renew old new => exact renew_error h
  | set id key value =>
      rw [apply] at h
      cases hm : m.set? lifetime now id key value with
      | none =>
          rw [hm] at h
          exact (Except.error.inj h).symm
      | some after =>
          rw [hm] at h
          cases h

/-! Stores that single cases begin with. -/

/-- The end of a session that is begun at the epoch, when the host does not say how long
    sessions live. -/
def firstDeadline : Instant := .mk 1800 0

/-- A store with one session, which is begun at the epoch. -/
def ofSession (id : String) (values : List (String × Json)) : MemoryStore :=
  ⟨.ofList [(id, ⟨.ofList values, firstDeadline⟩)]⟩

end MemoryStore

end AccessGate
