import AccessGate.Profile.Basic

/-!
# Profile sets — at most one profile for each client, in order

The entries stand in the order in which their clients first came. A profile put at a client that is
there already takes the place of the old one, so the order never changes by replacing.
-/

namespace AccessGate

/-- Put a value at a key of a list of entries: in place of the old one, or at the end. -/
def putInOrder {α : Type} (key : String) (value : α) : List (String × α) → List (String × α)
  | [] => [(key, value)]
  | (k, v) :: rest =>
    if k = key then (key, value) :: rest else (k, v) :: putInOrder key value rest

theorem mem_keys_putInOrder {α : Type} {key k : String} {value : α} {l : List (String × α)}
    (h : k ∈ (putInOrder key value l).map Prod.fst) : k = key ∨ k ∈ l.map Prod.fst := by
  induction l with
  | nil => simpa [putInOrder] using h
  | cons head rest ih =>
    simp only [putInOrder] at h
    split at h
    · rcases List.mem_cons.1 h with h | h
      · exact .inl h
      · exact .inr (.tail _ h)
    · rcases List.mem_cons.1 h with h | h
      · exact .inr (h ▸ .head _)
      · rcases ih h with h | h
        · exact .inl h
        · exact .inr (.tail _ h)

theorem nodup_putInOrder {α : Type} (key : String) (value : α) {l : List (String × α)}
    (h : (l.map Prod.fst).Nodup) : ((putInOrder key value l).map Prod.fst).Nodup := by
  induction l with
  | nil => simp [putInOrder]
  | cons head rest ih =>
    obtain ⟨hhead, hrest⟩ := List.nodup_cons.1 h
    simp only [putInOrder]
    split
    · next heq =>
      subst heq
      exact List.nodup_cons.2 ⟨hhead, hrest⟩
    · next hne =>
      refine List.nodup_cons.2 ⟨fun hmem => ?_, ih hrest⟩
      rcases mem_keys_putInOrder hmem with h | h
      · exact hne h
      · exact hhead h

/-- Profiles by the client that established them. -/
structure ProfileSet where
  entries : List (String × Profile)
  nodup : (entries.map Prod.fst).Nodup
  deriving DecidableEq

namespace ProfileSet

/-- The set without profiles. -/
def empty : ProfileSet := ⟨[], .nil⟩

instance : Inhabited ProfileSet := ⟨empty⟩

/-- Put a profile at a client. -/
def insert (s : ProfileSet) (client : String) (profile : Profile) : ProfileSet :=
  ⟨putInOrder client profile s.entries, nodup_putInOrder client profile s.nodup⟩

/-- Put profiles one after the other. -/
def insertAll (s : ProfileSet) (entries : List (String × Profile)) : ProfileSet :=
  entries.foldl (fun s e => s.insert e.1 e.2) s

/-- The set of a list of entries: a repeated client keeps its first place and its last profile. -/
def ofList (entries : List (String × Profile)) : ProfileSet := empty.insertAll entries

/-- The set of one profile. -/
def single (client : String) (profile : Profile) : ProfileSet := empty.insert client profile

/-- Put the profiles of a second set over those of the first. -/
def merge (s t : ProfileSet) : ProfileSet := s.insertAll t.entries

/-- Keep the entries that pass a test. -/
def filter (s : ProfileSet) (keep : String × Profile → Bool) : ProfileSet :=
  ⟨s.entries.filter keep, s.nodup.sublist (s.entries.filter_sublist.map _)⟩

/-- Take the profile of a client away. -/
def erase (s : ProfileSet) (client : String) : ProfileSet := s.filter fun e => e.1 != client

/-- The profile of a client. -/
def get? (s : ProfileSet) (client : String) : Option Profile := s.entries.lookup client

/-- Is there a profile of a client? -/
def contains (s : ProfileSet) (client : String) : Bool := (s.get? client).isSome

/-- The clients, in order. -/
def clients (s : ProfileSet) : List String := s.entries.map Prod.fst

/-- The profiles, in order. -/
def profiles (s : ProfileSet) : List Profile := s.entries.map Prod.snd

/-- The first profile. -/
def first? (s : ProfileSet) : Option Profile := s.profiles.head?

/-- The number of profiles. -/
def size (s : ProfileSet) : Nat := s.entries.length

/-- Is there no profile? -/
def isEmpty (s : ProfileSet) : Bool := s.entries.isEmpty

/-- Do two sets hold the same profiles at the same clients, in whatever order? -/
def same (s t : ProfileSet) : Bool :=
  s.size == t.size && s.entries.all fun e => t.get? e.1 == some e.2

/-- The profiles that are not stale at an instant. -/
def unexpired (s : ProfileSet) (now : Instant) : ProfileSet := s.filter fun e => !e.2.isExpired now

/-- Drop the profiles that are stale at an instant: how many they were, and the set of the others. -/
def dropExpired (s : ProfileSet) (now : Instant) : Nat × ProfileSet :=
  (s.size - (s.unexpired now).size, s.unexpired now)

/-- The wire form: a list of pairs, so the order is kept. -/
def toJson (s : ProfileSet) : Json := .arr (s.entries.map fun e => .arr [.str e.1, e.2.toJson])

/-- Read one pair of a client and a profile. -/
def readEntry : Json → Option (String × Profile)
  | .arr [.str client, value] => (Profile.ofJson? value).map fun p => (client, p)
  | _ => none

/-- Read a wire form. -/
def ofJson? : Json → Option ProfileSet
  | .arr items => (items.mapM readEntry).map ofList
  | _ => none

end ProfileSet

end AccessGate
