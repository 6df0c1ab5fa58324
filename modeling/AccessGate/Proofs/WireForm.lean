import AccessGate.Proofs.InstantText
import AccessGate.Proofs.Stages
import Mathlib.Data.List.Forall2

/-! # Profile sets survive the wire

    Sets, dictionaries and profile sets are written as plain lists and read back
    by putting one entry after the other.  A list that is in order already is
    rebuilt as it stands (`foldl_of_ordered`), and what was written is in order;
    so every part of a profile, and with the parts a whole set, is read back as it
    was. -/

namespace AccessGate

variable {α β : Type}

/-! ## Lists in order -/

/-- Putting the entries of a list in order gives the list, if each goes to the end. -/
theorem foldl_of_ordered {ahead : β → β → Prop} {put : List β → β → List β}
    (hput : ∀ l x, (∀ y ∈ l, ahead y x) → put l x = l ++ [x]) {before l : List β}
    (h : (before ++ l).Pairwise ahead) : l.foldl put before = before ++ l := by
  induction l generalizing before with
  | nil => exact (List.append_nil before).symm
  | cons x rest ih =>
      have hx : ∀ y ∈ before, ahead y x := fun y hy =>
        (List.pairwise_append.mp h).2.2 y hy x List.mem_cons_self
      rw [List.append_cons] at h ⊢
      rw [List.foldl_cons, hput before x hx, ih h]

/-- Reading item by item gives a value for each item. -/
theorem mapM_eq_some {read : β → Option α} {l : List β} {out : List α} :
    l.mapM read = some out ↔ List.Forall₂ (fun item value => read item = some value) l out := by
  induction l generalizing out with
  | nil =>
      rw [List.forall₂_nil_left_iff]
      exact ⟨fun h => (Option.some.inj h).symm, fun h => congrArg some h.symm⟩
  | cons item rest ih =>
      rw [List.mapM_cons, Option.bind_eq_bind, Option.bind_eq_some_iff, List.forall₂_cons_left_iff]
      constructor
      · rintro ⟨value, hvalue, h⟩
        obtain ⟨others, hothers, h⟩ := Option.bind_eq_some_iff.mp h
        cases h
        exact ⟨value, others, hvalue, ih.mp hothers, rfl⟩
      · rintro ⟨value, others, hvalue, hothers, rfl⟩
        refine ⟨value, hvalue, ?_⟩
        rw [ih.mpr hothers]
        rfl

/-- What is written entry by entry is read back entry by entry. -/
theorem mapM_map_of_reads {write : α → β} {read : β → Option α} {l : List α}
    (h : ∀ x ∈ l, read (write x) = some x) : (l.map write).mapM read = some l :=
  mapM_eq_some.mpr (List.forall₂_map_left_iff.mpr (List.forall₂_same.mpr h))

namespace Dict

theorem insertEntry_of_last {key : String} {value : α} {l : List (String × α)}
    (h : ∀ e ∈ l, e.1 < key) : insertEntry key value l = l ++ [(key, value)] := by
  induction l with
  | nil => rfl
  | cons head rest ih =>
      obtain ⟨first, v⟩ := head
      have hfirst : first < key := h _ List.mem_cons_self
      rw [insertEntry, if_neg (String.lt_asymm hfirst),
        if_neg fun heq : key = first => String.lt_irrefl first (heq ▸ hfirst),
        ih fun e he => h e (List.mem_cons_of_mem _ he), List.cons_append]

/-- A dictionary is that of its entries. -/
theorem ofList_entries (d : Dict α) : ofList d.entries = d := by
  obtain ⟨entries, sorted⟩ := d
  have hfold : (ofList entries).entries
      = entries.foldl (fun l e => insertEntry e.1 e.2 l) [] :=
    (List.foldl_hom Dict.entries fun _ _ => rfl).symm
  have hentries : (ofList entries).entries = entries :=
    hfold.trans (foldl_of_ordered (fun l e => insertEntry_of_last) sorted)
  cases hd : ofList entries with
  | mk other _ =>
      rw [hd] at hentries
      subst hentries
      rfl

end Dict

namespace NameSet

theorem insertName_of_last {name : String} {l : List String} (h : ∀ n ∈ l, n < name) :
    insertName name l = l ++ [name] := by
  induction l with
  | nil => rfl
  | cons first rest ih =>
      have hfirst : first < name := h _ List.mem_cons_self
      rw [insertName, if_neg (String.lt_asymm hfirst),
        if_neg fun heq : name = first => String.lt_irrefl first (heq ▸ hfirst),
        ih fun n hn => h n (List.mem_cons_of_mem _ hn), List.cons_append]

/-- A set is that of its names. -/
theorem ofList_names (s : NameSet) : ofList s.names = s := by
  obtain ⟨names, sorted⟩ := s
  have hfold : (ofList names).names = names.foldl (fun l n => insertName n l) [] :=
    (List.foldl_hom NameSet.names fun _ _ => rfl).symm
  have hnames : (ofList names).names = names :=
    hfold.trans (foldl_of_ordered (fun l n => insertName_of_last) sorted)
  cases hs : ofList names with
  | mk other _ =>
      rw [hs] at hnames
      subst hnames
      rfl

end NameSet

/-! ## Profiles -/

namespace Json.Record

variable {r : Record} {name : String} {value : Json}

/-- A field that is there is read. -/
theorem withDefault_of_some (default : α) (read : Json → Option α) (h : r.get? name = some value) :
    r.withDefault name default read = read value := by
  rw [withDefault, h]

/-- A text that is there only for a value that is set, is read as it was set. -/
theorem withDefault_of_map {value : Option α} {write : α → String} {read : Json → Option α}
    (h : r.get? name = value.map fun a => .str (write a))
    (hread : ∀ a ∈ value, read (.str (write a)) = some a) :
    r.withDefault name none (orNull read) = some value := by
  rw [withDefault, h]
  cases value with
  | none => rfl
  | some a => exact congrArg (Option.map some) (hread a rfl)

end Json.Record

namespace Profile

theorem readNames_namesToJson (s : NameSet) : readNames (namesToJson s) = some s := by
  have hnames : (s.names.map Json.str).mapM Json.text? = some s.names :=
    mapM_map_of_reads fun name _ => rfl
  rw [readNames, namesToJson, Json.texts?, hnames, Option.map_some, NameSet.ofList_names]

theorem readAttributes_entries (d : Dict Json) : readAttributes (.obj d.entries) = some d := by
  rw [readAttributes, Dict.ofList_entries]

theorem readInstant_write (t : Instant) : readInstant (.str t.write) = some t := by
  rw [readInstant, Json.text?, Option.bind_some, Instant.read?_write]

/-- A record holds the fields of a profile. -/
structure Fills (p : Profile) (r : Json.Record) : Prop where
  id : r.get? "id" = some (.str p.id)
  clientName : r.get? "client_name" = p.clientName.map .str
  attributes : r.get? "attributes" = some (.obj p.attributes.entries)
  roles : r.get? "roles" = some (namesToJson p.roles)
  permissions : r.get? "permissions" = some (namesToJson p.permissions)
  rememberMe : r.get? "remember_me" = some (.bool p.rememberMe)
  expiresAt : r.get? "expires_at" = p.expiresAt.map fun t => .str t.write

theorem fills_of_toJson (p : Profile) : ∃ r, p.toJson.record? fields = some r ∧ p.Fills r := by
  obtain ⟨id, clientName, attributes, roles, permissions, rememberMe, expiresAt⟩ := p
  refine ⟨_, rfl, ?_⟩
  cases clientName with
  | none =>
      cases expiresAt with
      | none => exact ⟨rfl, rfl, rfl, rfl, rfl, rfl, rfl⟩
      | some t => exact ⟨rfl, rfl, rfl, rfl, rfl, rfl, rfl⟩
  | some name =>
      cases expiresAt with
      | none => exact ⟨rfl, rfl, rfl, rfl, rfl, rfl, rfl⟩
      | some t => exact ⟨rfl, rfl, rfl, rfl, rfl, rfl, rfl⟩

/-- A written profile is read back. -/
theorem ofJson?_toJson (p : Profile) : ofJson? p.toJson = some p := by
  obtain ⟨r, hrecord, hr⟩ := p.fills_of_toJson
  have hid : r.required "id" Json.text? = some p.id := by
    rw [Json.Record.required, hr.id]
    rfl
  have hattributes : r.withDefault "attributes" .empty readAttributes = some p.attributes :=
    (Json.Record.withDefault_of_some _ _ hr.attributes).trans (readAttributes_entries _)
  have hroles : r.withDefault "roles" .empty readNames = some p.roles :=
    (Json.Record.withDefault_of_some _ _ hr.roles).trans (readNames_namesToJson _)
  have hpermissions : r.withDefault "permissions" .empty readNames = some p.permissions :=
    (Json.Record.withDefault_of_some _ _ hr.permissions).trans (readNames_namesToJson _)
  have hremember : r.withDefault "remember_me" false Json.bool? = some p.rememberMe :=
    Json.Record.withDefault_of_some _ _ hr.rememberMe
  have hclient : r.withDefault "client_name" none (Json.orNull Json.text?) = some p.clientName :=
    Json.Record.withDefault_of_map hr.clientName fun _ _ => rfl
  have hend : r.withDefault "expires_at" none (Json.orNull readInstant) = some p.expiresAt :=
    Json.Record.withDefault_of_map hr.expiresAt fun t _ => readInstant_write t
  simp only [ofJson?, hrecord, hid, hclient, hattributes, hroles, hpermissions, hremember, hend,
    Option.bind_eq_bind, Option.bind_some]
  rfl

end Profile

namespace ProfileSet

theorem putInOrder_of_new {key : String} {value : α} {l : List (String × α)}
    (h : ∀ e ∈ l, e.1 ≠ key) : putInOrder key value l = l ++ [(key, value)] := by
  induction l with
  | nil => rfl
  | cons head rest ih =>
      obtain ⟨first, v⟩ := head
      rw [putInOrder, if_neg (h _ List.mem_cons_self),
        ih fun e he => h e (List.mem_cons_of_mem _ he), List.cons_append]

/-- A set is that of its entries. -/
theorem ofList_entries (s : ProfileSet) : ofList s.entries = s := by
  obtain ⟨entries, nodup⟩ := s
  have hfold : (ofList entries).entries = entries.foldl (fun l e => putInOrder e.1 e.2 l) [] :=
    (List.foldl_hom ProfileSet.entries fun _ _ => rfl).symm
  have hentries : (ofList entries).entries = entries :=
    hfold.trans (foldl_of_ordered (fun l e => putInOrder_of_new) (List.pairwise_map.mp nodup))
  cases hs : ofList entries with
  | mk other _ =>
      rw [hs] at hentries
      subst hentries
      rfl

/-- A written set is read back, in its order. -/
theorem ofJson?_toJson (s : ProfileSet) : ofJson? s.toJson = some s := by
  have hentries : (s.entries.map fun e => Json.arr [.str e.1, e.2.toJson]).mapM readEntry
      = some s.entries := by
    refine mapM_map_of_reads fun entry _ => ?_
    rw [readEntry, Profile.ofJson?_toJson]
    rfl
  show ((s.entries.map fun e => Json.arr [.str e.1, e.2.toJson]).mapM readEntry).map ofList = some s
  rw [hentries, Option.map_some, ofList_entries]

/-- A set in which nothing is stale is kept whole. -/
theorem unexpired_eq_self {s : ProfileSet} {now : Instant}
    (h : ∀ entry ∈ s.entries, entry.2.isExpired now = false) : s.unexpired now = s := by
  obtain ⟨entries, nodup⟩ := s
  have hentries : (entries.filter fun e => !e.2.isExpired now) = entries :=
    List.filter_eq_self.mpr fun entry he => by rw [h entry he]; rfl
  simp only [unexpired, filter, hentries]

/-- A written set of which nothing is stale yet is found as it was. -/
theorem ofValue_toJson {s : ProfileSet} {now : Instant}
    (hfresh : ∀ entry ∈ s.entries, entry.2.isExpired now = false) :
    ofValue now s.toJson = .ok s := by
  rw [ofValue, ofJson?_toJson, Option.elim_some, unexpired_eq_self hfresh]

end ProfileSet

end AccessGate
