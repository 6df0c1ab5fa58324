import AccessGate.Action
import AccessGate.Credentials.Basic
import AccessGate.Proofs.Lookup
import Mathlib.Data.List.Sort

/-! # Values of several kinds on the wire

    A value of one of several kinds is written with the kind's name as the member `type`
    among its own.  That works for a kind whose own members are known.  Custom credentials
    bring whatever members they have: one of the name `type` takes the place of the kind's
    name, and then the credentials are written as if they were the value itself
    (`toJson?_of_typed`).  A bare status has no members at all, so there is nothing that
    the name could join.

    `reads_back_iff` and `wire_form_iff` say which credentials and which actions are read
    back as what they were. -/

namespace AccessGate

variable {α : Type}

/-! ## Objects -/

/-- A dictionary is known by its look-ups. -/
theorem Dict.ext_get? {d e : Dict α} (h : ∀ key, d.get? key = e.get? key) : d = e := by
  have hirrefl : Std.Irrefl fun a b : String × α => a.1 < b.1 := ⟨fun a => String.lt_irrefl a.1⟩
  have hantisymm : Std.Antisymm fun a b : String × α => a.1 < b.1 :=
    ⟨fun _ _ hab hba => absurd hba (String.lt_asymm hab)⟩
  have hentries : d.entries = e.entries := by
    refine d.sorted.eq_of_mem_iff e.sorted fun ⟨key, value⟩ => ?_
    rw [mem_entries_iff, mem_entries_iff, h]
  cases d
  cases e
  cases hentries
  rfl

namespace Json

variable {members : List (String × Json)} {name tag : String} {value : Json} {d : Dict Json}

theorem putMember_eq (name : String) (value : Json) (members : List (String × Json)) :
    putMember name value members = Dict.insertEntry name value members := by
  induction members with
  | nil => rfl
  | cons head rest ih =>
      obtain ⟨first, v⟩ := head
      rw [putMember, Dict.insertEntry, ih]

/-- Sorted members are the entries of a dictionary. -/
theorem sortMembers_eq (members : List (String × Json)) :
    sortMembers members = (Dict.ofList members).entries := by
  have hput : (fun acc (m : String × Json) => putMember m.1 m.2 acc)
      = fun acc m => Dict.insertEntry m.1 m.2 acc := by
    funext acc m
    exact putMember_eq m.1 m.2 acc
  have hfold : (Dict.ofList members).entries
      = members.foldl (fun acc m => Dict.insertEntry m.1 m.2 acc) [] :=
    (List.foldl_hom Dict.entries fun _ _ => rfl).symm
  rw [sortMembers, hput, hfold]

/-- So are those of an object that is kept. -/
theorem exists_entries_of_canonical (h : canonical (.obj members) = .obj members) :
    ∃ d : Dict Json, members = d.entries := by
  rw [canonical, sortMembers_eq] at h
  exact ⟨_, (Json.obj.inj h).symm⟩

/-- A member in front of others is looked up where they have none of its name. -/
theorem get?_ofList_cons (name : String) (value : Json) (d : Dict Json) (key : String) :
    (Dict.ofList ((name, value) :: d.entries)).get? key
      = (d.get? key).or (if key = name then some value else none) := by
  show ((Dict.empty.insert name value).insertAll d.entries).get? key = _
  rw [Dict.get?_insertAll, Dict.get?_insert]
  rfl

theorem ofMembers_of_none (h : d.get? name = none) :
    ofMembers ((name, value) :: d.entries) = .obj (d.insert name value).entries := by
  have hdict : Dict.ofList ((name, value) :: d.entries) = d.insert name value := by
    refine Dict.ext_get? fun key => ?_
    rw [get?_ofList_cons, Dict.get?_insert]
    by_cases hkey : key = name
    · rw [if_pos hkey, if_pos hkey, hkey, h, Option.none_or]
    · rw [if_neg hkey, if_neg hkey, Option.or_none]
  rw [ofMembers, sortMembers_eq, hdict]

theorem ofMembers_of_some {own : Json} (h : d.get? name = some own) :
    ofMembers ((name, value) :: d.entries) = .obj d.entries := by
  have hdict : Dict.ofList ((name, value) :: d.entries) = d := by
    refine Dict.ext_get? fun key => ?_
    rw [get?_ofList_cons]
    by_cases hkey : key = name
    · rw [hkey, h, Option.some_or]
    · rw [if_neg hkey, Option.or_none]
  rw [ofMembers, sortMembers_eq, hdict]

/-- The kind of an object, and what is left of it. -/
theorem tagged?_of_type (h : d.get? "type" = some (.str tag)) :
    tagged? (.obj d.entries) = some (tag, .obj (d.erase "type").entries) := by
  have hlookup : d.entries.lookup "type" = some (.str tag) := h
  rw [tagged?, hlookup]
  rfl

/-- Nothing is left of an object under the name `type`. -/
theorem lookup_of_tagged? (h : tagged? (.obj d.entries) = some (tag, .obj members)) :
    members.lookup "type" = none := by
  unfold tagged? at h
  simp only at h
  split at h
  · cases h
    exact (Dict.get?_erase d "type" "type").trans (if_pos rfl)
  · cases h

end Json

/-! ## Credentials -/

namespace Credentials

open Json

variable {c : Credentials} {value inner member : Json} {d : Dict Json}

/-- Credentials whose value, if they have one, is a value as it is kept. -/
def Kept : Credentials → Prop
  | .custom value => value.canonical = value
  | _ => True

/-- Credentials with a wire form of their own: a custom value has to have members, and none of
    the name `type`. -/
def OwnForm : Credentials → Prop
  | .custom (.obj members) => members.lookup "type" = none
  | .custom _ => False
  | _ => True

theorem tagged?_of_ofJson? (h : ofJson? value = some (.custom inner)) :
    value.tagged? = some ("custom", inner) := by
  unfold ofJson? at h
  split at h
  · obtain ⟨r, -, h⟩ := Option.bind_eq_some_iff.mp h
    obtain ⟨text, -, h⟩ := Option.bind_eq_some_iff.mp h
    cases h
  · obtain ⟨r, -, h⟩ := Option.bind_eq_some_iff.mp h
    obtain ⟨user, -, h⟩ := Option.bind_eq_some_iff.mp h
    obtain ⟨secret, -, h⟩ := Option.bind_eq_some_iff.mp h
    cases h
  · next hcustom =>
      cases h
      exact hcustom
  · cases h

/-- A custom value that has no `type` is written beside the name of the kind, and read back. -/
theorem ofJson?_of_untyped (h : d.get? "type" = none) :
    ∃ value, (custom (.obj d.entries)).toJson? = some value ∧
      ofJson? value = some (.custom (.obj d.entries)) := by
  have hput : ((d.insert "type" (.str "custom")).erase "type") = d := by
    refine Dict.ext_get? fun key => ?_
    rw [Dict.get?_erase, Dict.get?_insert]
    by_cases hkey : key = "type"
    · rw [if_pos hkey, hkey, h]
    · rw [if_neg hkey, if_neg hkey]
  refine ⟨_, congrArg some (ofMembers_of_none h), ?_⟩
  rw [ofJson?, tagged?_of_type (Dict.get?_insert_self d "type" _), hput]
  rfl

/-- A custom value that has a `type` is written as it stands. -/
theorem toJson?_of_typed (h : d.get? "type" = some member) :
    (custom (.obj d.entries)).toJson? = some (.obj d.entries) :=
  congrArg some (ofMembers_of_some h)

/-- Credentials that can be written are read back just when they have a wire form of their own.
    What has none is the custom value null, which is read back as one without members, or a custom
    value that is written as it stands, so that it is read as whatever it says that it is. -/
theorem reads_back_iff (hkept : c.Kept) (hwritten : c.toJson? = some value) :
    (ofJson? value = some c ↔ c.OwnForm) ∧
      (c.OwnForm ∨ (c = .custom .null ∧ ofJson? value = some (.custom (.obj []))) ∨
        c = .custom value) := by
  cases c with
  | token text =>
      cases hwritten
      exact ⟨iff_of_true rfl trivial, .inl trivial⟩
  | password user secret =>
      cases hwritten
      exact ⟨iff_of_true rfl trivial, .inl trivial⟩
  | custom inner =>
      cases inner with
      | null =>
          cases hwritten
          have hread : ofJson? (.obj [("type", .str "custom")]) = some (.custom (.obj [])) := rfl
          refine ⟨iff_of_false ?_ id, .inr (.inl ⟨rfl, hread⟩)⟩
          rw [hread]
          intro heq
          cases heq
      | obj members =>
          obtain ⟨d, rfl⟩ := exists_entries_of_canonical hkept
          cases htype : d.get? "type" with
          | none =>
              obtain ⟨written, hform, hread⟩ := ofJson?_of_untyped htype
              cases hform.symm.trans hwritten
              exact ⟨iff_of_true hread htype, .inl htype⟩
          | some member =>
              cases (toJson?_of_typed htype).symm.trans hwritten
              refine ⟨iff_of_false (fun hread => ?_) fun hown => ?_, .inr (.inr rfl)⟩
              · have hleft := lookup_of_tagged? (tagged?_of_ofJson? hread)
                exact Option.some_ne_none member (htype.symm.trans hleft)
              · exact Option.some_ne_none member (htype.symm.trans hown)
      | bool _ | int _ | decimal _ _ | str _ | arr _ => cases hwritten

/-- Custom credentials with the member `badge`. -/
theorem reads_back_iff_badge :
    (custom (.obj [("badge", .int 7)])).Kept ∧
      (custom (.obj [("badge", .int 7)])).toJson? =
        some (.obj [("badge", .int 7), ("type", .str "custom")]) ∧
      ofJson? (.obj [("badge", .int 7), ("type", .str "custom")]) =
        some (custom (.obj [("badge", .int 7)])) :=
  have hkept : (custom (.obj [("badge", .int 7)])).Kept := rfl
  have hwritten : (custom (.obj [("badge", .int 7)])).toJson? =
      some (.obj [("badge", .int 7), ("type", .str "custom")]) := rfl
  ⟨hkept, hwritten, (reads_back_iff hkept hwritten).1.mpr rfl⟩

/-- Custom credentials that say of themselves that they are a token are read back as a token. -/
theorem custom_poses_as_token :
    (custom (.obj [("token", .str "x"), ("type", .str "token")])).Kept ∧
      (custom (.obj [("token", .str "x"), ("type", .str "token")])).toJson? =
        some (.obj [("token", .str "x"), ("type", .str "token")]) ∧
      ofJson? (.obj [("token", .str "x"), ("type", .str "token")]) = some (token "x") :=
  ⟨rfl, rfl, rfl⟩

end Credentials

/-! ## Actions -/

namespace Action

variable {value : Json} {code : UInt16}

/-- The name of the kind of an action. -/
def kind : Action → String
  | .ok => "ok"
  | .redirect _ => "redirect"
  | .render _ _ => "render_content"
  | .status _ => "status"

theorem readStatus_int (code : UInt16) : readStatus (.int code.toNat) = some code := by
  have hlt : code.toNat < 65536 := code.toNat_lt
  show ((if code.toNat < 65536 then some code.toNat else none).map UInt16.ofNat) = some code
  rw [if_pos hlt, Option.map_some, UInt16.ofNat_toNat]

/-- No value is read as a bare status. -/
theorem ofJson?_ne_status : ofJson? value ≠ some (.status code) := by
  intro h
  unfold ofJson? at h
  split at h
  · cases h
  · cases h
  · obtain ⟨r, -, h⟩ := Option.bind_eq_some_iff.mp h
    obtain ⟨location, -, h⟩ := Option.bind_eq_some_iff.mp h
    cases h
  · obtain ⟨r, -, h⟩ := Option.bind_eq_some_iff.mp h
    obtain ⟨body, -, h⟩ := Option.bind_eq_some_iff.mp h
    obtain ⟨status, -, h⟩ := Option.bind_eq_some_iff.mp h
    cases h
  · cases h

/-- Every action but a bare status has a wire form: an object that names the kind and is read
    back as the action.  A bare status has none, and no value is read as one. -/
theorem wire_form_iff (a : Action) :
    ((∃ members, a.toJson? = some (.obj members) ∧ members.lookup "type" = some (.str a.kind) ∧
        ofJson? (.obj members) = some a) ↔ ∀ code, a ≠ .status code) ∧
      ∀ code, (status code).toJson? = none ∧ ∀ value, ofJson? value ≠ some (.status code) := by
  refine ⟨?_, fun code => ⟨rfl, fun value => ofJson?_ne_status⟩⟩
  cases a with
  | ok => exact iff_of_true ⟨_, rfl, rfl, rfl⟩ fun _ => Action.noConfusion
  | redirect location => exact iff_of_true ⟨_, rfl, rfl, rfl⟩ fun _ => Action.noConfusion
  | render body code =>
      have hread : ofJson? (.obj [("body", .str body), ("status", .int code.toNat),
          ("type", .str "render_content")]) = some (.render body code) := by
        show (readStatus (.int code.toNat)).bind (fun status => some (render body status)) = _
        rw [readStatus_int, Option.bind_some]
      exact iff_of_true ⟨_, rfl, rfl, hread⟩ fun _ => Action.noConfusion
  | status code =>
      refine iff_of_false ?_ fun h => h code rfl
      rintro ⟨_, hwritten, -⟩
      cases hwritten

/-- So the answer to a request of nobody cannot be written down. -/
theorem unauthorized_has_no_form :
    unauthorized.toJson? = none ∧ ∀ value, ofJson? value ≠ some unauthorized :=
  ⟨rfl, fun _ => ofJson?_ne_status⟩

end Action

end AccessGate
