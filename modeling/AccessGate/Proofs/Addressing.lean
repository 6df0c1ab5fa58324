import AccessGate.Proofs.NameLists

/-! # Under which names clients are reached

    A client is registered under any name that is not blank, and found under it.  A list of
    names goes through the commas and the blanks of its text first, and so does a parameter of
    the request, so a client whose name is not plain is registered and cannot be asked for.

    `addressed_iff` says which way leads to a client by its own name: looking it up always
    does, and the two texts do just when the name is plain. -/

namespace AccessGate

open Text (Silent Plain)

namespace ClientRegistry

variable {r : ClientRegistry} {clients : List Client} {client : Client} {list : Option String}

/-! ## Accepted names -/

theorem not_blank_of_checkNames {seen names : List String} (h : checkNames seen names = .ok ()) :
    ∀ name ∈ names, Text.isBlankText name = false := by
  induction names generalizing seen with
  | nil => exact List.forall_mem_nil _
  | cons first rest ih =>
      rw [checkNames] at h
      split at h
      · cases h
      · next hblank =>
        split at h
        · cases h
        · exact List.forall_mem_cons.mpr ⟨Bool.eq_false_iff.mpr hblank, ih h⟩

/-- No registered client has a blank name. -/
theorem not_blank_of_mem (hmem : client ∈ r.clients) : Text.isBlankText client.name = false :=
  not_blank_of_checkNames r.checked _ (List.mem_map_of_mem hmem)

theorem bears_own (hmem : client ∈ r.clients) : r.Bears client.name client :=
  ⟨hmem, Text.sameName_self client.name⟩

/-! ## Looking up -/

/-- A registered client is found under its name. -/
theorem find?_name (hmem : client ∈ r.clients) : r.find? client.name = some client := by
  cases hfind : r.find? client.name with
  | none => exact absurd (bears_own hmem) (not_bears_of_find hfind client)
  | some found => rw [eq_of_bears (bears_of_find hfind) (bears_own hmem)]

/-! ## Listing -/

/-- The text of a list that is a client's own name stands for this client alone just when
    the name is plain. -/
theorem listed_name_iff (hmem : client ∈ r.clients) :
    r.listed (some client.name) = .ok [client] ↔ Plain client.name := by
  have hblank := not_blank_of_mem hmem
  have hsays : Text.nonBlank (some client.name) = some client.name :=
    Text.nonBlank_eq_some.mpr ⟨rfl, hblank⟩
  have hlisted : r.listed (some client.name) = (Text.names client.name).mapM r.lookUp := by
    rw [listed, hsays]
    rfl
  rw [hlisted, mapM_lookUp_eq_ok]
  constructor
  · intro hbears
    obtain ⟨own, rest, ⟨-, hsame⟩, -, hnames⟩ := List.forall₂_cons_right_iff.mp hbears
    refine (Text.lists_itself_iff hblank).mp ⟨own, ?_, hsame⟩
    rw [hnames]
    exact List.mem_cons_self
  · intro hplain
    rw [Text.names_of_plain hplain (Text.ne_empty_of_not_blank hblank)]
    exact .cons (bears_own hmem) .nil

/-! ## Narrowing -/

theorem narrow_of_silent {given : Option String} (h : Silent given) (clients : List Client) :
    narrow clients given = clients := by
  rw [narrow, Text.nonBlank_eq_none.mpr h]

/-- Only a client itself passes for its name. -/
theorem filter_sameName (hmem : client ∈ r.clients) :
    (r.clients.filter fun other => Text.sameName other.name client.name) = [client] := by
  obtain ⟨before, after, hsplit⟩ := List.append_of_mem hmem
  have hpairwise := r.pairwise_clients
  rw [hsplit, List.pairwise_append, List.pairwise_cons] at hpairwise
  obtain ⟨-, ⟨hafter, -⟩, hbefore⟩ := hpairwise
  have hnone : ∀ {others : List Client},
      (∀ other ∈ others, Text.sameName other.name client.name = false) →
      (others.filter fun other => Text.sameName other.name client.name) = [] := by
    intro others hothers
    exact List.filter_eq_nil_iff.mpr fun other ho => Bool.eq_false_iff.mp (hothers other ho)
  have hself : ((client :: after).filter fun other => Text.sameName other.name client.name)
      = client :: after.filter fun other => Text.sameName other.name client.name :=
    List.filter_cons_of_pos (Text.sameName_self client.name)
  rw [hsplit, List.filter_append, hself,
    hnone fun other ho => hbefore other ho client List.mem_cons_self,
    hnone fun other ho => Text.sameName_comm client.name other.name ▸ hafter other ho,
    List.nil_append]

/-- A parameter that is a client's own name leaves this client alone just when the name is
    plain. -/
theorem narrow_name_iff (hmem : client ∈ r.clients) :
    narrow r.clients (some client.name) = [client] ↔ Plain client.name := by
  have hblank := not_blank_of_mem hmem
  have hsays : Text.nonBlank (some client.name) = some client.name :=
    Text.nonBlank_eq_some.mpr ⟨rfl, hblank⟩
  simp only [narrow, hsays]
  constructor
  · intro hleft
    have hpasses : client ∈ r.clients.filter fun other =>
        (Text.names client.name).any (Text.sameName other.name) := hleft ▸ List.mem_cons_self
    exact (Text.lists_itself_iff hblank).mp (List.any_eq_true.mp (List.mem_filter.mp hpasses).2)
  · intro hplain
    simp only [Text.names_of_plain hplain (Text.ne_empty_of_not_blank hblank), List.any_cons,
      List.any_nil, Bool.or_false]
    exact filter_sameName hmem

/-- For every list of clients that is accepted and every client of it, looking up its own
    name gives this client.  A list that is this name stands for this client alone just when
    the name has no comma in it and no blank at either end, as long as nothing in the request
    narrows; and just then does a parameter that is this name leave this client alone, when
    neither the decision nor the registry lists anything. -/
theorem addressed_iff (h : ofClients clients = .ok r) (hmem : client ∈ clients)
    (parameter : String) :
    r.find? client.name = some client ∧
      (∀ (defaults : Option String) (request : Request), Silent (request.parameter? parameter) →
        ({ r with defaults := defaults }.resolve parameter request (some client.name)
            = .ok [client] ↔ Plain client.name)) ∧
      ∀ (list : Option String) (request : Request), Silent list →
        request.parameter? parameter = some client.name →
        (r.resolve parameter request list = .ok [client] ↔ Plain client.name) := by
  obtain ⟨rfl, hnone⟩ := accepted_of_ofClients h
  have hsome : ¬ r.clients.isEmpty = true := by
    rw [List.isEmpty_iff]
    exact List.ne_nil_of_mem hmem
  refine ⟨find?_name hmem, ?_, ?_⟩
  · intro defaults request hsilent
    have hnarrow : (fun clients => narrow clients (request.parameter? parameter)) = id :=
      funext fun clients => narrow_of_silent hsilent clients
    have hlisted : { r with defaults := defaults }.listed (some client.name) = .ok [client] ↔
        Plain client.name := listed_name_iff hmem
    rw [resolve, if_neg hsome, hnarrow, ← hlisted]
    cases { r with defaults := defaults }.listed (some client.name) with
    | error e => exact Iff.rfl
    | ok found => exact Iff.rfl
  · intro list request hsilent hasked
    have hlisted : r.listed list = .ok r.clients := by
      rw [listed, Text.nonBlank_eq_none.mpr hsilent, hnone]
      rfl
    rw [resolve, if_neg hsome, hlisted, hasked, ← narrow_name_iff hmem]
    exact ⟨fun heq => Except.ok.inj heq, fun heq => congrArg Except.ok heq⟩

/-- A client whose name has a blank and a letter outside ASCII in it. -/
def spacedClient : Client := idleClient "Ä b"

/-- A blank inside a name is no obstacle. -/
theorem addressed_iff_spaced :
    let r : ClientRegistry := .mk [idleClient "A", spacedClient] none
    r.find? "Ä b" = some spacedClient ∧
      ({ r with defaults := some "A" }.resolve "force_client" ⟨"GET", .root, [], []⟩ (some "Ä b")
        = .ok [spacedClient]) ∧
      r.resolve "force_client" ⟨"GET", .root, [], [("force_client", "Ä b")]⟩ none
        = .ok [spacedClient] := by
  have hregistered : ofClients [idleClient "A", spacedClient]
      = .ok (.mk [idleClient "A", spacedClient] none) := rfl
  have hmem : spacedClient ∈ [idleClient "A", spacedClient] :=
    List.mem_cons_of_mem _ List.mem_cons_self
  have hplain : Plain spacedClient.name := by decide
  have hsilent : Silent none := fun text htext => nomatch htext
  obtain ⟨hfound, hlisted, hasked⟩ := addressed_iff hregistered hmem "force_client"
  exact ⟨hfound, (hlisted (some "A") ⟨"GET", .root, [], []⟩ hsilent).mpr hplain,
    (hasked none _ hsilent rfl).mpr hplain⟩

/-- A client whose name has a comma in it is registered, and neither a list that is its own
    name nor a parameter that is leads to it. -/
theorem comma_not_addressed :
    let r : ClientRegistry := .mk [idleClient "a,b"] none
    ofClients [idleClient "a,b"] = .ok r ∧ r.find? "a,b" = some (idleClient "a,b") ∧
      r.resolve "force_client" ⟨"GET", .root, [], []⟩ (some "a,b")
        = .error (.config (.unknownClient "a")) ∧
      r.resolve "force_client" ⟨"GET", .root, [], [("force_client", "a,b")]⟩ none = .ok [] :=
  ⟨rfl, rfl, rfl, rfl⟩

end ClientRegistry

end AccessGate
