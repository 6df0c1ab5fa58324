import AccessGate.Client.Registry
import Mathlib.Data.List.Forall2
import Mathlib.Data.List.Pairwise

/-! # Which clients take part

    Names of clients come from three texts: the list of a decision, the list that the
    registry has for decisions without one, and a parameter of the request.  `Stands` says
    for which clients the lists stand and searches for none of them: under each listed name
    a client is registered, up to ASCII case, and `eq_of_bears` says that there is no other.  What the parameter does is a filter (`Narrows`).

    `resolve_iff` says that resolution is the one after the other. -/

namespace AccessGate

/-! ## Going through a list -/

section

variable {α β ε : Type} {f : α → Except ε β} {l : List α}

/-- Going through a list gives a value for each item. -/
theorem mapM_eq_ok {out : List β} :
    l.mapM f = .ok out ↔ List.Forall₂ (fun item value => f item = .ok value) l out := by
  induction l generalizing out with
  | nil =>
      rw [List.forall₂_nil_left_iff]
      exact ⟨fun h => (Except.ok.inj h).symm, fun h => congrArg Except.ok h.symm⟩
  | cons item rest ih =>
      rw [List.mapM_cons, List.forall₂_cons_left_iff]
      cases hitem : f item with
      | error e =>
          constructor
          · intro h
            cases h
          · rintro ⟨value, others, ⟨⟩, -, -⟩
      | ok value =>
          cases hrest : rest.mapM f with
          | error e =>
              constructor
              · intro h
                cases h
              · rintro ⟨-, others, -, hothers, -⟩
                cases hrest.symm.trans (ih.mpr hothers)
          | ok others =>
              constructor
              · rintro ⟨⟩
                exact ⟨value, others, rfl, ih.mp hrest, rfl⟩
              · rintro ⟨value', others', ⟨⟩, hothers, rfl⟩
                cases hrest.symm.trans (ih.mpr hothers)
                rfl

/-- The error is that of the first item that has none but an error. -/
theorem mapM_eq_error {e : ε} :
    l.mapM f = .error e ↔
      ∃ before item after, l = before ++ item :: after ∧
        (∀ earlier ∈ before, ∃ value, f earlier = .ok value) ∧ f item = .error e := by
  constructor
  · intro h
    induction l with
    | nil => cases h
    | cons first rest ih =>
        rw [List.mapM_cons] at h
        cases hfirst : f first with
        | error e' =>
            rw [hfirst] at h
            cases h
            exact ⟨[], first, rest, rfl, List.forall_mem_nil _, hfirst⟩
        | ok value =>
            cases hrest : rest.mapM f with
            | ok others =>
                rw [hfirst, hrest] at h
                cases h
            | error e' =>
                rw [hfirst, hrest] at h
                cases h
                obtain ⟨before, item, after, rfl, hbefore, hitem⟩ := ih hrest
                refine ⟨first :: before, item, after, rfl, ?_, hitem⟩
                exact List.forall_mem_cons.mpr ⟨⟨value, hfirst⟩, hbefore⟩
  · rintro ⟨before, item, after, rfl, hbefore, hitem⟩
    induction before with
    | nil =>
        rw [List.nil_append, List.mapM_cons, hitem]
        rfl
    | cons first before ih =>
        obtain ⟨⟨value, hfirst⟩, hothers⟩ := List.forall_mem_cons.mp hbefore
        rw [List.cons_append, List.mapM_cons, hfirst, ih hothers]
        rfl

end

namespace Text

/-- A text is there, and is not blank. -/
def Says (given : Option String) (text : String) : Prop :=
  given = some text ∧ isBlankText text = false

/-- No text is there, or a blank one. -/
def Silent (given : Option String) : Prop := ∀ text, given = some text → isBlankText text = true

/-- A text counts just when it is there and is not blank. -/
theorem nonBlank_eq_some {given : Option String} {text : String} :
    nonBlank given = some text ↔ Says given text := by
  cases given with
  | none =>
      constructor
      · intro h
        cases h
      · rintro ⟨⟨⟩, -⟩
  | some own =>
      rw [nonBlank]
      by_cases hblank : isBlankText own = true
      · rw [if_pos hblank]
        constructor
        · intro h
          cases h
        · rintro ⟨⟨⟩, hsays⟩
          exact absurd hblank (Bool.eq_false_iff.mp hsays)
      · rw [if_neg hblank]
        constructor
        · rintro ⟨⟩
          exact ⟨rfl, Bool.eq_false_iff.mpr hblank⟩
        · rintro ⟨hown, -⟩
          exact hown

/-- Otherwise it is silent. -/
theorem nonBlank_eq_none {given : Option String} : nonBlank given = none ↔ Silent given := by
  constructor
  · rintro h text rfl
    by_contra hnot
    have hsays : nonBlank (some text) = some text :=
      nonBlank_eq_some.mpr ⟨rfl, Bool.eq_false_iff.mpr hnot⟩
    cases h.symm.trans hsays
  · intro h
    cases hn : nonBlank given with
    | none => rfl
    | some text =>
        obtain ⟨hgiven, hsays⟩ := nonBlank_eq_some.mp hn
        exact absurd (h text hgiven) (Bool.eq_false_iff.mp hsays)

end Text

open Text (Says Silent)

namespace ClientRegistry

variable {r : ClientRegistry} {list given : Option String} {name : String} {client : Client}

/-! ## Registered names -/

/-- A client is registered under a name, up to ASCII case. -/
def Bears (r : ClientRegistry) (name : String) (client : Client) : Prop :=
  client ∈ r.clients ∧ Text.sameName client.name name = true

/-- Names that pass the check differ from each other and from those that were seen, by more than
    case. -/
theorem pairwise_of_checkNames {seen names : List String} (h : checkNames seen names = .ok ()) :
    (names.Pairwise fun a b => Text.sameName a b = false) ∧
      ∀ name ∈ names, ∀ earlier ∈ seen, Text.sameName name earlier = false := by
  induction names generalizing seen with
  | nil => exact ⟨.nil, List.forall_mem_nil _⟩
  | cons first rest ih =>
      rw [checkNames] at h
      split at h
      · cases h
      · split at h
        · cases h
        · next hnone =>
          obtain ⟨hpairwise, hseen⟩ := ih h
          have hfirst : ∀ name ∈ rest, Text.sameName first name = false := by
            intro name hmem
            rw [Text.sameName_comm]
            exact hseen name hmem first List.mem_cons_self
          refine ⟨List.pairwise_cons.mpr ⟨hfirst, hpairwise⟩, List.forall_mem_cons.mpr ⟨?_, ?_⟩⟩
          · exact fun earlier hmem => Bool.eq_false_iff.mpr (List.find?_eq_none.mp hnone earlier hmem)
          · exact fun name hmem earlier hearlier =>
              hseen name hmem earlier (List.mem_cons_of_mem _ hearlier)

/-- No two registered clients have the same name, up to ASCII case. -/
theorem pairwise_clients (r : ClientRegistry) :
    r.clients.Pairwise fun a b => Text.sameName a.name b.name = false :=
  List.pairwise_map.mp (pairwise_of_checkNames r.checked).1

/-- Clients that are accepted are registered as they are, without a default list. -/
theorem accepted_of_ofClients {clients : List Client} (h : ofClients clients = .ok r) :
    r.clients = clients ∧ r.defaults = none := by
  rw [ofClients] at h
  split at h
  · cases h
    exact ⟨rfl, rfl⟩
  · cases h

/-- There is one client under a name. -/
theorem eq_of_bears {a b : Client} (ha : r.Bears name a) (hb : r.Bears name b) : a = b := by
  by_contra hne
  have hsymm : Std.Symm fun a b : Client => Text.sameName a.name b.name = false := by
    refine ⟨fun a b hab => ?_⟩
    rw [Text.sameName_comm]
    exact hab
  have hother := List.Pairwise.forall r.pairwise_clients ha.1 hb.1 hne
  have hsame : Text.sameName a.name b.name = true :=
    Text.sameName_trans ha.2 (Text.sameName_comm b.name name ▸ hb.2)
  exact Bool.false_ne_true (hother.symm.trans hsame)

/-! ## Listed names -/

/-- A client that is found under a name bears it. -/
theorem bears_of_find (h : r.find? name = some client) : r.Bears name client := by
  rw [find?] at h
  have hsame := List.find?_some h
  exact ⟨List.mem_of_find?_eq_some h, hsame⟩

/-- If none is found, nobody bears it. -/
theorem not_bears_of_find (h : r.find? name = none) (client : Client) : ¬ r.Bears name client := by
  rw [find?] at h
  rintro ⟨hmem, hsame⟩
  exact List.find?_eq_none.mp h client hmem hsame

theorem bears_of_lookUp (h : r.lookUp name = .ok client) : r.Bears name client := by
  rw [lookUp] at h
  cases hfind : r.find? name with
  | none =>
      rw [hfind] at h
      cases h
  | some found =>
      rw [hfind] at h
      cases h
      exact bears_of_find hfind

/-- To look a name up fails just when nobody bears it. -/
theorem lookUp_eq_error {e : Error} :
    r.lookUp name = .error e ↔
      (∀ client, ¬ r.Bears name client) ∧ e = .config (.unknownClient name) := by
  rw [lookUp]
  cases hfind : r.find? name with
  | none =>
      constructor
      · rintro ⟨⟩
        exact ⟨not_bears_of_find hfind, rfl⟩
      · rintro ⟨-, rfl⟩
        rfl
  | some found =>
      constructor
      · intro hok
        cases hok
      · rintro ⟨hnobody, -⟩
        exact absurd (bears_of_find hfind) (hnobody found)

/-- It gives just the client that bears it. -/
theorem lookUp_eq_ok : r.lookUp name = .ok client ↔ r.Bears name client := by
  constructor
  · exact bears_of_lookUp
  · intro hbears
    cases hlook : r.lookUp name with
    | error e => exact absurd hbears ((lookUp_eq_error.mp hlook).1 client)
    | ok found => rw [eq_of_bears (bears_of_lookUp hlook) hbears]

/-- A list of names gives the clients that bear them, one for each. -/
theorem mapM_lookUp_eq_ok {names : List String} {clients : List Client} :
    names.mapM r.lookUp = .ok clients ↔ List.Forall₂ r.Bears names clients := by
  rw [mapM_eq_ok]
  constructor
  · intro hclients
    exact hclients.imp fun _ _ => lookUp_eq_ok.mp
  · intro hclients
    exact hclients.imp fun _ _ => lookUp_eq_ok.mpr

/-- The first name under which nobody is registered is the error. -/
theorem mapM_lookUp_eq_error {names : List String} {e : Error} :
    names.mapM r.lookUp = .error e ↔
      ∃ before name after, names = before ++ name :: after ∧
        (∀ earlier ∈ before, ∃ client, r.Bears earlier client) ∧
        (∀ client, ¬ r.Bears name client) ∧ e = .config (.unknownClient name) := by
  simp only [mapM_eq_error, lookUp_eq_ok, lookUp_eq_error]

/-- The list that counts: that of a decision, or that of the registry for a decision
    that has none. -/
inductive Counts (r : ClientRegistry) (list : Option String) : String → Prop
  | own {text : String} : Says list text → Counts r list text
  | default {text : String} : Silent list → Says r.defaults text → Counts r list text

theorem counts_iff {text : String} :
    (Text.nonBlank list <|> Text.nonBlank r.defaults) = some text ↔ r.Counts list text := by
  rw [Option.orElse_eq_orElse, Option.orElse_eq_or, Option.or_eq_some_iff, Text.nonBlank_eq_some,
    Text.nonBlank_eq_none, Text.nonBlank_eq_some]
  constructor
  · rintro (hown | ⟨hsilent, hdefault⟩)
    · exact .own hown
    · exact .default hsilent hdefault
  · rintro (hown | ⟨hsilent, hdefault⟩)
    · exact .inl hown
    · exact .inr ⟨hsilent, hdefault⟩

theorem silent_iff :
    (Text.nonBlank list <|> Text.nonBlank r.defaults) = none ↔ Silent list ∧ Silent r.defaults := by
  rw [Option.orElse_eq_orElse, Option.orElse_eq_or, Option.or_eq_none_iff, Text.nonBlank_eq_none,
    Text.nonBlank_eq_none]

/-- For which clients the lists stand: for all of them when neither says anything; else for
    those whose names the list that counts has, one for each name and in its order; and for
    none, but an error, when nobody is registered under some name. -/
inductive Stands (r : ClientRegistry) (list : Option String) : Except Error (List Client) → Prop
  | all : Silent list → Silent r.defaults → Stands r list (.ok r.clients)
  | listed {text : String} {clients : List Client} : r.Counts list text →
      List.Forall₂ r.Bears (Text.names text) clients → Stands r list (.ok clients)
  | unknown {text name : String} {before after : List String} : r.Counts list text →
      Text.names text = before ++ name :: after →
      (∀ earlier ∈ before, ∃ client, r.Bears earlier client) → (∀ client, ¬ r.Bears name client) →
      Stands r list (.error (.config (.unknownClient name)))

/-- Lists stand for what they are resolved to. -/
theorem listed_iff {answer : Except Error (List Client)} :
    r.listed list = answer ↔ r.Stands list answer := by
  rw [listed]
  cases hcounts : (Text.nonBlank list <|> Text.nonBlank r.defaults) with
  | none =>
      obtain ⟨hown, hdefault⟩ := silent_iff.mp hcounts
      constructor
      · rintro rfl
        exact .all hown hdefault
      · intro hstands
        cases hstands with
        | all => rfl
        | listed htext hclients => cases hcounts.symm.trans (counts_iff.mpr htext)
        | unknown htext hnames hbefore hnobody => cases hcounts.symm.trans (counts_iff.mpr htext)
  | some text =>
      have htext : r.Counts list text := counts_iff.mp hcounts
      dsimp only
      constructor
      · rintro rfl
        cases hanswer : (Text.names text).mapM r.lookUp with
        | ok clients => exact .listed htext (mapM_lookUp_eq_ok.mp hanswer)
        | error e =>
            obtain ⟨before, name, after, hnames, hbefore, hnobody, rfl⟩ :=
              mapM_lookUp_eq_error.mp hanswer
            exact .unknown htext hnames hbefore hnobody
      · intro hstands
        cases hstands with
        | all hown hdefault => cases hcounts.symm.trans (silent_iff.mpr ⟨hown, hdefault⟩)
        | listed htext' hclients =>
            cases hcounts.symm.trans (counts_iff.mpr htext')
            exact mapM_lookUp_eq_ok.mpr hclients
        | unknown htext' hnames hbefore hnobody =>
            cases hcounts.symm.trans (counts_iff.mpr htext')
            exact mapM_lookUp_eq_error.mpr ⟨_, _, _, hnames, hbefore, hnobody, rfl⟩

/-! ## The parameter of the request -/

/-- What a parameter leaves of an answer: everything if it says nothing; else the clients
    whose names it has, in their order.  An error stays. -/
inductive Narrows (given : Option String) (base : Except Error (List Client)) :
    Except Error (List Client) → Prop
  | whole : Silent given → Narrows given base base
  | chosen {text : String} : Says given text →
      Narrows given base (base.map fun clients => clients.filter fun client =>
        (Text.names text).any fun name => Text.sameName client.name name)

/-- Narrowing leaves what the parameter says. -/
theorem narrow_iff {base answer : Except Error (List Client)} :
    (base.map fun clients => narrow clients given) = answer ↔ Narrows given base answer := by
  cases hgiven : Text.nonBlank given with
  | none =>
      have hsilent : Silent given := Text.nonBlank_eq_none.mp hgiven
      have hwhole : (base.map fun clients => narrow clients given) = base := by
        simp only [narrow, hgiven]
        cases base with
        | error e => rfl
        | ok clients => rfl
      rw [hwhole]
      constructor
      · rintro rfl
        exact .whole hsilent
      · intro hnarrows
        cases hnarrows with
        | whole => rfl
        | chosen hsays => cases hgiven.symm.trans (Text.nonBlank_eq_some.mpr hsays)
  | some text =>
      have hsays : Says given text := Text.nonBlank_eq_some.mp hgiven
      simp only [narrow, hgiven]
      constructor
      · rintro rfl
        exact .chosen hsays
      · intro hnarrows
        cases hnarrows with
        | whole hsilent => cases hgiven.symm.trans (Text.nonBlank_eq_none.mpr hsilent)
        | chosen hsays' =>
            cases hgiven.symm.trans (Text.nonBlank_eq_some.mpr hsays')
            rfl

/-- What a parameter leaves is a part of what the lists stand for, in its order. -/
theorem Narrows.sublist {clients chosen : List Client} (h : Narrows given (.ok clients) (.ok chosen)) :
    chosen.Sublist clients := by
  generalize hchosen : Except.ok chosen = answer at h
  cases h with
  | whole =>
      cases hchosen
      exact List.Sublist.refl _
  | chosen hsays =>
      cases hchosen
      exact List.filter_sublist

/-- Resolution gives, for every registry that accepts its clients and has any, for every
    default list, and for every list and request, the clients for which the lists stand,
    narrowed by the parameter of the request.  Narrowing only ever takes away. -/
theorem resolve_iff {clients : List Client} (h : ofClients clients = .ok r) (hne : clients ≠ [])
    (defaults : Option String) (parameter : String) (request : Request) (list : Option String)
    (answer : Except Error (List Client)) :
    ({ r with defaults := defaults }.resolve parameter request list = answer ↔
      ∃ base, Stands { r with defaults := defaults } list base ∧
        Narrows (request.parameter? parameter) base answer) ∧
      ∀ base chosen, Narrows (request.parameter? parameter) (.ok base) (.ok chosen) →
        chosen.Sublist base := by
  obtain ⟨hclients, -⟩ := accepted_of_ofClients h
  have hsome : ¬ r.clients.isEmpty = true := by
    rw [hclients, List.isEmpty_iff]
    exact hne
  refine ⟨?_, fun base chosen hnarrows => hnarrows.sublist⟩
  rw [resolve, if_neg hsome, narrow_iff]
  constructor
  · intro hnarrows
    exact ⟨_, listed_iff.mp rfl, hnarrows⟩
  · rintro ⟨base, hstands, hnarrows⟩
    rw [listed_iff.mpr hstands]
    exact hnarrows

/-- The client of visitors whom nobody knows, under another name. -/
def idleClient (name : String) : Client := { Client.anonymous with name := name }

/-- A registry of two clients, of which the first takes part when no list says which. -/
def idleRegistry : ClientRegistry := .mk [idleClient "A", idleClient "B"] (some "A")

/-- The list names a client twice, and the parameter one that nobody registered. -/
theorem resolve_iff_idle :
    idleRegistry.resolve "force_client" ⟨"GET", .root, [], [("force_client", "B,C")]⟩
      (some "b, a ,B") = .ok [idleClient "B", idleClient "B"] := by
  have hregistered : ofClients [idleClient "A", idleClient "B"]
      = .ok (.mk [idleClient "A", idleClient "B"] none) := rfl
  have hA : idleRegistry.Bears "a" (idleClient "A") := ⟨List.mem_cons_self, by decide⟩
  have hb : idleRegistry.Bears "b" (idleClient "B") :=
    ⟨List.mem_cons_of_mem _ List.mem_cons_self, by decide⟩
  have hB : idleRegistry.Bears "B" (idleClient "B") :=
    ⟨List.mem_cons_of_mem _ List.mem_cons_self, by decide⟩
  have hstands : idleRegistry.Stands (some "b, a ,B")
      (.ok [idleClient "B", idleClient "A", idleClient "B"]) := by
    refine .listed (.own ⟨rfl, by decide⟩) ?_
    rw [show Text.names "b, a ,B" = ["b", "a", "B"] by decide]
    exact .cons hb (.cons hA (.cons hB .nil))
  have hnarrows : Narrows (some "B,C") (.ok [idleClient "B", idleClient "A", idleClient "B"])
      (.ok [idleClient "B", idleClient "B"]) := .chosen ⟨rfl, by decide⟩
  exact (resolve_iff hregistered (List.cons_ne_nil _ _) (some "A") _ _ _ _).1.mpr
    ⟨_, hstands, hnarrows⟩

end ClientRegistry

end AccessGate
