import AccessGate.Proofs.Rounds

/-! # Texts that list the same names

    Whether a text says anything is asked of the text itself, and which names it lists is
    asked behind its commas.  A text of commas and blanks alone says something and lists no
    name, so the two answers are not one: `asked` has both.

    Nothing else of a text matters to anybody.  The checks of matchers and authorizers do
    not even tell a silent text from one that lists no name; clients and the parameter of
    the request do, and `same_names_iff` says for which texts, registries and requests it
    comes to the same. -/

namespace AccessGate

open Text (Silent)
open ClientRegistry (idleClient)

variable {given given' : Option String}

namespace Text

/-- What a text asks for: its names, or nothing if it is silent. -/
def asked (given : Option String) : Option (List String) := (nonBlank given).map names

theorem asked_of_silent (h : Silent given) : asked given = none := by
  rw [asked, nonBlank_eq_none.mpr h]
  rfl

theorem asked_of_text (h : ¬ Silent given) : asked given = some (listed given) := by
  cases hread : nonBlank given with
  | none => exact absurd (nonBlank_eq_none.mp hread) h
  | some text =>
      obtain ⟨rfl, -⟩ := nonBlank_eq_some.mp hread
      rw [asked, hread]
      rfl

/-- Who looks at nothing but what is asked for gives the same for two texts of the same
    names: always when both are silent or neither is, and else just when asking for no name
    gives what silence gives. -/
theorem same_of_listed_iff {α : Type} (answer : Option (List String) → α)
    (h : listed given = listed given') :
    answer (asked given) = answer (asked given') ↔
      (Silent given ↔ Silent given') ∨ answer none = answer (some []) := by
  by_cases hsilent : Silent given
  · rw [asked_of_silent hsilent]
    by_cases hsilent' : Silent given'
    · rw [asked_of_silent hsilent']
      exact ⟨fun _ => .inl (iff_of_true hsilent hsilent'), fun _ => rfl⟩
    · rw [asked_of_text hsilent', ← h, listed_of_silent hsilent]
      exact (or_iff_right fun hiff => hsilent' (hiff.mp hsilent)).symm
  · rw [asked_of_text hsilent]
    by_cases hsilent' : Silent given'
    · rw [asked_of_silent hsilent', h, listed_of_silent hsilent', eq_comm]
      exact (or_iff_right fun hiff => hsilent (hiff.mpr hsilent')).symm
    · rw [asked_of_text hsilent', h]
      exact ⟨fun _ => .inl (iff_of_false hsilent hsilent'), fun _ => rfl⟩

end Text

/-! ## Clients -/

namespace ClientRegistry

variable {r : ClientRegistry} {parameter : String} {request : Request} {list : Option String}

/-- The clients that take part when a decision asks for some names, or for none of its own. -/
def resolveAsked (r : ClientRegistry) (parameter : String) (request : Request)
    (asked : Option (List String)) : Except Error (List Client) :=
  if r.clients.isEmpty then .error (.config .noClient)
  else ((asked.or (Text.asked r.defaults)).elim (.ok r.clients) fun names =>
    names.mapM r.lookUp).map fun clients => narrow clients (request.parameter? parameter)

/-- Resolution hangs on the names that are asked for, not on how they are written. -/
theorem resolve_eq (r : ClientRegistry) (parameter : String) (request : Request)
    (list : Option String) :
    r.resolve parameter request list = r.resolveAsked parameter request (Text.asked list) := by
  have hlisted : r.listed list = ((Text.asked list).or (Text.asked r.defaults)).elim
      (.ok r.clients) fun names => names.mapM r.lookUp := by
    rw [listed, Option.orElse_eq_orElse, Option.orElse_eq_or, Text.asked, Text.asked,
      ← Option.map_or]
    cases (Text.nonBlank list).or (Text.nonBlank r.defaults) with
    | none => rfl
    | some text => rfl
  rw [resolve, resolveAsked, hlisted]

/-- Who lists no name chooses nobody. -/
theorem resolveAsked_empty (h : r.clients ≠ []) :
    r.resolveAsked parameter request (some []) = .ok [] := by
  rw [resolveAsked, if_neg (mt List.isEmpty_iff.mp h)]
  show Except.ok (narrow [] (request.parameter? parameter)) = .ok []
  rw [narrow]
  cases Text.nonBlank (request.parameter? parameter) with
  | none => rfl
  | some text => rfl

/-- Two lists of the same names choose the same clients unless just one of them is silent. -/
theorem resolve_same_names_iff (h : Text.listed given = Text.listed given') :
    r.resolve parameter request given = r.resolve parameter request given' ↔
      (Silent given ↔ Silent given') ∨ r.clients = [] ∨
        r.resolve parameter request none = .ok [] := by
  rw [resolve_eq, resolve_eq, resolve_eq,
    Text.same_of_listed_iff (r.resolveAsked parameter request) h]
  refine or_congr_right ?_
  by_cases hclients : r.clients = []
  · have hnobody : ∀ asked, r.resolveAsked parameter request asked = .error (.config .noClient) :=
      fun asked => if_pos (List.isEmpty_iff.mpr hclients)
    rw [hnobody, hnobody]
    exact iff_of_true rfl (.inl hclients)
  · rw [resolveAsked_empty hclients]
    exact (or_iff_right hclients).symm

/-- For a decision without a list of its own the default list is its list. -/
theorem resolve_of_silent (h : Silent list) (defaults : Option String) :
    { r with defaults := defaults }.resolve parameter request list
      = { r with defaults := none }.resolve parameter request defaults := by
  have hnone : Text.asked ({ r with defaults := none } : ClientRegistry).defaults = none := rfl
  rw [resolve_eq, resolve_eq, Text.asked_of_silent h, resolveAsked, resolveAsked, Option.none_or,
    hnone, Option.or_none]
  rfl

/-- For a decision with a list of its own the default list is nothing. -/
theorem resolve_of_text (h : ¬ Silent list) (defaults : Option String) :
    { r with defaults := defaults }.resolve parameter request list
      = { r with defaults := none }.resolve parameter request list := by
  rw [resolve_eq, resolve_eq, Text.asked_of_text h]
  rfl

/-- The same holds of default lists, as far as they count. -/
theorem default_same_names_iff (h : Text.listed given = Text.listed given') :
    { r with defaults := given }.resolve parameter request list
        = { r with defaults := given' }.resolve parameter request list ↔
      (Silent given ↔ Silent given') ∨ ¬ Silent list ∨ r.clients = [] ∨
        { r with defaults := none }.resolve parameter request none = .ok [] := by
  by_cases hlist : Silent list
  · rw [resolve_of_silent hlist, resolve_of_silent hlist, resolve_same_names_iff h]
    exact or_congr_right (or_iff_right (not_not_intro hlist)).symm
  · rw [resolve_of_text hlist given, resolve_of_text hlist given']
    exact iff_of_true rfl (.inr (.inl hlist))

/-- The clients that are left when a request asks for some names, or for none. -/
def narrowAsked (clients : List Client) (asked : Option (List String)) : List Client :=
  asked.elim clients fun names =>
    clients.filter fun client => names.any (Text.sameName client.name)

theorem narrow_eq (clients : List Client) (given : Option String) :
    narrow clients given = narrowAsked clients (Text.asked given) := by
  rw [narrow, Text.asked]
  cases Text.nonBlank given with
  | none => rfl
  | some text => rfl

/-- And so it is with the parameter of a request. -/
theorem narrow_same_names_iff (h : Text.listed given = Text.listed given')
    (clients : List Client) :
    narrow clients given = narrow clients given' ↔
      (Silent given ↔ Silent given') ∨ clients = [] := by
  have hnobody : narrowAsked clients (some []) = [] := List.filter_false clients
  rw [narrow_eq, narrow_eq, Text.same_of_listed_iff (narrowAsked clients) h, hnobody]
  exact Iff.rfl

end ClientRegistry

/-- Two texts of the same names come to the same for the checks of matchers and of
    authorizers, in every registry and for every request and set of profiles.  As the list of
    a decision, as the default list and as the parameter of the request they do when both are
    silent or neither is.  If one of them is, and the other has nothing but commas and
    blanks, then they do only where it cannot matter: where there is no client, where a
    decision has a list of its own, or where silence leads to nobody too. -/
theorem same_names_iff (h : Text.listed given = Text.listed given') :
    (∀ registry, Matcher.check registry given = Matcher.check registry given') ∧
    (∀ registry, Authorizer.check registry given = Authorizer.check registry given') ∧
    (∀ (r : ClientRegistry) parameter request,
      r.resolve parameter request given = r.resolve parameter request given' ↔
        (Silent given ↔ Silent given') ∨ r.clients = [] ∨
          r.resolve parameter request none = .ok []) ∧
    (∀ (r : ClientRegistry) parameter request list,
      { r with defaults := given }.resolve parameter request list
          = { r with defaults := given' }.resolve parameter request list ↔
        (Silent given ↔ Silent given') ∨ ¬ Silent list ∨ r.clients = [] ∨
          { r with defaults := none }.resolve parameter request none = .ok []) ∧
    ∀ clients, ClientRegistry.narrow clients given = ClientRegistry.narrow clients given' ↔
      (Silent given ↔ Silent given') ∨ clients = [] := by
  refine ⟨?_, ?_, ?_, ?_, ?_⟩
  · exact fun registry => Matcher.check_congr (congrArg (RuleRegistry.resolve registry) h)
  · exact fun registry => Authorizer.check_congr (congrArg (RuleRegistry.resolve registry) h)
  · exact fun r parameter request => ClientRegistry.resolve_same_names_iff h
  · exact fun r parameter request list => ClientRegistry.default_same_names_iff h
  · exact ClientRegistry.narrow_same_names_iff h

/-- Blanks around names and empty segments are no matter. -/
theorem same_names_iff_spaced :
    let r : ClientRegistry := .mk [idleClient "A", idleClient "B"] none
    let request : Request := ⟨"GET", .root, [], []⟩
    Text.listed (some "b,a") = Text.listed (some " b , ,a") ∧
      r.resolve "force_client" request (some "b,a")
        = r.resolve "force_client" request (some " b , ,a") := by
  have hnames : Text.listed (some "b,a") = Text.listed (some " b , ,a") := rfl
  have hspeaks : ∀ text, Text.isBlankText text = false → ¬ Silent (some text) :=
    fun text htext hsilent => Bool.false_ne_true (htext.symm.trans (hsilent text rfl))
  obtain ⟨-, -, hresolve, -, -⟩ := same_names_iff hnames
  exact ⟨hnames, (hresolve _ _ _).mpr (.inl (iff_of_false (hspeaks _ rfl) (hspeaks _ rfl)))⟩

/-- A comma between blanks lists no name, and neither does the empty text.  Where the one
    stands for every client the other stands for none. -/
theorem comma_not_silent :
    let r : ClientRegistry := .mk [idleClient "A"] none
    let request : Request := ⟨"GET", .root, [], []⟩
    ClientRegistry.ofClients [idleClient "A"] = .ok r ∧
      Text.listed (some " , ") = Text.listed (some "") ∧
      r.resolve "force_client" request (some " , ") = .ok [] ∧
      r.resolve "force_client" request (some "") = .ok r.clients ∧
      ClientRegistry.narrow r.clients (some " , ") = [] ∧
      ClientRegistry.narrow r.clients (some "") = r.clients :=
  ⟨rfl, rfl, rfl, rfl, rfl, rfl⟩

end AccessGate
