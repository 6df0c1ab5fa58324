import AccessGate.Gate.Decision
import AccessGate.Proofs.Resolution
import AccessGate.Proofs.Trimming
import AccessGate.Proofs.Turn
import Mathlib.Data.List.TakeWhile

/-! # The stages of a decision that touch nothing

    Matchers, authorizers and direct clients look at a request and answer.
    None of them reads the store, draws octets or changes the context, so each
    stage is a plain answer behind the calls that led to it: `answer` is a
    function of the request, and the `_apply` theorem beside it says that the
    stage notes its calls, gives that answer and leaves the context alone. -/

namespace AccessGate

open Plan (calling)

/-! ## Names -/

namespace Text

/-- A list that is not read is blank, and names nothing. -/
theorem nonBlank_some (text : String) :
    nonBlank (some text) = some text ∨ nonBlank (some text) = none ∧ names text = [] := by
  by_cases hb : isBlankText text = true
  · have htrim : trimChars text.toList = [] :=
      String.ofList_eq_empty_iff.mp (String.isEmpty_iff.mp hb)
    have hcomma : ',' ∉ text.toList := fun hmem =>
      absurd (isBlank_of_trimChars htrim ',' hmem) (by decide)
    refine .inr ⟨if_pos hb, ?_⟩
    rw [names, List.splitOn_eq_singleton hcomma, List.map_cons, htrim]
    rfl
  · exact .inl (if_neg hb)

end Text

/-! ## Clients -/

namespace Client

/-- What a client answers in a context; a profile bears the client's name. -/
def answer (client : Client) (now : Instant) (c : Context) : Except Error (Attempt Profile) :=
  match client.fetch now c with
  | .error e => .error e
  | .ok .absent => .ok .absent
  | .ok (.action a) => .ok (.action a)
  | .ok (.produced credentials) =>
      (client.build now credentials c).map fun outcome =>
        outcome.map fun p => p.withClientName client.name

/-- The calls with which a client is asked. -/
def calls (client : Client) (now : Instant) (c : Context) : List Call :=
  match client.fetch now c with
  | .ok (.produced _) => [.fetch client.name, .build client.name]
  | _ => [.fetch client.name]

/-- To ask a client is to call it, and the answer hangs on the context alone. -/
theorem authenticate_apply (client : Client) (now : Instant) (c : Context) :
    client.authenticate now c
      = calling (client.calls now c) (.done (client.answer now c, c)) := by
  rw [authenticate, Turn.note_bind, Turn.context_bind, Turn.ofExcept_bind, calls, answer]
  cases client.fetch now c with
  | error e => rfl
  | ok outcome =>
      cases outcome with
      | absent => rfl
      | action a => rfl
      | produced credentials =>
          -- only a client that has credentials is asked a second time
          rw [Turn.andThen_ok]
          show Plan.note _ ((Turn.note _ >>= _ : Turn _) c)
            = Plan.note _ (Plan.note _ (.done ((client.build now credentials c).map _, c)))
          rw [Turn.note_bind, Turn.context_bind, Turn.ofExcept_bind]
          cases client.build now credentials c with
          | error e => rfl
          | ok built => rfl

/-- A client that is asked is asked for credentials first of all. -/
theorem fetch_mem_calls (client : Client) (now : Instant) (c : Context) :
    .fetch client.name ∈ client.calls now c := by
  rw [calls]
  split
  · exact List.mem_cons_self
  · exact List.mem_cons_self

/-- A client that produced a profile was asked to build it, and the profile bears its name. -/
theorem of_answer_produced {client : Client} {now : Instant} {c : Context} {p : Profile}
    (h : client.answer now c = .ok (.produced p)) :
    .build client.name ∈ client.calls now c ∧ p.clientName = some client.name := by
  rw [answer] at h
  rw [calls]
  cases hf : client.fetch now c with
  | error e => simp [hf] at h
  | ok outcome =>
      rw [hf] at h
      cases outcome with
      | absent => simp at h
      | action a => simp at h
      | produced credentials =>
          refine ⟨by simp, ?_⟩
          cases hb : client.build now credentials c with
          | error e => simp [hb, Except.map] at h
          | ok built =>
              cases built with
              | absent => simp [hb, Except.map, Attempt.map] at h
              | action a => simp [hb, Except.map, Attempt.map] at h
              | produced q =>
                  simp only [hb, Except.map, Attempt.map, Except.ok.injEq,
                    Attempt.produced.injEq] at h
                  rw [← h]
                  rfl

end Client

/-! ## Rules

    Matchers and authorizers are asked alike: in order, until one gives another
    answer than the good one. -/

namespace RuleRegistry

variable {α : Type} {r : RuleRegistry α} {name : String} {names : List String}
  {rule : String × α} {rules : List (String × α)}

/-- The rule of a name, or the name itself when it has none. -/
def lookUp (r : RuleRegistry α) (name : String) : Except String (String × α) :=
  (find? r name).elim (.error name) .ok

/-- A name stands for the rule that is found under it. -/
theorem lookUp_eq_ok : lookUp r name = .ok rule ↔ find? r name = some rule := by
  rw [lookUp]
  cases find? r name with
  | none => exact ⟨nofun, nofun⟩
  | some found =>
      exact ⟨fun h => congrArg some (Except.ok.inj h), fun h => congrArg Except.ok (Option.some.inj h)⟩

/-- A name under which there is none is reported. -/
theorem lookUp_eq_error {missing : String} :
    lookUp r name = .error missing ↔ find? r name = none ∧ missing = name := by
  rw [lookUp]
  cases find? r name with
  | none => exact ⟨fun h => ⟨rfl, (Except.error.inj h).symm⟩, fun h => congrArg Except.error h.2.symm⟩
  | some found => exact ⟨nofun, nofun⟩

/-- A list of names is looked up name by name. -/
theorem resolve_eq_mapM (r : RuleRegistry α) (names : List String) :
    resolve r names = names.mapM (lookUp r) := by
  induction names with
  | nil => rfl
  | cons name rest ih =>
      rw [resolve, List.mapM_cons, lookUp, ih]
      cases find? r name with
      | none => rfl
      | some rule =>
          cases rest.mapM (lookUp r) with
          | error missing => rfl
          | ok rules => rfl

/-- A list is resolved to the rules of its names, one for each name and in its order. -/
theorem resolve_eq_ok :
    resolve r names = .ok rules ↔
      List.Forall₂ (fun name rule => find? r name = some rule) names rules := by
  rw [resolve_eq_mapM, mapM_eq_ok]
  constructor
  · intro h
    exact h.imp fun _ _ => lookUp_eq_ok.mp
  · intro h
    exact h.imp fun _ _ => lookUp_eq_ok.mpr

/-- What is missing is the first name without a rule. -/
theorem resolve_eq_error :
    resolve r names = .error name ↔
      ∃ before after, names = before ++ name :: after ∧
        (∀ earlier ∈ before, ∃ rule, find? r earlier = some rule) ∧ find? r name = none := by
  rw [resolve_eq_mapM, mapM_eq_error]
  simp only [lookUp_eq_ok, lookUp_eq_error]
  constructor
  · rintro ⟨before, item, after, hnames, hbefore, hnone, rfl⟩
    exact ⟨before, after, hnames, hbefore, hnone⟩
  · rintro ⟨before, after, hnames, hbefore, hnone⟩
    exact ⟨before, name, after, hnames, hbefore, hnone, rfl⟩

/-- Every name of a list that was resolved has its rule among the resolved ones. -/
theorem find_of_resolve (h : resolve r names = .ok rules) :
    ∀ name ∈ names, ∃ rule ∈ rules, find? r name = some rule := by
  have hrules := resolve_eq_ok.mp h
  clear h
  induction hrules with
  | nil => exact List.forall_mem_nil _
  | cons hfind hrest ih =>
      refine List.forall_mem_cons.mpr ⟨⟨_, List.mem_cons_self, hfind⟩, ?_⟩
      intro name hn
      obtain ⟨found, hm, hfound⟩ := ih name hn
      exact ⟨found, List.mem_cons_of_mem _ hm, hfound⟩

theorem mem_of_find (h : find? r name = some rule) : rule ∈ r := by
  rw [find?, Option.orElse_eq_orElse, Option.orElse_eq_or] at h
  rcases Option.or_eq_some_iff.mp h with h | ⟨-, h⟩
  · exact List.mem_of_find?_eq_some h
  · exact List.mem_of_find?_eq_some h

/-- What names stand for was registered. -/
theorem mem_of_resolve (h : resolve r names = .ok rules) : ∀ rule ∈ rules, rule ∈ r := by
  have hrules := resolve_eq_ok.mp h
  clear h
  induction hrules with
  | nil => exact List.forall_mem_nil _
  | cons hfind hrest ih => exact List.forall_mem_cons.mpr ⟨mem_of_find hfind, ih⟩

end RuleRegistry

/-- A round of rules: the call with which a rule is asked, what it answers, the
    answer after which the next one is asked, and the error for a name that has
    no rule. -/
structure Round (α β : Type) where
  call : String → Call
  ask : α → Except Error β
  good : β
  unknown : String → Error

namespace Round

variable {α β : Type} [DecidableEq β] (q : Round α β)

/-- The answer of rules that are asked in order. -/
def answerAll : List (String × α) → Except Error β
  | [] => .ok q.good
  | (_, rule) :: rest =>
      match q.ask rule with
      | .error e => .error e
      | .ok b => if b = q.good then answerAll rest else .ok b

/-- The calls with which rules are asked in order. -/
def callsAll : List (String × α) → List Call
  | [] => []
  | (name, rule) :: rest =>
      match q.ask rule with
      | .error _ => [q.call name]
      | .ok b => if b = q.good then q.call name :: callsAll rest else [q.call name]

/-- The answer of the rules of a list. -/
def answer (registry : RuleRegistry α) (list : Option String) : Except Error β :=
  match Text.nonBlank list with
  | none => .ok q.good
  | some text =>
      match RuleRegistry.resolve registry (Text.names text) with
      | .error name => .error (q.unknown name)
      | .ok rules => q.answerAll rules

/-- The calls with which the rules of a list are asked. -/
def calls (registry : RuleRegistry α) (list : Option String) : List Call :=
  match Text.nonBlank list with
  | none => []
  | some text =>
      match RuleRegistry.resolve registry (Text.names text) with
      | .error _ => []
      | .ok rules => q.callsAll rules

variable {q}

/-- After a good end every rule was asked, and each of them gave the good answer. -/
theorem of_answerAll {rules : List (String × α)} (h : q.answerAll rules = .ok q.good) :
    ∀ rule ∈ rules, q.ask rule.2 = .ok q.good ∧ q.call rule.1 ∈ q.callsAll rules := by
  induction rules with
  | nil => intro rule hr; cases hr
  | cons rule rest ih =>
      obtain ⟨name, r⟩ := rule
      rw [answerAll] at h
      rw [callsAll]
      cases ha : q.ask r with
      | error e =>
          rw [ha] at h
          cases h
      | ok b =>
          simp only [ha] at h ⊢
          by_cases hb : b = q.good
          · rw [if_pos hb] at h ⊢
            intro other ho
            rcases List.mem_cons.mp ho with rfl | ho
            · exact ⟨hb ▸ ha, List.mem_cons_self⟩
            · exact ⟨(ih h other ho).1, List.mem_cons_of_mem _ (ih h other ho).2⟩
          · rw [if_neg hb] at h
            exact absurd (Except.ok.inj h) hb

/-- When the rules of a list give the good answer, every one that it names was
    asked and gives it. -/
theorem of_answer {registry : RuleRegistry α} {list : Option String}
    (h : q.answer registry list = .ok q.good) :
    ∀ text, list = some text → ∀ name ∈ Text.names text,
      ∃ rule, RuleRegistry.find? registry name = some rule ∧ q.ask rule.2 = .ok q.good ∧
        q.call rule.1 ∈ q.calls registry list := by
  rintro text rfl name hn
  obtain ht | ⟨-, hnil⟩ := Text.nonBlank_some text
  · rw [answer, ht] at h
    rw [calls, ht]
    cases hr : RuleRegistry.resolve registry (Text.names text) with
    | error e =>
        simp only [hr] at h
        cases h
    | ok rules =>
        simp only [hr] at h ⊢
        obtain ⟨rule, hm, hfind⟩ := RuleRegistry.find_of_resolve hr name hn
        exact ⟨rule, hfind, of_answerAll h rule hm⟩
  -- a list that is not read names nothing
  · rw [hnil] at hn
    cases hn

/-- An error of a round is that of a rule that was asked. -/
theorem of_answerAll_error {rules : List (String × α)} {e : Error}
    (h : q.answerAll rules = .error e) :
    ∃ rule ∈ rules, q.ask rule.2 = .error e ∧ q.call rule.1 ∈ q.callsAll rules := by
  induction rules with
  | nil => cases h
  | cons rule rest ih =>
      rw [answerAll] at h
      rw [callsAll]
      cases ha : q.ask rule.2 with
      | error e' =>
          rw [ha] at h
          cases h
          exact ⟨rule, List.mem_cons_self, ha, List.mem_cons_self⟩
      | ok b =>
          simp only [ha] at h ⊢
          by_cases hb : b = q.good
          · rw [if_pos hb] at h ⊢
            obtain ⟨other, ho, hask, hcall⟩ := ih h
            exact ⟨other, List.mem_cons_of_mem _ ho, hask, List.mem_cons_of_mem _ hcall⟩
          · rw [if_neg hb] at h
            cases h

/-- A round fails when a name has no rule, and then no rule is asked, or when a
    rule that is asked fails. -/
theorem of_answer_error {registry : RuleRegistry α} {list : Option String} {e : Error}
    (h : q.answer registry list = .error e) :
    (∃ text name, Text.nonBlank list = some text ∧
        RuleRegistry.resolve registry (Text.names text) = .error name ∧
        e = q.unknown name ∧ q.calls registry list = []) ∨
      ∃ rule ∈ registry, q.ask rule.2 = .error e ∧ q.call rule.1 ∈ q.calls registry list := by
  rw [answer] at h
  rw [calls]
  cases ht : Text.nonBlank list with
  | none =>
      rw [ht] at h
      cases h
  | some text =>
      simp only [ht] at h ⊢
      cases hr : RuleRegistry.resolve registry (Text.names text) with
      | error name =>
          simp only [hr] at h
          cases h
          exact .inl ⟨text, name, rfl, hr, rfl, rfl⟩
      | ok rules =>
          simp only [hr] at h ⊢
          obtain ⟨rule, hm, hask, hcall⟩ := of_answerAll_error h
          exact .inr ⟨rule, RuleRegistry.mem_of_resolve hr rule hm, hask, hcall⟩

end Round

/-! ## Matchers -/

namespace Matcher

/-- The round of the matchers. -/
def round (c : Context) : Round Matcher Bool where
  call := .matcher
  ask matcher := matcher c
  good := true
  unknown name := .config (.unknownMatcher name)

theorem askAll_apply (rules : List (String × Matcher)) (c : Context) :
    askAll rules c = calling ((round c).callsAll rules) (.done ((round c).answerAll rules, c)) := by
  induction rules with
  | nil => rfl
  | cons rule rest ih =>
      obtain ⟨name, matcher⟩ := rule
      rw [askAll, Turn.note_bind, Turn.context_bind, Turn.ofExcept_bind, Round.callsAll,
        Round.answerAll]
      cases h : (round c).ask matcher with
      | error e =>
          rw [show matcher c = .error e from h]
          rfl
      | ok b =>
          rw [show matcher c = .ok b from h]
          cases b with
          | false => rfl
          | true => exact congrArg (Plan.note _) ih

/-- Whether the matchers of a list match. -/
def answer (registry : RuleRegistry Matcher) (list : Option String) (c : Context) :
    Except Error Bool := (round c).answer registry list

/-- The calls with which the matchers of a list are asked. -/
def calls (registry : RuleRegistry Matcher) (list : Option String) (c : Context) : List Call :=
  (round c).calls registry list

theorem check_apply (registry : RuleRegistry Matcher) (list : Option String) (c : Context) :
    check registry list c = calling (calls registry list c) (.done (answer registry list c, c)) := by
  rw [check, calls, answer, Round.calls, Round.answer]
  cases Text.nonBlank list with
  | none => rfl
  | some text =>
      cases h : RuleRegistry.resolve registry (Text.names text) with
      | error name => simp only [h]; rfl
      | ok rules => simp only [h]; exact askAll_apply rules c

end Matcher

/-! ## Authorizers -/

namespace Authorizer

/-- The round of the authorizers. -/
def round (profiles : ProfileSet) (c : Context) : Round Authorizer Verdict where
  call := .authorizer
  ask authorizer := authorizer c profiles
  good := .allowed
  unknown name := .config (.unknownAuthorizer name)

theorem askAll_apply (profiles : ProfileSet) (rules : List (String × Authorizer)) (c : Context) :
    askAll profiles rules c
      = calling ((round profiles c).callsAll rules)
          (.done ((round profiles c).answerAll rules, c)) := by
  induction rules with
  | nil => rfl
  | cons rule rest ih =>
      obtain ⟨name, authorizer⟩ := rule
      rw [askAll, Turn.note_bind, Turn.context_bind, Turn.ofExcept_bind, Round.callsAll,
        Round.answerAll]
      cases h : (round profiles c).ask authorizer with
      | error e =>
          rw [show authorizer c profiles = .error e from h]
          rfl
      | ok verdict =>
          rw [show authorizer c profiles = .ok verdict from h]
          cases verdict with
          | allowed => exact congrArg (Plan.note _) ih
          | denied => rfl
          | action a => rfl

/-- What the authorizers of a list say of profiles. -/
def answer (registry : RuleRegistry Authorizer) (list : Option String) (profiles : ProfileSet)
    (c : Context) : Except Error Verdict := (round profiles c).answer registry list

/-- The calls with which the authorizers of a list are asked. -/
def calls (registry : RuleRegistry Authorizer) (list : Option String) (profiles : ProfileSet)
    (c : Context) : List Call := (round profiles c).calls registry list

theorem check_apply (registry : RuleRegistry Authorizer) (list : Option String)
    (profiles : ProfileSet) (c : Context) :
    check registry list profiles c
      = calling (calls registry list profiles c)
          (.done (answer registry list profiles c, c)) := by
  rw [check, calls, answer, Round.calls, Round.answer]
  cases Text.nonBlank list with
  | none => rfl
  | some text =>
      cases h : RuleRegistry.resolve registry (Text.names text) with
      | error name => simp only [h]; rfl
      | ok rules => simp only [h]; exact askAll_apply profiles rules c

end Authorizer

/-! ## Direct clients -/

/-- Nothing is in a list but what was there and what was put. -/
theorem mem_putInOrder {α : Type} {key : String} {value : α} {l : List (String × α)}
    {e : String × α} (h : e ∈ putInOrder key value l) : e = (key, value) ∨ e ∈ l := by
  induction l with
  | nil => exact .inl (List.mem_singleton.mp h)
  | cons head rest ih =>
      obtain ⟨k, v⟩ := head
      rw [putInOrder] at h
      by_cases hk : k = key
      · rw [if_pos hk] at h
        rcases List.mem_cons.mp h with h | h
        · exact .inl h
        · exact .inr (List.mem_cons_of_mem _ h)
      · rw [if_neg hk] at h
        rcases List.mem_cons.mp h with h | h
        · exact .inr (h ▸ List.mem_cons_self)
        · exact (ih h).imp_right (List.mem_cons_of_mem _)

@[simp] theorem ProfileSet.isEmpty_insert (s : ProfileSet) (client : String) (p : Profile) :
    (s.insert client p).isEmpty = false := by
  obtain ⟨entries, nodup⟩ := s
  cases entries with
  | nil => rfl
  | cons head rest =>
      show (putInOrder client p (head :: rest)).isEmpty = false
      rw [putInOrder]
      split
      · rfl
      · rfl

namespace Gate

/-- How the direct clients of a list go, after those before them found something. -/
def directAnswer (now : Instant) (multi : Bool) (c : Context) :
    List Client → ProfileSet → Except Error DirectResult
  | [], found => .ok (.profiles found)
  | client :: rest, found =>
      if client.isIndirect then directAnswer now multi c rest found
      else
        match client.answer now c with
        | .error e => .error e
        | .ok .absent => directAnswer now multi c rest found
        | .ok (.action a) => .ok (.action a)
        | .ok (.produced p) =>
            if multi then directAnswer now multi c rest (found.insert client.name p)
            else .ok (.profiles (found.insert client.name p))

/-- The calls with which the direct clients of a list are asked. -/
def directCalls (now : Instant) (multi : Bool) (c : Context) : List Client → List Call
  | [] => []
  | client :: rest =>
      if client.isIndirect then directCalls now multi c rest
      else
        match client.answer now c with
        | .ok .absent => client.calls now c ++ directCalls now multi c rest
        | .ok (.produced _) =>
            if multi then client.calls now c ++ directCalls now multi c rest
            else client.calls now c
        | _ => client.calls now c

/-- To ask the direct clients is to call them, up to the one that ends the round. -/
theorem askDirect_apply (now : Instant) (multi : Bool) (clients : List Client)
    (found : ProfileSet) (c : Context) :
    askDirect now multi clients found c
      = calling (directCalls now multi c clients)
          (.done (directAnswer now multi c clients found, c)) := by
  induction clients generalizing found with
  | nil => rfl
  | cons client rest ih =>
      rw [askDirect, directCalls, directAnswer]
      by_cases hi : client.isIndirect = true
      · rw [if_pos hi, if_pos hi, if_pos hi]
        exact ih found
      · rw [if_neg hi, if_neg hi, if_neg hi, Turn.bind_apply, Client.authenticate_apply,
          Plan.calling_bind, Plan.done_bind]
        cases client.answer now c with
        | error e => rfl
        | ok outcome =>
            cases outcome with
            | action a => rfl
            | absent =>
                -- the round goes on behind the calls of this client
                rw [Turn.andThen_ok]
                refine (congrArg _ (ih found)).trans ?_
                exact Plan.calling_calling _ _ _
            | produced p =>
                rw [Turn.andThen_ok]
                cases multi with
                | false => rfl
                | true =>
                    refine (congrArg _ (ih (found.insert client.name p))).trans ?_
                    exact Plan.calling_calling _ _ _

/-- A profile that a direct client built in this request, at its client's name. -/
def BuiltBy (now : Instant) (c : Context) (client : Client) (entry : String × Profile) : Prop :=
  client.isIndirect = false ∧ client.answer now c = .ok (.produced entry.2) ∧
    entry.1 = client.name ∧ entry.2.clientName = some client.name

variable {now : Instant} {multi : Bool} {c : Context} {clients : List Client}
  {found s : ProfileSet}

/-- What was found is built by a direct client that was asked, or was there before. -/
theorem of_directAnswer (h : directAnswer now multi c clients found = .ok (.profiles s)) :
    ∀ entry ∈ s.entries, entry ∈ found.entries ∨
      ∃ client ∈ clients, BuiltBy now c client entry ∧
        .build client.name ∈ directCalls now multi c clients := by
  induction clients generalizing found with
  | nil =>
      cases h
      exact fun entry he => .inl he
  | cons client rest ih =>
      rw [directAnswer] at h
      rw [directCalls]
      by_cases hi : client.isIndirect = true
      · rw [if_pos hi] at h ⊢
        intro entry he
        refine (ih h entry he).imp_right ?_
        rintro ⟨other, hm, hb, hcall⟩
        exact ⟨other, List.mem_cons_of_mem _ hm, hb, hcall⟩
      · rw [if_neg hi] at h ⊢
        cases ha : client.answer now c with
        | error e => rw [ha] at h; cases h
        | ok outcome =>
            rw [ha] at h
            cases outcome with
            | action a => cases h
            | absent =>
                intro entry he
                refine (ih h entry he).imp_right ?_
                rintro ⟨other, hm, hb, hcall⟩
                exact ⟨other, List.mem_cons_of_mem _ hm, hb, List.mem_append_right _ hcall⟩
            | produced p =>
                obtain ⟨hcall, hname⟩ := Client.of_answer_produced ha
                have hbuilt : BuiltBy now c client (client.name, p) :=
                  ⟨Bool.eq_false_iff.mpr hi, ha, rfl, hname⟩
                cases multi with
                | false =>
                    cases h
                    intro entry he
                    rcases mem_putInOrder he with rfl | he
                    · exact .inr ⟨client, List.mem_cons_self, hbuilt, hcall⟩
                    · exact .inl he
                | true =>
                    -- the rest of the round started from what this client added
                    intro entry he
                    rcases ih h entry he with he | ⟨other, hm, hb, hcall'⟩
                    · rcases mem_putInOrder he with rfl | he
                      · exact .inr ⟨client, List.mem_cons_self, hbuilt,
                          List.mem_append_left _ hcall⟩
                      · exact .inl he
                    · exact .inr ⟨other, List.mem_cons_of_mem _ hm, hb,
                        List.mem_append_right _ hcall'⟩

/-- What was found before is never lost. -/
theorem isEmpty_of_directAnswer (h : directAnswer now multi c clients found = .ok (.profiles s))
    (hf : found.isEmpty = false) : s.isEmpty = false := by
  induction clients generalizing found with
  | nil =>
      cases h
      exact hf
  | cons client rest ih =>
      rw [directAnswer] at h
      split at h
      · exact ih h hf
      · split at h
        · cases h
        · exact ih h hf
        · cases h
        · split at h
          · exact ih h (ProfileSet.isEmpty_insert _ _ _)
          · cases h
            exact ProfileSet.isEmpty_insert _ _ _

/-- The first profile is enough when one is wanted. -/
theorem size_of_directAnswer
    (h : directAnswer now false c clients .empty = .ok (.profiles s)) (hs : s.isEmpty = false) :
    s.size = 1 := by
  induction clients with
  | nil =>
      cases h
      cases hs
  | cons client rest ih =>
      rw [directAnswer] at h
      split at h
      · exact ih h
      · split at h
        · cases h
        · exact ih h
        · cases h
        · cases h
          rfl

/-- When nothing was found, every direct client was asked and knew nobody. -/
theorem absent_of_directAnswer
    (h : directAnswer now multi c clients .empty = .ok (.profiles s)) (hs : s.isEmpty = true) :
    ∀ client ∈ clients, client.isIndirect = false →
      client.answer now c = .ok .absent ∧
        .fetch client.name ∈ directCalls now multi c clients := by
  induction clients with
  | nil => intro client hm; cases hm
  | cons first rest ih =>
      rw [directAnswer] at h
      rw [directCalls]
      by_cases hi : first.isIndirect = true
      · rw [if_pos hi] at h ⊢
        intro client hm hd
        rcases List.mem_cons.mp hm with rfl | hm
        · exact absurd hi (Bool.eq_false_iff.mp hd)
        · exact ih h client hm hd
      · rw [if_neg hi] at h ⊢
        cases ha : first.answer now c with
        | error e => rw [ha] at h; cases h
        | ok outcome =>
            rw [ha] at h
            cases outcome with
            | action a => cases h
            | absent =>
                intro client hm hd
                rcases List.mem_cons.mp hm with rfl | hm
                · exact ⟨ha, List.mem_append_left _ (client.fetch_mem_calls now c)⟩
                · exact ⟨(ih h client hm hd).1, List.mem_append_right _ (ih h client hm hd).2⟩
            | produced p =>
                -- a profile that was found stays, so the round cannot end with nothing
                exfalso
                have hne : s.isEmpty = false := by
                  cases multi with
                  | false =>
                      cases h
                      exact ProfileSet.isEmpty_insert _ _ _
                  | true => exact isEmpty_of_directAnswer h (ProfileSet.isEmpty_insert _ _ _)
                rw [hs] at hne
                exact Bool.noConfusion hne

/-- When every direct client knows nobody, nothing is added to what was found. -/
theorem directAnswer_of_absent
    (h : ∀ client ∈ clients, client.isIndirect = false → client.answer now c = .ok .absent) :
    directAnswer now multi c clients found = .ok (.profiles found) := by
  induction clients with
  | nil => rfl
  | cons client rest ih =>
      have hrest := ih fun other hm => h other (List.mem_cons_of_mem _ hm)
      rw [directAnswer]
      by_cases hi : client.isIndirect = true
      · rw [if_pos hi, hrest]
      · rw [if_neg hi, h client List.mem_cons_self (Bool.eq_false_iff.mpr hi), hrest]

/-- The direct clients fail when one that is asked does. -/
theorem of_directAnswer_error {e : Error}
    (h : directAnswer now multi c clients found = .error e) :
    ∃ client ∈ clients, client.answer now c = .error e ∧
      ∀ call ∈ client.calls now c, call ∈ directCalls now multi c clients := by
  induction clients generalizing found with
  | nil => cases h
  | cons client rest ih =>
      rw [directAnswer] at h
      rw [directCalls]
      by_cases hi : client.isIndirect = true
      · rw [if_pos hi] at h ⊢
        obtain ⟨other, hm, ha, hcalls⟩ := ih h
        exact ⟨other, List.mem_cons_of_mem _ hm, ha, hcalls⟩
      · rw [if_neg hi] at h ⊢
        -- a later client fails behind the calls of this one
        have hlater : ∀ {found : ProfileSet}, directAnswer now multi c rest found = .error e →
            ∃ other ∈ client :: rest, other.answer now c = .error e ∧
              ∀ call ∈ other.calls now c, call ∈ client.calls now c
                ++ directCalls now multi c rest := by
          intro found h
          obtain ⟨other, hm, ha, hcalls⟩ := ih h
          exact ⟨other, List.mem_cons_of_mem _ hm, ha, fun call hcall =>
            List.mem_append_right _ (hcalls call hcall)⟩
        cases ha : client.answer now c with
        | error e' =>
            rw [ha] at h
            cases h
            exact ⟨client, List.mem_cons_self, ha, fun call hcall => hcall⟩
        | ok outcome =>
            rw [ha] at h
            cases outcome with
            | action a => cases h
            | absent => exact hlater h
            | produced p =>
                cases multi with
                | false => cases h
                | true => exact hlater h

end Gate

end AccessGate
