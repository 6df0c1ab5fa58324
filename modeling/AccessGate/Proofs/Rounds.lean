import AccessGate.Proofs.NameLists

/-! # How far the rules of a list are asked

    Every name of a list is resolved before any rule is asked, and the rules are asked in
    the order of the list until one of them gives another answer than the good one.
    `Round.Goes` says so without going through the list: it splits the list where a name
    has no rule, or where the round stops.

    `check_goes_iff` says that the checks of the authorizers and of the matchers make the
    calls of such a round and give its answer, and nothing else. -/

namespace AccessGate

open Plan (calling)

/-- What was called and what came of it can be read off a plan that only calls. -/
theorem Plan.calling_done_inj {α : Type} {calls calls' : List Call} {value value' : α}
    (h : calling calls (.done value) = calling calls' (.done value')) :
    calls = calls' ∧ value = value' := by
  induction calls generalizing calls' with
  | nil =>
      cases calls' with
      | nil => exact ⟨rfl, Plan.done.inj h⟩
      | cons call rest => cases h
  | cons call rest ih =>
      cases calls' with
      | nil => cases h
      | cons call' rest' =>
          obtain ⟨hcall, hrest⟩ := Plan.note.inj h
          obtain ⟨htail, hvalue⟩ := ih hrest
          exact ⟨by rw [hcall, htail], hvalue⟩

/-! ## Asking the rules -/

namespace Round

open RuleRegistry (find? resolve resolve_eq_ok resolve_eq_error)

variable {α β : Type} [DecidableEq β] {q : Round α β} {registry : RuleRegistry α}
  {names : List String} {calls : List Call} {answer : Except Error β}
  {rule : String × α} {before after rules : List (String × α)}

/-- Rules that give the good answer are asked, and hand on to those behind them. -/
theorem through_append (h : ∀ rule ∈ before, q.ask rule.2 = .ok q.good)
    (rules : List (String × α)) :
    q.callsAll (before ++ rules) = before.map (fun rule => q.call rule.1) ++ q.callsAll rules ∧
      q.answerAll (before ++ rules) = q.answerAll rules := by
  induction before with
  | nil => exact ⟨rfl, rfl⟩
  | cons first rest ih =>
      obtain ⟨hfirst, hrest⟩ := List.forall_mem_cons.mp h
      obtain ⟨hcalls, hanswer⟩ := ih hrest
      rw [List.cons_append, callsAll, answerAll, hfirst]
      dsimp only
      rw [if_pos rfl, if_pos rfl, hcalls, hanswer]
      exact ⟨rfl, rfl⟩

/-- Behind a rule that gives another answer nothing is asked. -/
theorem stop_cons (h : q.ask rule.2 ≠ .ok q.good) (after : List (String × α)) :
    q.callsAll (rule :: after) = [q.call rule.1] ∧
      q.answerAll (rule :: after) = q.ask rule.2 := by
  rw [callsAll, answerAll]
  cases hask : q.ask rule.2 with
  | error e => exact ⟨rfl, rfl⟩
  | ok given =>
      have hgiven : given ≠ q.good := fun heq => h (hask.trans (congrArg Except.ok heq))
      dsimp only
      rw [if_neg hgiven, if_neg hgiven]
      exact ⟨rfl, rfl⟩

/-- Rules that all give the good answer are all asked. -/
theorem all_good (h : ∀ rule ∈ rules, q.ask rule.2 = .ok q.good) :
    q.callsAll rules = rules.map (fun rule => q.call rule.1) ∧
      q.answerAll rules = .ok q.good := by
  obtain ⟨hcalls, hanswer⟩ := through_append h []
  rw [List.append_nil] at hcalls hanswer
  rw [hcalls, hanswer]
  exact ⟨List.append_nil _, rfl⟩

/-- The first rule that gives another answer is the last one that is asked. -/
theorem stopped_at (hbefore : ∀ earlier ∈ before, q.ask earlier.2 = .ok q.good)
    (hstop : q.ask rule.2 ≠ .ok q.good) (after : List (String × α)) :
    q.callsAll (before ++ rule :: after)
        = (before ++ [rule]).map (fun rule => q.call rule.1) ∧
      q.answerAll (before ++ rule :: after) = q.ask rule.2 := by
  obtain ⟨hcalls, hanswer⟩ := through_append hbefore (rule :: after)
  obtain ⟨hlast, hgiven⟩ := stop_cons hstop after
  rw [hcalls, hanswer, hlast, hgiven, List.map_append]
  exact ⟨rfl, rfl⟩

/-- Either every rule gives the good answer, or there is a first one that does not. -/
theorem good_or_stops (q : Round α β) (rules : List (String × α)) :
    (∀ rule ∈ rules, q.ask rule.2 = .ok q.good) ∨
      ∃ before rule after, rules = before ++ rule :: after ∧
        (∀ earlier ∈ before, q.ask earlier.2 = .ok q.good) ∧ q.ask rule.2 ≠ .ok q.good := by
  induction rules with
  | nil => exact .inl (List.forall_mem_nil _)
  | cons first rest ih =>
      by_cases hfirst : q.ask first.2 = .ok q.good
      · rcases ih with hall | ⟨before, rule, after, rfl, hbefore, hstop⟩
        · exact .inl (List.forall_mem_cons.mpr ⟨hfirst, hall⟩)
        · exact .inr ⟨first :: before, rule, after, rfl,
            List.forall_mem_cons.mpr ⟨hfirst, hbefore⟩, hstop⟩
      · exact .inr ⟨[], first, rest, rfl, List.forall_mem_nil _, hfirst⟩

/-- How a round over a list of names goes: which calls are made, and what comes of it. -/
inductive Goes (q : Round α β) (registry : RuleRegistry α) (names : List String) :
    List Call → Except Error β → Prop
  /-- Some name has no rule.  The first such name is the mistake, and no rule is asked. -/
  | unknown {name : String} {before after : List String} : names = before ++ name :: after →
      (∀ earlier ∈ before, ∃ rule, find? registry earlier = some rule) →
      find? registry name = none → Goes q registry names [] (.error (q.unknown name))
  /-- Some rule gives another answer than the good one.  The first such rule has the word,
      and no rule behind it is asked. -/
  | stopped {rule : String × α} {before after : List (String × α)} :
      List.Forall₂ (fun name rule => find? registry name = some rule) names
        (before ++ rule :: after) →
      (∀ earlier ∈ before, q.ask earlier.2 = .ok q.good) → q.ask rule.2 ≠ .ok q.good →
      Goes q registry names ((before ++ [rule]).map fun rule => q.call rule.1) (q.ask rule.2)
  /-- Every rule is asked, and gives the good answer. -/
  | passed {rules : List (String × α)} :
      List.Forall₂ (fun name rule => find? registry name = some rule) names rules →
      (∀ rule ∈ rules, q.ask rule.2 = .ok q.good) →
      Goes q registry names (rules.map fun rule => q.call rule.1) (.ok q.good)

/-- The calls of a round are those over the names that its list has, if it has any. -/
theorem calls_eq (q : Round α β) (registry : RuleRegistry α) (list : Option String) :
    q.calls registry list =
      match resolve registry (Text.listed list) with
      | .error _ => []
      | .ok rules => q.callsAll rules := by
  rw [Round.calls]
  cases hread : Text.nonBlank list with
  | none =>
      rw [Text.listed_of_silent (Text.nonBlank_eq_none.mp hread)]
      rfl
  | some text =>
      obtain ⟨rfl, -⟩ := Text.nonBlank_eq_some.mp hread
      rfl

theorem answer_eq (q : Round α β) (registry : RuleRegistry α) (list : Option String) :
    q.answer registry list =
      match resolve registry (Text.listed list) with
      | .error name => .error (q.unknown name)
      | .ok rules => q.answerAll rules := by
  rw [Round.answer]
  cases hread : Text.nonBlank list with
  | none =>
      rw [Text.listed_of_silent (Text.nonBlank_eq_none.mp hread)]
      rfl
  | some text =>
      obtain ⟨rfl, -⟩ := Text.nonBlank_eq_some.mp hread
      rfl

/-- A round goes in one way, and what is called and answered is that way. -/
theorem goes_iff (q : Round α β) (registry : RuleRegistry α) (list : Option String) :
    q.Goes registry (Text.listed list) calls answer ↔
      q.calls registry list = calls ∧ q.answer registry list = answer := by
  rw [calls_eq, answer_eq]
  cases hresolve : resolve registry (Text.listed list) with
  | error missing =>
      constructor
      · rintro (⟨hnames, hbefore, hnone⟩ | ⟨hrules, -, -⟩ | ⟨hrules, -⟩)
        · have hunknown := resolve_eq_error.mpr ⟨_, _, hnames, hbefore, hnone⟩
          rw [Except.error.inj (hunknown.symm.trans hresolve)]
          exact ⟨rfl, rfl⟩
        · cases hresolve.symm.trans (resolve_eq_ok.mpr hrules)
        · cases hresolve.symm.trans (resolve_eq_ok.mpr hrules)
      · rintro ⟨rfl, rfl⟩
        obtain ⟨before, after, hnames, hbefore, hnone⟩ := resolve_eq_error.mp hresolve
        exact .unknown hnames hbefore hnone
  | ok found =>
      constructor
      · rintro (⟨hnames, hbefore, hnone⟩ | ⟨hrules, hbefore, hstop⟩ | ⟨hrules, hgood⟩)
        · cases hresolve.symm.trans (resolve_eq_error.mpr ⟨_, _, hnames, hbefore, hnone⟩)
        · cases hresolve.symm.trans (resolve_eq_ok.mpr hrules)
          exact stopped_at hbefore hstop _
        · cases hresolve.symm.trans (resolve_eq_ok.mpr hrules)
          exact all_good hgood
      · rintro ⟨rfl, rfl⟩
        have hrules := resolve_eq_ok.mp hresolve
        dsimp only
        rcases q.good_or_stops found with hgood | ⟨before, rule, after, rfl, hbefore, hstop⟩
        · obtain ⟨hasked, hgiven⟩ := all_good hgood
          rw [hasked, hgiven]
          exact .passed hrules hgood
        · obtain ⟨hasked, hgiven⟩ := stopped_at hbefore hstop after
          rw [hasked, hgiven]
          exact .stopped hrules hbefore hstop

end Round

/-! ## Checks -/

/-- A check goes by the rules to which the names of its list are resolved. -/
theorem Matcher.check_congr {registry registry' : RuleRegistry Matcher} {list list' : Option String}
    (h : RuleRegistry.resolve registry (Text.listed list)
      = RuleRegistry.resolve registry' (Text.listed list')) :
    check registry list = check registry' list' := by
  funext c
  rw [check_apply, check_apply, calls, calls, answer, answer, Round.calls_eq, Round.calls_eq,
    Round.answer_eq, Round.answer_eq, h]

theorem Authorizer.check_congr {registry registry' : RuleRegistry Authorizer}
    {list list' : Option String}
    (h : RuleRegistry.resolve registry (Text.listed list)
      = RuleRegistry.resolve registry' (Text.listed list')) :
    check registry list = check registry' list' := by
  funext profiles c
  rw [check_apply, check_apply, calls, calls, answer, answer, Round.calls_eq, Round.calls_eq,
    Round.answer_eq, Round.answer_eq, h]

/-- What a check calls and answers, and how the round goes that it makes of a list. -/
theorem Round.plan_iff {α β : Type} [DecidableEq β] (q : Round α β) (registry : RuleRegistry α)
    (list : Option String) (c : Context) (calls : List Call) (answer : Except Error β) :
    calling (q.calls registry list) (.done (q.answer registry list, c))
        = calling calls (.done (answer, c)) ↔
      q.Goes registry (Text.listed list) calls answer := by
  rw [goes_iff]
  constructor
  · intro h
    obtain ⟨hcalls, hvalue⟩ := Plan.calling_done_inj h
    exact ⟨hcalls, congrArg Prod.fst hvalue⟩
  · rintro ⟨rfl, rfl⟩
    rfl

/-- For every registry, every context, every set of profiles and every list, blank or missing
    ones too: the check of the authorizers makes the calls of a round over the names of the
    list and gives its answer, and so does the check of the matchers.  There always is such a
    round, and no check does anything that no round does. -/
theorem check_goes_iff (list : Option String) (c : Context) :
    (∀ (registry : RuleRegistry Authorizer) (profiles : ProfileSet),
      (∃ calls answer,
        (Authorizer.round profiles c).Goes registry (Text.listed list) calls answer) ∧
      ∀ calls answer, Authorizer.check registry list profiles c
          = calling calls (.done (answer, c)) ↔
        (Authorizer.round profiles c).Goes registry (Text.listed list) calls answer) ∧
    ∀ registry : RuleRegistry Matcher,
      (∃ calls answer, (Matcher.round c).Goes registry (Text.listed list) calls answer) ∧
      ∀ calls answer, Matcher.check registry list c = calling calls (.done (answer, c)) ↔
        (Matcher.round c).Goes registry (Text.listed list) calls answer := by
  constructor
  · intro registry profiles
    refine ⟨⟨_, _, (Round.goes_iff _ registry list).mpr ⟨rfl, rfl⟩⟩, ?_⟩
    intro calls answer
    rw [Authorizer.check_apply]
    exact Round.plan_iff _ registry list c calls answer
  · intro registry
    refine ⟨⟨_, _, (Round.goes_iff _ registry list).mpr ⟨rfl, rfl⟩⟩, ?_⟩
    intro calls answer
    rw [Matcher.check_apply]
    exact Round.plan_iff _ registry list c calls answer

end AccessGate
