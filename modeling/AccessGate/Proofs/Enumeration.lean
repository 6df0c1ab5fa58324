import AccessGate.Proofs.Decision
import AccessGate.Proofs.Rounds
import Mathlib.Data.List.Nodup

/-! # The order in which rules are enumerated

    The rules that were registered are enumerated in an order that nobody chose, and in
    another one the next time.  A name under which a rule is registered finds this rule.
    Any other name finds the first rule whose name is the same up to ASCII case, and there
    may be several: a rule replaces an earlier one under the very same name only.

    `OrderFree` says that the order does not matter for a name, and `orderFree_iff` that it
    does matter for every other.  A decision whose lists have only names for which it does
    not matter is the same in every order. -/

namespace AccessGate

namespace RuleRegistry

variable {α β : Type} {r r' : RuleRegistry α} {added : List (String × α)}
  {view : String × α → β} {name : String} {names : List String} {rule : String × α}

/-- The rules that are there when rules were registered one after the other. -/
def registered (added : List (String × α)) : RuleRegistry α :=
  added.foldl (fun r rule => add r rule.1 rule.2) []

/-- A registry enumerates rules that were registered, in some order. -/
def Enumerates (r : RuleRegistry α) (added : List (String × α)) : Prop := r.Perm (registered added)

/-- No two rules are registered under the very same name. -/
theorem nodup_registered (added : List (String × α)) :
    ((registered added).map Prod.fst).Nodup :=
  List.foldlRecOn added (motive := fun r => (List.map Prod.fst r).Nodup) _ List.nodup_nil
    fun _ hr rule _ => nodup_putInOrder rule.1 rule.2 hr

/-- What is found first looks the same in every order when all that could be found does. -/
theorem find?_view (p : String × α → Bool) (h : r.Perm r')
    (hview : ∀ a ∈ r, ∀ b ∈ r, p a = true → p b = true → view a = view b) :
    (List.find? p r).map view = (List.find? p r').map view := by
  cases hfind : List.find? p r with
  | none =>
      have hnone : ∀ rule ∈ r', ¬ p rule = true :=
        fun rule hmem => List.find?_eq_none.mp hfind rule (h.mem_iff.mpr hmem)
      rw [List.find?_eq_none.mpr hnone]
  | some a =>
      have hmem := List.mem_of_find?_eq_some hfind
      have hpasses := List.find?_some hfind
      cases hfind' : List.find? p r' with
      | none => exact absurd hpasses (List.find?_eq_none.mp hfind' a (h.mem_iff.mp hmem))
      | some b =>
          have hmem' := h.mem_iff.mpr (List.mem_of_find?_eq_some hfind')
          exact congrArg some (hview a hmem b hmem' hpasses (List.find?_some hfind'))

/-! ## Looking up a name -/

/-- The rule of the very name is the same in every order: there is one at most. -/
theorem find?_own (h : r.Enumerates added) (h' : r'.Enumerates added) (name : String) :
    List.find? (fun e => e.1 == name) r = List.find? (fun e => e.1 == name) r' := by
  have hnodup : (r.map Prod.fst).Nodup := (h.map Prod.fst).nodup_iff.mpr (nodup_registered added)
  have hone : ∀ a ∈ r, ∀ b ∈ r, (a.1 == name) = true → (b.1 == name) = true → id a = id b := by
    intro a ha b hb hname hname'
    have hsame : a.1 = b.1 := (beq_iff_eq.mp hname).trans (beq_iff_eq.mp hname').symm
    exact List.inj_on_of_nodup_map hnodup ha hb hsame
  have hfound := find?_view (fun e => e.1 == name) (h.trans h'.symm) hone
  rw [Option.map_id] at hfound
  exact hfound

/-- A name under which no rule is registered finds the first rule that passes for it. -/
theorem find?_of_new (h : ∀ rule ∈ r, rule.1 ≠ name) :
    find? r name = List.find? (fun e => Text.sameName e.1 name) r := by
  have hnone : List.find? (fun e => e.1 == name) r = none :=
    List.find?_eq_none.mpr fun rule hmem heq => h rule hmem (beq_iff_eq.mp heq)
  rw [find?, hnone]
  rfl

/-- The order of the rules does not matter for a name: some rule is registered under this
    very name, or all that pass for it look the same. -/
def OrderFree (r : RuleRegistry α) (view : String × α → β) (name : String) : Prop :=
  (∃ rule ∈ r, rule.1 = name) ∨
    ∀ a ∈ r, ∀ b ∈ r, Text.sameName a.1 name = true → Text.sameName b.1 name = true →
      view a = view b

theorem view_of_orderFree (hfree : OrderFree (registered added) view name)
    (h : r.Enumerates added) (h' : r'.Enumerates added) :
    (find? r name).map view = (find? r' name).map view := by
  rw [find?, find?, find?_own h h' name]
  cases hown : List.find? (fun e => e.1 == name) r' with
  | some rule => rfl
  | none =>
      have hnew : ¬ ∃ rule ∈ registered added, rule.1 = name := by
        rintro ⟨rule, hmem, hname⟩
        exact List.find?_eq_none.mp hown rule (h'.mem_iff.mpr hmem) (beq_iff_eq.mpr hname)
      have hview := hfree.resolve_left hnew
      exact find?_view _ (h.trans h'.symm) fun a ha b hb =>
        hview a (h.mem_iff.mp ha) b (h.mem_iff.mp hb)

/-- Any rule that passes for a name may be the first one. -/
theorem exists_first (hnew : ∀ rule ∈ registered added, rule.1 ≠ name)
    (hmem : rule ∈ registered added) (hsame : Text.sameName rule.1 name = true) :
    ∃ r : RuleRegistry α, r.Enumerates added ∧ find? r name = some rule := by
  obtain ⟨before, after, hsplit⟩ := List.append_of_mem hmem
  have henumerates : Enumerates (rule :: (before ++ after)) added := by
    rw [Enumerates, hsplit]
    exact List.perm_middle.symm
  refine ⟨_, henumerates, ?_⟩
  rw [find?_of_new fun other ho => hnew other (henumerates.mem_iff.mp ho)]
  exact List.find?_cons_of_pos hsame

/-- For any way to look at rules and any name: the rule that is found looks the same in
    every order just when the name is free of the order. -/
theorem orderFree_iff (added : List (String × α)) (view : String × α → β) (name : String) :
    (∀ r r' : RuleRegistry α, r.Enumerates added → r'.Enumerates added →
      (find? r name).map view = (find? r' name).map view) ↔
    OrderFree (registered added) view name := by
  constructor
  · intro halike
    by_cases hown : ∃ rule ∈ registered added, rule.1 = name
    · exact .inl hown
    · have hnew : ∀ rule ∈ registered added, rule.1 ≠ name :=
        fun rule hmem heq => hown ⟨rule, hmem, heq⟩
      refine .inr fun a ha b hb hsame hsame' => ?_
      obtain ⟨r, hr, hfind⟩ := exists_first hnew ha hsame
      obtain ⟨r', hr', hfind'⟩ := exists_first hnew hb hsame'
      have hview := halike r r' hr hr'
      rw [hfind, hfind'] at hview
      exact Option.some.inj hview
  · exact fun hfree r r' h h' => view_of_orderFree hfree h h'

/-! ## Lists of names free of the order -/

theorem resolve_of_orderFree (hfree : ∀ name ∈ names, OrderFree (registered added) id name)
    (h : r.Enumerates added) (h' : r'.Enumerates added) : resolve r names = resolve r' names := by
  induction names with
  | nil => rfl
  | cons first rest ih =>
      obtain ⟨hfirst, hrest⟩ := List.forall_mem_cons.mp hfree
      have hfound := view_of_orderFree hfirst h h'
      rw [Option.map_id] at hfound
      rw [resolve, resolve, show find? r first = find? r' first from hfound, ih hrest]

end RuleRegistry

open RuleRegistry (OrderFree registered Enumerates)

/-- A decision knows the rules by what the checks make of them. -/
theorem Gate.decide_of_checks {g : Gate} {cfg : Config} {p : Parameters} {now : Instant}
    {m m' : RuleRegistry Matcher} {a a' : RuleRegistry Authorizer}
    (hmatchers : Matcher.check m p.matchers = Matcher.check m' p.matchers)
    (hauthorizers : Authorizer.check a p.authorizers = Authorizer.check a' p.authorizers) :
    g.decide (some { cfg with matchers := m, authorizers := a }) p now
      = g.decide (some { cfg with matchers := m', authorizers := a' }) p now := by
  unfold Gate.decide
  simp only [Gate.require, pure_bind]
  rw [hmatchers, hauthorizers]

/-- Whatever matchers and authorizers were registered, and whichever name is looked up: the
    rule that is found looks the same in every order of the rules just when the name is free
    of the order.  Decisions whose lists have no other names take the same steps to the same
    outcome in every order, in every context and against every store. -/
theorem same_in_every_order (matchers : List (String × Matcher))
    (authorizers : List (String × Authorizer)) :
    (∀ (β : Type) (view : String × Matcher → β) (name : String),
      (∀ m m' : RuleRegistry Matcher, m.Enumerates matchers → m'.Enumerates matchers →
        (RuleRegistry.find? m name).map view = (RuleRegistry.find? m' name).map view) ↔
      OrderFree (registered matchers) view name) ∧
    (∀ (β : Type) (view : String × Authorizer → β) (name : String),
      (∀ a a' : RuleRegistry Authorizer, a.Enumerates authorizers → a'.Enumerates authorizers →
        (RuleRegistry.find? a name).map view = (RuleRegistry.find? a' name).map view) ↔
      OrderFree (registered authorizers) view name) ∧
    ∀ (g : Gate) (cfg : Config) (p : Parameters) (now : Instant),
      (∀ name ∈ Text.listed p.matchers, OrderFree (registered matchers) id name) →
      (∀ name ∈ Text.listed p.authorizers, OrderFree (registered authorizers) id name) →
      ∀ (m m' : RuleRegistry Matcher) (a a' : RuleRegistry Authorizer),
        m.Enumerates matchers → m'.Enumerates matchers →
        a.Enumerates authorizers → a'.Enumerates authorizers →
        g.decide (some { cfg with matchers := m, authorizers := a }) p now
          = g.decide (some { cfg with matchers := m', authorizers := a' }) p now := by
  refine ⟨?_, ?_, ?_⟩
  · intro β view name
    exact RuleRegistry.orderFree_iff matchers view name
  · intro β view name
    exact RuleRegistry.orderFree_iff authorizers view name
  · intro g cfg p now hmatchers hauthorizers m m' a a' hm hm' ha ha'
    refine Gate.decide_of_checks (Matcher.check_congr ?_) (Authorizer.check_congr ?_)
    · exact RuleRegistry.resolve_of_orderFree hmatchers hm hm'
    · exact RuleRegistry.resolve_of_orderFree hauthorizers ha ha'

/-! ## One name in two spellings -/

/-- An authorizer that lets everybody pass, and one that lets nobody pass, under names that
    are the same up to ASCII case. -/
def rivals : List (String × Authorizer) :=
  [("STAFF", fun _ _ => .ok .allowed), ("staff", fun _ _ => .ok .denied)]

/-- A decision about visitors whom nobody knows, which asks the authorizers of a list. -/
def rivalDecision (authorizers : RuleRegistry Authorizer) (list : String) : Turn Outcome :=
  (Gate.ofSettings {}).decide
    (some { Config.anonymous {} with authorizers := authorizers })
    { (default : Parameters) with authorizers := some list } .epoch

/-- Under a name of its own each of the two is found, whatever the order. -/
theorem same_in_every_order_rivals :
    rivalDecision rivals "staff" = rivalDecision rivals.reverse "staff" := by
  have hown : OrderFree (registered rivals) id "staff" :=
    .inl ⟨_, List.mem_cons_of_mem _ List.mem_cons_self, rfl⟩
  obtain ⟨-, -, hsame⟩ := same_in_every_order [] rivals
  refine hsame _ (Config.anonymous {}) _ _ ?_ ?_ [] [] rivals rivals.reverse
    (.refl _) (.refl _) (.refl _) (List.reverse_perm _)
  · intro name hname
    exact absurd hname List.not_mem_nil
  · intro name hname
    cases List.mem_singleton.mp hname
    exact hown

/-- Under a third spelling the order decides whom it lets pass. -/
theorem rivals_in_two_orders :
    let r : RuleRegistry Authorizer := rivals
    let r' : RuleRegistry Authorizer := rivals.reverse
    let visit := Context.ofRequest ⟨"GET", .root, [], []⟩ none
    r.Enumerates rivals ∧ r'.Enumerates rivals ∧
      (RuleRegistry.find? r "Staff").map (fun rule => rule.2 visit .empty)
        = some (.ok .allowed) ∧
      (RuleRegistry.find? r' "Staff").map (fun rule => rule.2 visit .empty)
        = some (.ok .denied) ∧
      (∃ grant c, ((rivalDecision r "Staff" visit).run (.still .epoch) (World.ofStore .empty)).1
        = (.ok (.granted grant), c)) ∧
      ∃ c, ((rivalDecision r' "Staff" visit).run (.still .epoch) (World.ofStore .empty)).1
        = (.ok (.action .forbidden), c) :=
  ⟨.refl _, List.reverse_perm _, rfl, rfl, ⟨_, _, rfl⟩, ⟨_, rfl⟩⟩

end AccessGate
