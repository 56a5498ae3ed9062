import RustDns.Api.PolicyCache

/-!
# Binding rules in batches

`batch_bind_rules` is modelled here once more, with statements that may fail
(`batchBindRulesUnder`).  The handler has no transaction: each turn of its loop commits
its own insertion, and the cached policies are dropped after the loop.  So an error that
ends the loop leaves what the turns before it have bound, and the cached policies do not
show it.  `bindsAllOrNothing_iff` says for which requests and failures this does not
happen.

`batch_unbind_rules` takes the type of the rules from the query string, and the type in
its body is not read.  The last section says when it undoes a batch of bindings.
-/

namespace RustDns.Api.ClientGroups

open Text Program

/-! ## The handler -/

/-- The statements of one turn of the loop of `batch_bind_rules`. -/
inductive BindStatement where
  | rule
  | binding
  | insert
deriving DecidableEq

/-- Which statements of a call of `batch_bind_rules` fail: the selection of the group,
and those of each turn. -/
structure BindFaults where
  group : Bool
  turn : ℕ → BindStatement → Bool

def BindFaults.none : BindFaults := ⟨false, fun _ _ => false⟩

section Handler

variable [Unicode] [RegexCrate]

/-- One turn of the loop of `batch_bind_rules`: the rule, if it is skipped. -/
def bindTurn (fails : BindStatement → Bool) (now : Str) (id : ℤ) (rule : BindRuleRequest) :
    ApiM (Option SkippedRule) := do
  if rule.hasRuleType = false then
    throw (.validation (str "Invalid rule type: " ++ rule.ruleType ++
      str " (must be 'custom_rule' or 'rewrite')"))
  else
    attempt (fails .rule) .database
    let db := (← get).db
    if rule.isIn db = false then
      return some ⟨rule.ruleId, rule.ruleType, str "Rule not found"⟩
    else
      attempt (fails .binding) .database
      if (db.clientGroupRules.find? (id, rule.ruleId, rule.ruleType)).isSome then
        return some ⟨rule.ruleId, rule.ruleType, str "Already bound"⟩
      else
        attempt (fails .insert) .database
        match db.clientGroupRules.insert
            ⟨id, rule.ruleId, rule.ruleType, rule.priority.getD 0, now⟩ with
        | none => throw .database
        | some table =>
          modifyDb fun db => { db with clientGroupRules := table }
          return none

/-- `batch_bind_rules`, with statements that may fail. -/
def batchBindRulesUnder (faults : BindFaults) (env : Env) (id : ℤ)
    (rules : List BindRuleRequest) : ApiM BindResponse := do
  attempt faults.group .database
  if ((← get).db.clientGroups.find? id).isNone then throw (groupNotFound id)
  else
    let turns ← forEach (fun i => bindTurn (faults.turn i) env.now id) rules
    let bound := turns.count none
    let skipped := turns.reduceOption
    invalidateIfAny bound
    return ⟨str "Bound " ++ display bound ++ str " rules to group", bound, skipped.length,
      skipped⟩

theorem eval_bindTurn (now : Str) (id : ℤ) (rule : BindRuleRequest) (state : AppState) :
    (bindTurn (fun _ => false) now id rule).eval state =
      match bindRule now id state.db rule with
      | .failed e => (.error e, state)
      | .skipped reason => (.ok (some ⟨rule.ruleId, rule.ruleType, reason⟩), state)
      | .bound table =>
        (.ok none, { state with db := { state.db with clientGroupRules := table } }) := by
  unfold bindTurn bindRule
  cases htype : rule.hasRuleType with
  | false => rfl
  | true =>
    simp only [Bool.true_eq_false, if_false, attempt_false, pure_bind, Bool.not_true,
      Bool.false_eq_true]
    rw [eval_get_bind]
    cases hin : rule.isIn state.db with
    | false => rfl
    | true =>
      simp only [Bool.true_eq_false, if_false, Bool.not_true, Bool.false_eq_true]
      split_ifs with hbound
      · rfl
      · cases state.db.clientGroupRules.insert
          ⟨id, rule.ruleId, rule.ruleType, rule.priority.getD 0, now⟩ <;> rfl

theorem ends_forEach_bindTurn (now : Str) (id : ℤ) (rules : List BindRuleRequest)
    (state : AppState) :
    Ends (forEach (fun _ => bindTurn (fun _ => false) now id) rules) state
      (fun turns after => after = { state with db := (bindRules now id rules state.db).1 } ∧
        (bindRules now id rules state.db).2 = .ok (turns.count none, turns.reduceOption))
      fun error after => after = { state with db := (bindRules now id rules state.db).1 } ∧
        (bindRules now id rules state.db).2 = .error error := by
  induction rules generalizing state with
  | nil => exact ends_pure ⟨rfl, rfl⟩
  | cons rule rest ih =>
    unfold forEach bindRules
    refine ends_bind ?_
    unfold Ends
    rw [eval_bindTurn]
    cases bindRule now id state.db rule with
    | failed e => exact ⟨rfl, rfl⟩
    | skipped reason =>
      refine ends_bind ((ih state).mono ?_ ?_)
      · rintro turns after ⟨rfl, houtcome⟩
        refine ends_pure ⟨rfl, ?_⟩
        dsimp only
        rw [houtcome, List.reduceOption_cons_of_some, List.count_cons_of_ne (by simp)]
        rfl
      · rintro error after ⟨rfl, houtcome⟩
        refine ⟨rfl, ?_⟩
        dsimp only
        rw [houtcome]
        rfl
    | bound table =>
      refine ends_bind ((ih _).mono ?_ ?_)
      · rintro turns after ⟨rfl, houtcome⟩
        refine ends_pure ⟨rfl, ?_⟩
        dsimp only at houtcome ⊢
        rw [houtcome, List.reduceOption_cons_of_none, List.count_cons_self]
        rfl
      · rintro error after ⟨rfl, houtcome⟩
        refine ⟨rfl, ?_⟩
        dsimp only at houtcome ⊢
        rw [houtcome]
        rfl

theorem eval_batchBindRulesUnder_none (env : Env) (id : ℤ) (rules : List BindRuleRequest)
    (state : AppState) :
    (batchBindRulesUnder .none env id rules).eval state =
      (batchBindRules env id rules).eval state := by
  unfold batchBindRulesUnder batchBindRules BindFaults.none
  simp only [attempt_false, pure_bind]
  rw [eval_get_bind, eval_get_bind]
  split_ifs
  · rfl
  · have hloop := ends_forEach_bindTurn env.now id rules state
    unfold Ends at hloop
    rw [eval_bind]
    generalize (forEach (fun _ => bindTurn (fun _ => false) env.now id) rules).eval state =
      outcome at hloop
    obtain ⟨error | turns, after⟩ := outcome
    · obtain ⟨rfl, houtcome⟩ := hloop
      rw [houtcome]
      rfl
    · obtain ⟨rfl, houtcome⟩ := hloop
      rw [houtcome]
      rfl

end Handler

/-! ## All or nothing -/

def BindRuleRequest.key (rule : BindRuleRequest) (id : ℤ) : ℤ × Str × Str :=
  (id, rule.ruleId, rule.ruleType)

def bindingKeys (db : Database) : List (ℤ × Str × Str) :=
  db.clientGroupRules.rows.map fun row => (row.groupId, row.ruleId, row.ruleType)

def BindRuleRequest.IsBindable (rule : BindRuleRequest) (db : Database) (id : ℤ) : Prop :=
  rule.hasRuleType = true ∧ rule.isIn db = true ∧ rule.key id ∉ bindingKeys db

instance (rule : BindRuleRequest) (db : Database) (id : ℤ) : Decidable (rule.IsBindable db id) :=
  inferInstanceAs (Decidable (_ ∧ _ ∧ _ ∉ _))

theorem BindRuleRequest.IsBindable.congr {rule other : BindRuleRequest} {db : Database} {id : ℤ}
    (hbindable : rule.IsBindable db id) (hkey : other.key id = rule.key id) :
    other.IsBindable db id := by
  obtain ⟨hid, htype⟩ : other.ruleId = rule.ruleId ∧ other.ruleType = rule.ruleType := by
    simpa [BindRuleRequest.key] using hkey
  unfold IsBindable hasRuleType isIn at hbindable ⊢
  rw [hkey, hid, htype]
  exact hbindable

/-- After the given rules, the turn of this one ends the loop: its type is unknown, or a
statement that is executed fails. -/
def BindStops (fails : ℕ → BindStatement → Bool) (db : Database) (id : ℤ)
    (done : List BindRuleRequest) (rule : BindRuleRequest) : Prop :=
  rule.hasRuleType = false ∨ fails done.length .rule = true ∨
    rule.isIn db = true ∧ (fails done.length .binding = true ∨
      (rule.key id ∉ bindingKeys db ∧ ∀ other ∈ done, other.key id ≠ rule.key id) ∧
        fails done.length .insert = true)

section AllOrNothing

variable [Unicode] [RegexCrate]

structure HasBound (before : AppState) (id : ℤ) (done : List BindRuleRequest)
    (after : AppState) : Prop where
  frame : after =
    { before with db := { before.db with clientGroupRules := after.db.clientGroupRules } }
  rows : ∃ added, after.db.clientGroupRules.rows = before.db.clientGroupRules.rows ++ added
  keys : ∀ key, key ∈ bindingKeys after.db ↔
    key ∈ bindingKeys before.db ∨ ∃ rule ∈ done, rule.IsBindable before.db id ∧ rule.key id = key

namespace HasBound

variable {before after : AppState} {id : ℤ} {done : List BindRuleRequest}

theorem start (before : AppState) (id : ℤ) : HasBound before id [] before where
  frame := rfl
  rows := ⟨[], (List.append_nil _).symm⟩
  keys := by simp

theorem isIn_eq (hbound : HasBound before id done after) (rule : BindRuleRequest) :
    rule.isIn after.db = rule.isIn before.db := by
  rw [hbound.frame]
  rfl

theorem skip (hbound : HasBound before id done after) {rule : BindRuleRequest}
    (hkeys : rule.IsBindable before.db id → rule.key id ∈ bindingKeys after.db) :
    HasBound before id (done ++ [rule]) after where
  frame := hbound.frame
  rows := hbound.rows
  keys := by
    intro key
    rw [hbound.keys]
    refine or_congr_right' fun hold => ⟨?_, ?_⟩
    · rintro ⟨other, hother, hbindable⟩
      exact ⟨other, List.mem_append_left _ hother, hbindable⟩
    · rintro ⟨other, hother, hbindable, rfl⟩
      rcases List.mem_append.mp hother with hdone | hlast
      · exact ⟨other, hdone, hbindable, rfl⟩
      · obtain rfl := List.mem_singleton.mp hlast
        exact ((hbound.keys _).mp (hkeys hbindable)).resolve_left hold

theorem insert (hbound : HasBound before id done after) {rule : BindRuleRequest} {row : GroupRule}
    {table : Table fun row : GroupRule => (row.groupId, row.ruleId, row.ruleType)}
    (hrow : (row.groupId, row.ruleId, row.ruleType) = rule.key id)
    (hbindable : rule.IsBindable before.db id)
    (hinsert : after.db.clientGroupRules.insert row = some table) :
    HasBound before id (done ++ [rule])
      { after with db := { after.db with clientGroupRules := table } } where
  frame := by
    conv_lhs => rw [hbound.frame]
  rows := by
    obtain ⟨added, hadded⟩ := hbound.rows
    refine ⟨added ++ [row], ?_⟩
    dsimp only
    rw [Table.rows_of_insert hinsert, hadded, List.append_assoc]
  keys := by
    intro key
    have hkeys : bindingKeys { after.db with clientGroupRules := table } =
        bindingKeys after.db ++ [rule.key id] := by
      unfold bindingKeys
      dsimp only
      rw [Table.rows_of_insert hinsert, List.map_append, List.map_singleton, hrow]
    rw [hkeys, List.mem_append, hbound.keys, List.mem_singleton, or_assoc]
    refine or_congr_right ⟨?_, ?_⟩
    · rintro (⟨other, hother, hothers⟩ | rfl)
      · exact ⟨other, List.mem_append_left _ hother, hothers⟩
      · exact ⟨rule, by simp, hbindable, rfl⟩
    · rintro ⟨other, hother, hothers, rfl⟩
      rcases List.mem_append.mp hother with hdone | hlast
      · exact Or.inl ⟨other, hdone, hothers, rfl⟩
      · obtain rfl := List.mem_singleton.mp hlast
        exact Or.inr rfl

theorem clientGroupRules_eq_iff (hbound : HasBound before id done after) :
    after.db.clientGroupRules = before.db.clientGroupRules ↔
      ∀ rule ∈ done, ¬ rule.IsBindable before.db id := by
  constructor
  · intro heq rule hrule hbindable
    have hkey : rule.key id ∈ bindingKeys after.db :=
      (hbound.keys _).mpr (Or.inr ⟨rule, hrule, hbindable, rfl⟩)
    unfold bindingKeys at hkey
    rw [heq] at hkey
    exact hbindable.2.2 hkey
  · intro hnone
    obtain ⟨added, hadded⟩ := hbound.rows
    cases added with
    | nil => exact Table.ext (hadded.trans (List.append_nil _))
    | cons row added =>
      -- the key of an added row is new, so it is one of a rule that was to be bound
      exfalso
      have hnodup := after.db.clientGroupRules.nodup
      rw [hadded, List.map_append, List.nodup_append] at hnodup
      have hmem : (row.groupId, row.ruleId, row.ruleType) ∈ bindingKeys after.db := by
        unfold bindingKeys
        rw [hadded, List.map_append]
        simp
      rcases (hbound.keys _).mp hmem with hold | ⟨rule, hrule, hbindable, -⟩
      · exact hnodup.2.2 _ hold _ (by simp) rfl
      · exact hnone rule hrule hbindable

end HasBound

theorem ends_bindTurn {fails : ℕ → BindStatement → Bool} {now : Str} {id : ℤ}
    {before state : AppState} {done : List BindRuleRequest} (rule : BindRuleRequest)
    (hbound : HasBound before id done state) :
    Ends (bindTurn (fails done.length) now id rule) state
      (fun _ after => ¬ BindStops fails before.db id done rule ∧
        HasBound before id (done ++ [rule]) after)
      fun _ after => BindStops fails before.db id done rule ∧ HasBound before id done after := by
  have hisIn := hbound.isIn_eq rule
  unfold bindTurn
  refine ends_ite (fun htype => ends_throw ⟨Or.inl htype, hbound⟩) fun htype => ?_
  have htype' : rule.hasRuleType = true := by simpa using htype
  refine ends_attempt_bind (fun hfails => ⟨Or.inr (Or.inl hfails), hbound⟩) fun hrule => ?_
  refine ends_get_bind (ends_ite (fun hin => ?_) fun hin => ?_)
  · -- the rule does not exist
    rw [hisIn] at hin
    refine ends_pure ⟨by simp [BindStops, htype, hrule, hin], hbound.skip fun hbindable => ?_⟩
    exact absurd hbindable.2.1 (by simp [hin])
  have hin' : rule.isIn before.db = true := by simpa [hisIn] using hin
  refine ends_attempt_bind (fun hfails => ⟨Or.inr (Or.inr ⟨hin', Or.inl hfails⟩), hbound⟩)
    fun hbinding => ends_ite (fun hfound => ?_) fun hfound => ?_
  · -- the rule is bound, since before the call or since an earlier turn
    have hkey : rule.key id ∈ bindingKeys state.db := Table.isSome_find?_iff.mp hfound
    refine ends_pure ⟨?_, hbound.skip fun _ => hkey⟩
    rintro (hunknown | hfails | ⟨-, hfails | ⟨⟨hnew, hothers⟩, -⟩⟩)
    · exact htype hunknown
    · exact absurd hfails (by simp [hrule])
    · exact absurd hfails (by simp [hbinding])
    · rcases (hbound.keys _).mp hkey with hold | ⟨other, hother, -, heq⟩
      · exact hnew hold
      · exact hothers other hother heq
  · -- the rule is to be bound in this turn
    have hkey : rule.key id ∉ bindingKeys state.db := fun hmem =>
      hfound (Table.isSome_find?_iff.mpr hmem)
    have hbindable : rule.IsBindable before.db id :=
      ⟨htype', hin', fun hmem => hkey ((hbound.keys _).mpr (Or.inl hmem))⟩
    have hothers : ∀ other ∈ done, other.key id ≠ rule.key id := fun other hother heq =>
      hkey ((hbound.keys _).mpr (Or.inr ⟨other, hother, hbindable.congr heq, heq⟩))
    refine ends_attempt_bind (fun hfails => ⟨Or.inr (Or.inr ⟨hin',
      Or.inr ⟨⟨hbindable.2.2, hothers⟩, hfails⟩⟩), hbound⟩) fun hinsert => ?_
    obtain ⟨table, htable⟩ := Option.isSome_iff_exists.mp
      (Table.isSome_insert_of_find? (by simpa using hfound) :
        (state.db.clientGroupRules.insert
          ⟨id, rule.ruleId, rule.ruleType, rule.priority.getD 0, now⟩).isSome = true)
    rw [htable]
    refine ends_modify_bind (ends_pure ⟨?_, hbound.insert rfl hbindable htable⟩)
    simp [BindStops, htype, hrule, hbinding, hinsert]

theorem ends_batchBindRulesUnder (faults : BindFaults) (env : Env) (id : ℤ)
    (rules : List BindRuleRequest) (state : AppState) :
    Ends (batchBindRulesUnder faults env id rules) state
      (fun _ after => NoneStops (BindStops faults.turn state.db id) rules ∧
        ∃ last, HasBound state id rules last ∧ after.db = last.db)
      fun _ after =>
        (faults.group = true ∨ (state.db.clientGroups.find? id).isNone = true) ∧ after = state ∨
        (faults.group = false ∧ ¬ (state.db.clientGroups.find? id).isNone = true) ∧
          ∃ done rule rest, rules = done ++ rule :: rest ∧
            NoneStops (BindStops faults.turn state.db id) done ∧
            BindStops faults.turn state.db id done rule ∧ HasBound state id done after := by
  unfold batchBindRulesUnder
  refine ends_attempt_bind (fun hfails => Or.inl ⟨Or.inl hfails, rfl⟩) fun hgroup => ?_
  refine ends_get_bind (ends_ite (fun hmissing => ?_) fun hexists => ?_)
  · exact ends_throw (Or.inl ⟨Or.inr hmissing, rfl⟩)
  have hturns : ∀ done (_ : List (Option SkippedRule)) rule after, HasBound state id done after →
      Ends (bindTurn (faults.turn done.length) env.now id rule) after
        (fun _ last => ¬ BindStops faults.turn state.db id done rule ∧
          HasBound state id (done ++ [rule]) last)
        fun _ last => BindStops faults.turn state.db id done rule ∧ HasBound state id done last :=
    fun _ _ rule _ hbound => ends_bindTurn rule hbound
  refine ends_bind ((ends_forEach_of_stops hturns (HasBound.start state id)).mono ?_ ?_)
  · rintro turns after ⟨hnone, hbound⟩
    exact ends_invalidateIfAny_bind fun _ => ends_pure ⟨hnone, after, hbound, rfl⟩
  · intro error after hstopped
    exact Or.inr ⟨⟨hgroup, hexists⟩, hstopped⟩

section Coherent

variable [SerdeJson] [IpNetCrate]

/-- A call that ends in an error leaves the bindings as they are, and no cached policy
that the database does not give. -/
def BindsAllOrNothing (faults : BindFaults) (env : Env) (id : ℤ) (rules : List BindRuleRequest)
    (state : AppState) : Prop :=
  ∀ error after, (batchBindRulesUnder faults env id rules).eval state = (.error error, after) →
    after.db.clientGroupRules = state.db.clientGroupRules ∧ (Coherent state → Coherent after)

/-- A call is all or nothing if no turn of its loop is ended by an unknown type or by a
failure, or if one is before any rule is bound. -/
theorem bindsAllOrNothing_iff (faults : BindFaults) (env : Env) (id : ℤ)
    (rules : List BindRuleRequest) (state : AppState) :
    BindsAllOrNothing faults env id rules state ↔
      faults.group = true ∨ (state.db.clientGroups.find? id).isNone = true ∨
      (∀ done rule rest, rules = done ++ rule :: rest →
        ¬ BindStops faults.turn state.db id done rule) ∨
      ∃ done rule rest, rules = done ++ rule :: rest ∧
        BindStops faults.turn state.db id done rule ∧
        ∀ other ∈ done, ¬ other.IsBindable state.db id := by
  have hends := ends_batchBindRulesUnder faults env id rules state
  constructor
  · intro hall
    rcases heval : (batchBindRulesUnder faults env id rules).eval state with ⟨error | _, after⟩
    · rcases hends.of_error heval with
        ⟨hgroup, -⟩ | ⟨-, done, rule, rest, hsplit, -, hstops, hbound⟩
      · rw [← or_assoc]
        exact Or.inl hgroup
      · have hnone := hbound.clientGroupRules_eq_iff.mp (hall error after heval).1
        exact Or.inr (Or.inr (Or.inr ⟨done, rule, rest, hsplit, hstops, hnone⟩))
    · exact Or.inr (Or.inr (Or.inl (hends.of_ok heval).1))
  · intro hcondition error after heval
    suffices hsame : after = state by
      subst hsame
      exact ⟨rfl, fun hcoherent => hcoherent⟩
    rcases hends.of_error heval with
      ⟨-, hsame⟩ | ⟨⟨hgroup, hexists⟩, done, rule, rest, hsplit, hfirst, hstops, hbound⟩
    · exact hsame
    rcases hcondition with hfails | hmissing | hnone | ⟨earlier, other, later, hother, hends, hnew⟩
    · simp [hgroup] at hfails
    · exact absurd hmissing hexists
    · exact absurd hstops (hnone done rule rest hsplit)
    · -- the loop ends no later than at the rule that the condition names
      have hearlier := hfirst.not_after (hsplit.symm.trans hother) hends
      have htable := hbound.clientGroupRules_eq_iff.mpr fun rule hrule =>
        hnew rule (hearlier.subset hrule)
      rw [hbound.frame, htable]

end Coherent

end AllOrNothing

section HalfBound

attribute [local instance] Unicode.ascii RegexCrate.fragment SerdeJson.plain IpNetCrate.cidr

def beforeBinding : AppState := Machine.run policyStep newServer groupSetup

theorem coherent_beforeBinding : Coherent beforeBinding := by
  have hstart : Coherent newServer := by
    intro clientIp config hlookup
    cases hlookup
  exact (Machine.forall_trace policyStep Coherent (fun state event => event.Admissible state)
    (fun _ _ hcoherent hevent => hcoherent.step hevent) hstart groupSetup (by decide +kernel)).1

def halfBound : ApiM BindResponse := batchBindRulesUnder .none (givenId []) 1
  [⟨str "r2", str "custom_rule", none⟩, ⟨str "f1", str "filter", none⟩]

theorem eval_halfBound : halfBound.eval beforeBinding =
    (.error (.validation (str "Invalid rule type: filter (must be 'custom_rule' or 'rewrite')")),
      halfBound.exec beforeBinding) :=
  Prod.ext (by decide +kernel) rfl

/-- The first rule is bound all the same, and the cached policy does not block what it
blocks. -/
theorem not_bindsAllOrNothing_halfBound :
    ¬ BindsAllOrNothing .none (givenId []) 1
      [⟨str "r2", str "custom_rule", none⟩, ⟨str "f1", str "filter", none⟩] beforeBinding ∧
    Coherent beforeBinding ∧ ¬ Coherent (halfBound.exec beforeBinding) := by
  refine ⟨fun hall => ?_, coherent_beforeBinding, ?_⟩
  · have hsame := congrArg (fun table => table.rows.length) (hall _ _ eval_halfBound).1
    revert hsame
    decide +kernel
  · exact not_coherent_of_shown
      (fun config => config.groupRuleset.any fun rules => ! rules.isBlocked (str "tracker.net"))
      (by decide +kernel) (by decide +kernel)

end HalfBound

/-! ## Unbinding what was bound -/

/-- One of the statements of a call of `batch_unbind_rules` deletes the row. -/
def isUnbound (id : ℤ) (ruleIds : List Str) (ruleType : Str) (row : GroupRule) : Bool :=
  row.groupId == id && ruleIds.contains row.ruleId && row.ruleType == ruleType

theorem isUnbound_iff {id : ℤ} {ruleIds : List Str} {ruleType : Str} {row : GroupRule} :
    isUnbound id ruleIds ruleType row = true ↔
      row.groupId = id ∧ row.ruleId ∈ ruleIds ∧ row.ruleType = ruleType := by
  simp [isUnbound, and_assoc]

section Unbind

variable [Unicode] [RegexCrate]

variable {env : Env} {id : ℤ} {rules : List BindRuleRequest} {state : AppState}

theorem exec_batchBindRules (hgroup : ¬ (state.db.clientGroups.find? id).isNone = true)
    (hrules : ∀ rule ∈ rules, rule.IsBindable state.db id) :
    ∃ last, HasBound state id rules last ∧
      ((batchBindRules env id rules).exec state).db = last.db := by
  have hends := ends_batchBindRulesUnder .none env id rules state
  have heval := eval_batchBindRulesUnder_none env id rules state
  unfold Ends at hends
  unfold exec
  rw [heval] at hends
  generalize (batchBindRules env id rules).eval state = outcome at hends
  obtain ⟨error | _, after⟩ := outcome
  · rcases hends with ⟨hfails | hmissing, -⟩ | ⟨-, done, rule, rest, hsplit, -, hstops, -⟩
    · cases hfails
    · exact absurd hmissing hgroup
    · have hrule := hrules rule (by simp [hsplit])
      simp [BindStops, BindFaults.none, hrule.1] at hstops
  · exact hends.2

variable {ruleType : Option Str} {body : BatchUnbindRulesRequest}

theorem rows_batchUnbindRules (hgroup : ¬ (state.db.clientGroups.find? id).isNone = true) :
    ((batchUnbindRules id ruleType body).exec state).db.clientGroupRules.rows =
      state.db.clientGroupRules.rows.filter
        (! isUnbound id body.ruleIds (ruleType.getD (str "filter")) ·) := by
  unfold batchUnbindRules
  rw [exec_get_bind]
  dsimp only
  rw [if_neg hgroup, modifyDb, exec_modify_bind, db_exec_invalidateIfAny_bind]
  dsimp only
  rw [Table.rows_deleteEach]
  refine List.filter_congr fun row _ => ?_
  rw [Bool.eq_iff_iff, Bool.not_eq_true', ← Bool.not_eq_true, isUnbound_iff, List.all_map,
    List.all_eq_true]
  grind

theorem unbind_bind_of_isNone (hgroup : (state.db.clientGroups.find? id).isNone = true) :
    (batchUnbindRules id ruleType body).exec ((batchBindRules env id rules).exec state) =
      state := by
  have hbind : (batchBindRules env id rules).exec state = state := by
    unfold batchBindRules
    rw [exec_get_bind]
    dsimp only
    rw [if_pos hgroup]
    rfl
  unfold batchUnbindRules
  rw [hbind, exec_get_bind]
  dsimp only
  rw [if_pos hgroup]
  rfl

theorem rows_unbind_bind (ruleType : Option Str) (body : BatchUnbindRulesRequest)
    (hgroup : ¬ (state.db.clientGroups.find? id).isNone = true)
    (hrules : ∀ rule ∈ rules, rule.IsBindable state.db id) :
    ∃ last, HasBound state id rules last ∧ ((batchUnbindRules id ruleType body).exec
        ((batchBindRules env id rules).exec state)).db.clientGroupRules.rows =
      last.db.clientGroupRules.rows.filter
        (! isUnbound id body.ruleIds (ruleType.getD (str "filter")) ·) := by
  obtain ⟨last, hbound, hlast⟩ := exec_batchBindRules hgroup hrules
  refine ⟨last, hbound, ?_⟩
  rw [← hlast]
  apply rows_batchUnbindRules
  rw [hlast, hbound.frame]
  exact hgroup

/-- **Unbinding without a query string restores the bindings only if there is nothing to
restore.** -/
theorem unbind_bind_eq_iff {env : Env} {id : ℤ} {ruleType : Str} {rules : List BindRuleRequest}
    {state : AppState} (htype : ruleType = str "custom_rule" ∨ ruleType = str "rewrite")
    (hrules : ∀ rule ∈ rules, rule.ruleType = ruleType ∧ rule.IsBindable state.db id) :
    ((batchUnbindRules id none ⟨rules.map (·.ruleId), ruleType⟩).exec
        ((batchBindRules env id rules).exec state)).db.clientGroupRules =
        state.db.clientGroupRules ↔
      (state.db.clientGroups.find? id).isNone = true ∨ rules = [] := by
  by_cases hgroup : (state.db.clientGroups.find? id).isNone = true
  · rw [unbind_bind_of_isNone hgroup]
    exact iff_of_true rfl (Or.inl hgroup)
  obtain ⟨last, hbound, hrows⟩ := rows_unbind_bind none ⟨rules.map (·.ruleId), ruleType⟩ hgroup
    fun rule hrule => (hrules rule hrule).2
  constructor
  · intro hsame
    refine Or.inr (List.eq_nil_iff_forall_not_mem.mpr fun rule hrule => ?_)
    obtain ⟨rfl, hbindable⟩ := hrules rule hrule
    -- the binding of the rule is not deleted: its type is not the default one
    obtain ⟨row, hrow, hkey⟩ := List.mem_map.mp
      ((hbound.keys _).mpr (Or.inr ⟨rule, hrule, hbindable, rfl⟩))
    have hrowtype : row.ruleType = rule.ruleType := congrArg (·.2.2) hkey
    have hfilter : row.ruleType ≠ str "filter" := by
      rw [hrowtype]
      rcases htype with htype | htype <;> rw [htype] <;> decide
    have hkept : row ∈ state.db.clientGroupRules.rows := by
      rw [← hsame, hrows]
      exact List.mem_filter.mpr ⟨hrow, by simp [isUnbound, hfilter]⟩
    exact hbindable.2.2 (List.mem_map.mpr ⟨row, hkept, hkey⟩)
  · rintro (hmissing | rfl)
    · exact absurd hmissing hgroup
    · refine Table.ext ?_
      rw [hrows, hbound.clientGroupRules_eq_iff.mpr (by simp)]
      exact List.filter_eq_self.mpr (by simp [isUnbound])

/-- Rules of one type that were bound are unbound again. -/
theorem unbind_bind_eq_self {ruleType : Str} (bodyType : Str)
    (hrules : ∀ rule ∈ rules, rule.ruleType = ruleType ∧ rule.IsBindable state.db id) :
    ((batchUnbindRules id (some ruleType) ⟨rules.map (·.ruleId), bodyType⟩).exec
        ((batchBindRules env id rules).exec state)).db.clientGroupRules =
      state.db.clientGroupRules := by
  by_cases hgroup : (state.db.clientGroups.find? id).isNone = true
  · rw [unbind_bind_of_isNone hgroup]
  obtain ⟨last, hbound, hrows⟩ := rows_unbind_bind (some ruleType)
    ⟨rules.map (·.ruleId), bodyType⟩ hgroup fun rule hrule => (hrules rule hrule).2
  obtain ⟨added, hadded⟩ := hbound.rows
  have hnodup := last.db.clientGroupRules.nodup
  rw [hadded, List.map_append, List.nodup_append] at hnodup
  refine Table.ext ?_
  rw [hrows, hadded, List.filter_append]
  -- an old row has the key of no rule, a new one has that of some rule
  have hold : ∀ row ∈ state.db.clientGroupRules.rows,
      (! isUnbound id (rules.map (·.ruleId)) ruleType row) = true := by
    intro row hrow
    rw [Bool.not_eq_true', ← Bool.not_eq_true, isUnbound_iff]
    rintro ⟨rfl, hid, htype⟩
    obtain ⟨rule, hrule, hid⟩ := List.mem_map.mp hid
    obtain ⟨hruletype, hbindable⟩ := hrules rule hrule
    refine hbindable.2.2 (List.mem_map.mpr ⟨row, hrow, ?_⟩)
    simp [BindRuleRequest.key, hid, hruletype, htype]
  have hnew : ∀ row ∈ added, ¬ (! isUnbound id (rules.map (·.ruleId)) ruleType row) = true := by
    intro row hrow
    rw [Bool.not_eq_true', Bool.not_eq_false, isUnbound_iff]
    have hkey : (row.groupId, row.ruleId, row.ruleType) ∈ bindingKeys last.db := by
      unfold bindingKeys
      rw [hadded, List.map_append]
      exact List.mem_append_right _ (List.mem_map_of_mem hrow)
    rcases (hbound.keys _).mp hkey with hmem | ⟨rule, hrule, -, heq⟩
    · exact absurd rfl (hnodup.2.2 _ hmem _ (List.mem_map_of_mem hrow))
    · obtain ⟨hgroupId, hid, htype⟩ : id = row.groupId ∧ rule.ruleId = row.ruleId ∧
          rule.ruleType = row.ruleType := by
        simpa [BindRuleRequest.key] using heq
      refine ⟨hgroupId.symm, List.mem_map.mpr ⟨rule, hrule, hid⟩, ?_⟩
      exact htype.symm.trans (hrules rule hrule).1
  exact (congrArg₂ (· ++ ·) (List.filter_eq_self.mpr hold)
    (List.filter_eq_nil_iff.mpr hnew)).trans (List.append_nil _)

end Unbind

section NotUnbound

attribute [local instance] Unicode.ascii RegexCrate.fragment SerdeJson.plain IpNetCrate.cidr

def secondRule : BindRuleRequest := ⟨str "r2", str "custom_rule", none⟩

theorem secondRule_isBindable :
    ∀ rule ∈ [secondRule], rule.ruleType = str "custom_rule" ∧
      rule.IsBindable beforeBinding.db 1 := by
  decide +kernel

/-- Bound and unbound again, the rule is bound. -/
theorem unbind_bind_ne_secondRule :
    ((batchUnbindRules 1 none ⟨[str "r2"], str "custom_rule"⟩).exec
        ((batchBindRules (givenId []) 1 [secondRule]).exec beforeBinding)).db.clientGroupRules ≠
      beforeBinding.db.clientGroupRules := by
  intro hsame
  have hlength := congrArg (fun table => table.rows.length) hsame
  revert hlength
  decide +kernel

/-- Two rules, one of them listed twice. -/
def listedTwice : List BindRuleRequest :=
  [secondRule, ⟨str "r1", str "custom_rule", some 5⟩, { secondRule with priority := some 9 }]

theorem unbind_bind_eq_self_listedTwice :
    ((batchUnbindRules 2 (some (str "custom_rule")) ⟨listedTwice.map (·.ruleId), []⟩).exec
        ((batchBindRules (givenId []) 2 listedTwice).exec beforeBinding)).db.clientGroupRules =
      beforeBinding.db.clientGroupRules :=
  unbind_bind_eq_self [] (by decide +kernel)

theorem unbind_bind_eq_iff_secondRule :
    (∀ rule ∈ [secondRule], rule.ruleType = str "custom_rule" ∧
      rule.IsBindable beforeBinding.db 1) ∧
    (((batchUnbindRules 1 none ⟨[secondRule].map (·.ruleId), str "custom_rule"⟩).exec
        ((batchBindRules (givenId []) 1 [secondRule]).exec beforeBinding)).db.clientGroupRules =
        beforeBinding.db.clientGroupRules ↔
      (beforeBinding.db.clientGroups.find? 1).isNone = true ∨ [secondRule] = []) :=
  ⟨secondRule_isBindable, unbind_bind_eq_iff (Or.inl rfl) secondRule_isBindable⟩

end NotUnbound

end RustDns.Api.ClientGroups
