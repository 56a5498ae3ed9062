import RustDns.Api.ClientGroups

/-!
# Adding and removing clients in batches

`batch_add_clients` and `batch_remove_clients` with statements that may fail.  Unlike the
other batches, the two handlers run their loops in a transaction, so that a failure leaves
the memberships as they were.  Inside the transaction a turn sees the rows of the turns
before it: a client that is listed twice is added once and skipped once.

`batchClients_spec` puts together what the two calls do.
-/

namespace RustDns.Api.ClientGroups

open Text Program

/-! ## The handlers -/

/-- Which statements of a batch in a transaction fail: the selection of the group, `BEGIN`,
those of each turn, and `COMMIT`. -/
structure BatchFaults (Statement : Type) where
  group : Bool
  begin : Bool
  turn : ℕ → Statement → Bool
  commit : Bool

namespace BatchFaults

variable {Statement : Type}

def Some (faults : BatchFaults Statement) (length : ℕ) : Prop :=
  faults.group = true ∨ faults.begin = true ∨ faults.commit = true ∨
    ∃ i < length, ∃ statement, faults.turn i statement = true

end BatchFaults

/-- The statements of one turn of the loop of `batch_add_clients`. -/
inductive AddStatement where
  | client
  | membership
  | insert
deriving DecidableEq

section Handlers

variable [Unicode] [RegexCrate]

/-- A loop between `BEGIN` and `COMMIT`. -/
def inTransaction {Statement α β : Type} (faults : BatchFaults Statement)
    (turn : (Statement → Bool) → α → ApiM β) (items : List α) : ApiM (List β) :=
  atomically do
    attempt faults.begin .database
    let turns ← forEach (fun i => turn (faults.turn i)) items
    attempt faults.commit .database
    return turns

/-- One turn of the loop of `batch_add_clients`: the client, if it is skipped. -/
def addTurn (now : Str) (id : ℤ) (fails : AddStatement → Bool) (clientId : Str) :
    ApiM (Option Str) := do
  attempt (fails .client) .database
  if ((← get).db.clients.find? clientId).isNone then return some clientId
  else
    attempt (fails .membership) .database
    let table := (← get).db.clientGroupMemberships
    if (table.find? (clientId, id)).isSome then return some clientId
    else
      attempt (fails .insert) .database
      match table.insert ⟨clientId, id, now⟩ with
      | none => throw .database
      | some table =>
        modifyDb fun db => { db with clientGroupMemberships := table }
        return none

/-- `batch_add_clients`, with statements that may fail. -/
def batchAddClientsUnder (faults : BatchFaults AddStatement) (env : Env) (id : ℤ)
    (clientIds : List Str) : ApiM AddResponse := do
  attempt faults.group .database
  if ((← get).db.clientGroups.find? id).isNone then throw (groupNotFound id)
  else
    let turns ← inTransaction faults (addTurn env.now id) clientIds
    let added := turns.count none
    let skipped := turns.reduceOption
    invalidateIfAny added
    return ⟨str "Added " ++ display added ++ str " clients to group", added, skipped.length,
      skipped⟩

/-- One turn of the loop of `batch_remove_clients`: whether it affects a row. -/
def removeTurn (id : ℤ) (fails : Unit → Bool) (clientId : Str) : ApiM Bool := do
  attempt (fails ()) .database
  let table := (← get).db.clientGroupMemberships
  modifyDb (leaveGroup · clientId id)
  return decide (table.rowsAffected (fun row => row.clientId = clientId && row.groupId = id) > 0)

/-- `batch_remove_clients`, with statements that may fail. -/
def batchRemoveClientsUnder (faults : BatchFaults Unit) (id : ℤ) (clientIds : List Str) :
    ApiM RemoveResponse := do
  attempt faults.group .database
  if ((← get).db.clientGroups.find? id).isNone then throw (groupNotFound id)
  else
    let turns ← inTransaction faults (removeTurn id) clientIds
    let removed := turns.count true
    invalidateIfAny removed
    return ⟨str "Removed " ++ display removed ++ str " clients from group", removed⟩

end Handlers

/-! ## What the calls do -/

theorem count_none_add_length_reduceOption {α : Type} [BEq α] [LawfulBEq α]
    (turns : List (Option α)) : turns.count none + turns.reduceOption.length = turns.length := by
  induction turns with
  | nil => rfl
  | cons turn rest ih =>
    cases turn with
    | none =>
      rw [List.count_cons_self, List.reduceOption_cons_of_none, List.length_cons]
      omega
    | some value =>
      rw [List.count_cons_of_ne (by simp), List.reduceOption_cons_of_some, List.length_cons,
        List.length_cons]
      omega

section Specs

variable [Unicode] [RegexCrate]

variable {state before : AppState} {id : ℤ} {done : List Str}

/-- A batch whose turns only stop when one of their statements fails: it leaves the
invariant, or the state before it. -/
theorem ends_inTransaction {Statement α β : Type} {faults : BatchFaults Statement}
    {turn : (Statement → Bool) → α → ApiM β} {invariant : List α → List β → AppState → Prop}
    (hturn : ∀ fails done values item state, invariant done values state →
      Ends (turn fails item) state
        (fun value => invariant (done ++ [item]) (values ++ [value]))
        fun _ _ => ∃ statement, fails statement = true) {items : List α}
    (hstart : invariant [] [] state) :
    Ends (inTransaction faults turn items) state (invariant items)
      fun _ after => after = state ∧ faults.Some items.length := by
  refine ends_atomically (ends_attempt_bind ?_ fun _ => ?_)
  · exact fun hfails => ⟨rfl, Or.inr (Or.inl hfails)⟩
  refine ends_bind ((ends_forEach (fun done values item after hafter =>
    hturn (faults.turn done.length) done values item after hafter) hstart).mono ?_ ?_)
  · intro values after hafter
    refine ends_attempt_bind (fun hfails => ⟨rfl, ?_⟩) fun _ => ends_pure hafter
    exact Or.inr (Or.inr (Or.inl hfails))
  · rintro error after ⟨done, item, rest, rfl, statement, hfails⟩
    refine ⟨rfl, Or.inr (Or.inr (Or.inr ⟨done.length, ?_, statement, hfails⟩))⟩
    simp

/-- The state after some turns of `batch_add_clients`. -/
structure HasAdded (before : AppState) (id : ℤ) (done : List Str) (turns : List (Option Str))
    (after : AppState) : Prop where
  frame : after = { before with
    db := { before.db with clientGroupMemberships := after.db.clientGroupMemberships } }
  length : turns.length = done.length
  rows : ∃ added, after.db.clientGroupMemberships.rows =
      before.db.clientGroupMemberships.rows ++ added ∧ added.length = turns.count none ∧
    ∀ row ∈ added, row.groupId = id ∧ row.clientId ∈ done
  members : ∀ clientId group, IsMember after.db clientId group ↔
    IsMember before.db clientId group ∨
      group = id ∧ clientId ∈ done ∧ HasClient before.db clientId

namespace HasAdded

variable {before after : AppState} {id : ℤ} {done : List Str} {turns : List (Option Str)}
  {clientId : Str}

theorem start (before : AppState) (id : ℤ) : HasAdded before id [] [] before where
  frame := rfl
  length := rfl
  rows := ⟨[], by simp⟩
  members := by simp

theorem skip (hadded : HasAdded before id done turns after)
    (hskips : HasClient before.db clientId → IsMember after.db clientId id) :
    HasAdded before id (done ++ [clientId]) (turns ++ [some clientId]) after where
  frame := hadded.frame
  length := by simp [hadded.length]
  rows := by
    obtain ⟨added, hrows, hcount, hnew⟩ := hadded.rows
    refine ⟨added, hrows, by simp [hcount], fun row hrow => ?_⟩
    exact ⟨(hnew row hrow).1, List.mem_append_left _ (hnew row hrow).2⟩
  members := by
    intro other group
    rw [hadded.members]
    refine or_congr_right' fun hold => and_congr_right fun hgroup => ?_
    rw [List.mem_append, List.mem_singleton]
    constructor
    · rintro ⟨hdone, hclient⟩
      exact ⟨Or.inl hdone, hclient⟩
    · rintro ⟨hdone | rfl, hclient⟩
      · exact ⟨hdone, hclient⟩
      · subst hgroup
        exact (((hadded.members _ _).mp (hskips hclient)).resolve_left hold).2

theorem insert {now : Str} {table : Memberships} (hadded : HasAdded before id done turns after)
    (hclient : HasClient before.db clientId)
    (hinsert : after.db.clientGroupMemberships.insert ⟨clientId, id, now⟩ = some table) :
    HasAdded before id (done ++ [clientId]) (turns ++ [none])
      { after with db := { after.db with clientGroupMemberships := table } } where
  frame := by
    conv_lhs => rw [hadded.frame]
  length := by simp [hadded.length]
  rows := by
    obtain ⟨added, hrows, hcount, hnew⟩ := hadded.rows
    refine ⟨added ++ [⟨clientId, id, now⟩], ?_, by simp [hcount], fun row hrow => ?_⟩
    · dsimp only
      rw [Table.rows_of_insert hinsert, hrows, List.append_assoc]
    · rcases List.mem_append.mp hrow with hold | hlast
      · exact ⟨(hnew row hold).1, List.mem_append_left _ (hnew row hold).2⟩
      · obtain rfl := List.mem_singleton.mp hlast
        exact ⟨rfl, by simp⟩
  members := by
    intro other group
    have hinserted : IsMember { after.db with clientGroupMemberships := table } other group ↔
        IsMember after.db other group ∨ other = clientId ∧ group = id := by
      unfold IsMember
      dsimp only
      rw [Table.rows_of_insert hinsert, List.map_append, List.mem_append, List.map_singleton,
        List.mem_singleton, Prod.mk.injEq]
    rw [hinserted, hadded.members, List.mem_append, List.mem_singleton]
    constructor
    · rintro ((hold | ⟨hgroup, hdone, hother⟩) | ⟨rfl, rfl⟩)
      · exact Or.inl hold
      · exact Or.inr ⟨hgroup, Or.inl hdone, hother⟩
      · exact Or.inr ⟨rfl, Or.inr rfl, hclient⟩
    · rintro (hold | ⟨hgroup, hdone | rfl, hother⟩)
      · exact Or.inl (Or.inl hold)
      · exact Or.inl (Or.inr ⟨hgroup, hdone, hother⟩)
      · exact Or.inr ⟨rfl, hgroup⟩

end HasAdded

theorem ends_addTurn {now : Str} {fails : AddStatement → Bool} {turns : List (Option Str)}
    (clientId : Str) (hadded : HasAdded before id done turns state) :
    Ends (addTurn now id fails clientId) state
      (fun turn => HasAdded before id (done ++ [clientId]) (turns ++ [turn]))
      fun _ _ => ∃ statement, fails statement = true := by
  have hclients : state.db.clients = before.db.clients := by rw [hadded.frame]
  unfold addTurn
  refine ends_attempt_bind (fun hfails => ⟨_, hfails⟩) fun _ =>
    ends_get_bind (ends_ite (fun hmissing => ?_) fun hexists => ?_)
  · refine ends_pure (hadded.skip fun hclient => ?_)
    rw [hclients] at hmissing
    simp [HasClient, Option.isSome_iff_ne_none] at hclient
    simp [hclient] at hmissing
  refine ends_attempt_bind (fun hfails => ⟨_, hfails⟩) fun _ =>
    ends_get_bind (ends_ite (fun hfound => ?_) fun hfound => ?_)
  · exact ends_pure (hadded.skip fun _ => Table.isSome_find?_iff.mp hfound)
  refine ends_attempt_bind (fun hfails => ⟨_, hfails⟩) fun _ => ?_
  obtain ⟨table, htable⟩ := Option.isSome_iff_exists.mp
    (Table.isSome_insert_of_find? (by simpa using hfound) :
      (state.db.clientGroupMemberships.insert ⟨clientId, id, now⟩).isSome = true)
  rw [htable]
  refine ends_modify_bind (ends_pure (hadded.insert ?_ htable))
  rw [hclients] at hexists
  simpa [HasClient, Option.isSome_iff_ne_none] using hexists

/-- The state after some turns of `batch_remove_clients`. -/
structure HasRemoved (before : AppState) (id : ℤ) (done : List Str) (turns : List Bool)
    (after : AppState) : Prop where
  frame : after = { before with
    db := { before.db with clientGroupMemberships := after.db.clientGroupMemberships } }
  rows : after.db.clientGroupMemberships.rows =
    before.db.clientGroupMemberships.rows.filter fun row =>
      ! (decide (row.clientId ∈ done) && row.groupId = id)
  count : turns.count true + after.db.clientGroupMemberships.rows.length =
    before.db.clientGroupMemberships.rows.length

theorem HasRemoved.start (before : AppState) (id : ℤ) : HasRemoved before id [] [] before where
  frame := rfl
  rows := (List.filter_eq_self.mpr (by simp)).symm
  count := by simp

theorem ends_removeTurn {fails : Unit → Bool} {turns : List Bool} (clientId : Str)
    (hremoved : HasRemoved before id done turns state) :
    Ends (removeTurn id fails clientId) state
      (fun turn => HasRemoved before id (done ++ [clientId]) (turns ++ [turn]))
      fun _ _ => ∃ statement, fails statement = true := by
  unfold removeTurn
  refine ends_attempt_bind (fun hfails => ⟨_, hfails⟩) fun _ =>
    ends_get_bind (ends_modify_bind (ends_pure ⟨?_, ?_, ?_⟩))
  · conv_lhs => rw [hremoved.frame]
    rfl
  · dsimp only [leaveGroup, Table.deleteWhere]
    rw [hremoved.rows, List.filter_filter]
    refine List.filter_congr fun row _ => ?_
    rw [Bool.eq_iff_iff]
    simp only [List.mem_append, List.mem_singleton]
    grind
  · -- a deletion that affects a row affects one
    have hlength := state.db.clientGroupMemberships.length_deleteWhere_add_rowsAffected
      fun row => row.clientId = clientId && row.groupId = id
    have hone : state.db.clientGroupMemberships.rowsAffected
        (fun row => row.clientId = clientId && row.groupId = id) ≤ 1 := by
      have hkey := state.db.clientGroupMemberships.rowsAffected_key_le_one (clientId, id)
      simpa [Table.rowsAffected, Prod.mk.injEq] using hkey
    have hcount := hremoved.count
    dsimp only [leaveGroup]
    rw [List.count_append, List.count_singleton]
    rcases Nat.le_one_iff_eq_zero_or_eq_one.mp hone with hnone | hsome
    · rw [hnone] at hlength ⊢
      simp only [gt_iff_lt, lt_irrefl, decide_false, Bool.false_beq, Bool.not_true,
        Bool.false_eq_true, if_false]
      omega
    · rw [hsome] at hlength ⊢
      simp only [gt_iff_lt, Nat.lt_one_iff, decide_true, BEq.rfl, if_true]
      omega

/-- What a call of `batch_add_clients` that returns has done. -/
structure IsAdded (before : Database) (id : ℤ) (clientIds : List Str) (response : AddResponse)
    (after : Database) : Prop where
  rows : ∃ added, after.clientGroupMemberships.rows = before.clientGroupMemberships.rows ++ added ∧
    response.addedCount = added.length
  members : ∀ clientId group, IsMember after clientId group ↔
    IsMember before clientId group ∨ group = id ∧ clientId ∈ clientIds ∧ HasClient before clientId
  counts : response.addedCount + response.skippedCount = clientIds.length

theorem ends_batchAddClientsUnder (faults : BatchFaults AddStatement) (env : Env) (id : ℤ)
    (clientIds : List Str) (state : AppState) :
    Ends (batchAddClientsUnder faults env id clientIds) state
      (fun response after => HasGroup state.db id ∧ ∃ turns last,
        HasAdded state id clientIds turns last ∧ after.db = last.db ∧
        response.addedCount = turns.count none ∧
        response.skippedCount = turns.reduceOption.length)
      fun _ after => after = state ∧ (¬ HasGroup state.db id ∨ faults.Some clientIds.length) := by
  unfold batchAddClientsUnder
  refine ends_attempt_bind (fun hfails => ⟨rfl, Or.inr (Or.inl hfails)⟩) fun _ =>
    ends_get_bind (ends_ite (fun hmissing => ?_) fun hexists => ?_)
  · exact ends_throw ⟨rfl, Or.inl (by simpa [HasGroup] using hmissing)⟩
  have hgroup : HasGroup state.db id := by
    simpa [HasGroup, Option.isSome_iff_ne_none] using hexists
  have hturns : ∀ fails done turns clientId after, HasAdded state id done turns after →
      Ends (addTurn env.now id fails clientId) after
        (fun turn => HasAdded state id (done ++ [clientId]) (turns ++ [turn]))
        fun _ _ => ∃ statement, fails statement = true :=
    fun _ _ _ clientId _ hadded => ends_addTurn clientId hadded
  refine ends_bind ((ends_inTransaction hturns (HasAdded.start state id)).mono ?_ ?_)
  · intro turns last hadded
    exact ends_invalidateIfAny_bind fun _ =>
      ends_pure ⟨hgroup, turns, last, hadded, rfl, rfl, rfl⟩
  · rintro error after ⟨hsame, hfails⟩
    exact ⟨hsame, Or.inr hfails⟩

theorem ends_batchRemoveClientsUnder (faults : BatchFaults Unit) (hgroup : HasGroup state.db id)
    (clientIds : List Str) :
    Ends (batchRemoveClientsUnder faults id clientIds) state
      (fun response after => ∃ turns last, HasRemoved state id clientIds turns last ∧
        after.db = last.db ∧ response.count = turns.count true)
      fun _ after => after = state ∧ faults.Some clientIds.length := by
  unfold batchRemoveClientsUnder
  refine ends_attempt_bind (fun hfails => ⟨rfl, Or.inl hfails⟩) fun _ =>
    ends_get_bind (ends_ite (fun hmissing => ?_) fun _ => ?_)
  · simp [HasGroup, Option.isSome_iff_ne_none] at hgroup
    simp [hgroup] at hmissing
  have hturns : ∀ fails done turns clientId after, HasRemoved state id done turns after →
      Ends (removeTurn id fails clientId) after
        (fun turn => HasRemoved state id (done ++ [clientId]) (turns ++ [turn]))
        fun _ _ => ∃ statement, fails statement = true :=
    fun _ _ _ clientId _ hremoved => ends_removeTurn clientId hremoved
  refine ends_bind ((ends_inTransaction hturns (HasRemoved.start state id)).mono ?_ ?_)
  · intro turns last hremoved
    exact ends_invalidateIfAny_bind fun _ => ends_pure ⟨turns, last, hremoved, rfl, rfl⟩
  · intro error after hstopped
    exact hstopped

theorem HasAdded.rows_hasRemoved {middle after last : AppState} {clientIds : List Str}
    {added : List (Option Str)} {removed : List Bool}
    (hadded : HasAdded before id clientIds added middle) (hmiddle : after.db = middle.db)
    (hremoved : HasRemoved after id clientIds removed last)
    (hnew : ∀ clientId ∈ clientIds, ¬ IsMember before.db clientId id) :
    last.db.clientGroupMemberships = before.db.clientGroupMemberships ∧
      removed.count true = added.count none := by
  obtain ⟨rows, hrows, hlength, hlisted⟩ := hadded.rows
  have hold : ∀ row ∈ before.db.clientGroupMemberships.rows,
      (! (decide (row.clientId ∈ clientIds) && row.groupId = id)) = true := by
    intro row hrow
    rw [Bool.not_eq_true', ← Bool.not_eq_true]
    intro hdeleted
    obtain ⟨hclient, rfl⟩ : row.clientId ∈ clientIds ∧ row.groupId = id := by
      simpa using hdeleted
    exact hnew row.clientId hclient (List.mem_map_of_mem hrow)
  have hthese : ∀ row ∈ rows,
      ¬ (! (decide (row.clientId ∈ clientIds) && row.groupId = id)) = true := by
    intro row hrow
    obtain ⟨rfl, hclient⟩ := hlisted row hrow
    simp [hclient]
  have hrestored : last.db.clientGroupMemberships.rows = before.db.clientGroupMemberships.rows := by
    rw [hremoved.rows, hmiddle, hrows, List.filter_append, List.filter_eq_self.mpr hold,
      List.filter_eq_nil_iff.mpr hthese, List.append_nil]
  have hcount := hremoved.count
  rw [hrestored, hmiddle, hrows, List.length_append, hlength] at hcount
  exact ⟨Table.ext hrestored, by omega⟩

/-- **Batches of membership changes.**  A call of `batch_add_clients` that returns has added
the listed clients that exist and counted them; one that stops has changed nothing.  If the
listed clients exist and were no members, a call of `batch_remove_clients` with the same list
takes them out again. -/
theorem batchClients_spec (faults : BatchFaults AddStatement) (removeFaults : BatchFaults Unit)
    (env : Env) (id : ℤ) (clientIds : List Str) (state : AppState) :
    Ends (batchAddClientsUnder faults env id clientIds) state
      (fun response after => IsAdded state.db id clientIds response after.db ∧
        ((∀ clientId ∈ clientIds,
            HasClient state.db clientId ∧ ¬ IsMember state.db clientId id) →
          Ends (batchRemoveClientsUnder removeFaults id clientIds) after
            (fun removed last =>
              last.db.clientGroupMemberships = state.db.clientGroupMemberships ∧
              removed.count = response.addedCount)
            fun _ last => last = after ∧ removeFaults.Some clientIds.length))
      fun _ after => after = state ∧
        (¬ HasGroup state.db id ∨ faults.Some clientIds.length) := by
  refine (ends_batchAddClientsUnder faults env id clientIds state).mono ?_ fun _ _ h => h
  rintro response after ⟨hgroup, turns, middle, hadded, hafter, hcount, hskipped⟩
  refine ⟨⟨?_, ?_, ?_⟩, fun hnew => ?_⟩
  · obtain ⟨rows, hrows, hlength, -⟩ := hadded.rows
    exact ⟨rows, by rw [hafter, hrows], hcount.trans hlength.symm⟩
  · rw [hafter]
    exact hadded.members
  · rw [hcount, hskipped, count_none_add_length_reduceOption, hadded.length]
  · have hstill : HasGroup after.db id := by
      rw [hafter, hadded.frame]
      exact hgroup
    refine (ends_batchRemoveClientsUnder removeFaults hstill clientIds).mono ?_ fun _ _ h => h
    rintro removed last ⟨deleted, final, hremoved, hlast, hdeleted⟩
    rw [hlast, hdeleted, hcount]
    exact hadded.rows_hasRemoved hafter hremoved fun clientId hclient => (hnew clientId hclient).2

end Specs

end RustDns.Api.ClientGroups
