import RustDns.Api.PolicyCache

/-!
# Moving clients in batches

`batch_move_clients` with statements that may fail (`batchMoveClientsUnder`).  A turn of
its loop deletes the client from the source group, looks whether the target group
exists, and then inserts the client there, each in a statement of its own.  A failure
between the two, or a target group that does not exist, leaves the client in neither
group.  `keepsMembers_iff` says for which requests and failures this does not happen.
-/

namespace RustDns.Api.ClientGroups

open Text Program

/-! ## The handler -/

/-- The statements of one turn of the loop of `batch_move_clients`. -/
inductive MoveStatement where
  | client
  | leave
  | group
  | enter
  | rules
deriving DecidableEq

section Handler

variable [Unicode] [RegexCrate]

/-- The deletion from the source group, if there is one. -/
def leaveSource (fails : MoveStatement → Bool) (clientId : Str) : Option ℤ → ApiM Unit
  | none => pure ()
  | some id => do
    attempt (fails .leave) .database
    modifyDb (leaveGroup · clientId id)

def enterTarget (fails : MoveStatement → Bool) (now clientId : Str) (id : ℤ) :
    ApiM (Option (List CustomRule)) := do
  attempt (fails .group) .database
  if ((← get).db.clientGroups.find? id).isNone then return none
  else
    attempt (fails .enter) .database
    modifyDb (enterGroup now · clientId id)
    attempt (fails .rules) .database
    return some (groupCustomRules (← get).db id)

/-- One turn of the loop of `batch_move_clients`. -/
def moveTurn (fails : MoveStatement → Bool) (now : Str) (body : BatchMoveClientsRequest)
    (clientId : Str) : ApiM (Option (List CustomRule)) := do
  attempt (fails .client) .database
  if ((← get).db.clients.find? clientId).isNone then return none
  else
    leaveSource fails clientId body.fromGroupId
    match body.toGroupId with
    | none => return none
    | some id => enterTarget fails now clientId id

/-- `batch_move_clients`, with statements that may fail. -/
def batchMoveClientsUnder (fails : ℕ → MoveStatement → Bool) (env : Env)
    (body : BatchMoveClientsRequest) : ApiM MoveResponse := do
  let turns ← forEach (fun i => moveTurn (fails i) env.now body) body.clientIds
  let applied := turns.reduceOption
  return ⟨str "Moved " ++ display applied.length ++ str " clients to group", applied.length,
    applied.flatten⟩

variable (now : Str) (body : BatchMoveClientsRequest)

theorem eval_moveTurn (clientId : Str) (state : AppState) :
    (moveTurn (fun _ => false) now body clientId).eval state =
      (.ok (moveClient now body state.db clientId).2,
        { state with db := (moveClient now body state.db clientId).1 }) := by
  have hleave : ∀ source, (leaveSource (fun _ => false) clientId source).eval state =
      (.ok (), { state with db := source.elim state.db (leaveGroup state.db clientId) }) := by
    intro source
    cases source <;> rfl
  have henter : ∀ (id : ℤ) (state : AppState),
      (enterTarget (fun _ => false) now clientId id).eval state =
        if (state.db.clientGroups.find? id).isNone then (.ok none, state)
        else (.ok (some (groupCustomRules state.db id)),
          { state with db := enterGroup now state.db clientId id }) := by
    intro id state
    unfold enterTarget
    simp only [attempt_false, pure_bind]
    rw [eval_get_bind]
    split_ifs <;> rfl
  unfold moveTurn moveClient
  simp only [attempt_false, pure_bind]
  rw [eval_get_bind]
  split_ifs with hclient
  · rfl
  · rw [eval_bind, hleave]
    dsimp only
    cases body.toGroupId with
    | none => rfl
    | some id =>
      dsimp only
      rw [henter]
      split_ifs <;> rfl

theorem eval_forEach_moveTurn (clientIds : List Str) (state : AppState) :
    ∃ turns, turns.reduceOption = (moveClients now body clientIds state.db).2 ∧
      (forEach (fun _ => moveTurn (fun _ => false) now body) clientIds).eval state =
        (.ok turns, { state with db := (moveClients now body clientIds state.db).1 }) := by
  induction clientIds generalizing state with
  | nil => exact ⟨[], rfl, rfl⟩
  | cons clientId rest ih =>
    obtain ⟨turns, hturns, heval⟩ :=
      ih { state with db := (moveClient now body state.db clientId).1 }
    refine ⟨(moveClient now body state.db clientId).2 :: turns, ?_, ?_⟩
    · unfold moveClients
      dsimp only at hturns ⊢
      rw [← hturns, ← List.singleton_append, List.reduceOption_append, List.reduceOption_singleton]
    · unfold forEach
      rw [eval_bind, eval_moveTurn]
      dsimp only
      rw [eval_bind, heval]
      rfl

theorem eval_batchMoveClientsUnder (env : Env) (body : BatchMoveClientsRequest) (state : AppState) :
    (batchMoveClientsUnder (fun _ _ => false) env body).eval state =
      (batchMoveClients env body).eval state := by
  obtain ⟨turns, hturns, heval⟩ := eval_forEach_moveTurn env.now body body.clientIds state
  unfold batchMoveClientsUnder batchMoveClients
  rw [eval_bind, heval, eval_get_bind]
  dsimp only
  rw [hturns]
  rfl

end Handler

/-! ## Members -/

variable {db : Database} {clientId other : Str} {id group : ℤ}

theorem isMember_leaveGroup :
    IsMember (leaveGroup db clientId id) other group ↔
      IsMember db other group ∧ ¬ (other = clientId ∧ group = id) := by
  unfold IsMember leaveGroup Table.deleteWhere
  simp only [List.mem_map, List.mem_filter]
  constructor
  · rintro ⟨row, ⟨hrow, hkept⟩, hkey⟩
    obtain ⟨rfl, rfl⟩ : row.clientId = other ∧ row.groupId = group := by simpa using hkey
    exact ⟨⟨row, hrow, rfl⟩, by simpa [-not_and, not_and_or] using hkept⟩
  · rintro ⟨⟨row, hrow, hkey⟩, hother⟩
    obtain ⟨rfl, rfl⟩ : row.clientId = other ∧ row.groupId = group := by simpa using hkey
    exact ⟨row, ⟨hrow, by simpa [-not_and, not_and_or] using hother⟩, rfl⟩

theorem isMember_enterGroup {now : Str} :
    IsMember (enterGroup now db clientId id) other group ↔
      IsMember db other group ∨ other = clientId ∧ group = id := by
  unfold IsMember enterGroup
  rw [Table.mem_map_key_upsert_iff, Prod.mk.injEq]

def IsMoved (db : Database) (done : List Str) (clientId : Str) : Prop :=
  clientId ∈ done ∧ HasClient db clientId

theorem isMoved_concat {done : List Str} (hexists : HasClient db clientId) :
    IsMoved db (done ++ [clientId]) other ↔ IsMoved db done other ∨ other = clientId := by
  unfold IsMoved
  rw [List.mem_append, List.mem_singleton]
  constructor
  · rintro ⟨hdone | rfl, hother⟩
    · exact Or.inl ⟨hdone, hother⟩
    · exact Or.inr rfl
  · rintro (⟨hdone, hother⟩ | rfl)
    · exact ⟨Or.inl hdone, hother⟩
    · exact ⟨Or.inr rfl, hexists⟩

section Moved

variable [Unicode] [RegexCrate]

/-- The state after the turns of some clients, and perhaps after another one has left the
source group. -/
structure HasMoved (before : AppState) (source : Option ℤ) (target : ℤ) (done : List Str)
    (leaving : Option Str) (after : AppState) : Prop where
  frame : after = { before with
    db := { before.db with clientGroupMemberships := after.db.clientGroupMemberships } }
  members : ∀ clientId id, IsMember after.db clientId id ↔
    (IsMoved before.db done clientId ∧ HasGroup before.db target ∧ id = target ∨
      ¬ (IsMoved before.db done clientId ∧ id ∈ source) ∧ IsMember before.db clientId id) ∧
    ¬ (clientId ∈ leaving ∧ id ∈ source)
  rows : ¬ HasGroup before.db target →
    after.db.clientGroupMemberships.rows.Sublist before.db.clientGroupMemberships.rows

namespace HasMoved

variable {before after : AppState} {source : Option ℤ} {target : ℤ} {done : List Str}
  {clientId : Str}

theorem start (before : AppState) (source : Option ℤ) (target : ℤ) :
    HasMoved before source target [] none before where
  frame := rfl
  members _ _ := by simp [IsMoved]
  rows _ := List.Sublist.refl _

theorem skip (hmoved : HasMoved before source target done none after)
    (hclient : ¬ HasClient before.db clientId) :
    HasMoved before source target (done ++ [clientId]) none after where
  frame := hmoved.frame
  members other id := by
    have hsame : IsMoved before.db (done ++ [clientId]) other ↔ IsMoved before.db done other := by
      unfold IsMoved
      rw [List.mem_append, List.mem_singleton]
      constructor
      · rintro ⟨hdone | rfl, hother⟩
        · exact ⟨hdone, hother⟩
        · exact absurd hother hclient
      · rintro ⟨hdone, hother⟩
        exact ⟨Or.inl hdone, hother⟩
    rw [hmoved.members, hsame]
  rows := hmoved.rows

variable {id : ℤ} {leaving : Option Str}

theorem leave (hmoved : HasMoved before (some id) target done none after) :
    HasMoved before (some id) target done (some clientId)
      { after with db := leaveGroup after.db clientId id } where
  frame := by
    conv_lhs => rw [hmoved.frame]
    rfl
  members other group := by
    rw [isMember_leaveGroup, hmoved.members]
    simp only [Option.mem_def, reduceCtorEq, Option.some.injEq, false_and, not_false_iff, and_true,
      @eq_comm _ clientId, @eq_comm _ id]
  rows hgroup := List.filter_sublist.trans (hmoved.rows hgroup)

theorem leave_none (hmoved : HasMoved before none target done none after) :
    HasMoved before none target done (some clientId) after where
  frame := hmoved.frame
  members other group := by
    rw [hmoved.members]
    simp
  rows := hmoved.rows

theorem stay (hmoved : HasMoved before source target done (some clientId) after)
    (hclient : HasClient before.db clientId) (hgroup : ¬ HasGroup before.db target) :
    HasMoved before source target (done ++ [clientId]) none after where
  frame := hmoved.frame
  members other id := by
    rw [hmoved.members, isMoved_concat hclient]
    simp only [hgroup, false_and, and_false, false_or, Option.mem_def, reduceCtorEq,
      Option.some.injEq, not_false_iff, and_true, @eq_comm _ clientId]
    tauto
  rows := hmoved.rows

theorem enter (now : Str) (hmoved : HasMoved before source target done (some clientId) after)
    (hclient : HasClient before.db clientId) (hgroup : HasGroup before.db target) :
    HasMoved before source target (done ++ [clientId]) none
      { after with db := enterGroup now after.db clientId target } where
  frame := by
    conv_lhs => rw [hmoved.frame]
    rfl
  members other id := by
    rw [isMember_enterGroup, hmoved.members, isMoved_concat hclient]
    simp only [hgroup, true_and, Option.mem_def, reduceCtorEq, Option.some.injEq, false_and,
      not_false_iff, and_true, @eq_comm _ clientId]
    tauto
  rows hmissing := absurd hgroup hmissing

/-- A client that is in the source group is in one of the two afterwards. -/
theorem kept (hmoved : HasMoved before source target done leaving after)
    (hleaving : ¬ (clientId ∈ leaving ∧ id ∈ source)) (hmember : IsMember before.db clientId id)
    (hgroup : IsMoved before.db done clientId → id ∈ source → HasGroup before.db target) :
    IsMember after.db clientId id ∨
      HasGroup before.db target ∧ IsMember after.db clientId target := by
  by_cases hdone : IsMoved before.db done clientId ∧ id ∈ source
  · have htarget := hgroup hdone.1 hdone.2
    exact Or.inr ⟨htarget, (hmoved.members _ _).mpr
      ⟨Or.inl ⟨hdone.1, htarget, rfl⟩, fun hleft => hleaving ⟨hleft.1, hdone.2⟩⟩⟩
  · exact Or.inl ((hmoved.members _ _).mpr
      ⟨Or.inr ⟨hdone, hmember⟩, hleaving⟩)

theorem memberships_eq (hmoved : HasMoved before source target done leaving after)
    (hgroup : ¬ HasGroup before.db target)
    (hkept : ∀ clientId id, IsMember before.db clientId id → IsMember after.db clientId id) :
    after.db.clientGroupMemberships = before.db.clientGroupMemberships := by
  have hsublist := hmoved.rows hgroup
  have hkeys : (before.db.clientGroupMemberships.rows.map
      fun row => (row.clientId, row.groupId)).length ≤
      (after.db.clientGroupMemberships.rows.map fun row => (row.clientId, row.groupId)).length :=
    (before.db.clientGroupMemberships.nodup.subperm fun key hkey =>
      hkept key.1 key.2 hkey).length_le
  simp only [List.length_map] at hkeys
  exact Table.ext (hsublist.eq_of_length_le hkeys)

end HasMoved

/-! ## What a turn leaves -/

def MoveStops (fails : ℕ → MoveStatement → Bool) (db : Database) (source : Option ℤ) (target : ℤ)
    (done : List Str) (clientId : Str) : Prop :=
  fails done.length .client = true ∨
    HasClient db clientId ∧ (source.isSome = true ∧ fails done.length .leave = true ∨
      fails done.length .group = true ∨
      HasGroup db target ∧ (fails done.length .enter = true ∨ fails done.length .rules = true))

inductive MoveLeft (fails : ℕ → MoveStatement → Bool) (before : AppState) (source : Option ℤ)
    (target : ℤ) (done : List Str) (clientId : Str) (after : AppState) : Prop where
  /-- Nothing was deleted. -/
  | early (hfails : fails done.length .client = true ∨ fails done.length .leave = true)
      (hmoved : HasMoved before source target done none after)
  /-- The client has left the source group. -/
  | half (hclient : HasClient before.db clientId) (hselect : fails done.length .client = false)
      (hleave : source.isSome = true → fails done.length .leave = false)
      (hfails : fails done.length .group = true ∨ fails done.length .enter = true)
      (hmoved : HasMoved before source target done (some clientId) after)
  /-- The client is in the target group. -/
  | late (hgroup : HasGroup before.db target) (hfails : fails done.length .group = false)
      (henters : fails done.length .enter = false)
      (hmoved : HasMoved before source target (done ++ [clientId]) none after)

section Turn

variable {fails : ℕ → MoveStatement → Bool} {before state : AppState} {source : Option ℤ}
  {target : ℤ} {done : List Str} {clientId : Str}

theorem ends_leaveSource (hmoved : HasMoved before source target done none state) :
    Ends (leaveSource (fails done.length) clientId source) state
      (fun _ after => (source.isSome = true → fails done.length .leave = false) ∧
        HasMoved before source target done (some clientId) after)
      fun _ after => (source.isSome = true ∧ fails done.length .leave = true) ∧
        HasMoved before source target done none after := by
  cases source with
  | none => exact ends_pure ⟨by simp, hmoved.leave_none⟩
  | some id =>
    refine ends_attempt_bind (fun hfails => ⟨⟨rfl, hfails⟩, hmoved⟩) fun hleave => ?_
    exact ⟨fun _ => hleave, hmoved.leave⟩

theorem ends_enterTarget (now : Str)
    (hmoved : HasMoved before source target done (some clientId) state)
    (hclient : HasClient before.db clientId) (hselect : fails done.length .client = false)
    (hleave : source.isSome = true → fails done.length .leave = false) :
    Ends (enterTarget (fails done.length) now clientId target) state
      (fun _ after => (fails done.length .group = false ∧ (HasGroup before.db target →
          fails done.length .enter = false ∧ fails done.length .rules = false)) ∧
        HasMoved before source target (done ++ [clientId]) none after)
      fun _ after => (fails done.length .group = true ∨ HasGroup before.db target ∧
          (fails done.length .enter = true ∨ fails done.length .rules = true)) ∧
        MoveLeft fails before source target done clientId after := by
  have hgroups : state.db.clientGroups = before.db.clientGroups := by rw [hmoved.frame]
  unfold enterTarget
  refine ends_attempt_bind
    (fun hfails => ⟨Or.inl hfails, .half hclient hselect hleave (Or.inl hfails) hmoved⟩)
    fun hgroup => ends_get_bind (ends_ite (fun hmissing => ?_) fun hexists => ?_)
  · have hnone : ¬ HasGroup before.db target := by
      rw [hgroups] at hmissing
      simpa [HasGroup] using hmissing
    exact ends_pure ⟨⟨hgroup, fun htarget => absurd htarget hnone⟩, hmoved.stay hclient hnone⟩
  have htarget : HasGroup before.db target := by
    rw [hgroups] at hexists
    simpa [HasGroup, Option.isSome_iff_ne_none] using hexists
  refine ends_attempt_bind (fun hfails => ⟨Or.inr ⟨htarget, Or.inl hfails⟩,
    .half hclient hselect hleave (Or.inr hfails) hmoved⟩) fun henter => ends_modify_bind ?_
  refine ends_attempt_bind (fun hfails => ⟨Or.inr ⟨htarget, Or.inr hfails⟩,
    .late htarget hgroup henter (hmoved.enter now hclient htarget)⟩) fun hrules => ends_get_bind ?_
  exact ends_pure ⟨⟨hgroup, fun _ => ⟨henter, hrules⟩⟩, hmoved.enter now hclient htarget⟩

theorem ends_moveTurn (now : Str) (clientIds : List Str)
    (hmoved : HasMoved before source target done none state) :
    Ends (moveTurn (fails done.length) now ⟨clientIds, source, some target⟩ clientId) state
      (fun _ after => ¬ MoveStops fails before.db source target done clientId ∧
        HasMoved before source target (done ++ [clientId]) none after)
      fun _ after => MoveStops fails before.db source target done clientId ∧
        MoveLeft fails before source target done clientId after := by
  have hclients : state.db.clients = before.db.clients := by rw [hmoved.frame]
  unfold moveTurn
  refine ends_attempt_bind (fun hfails => ⟨Or.inl hfails, .early (Or.inl hfails) hmoved⟩)
    fun hselect => ends_get_bind (ends_ite (fun hmissing => ?_) fun hexists => ?_)
  · have hnone : ¬ HasClient before.db clientId := by
      rw [hclients] at hmissing
      simpa [HasClient] using hmissing
    exact ends_pure ⟨by simp [MoveStops, hselect, hnone], hmoved.skip hnone⟩
  have hclient : HasClient before.db clientId := by
    rw [hclients] at hexists
    simpa [HasClient, Option.isSome_iff_ne_none] using hexists
  refine ends_bind ((ends_leaveSource hmoved).mono ?_ ?_)
  · rintro - middle ⟨hleaves, hleft⟩
    refine (ends_enterTarget now hleft hclient hselect hleaves).mono ?_ ?_
    · rintro value after ⟨⟨hgroup, henters⟩, hafter⟩
      refine ⟨?_, hafter⟩
      rintro (hfails | ⟨-, ⟨hsource, hfails⟩ | hfails | ⟨htarget, hfails⟩⟩)
      · simp [hselect] at hfails
      · simp [hleaves hsource] at hfails
      · simp [hgroup] at hfails
      · simp [henters htarget] at hfails
    · rintro error after ⟨hfails, hafter⟩
      exact ⟨Or.inr ⟨hclient, Or.inr hfails⟩, hafter⟩
  · rintro error after ⟨hfails, hafter⟩
    exact ⟨Or.inr ⟨hclient, Or.inl hfails⟩, .early (Or.inr hfails.2) hafter⟩

end Turn

/-! ## Lost members -/

/-- After the given clients, the turn of this one takes it out of the source group and it
is not in the target group afterwards: there is no such group, or a statement fails after
the deletion and the client is not there already. -/
def Drops (fails : ℕ → MoveStatement → Bool) (db : Database) (source : Option ℤ) (target : ℤ)
    (done : List Str) (clientId : Str) : Prop :=
  HasClient db clientId ∧ fails done.length .client = false ∧ fails done.length .leave = false ∧
    ∃ id ∈ source, IsMember db clientId id ∧
      (¬ HasGroup db target ∨
        (id = target ∨ ¬ IsMember db clientId target ∧ clientId ∉ done) ∧
          (fails done.length .group = true ∨ fails done.length .enter = true))

/-- Every client that was in the source group is in it or in the target group, and without
a target group the memberships are the same. -/
structure KeepsMembers (clientIds : List Str) (source : Option ℤ) (target : ℤ)
    (before after : Database) : Prop where
  kept : ∀ clientId ∈ clientIds, HasClient before clientId → ∀ id ∈ source,
    IsMember before clientId id → IsMember after clientId id ∨ IsMember after clientId target
  unchanged : ¬ HasGroup before target →
    after.clientGroupMemberships = before.clientGroupMemberships

/-- The state that a call leaves, after all turns or after one in which a statement
fails. -/
inductive MoveEnds (fails : ℕ → MoveStatement → Bool) (before : AppState) (clientIds : List Str)
    (source : Option ℤ) (target : ℤ) (after : AppState) : Prop where
  | returned (hnone : NoneStops (MoveStops fails before.db source target) clientIds)
      (hmoved : HasMoved before source target clientIds none after)
  | stopped (done : List Str) (clientId : Str) (rest : List Str)
      (hsplit : clientIds = done ++ clientId :: rest)
      (hnone : NoneStops (MoveStops fails before.db source target) done)
      (hstops : MoveStops fails before.db source target done clientId)
      (hleft : MoveLeft fails before source target done clientId after)

theorem moveEnds_exec (fails : ℕ → MoveStatement → Bool) (env : Env) (clientIds : List Str)
    (source : Option ℤ) (target : ℤ) (state : AppState) :
    MoveEnds fails state clientIds source target
      ((batchMoveClientsUnder fails env ⟨clientIds, source, some target⟩).exec state) := by
  have hturns : ∀ done (_ : List (Option (List CustomRule))) clientId after,
      HasMoved state source target done none after →
      Ends (moveTurn (fails done.length) env.now ⟨clientIds, source, some target⟩ clientId) after
        (fun _ last => ¬ MoveStops fails state.db source target done clientId ∧
          HasMoved state source target (done ++ [clientId]) none last)
        fun _ last => MoveStops fails state.db source target done clientId ∧
          MoveLeft fails state source target done clientId last :=
    fun _ _ _ _ hmoved => ends_moveTurn env.now clientIds hmoved
  have hends : Ends (batchMoveClientsUnder fails env ⟨clientIds, source, some target⟩) state
      (fun _ => MoveEnds fails state clientIds source target)
      fun _ => MoveEnds fails state clientIds source target := by
    refine ends_bind
      ((ends_forEach_of_stops hturns (HasMoved.start state source target)).mono ?_ ?_)
    · rintro turns after ⟨hnone, hmoved⟩
      exact ends_pure (.returned hnone hmoved)
    · rintro error after ⟨done, clientId, rest, hsplit, hnone, hstops, hleft⟩
      exact .stopped done clientId rest hsplit hnone hstops hleft
  exact hends.exec (fun _ _ hafter => hafter) fun _ _ hafter => hafter

section Lost

variable {fails : ℕ → MoveStatement → Bool} {state after : AppState} {clientIds : List Str}
  {source : Option ℤ} {target : ℤ}

variable {done rest : List Str} {clientId : Str} {id : ℤ}

/-- If no turn that is reached drops its client, there is a target group for every member
that has had its turn. -/
theorem hasGroup_of_not_drops
    (hkeeps : ∀ done clientId rest, clientIds = done ++ clientId :: rest →
      NoneStops (MoveStops fails state.db source target) done →
      ¬ Drops fails state.db source target done clientId) (hsplit : clientIds = done ++ rest)
    (hnone : NoneStops (MoveStops fails state.db source target) done)
    (hmember : IsMember state.db clientId id) (hmoved : IsMoved state.db done clientId)
    (hsource : id ∈ source) : HasGroup state.db target := by
  by_contra hgroup
  obtain ⟨earlier, later, rfl⟩ := List.append_of_mem hmoved.1
  refine hkeeps earlier clientId (later ++ rest) (by simp [hsplit]) hnone.of_append ?_
  have hpasses := hnone earlier clientId later rfl
  unfold MoveStops at hpasses
  obtain rfl := Option.mem_def.mp hsource
  simp only [hmoved.2, Option.isSome_some, true_and, not_or, Bool.not_eq_true] at hpasses
  exact ⟨hmoved.2, hpasses.1, hpasses.2.1, id, rfl, hmember, Or.inl hgroup⟩

theorem isMember_of_half (hdrops : ¬ Drops fails state.db source target done clientId)
    (hselect : fails done.length .client = false)
    (hleave : source.isSome = true → fails done.length .leave = false)
    (hclient : HasClient state.db clientId)
    (hfails : fails done.length .group = true ∨ fails done.length .enter = true)
    (hmoved : HasMoved state source target done (some clientId) after)
    (hmember : IsMember state.db clientId id) (hsource : id ∈ source) :
    HasGroup state.db target ∧ IsMember after.db clientId target := by
  obtain ⟨hgroup, hne, hthere⟩ : HasGroup state.db target ∧ id ≠ target ∧
      (IsMember state.db clientId target ∨ clientId ∈ done) := by
    by_contra hlost
    have hleaves := hleave (by simp [Option.mem_def.mp hsource])
    refine hdrops ⟨hclient, hselect, hleaves, id, hsource, hmember, ?_⟩
    tauto
  have htarget : target ∉ source := fun htarget => hne (Option.mem_unique hsource htarget)
  refine ⟨hgroup, (hmoved.members _ _).mpr ⟨?_, fun hleft => htarget hleft.2⟩⟩
  rcases hthere with hold | hdone
  · exact Or.inr ⟨fun hleft => htarget hleft.2, hold⟩
  · exact Or.inl ⟨⟨hdone, hclient⟩, hgroup, rfl⟩

theorem kept_of_not_drops
    (hkeeps : ∀ done clientId rest, clientIds = done ++ clientId :: rest →
      NoneStops (MoveStops fails state.db source target) done →
      ¬ Drops fails state.db source target done clientId)
    (hafter : MoveEnds fails state clientIds source target after) :
    ∃ done leaving, HasMoved state source target done leaving after ∧
      ∀ clientId id, IsMember state.db clientId id → IsMember after.db clientId id ∨
        HasGroup state.db target ∧ IsMember after.db clientId target := by
  rcases hafter with ⟨hnone, hmoved⟩ | ⟨done, last, rest, hsplit, hnone, -, hleft⟩
  · refine ⟨clientIds, none, hmoved, fun clientId id hmember => ?_⟩
    exact hmoved.kept (by simp) hmember
      (hasGroup_of_not_drops hkeeps (List.append_nil _).symm hnone hmember)
  have hdone : ∀ {clientId id}, IsMember state.db clientId id → IsMoved state.db done clientId →
      id ∈ source → HasGroup state.db target :=
    hasGroup_of_not_drops hkeeps hsplit hnone
  cases hleft with
  | early hfails hmoved =>
    exact ⟨done, none, hmoved, fun clientId id hmember =>
      hmoved.kept (by simp) hmember (hdone hmember)⟩
  | half hclient hselect hleave hfails hmoved =>
    refine ⟨done, some last, hmoved, fun clientId id hmember => ?_⟩
    by_cases hlast : clientId ∈ some last ∧ id ∈ source
    · obtain rfl := Option.mem_some_iff.mp hlast.1
      exact Or.inr (isMember_of_half (hkeeps done last rest hsplit hnone) hselect hleave hclient
        hfails hmoved hmember hlast.2)
    · exact hmoved.kept hlast hmember (hdone hmember)
  | late hgroup hfails henters hmoved =>
    exact ⟨done ++ [last], none, hmoved, fun clientId id hmember =>
      hmoved.kept (by simp) hmember fun _ _ => hgroup⟩

/-- Without a target group, a client is in no source group after its turn. -/
theorem HasMoved.not_isMember {leaving : Option Str}
    (hmoved : HasMoved state source target done leaving after) (hgroup : ¬ HasGroup state.db target)
    (hclient : HasClient state.db clientId) (hsource : id ∈ source)
    (hleft : clientId ∈ done ∨ clientId ∈ leaving) : ¬ IsMember after.db clientId id := by
  intro hmember
  obtain ⟨⟨-, htarget, -⟩ | ⟨hnot, -⟩, hleaving⟩ := (hmoved.members _ _).mp hmember
  · exact hgroup htarget
  · rcases hleft with hdone | hleft
    · exact hnot ⟨⟨hdone, hclient⟩, hsource⟩
    · exact hleaving ⟨hleft, hsource⟩

/-- A failure after the deletion ends the loop in this turn, and leaves the client in neither
group. -/
theorem lost_of_failure (hsplit : clientIds = done ++ clientId :: rest)
    (hnone : NoneStops (MoveStops fails state.db source target) done)
    (hclient : HasClient state.db clientId)
    (hexecuted : fails done.length .client = false ∧ fails done.length .leave = false)
    (hgroup : HasGroup state.db target) (hsource : id ∈ source)
    (hthere : id = target ∨ ¬ IsMember state.db clientId target ∧ clientId ∉ done)
    (hfails : fails done.length .group = true ∨ fails done.length .enter = true)
    (hafter : MoveEnds fails state clientIds source target after) :
    ¬ IsMember after.db clientId id ∧ ¬ IsMember after.db clientId target := by
  have hstops : MoveStops fails state.db source target done clientId :=
    Or.inr ⟨hclient, Or.inr (hfails.imp_right fun henter => ⟨hgroup, Or.inl henter⟩)⟩
  rcases hafter with ⟨hall, -⟩ | ⟨last, other, others, hother, hfirst, hends, hleft⟩
  · exact absurd hstops (hall done clientId rest hsplit)
  obtain ⟨rfl, rfl⟩ := hnone.eq_of_stops hstops hfirst hends (hsplit.symm.trans hother)
  cases hleft with
  | early hearly hmoved => simp [hexecuted] at hearly
  | half _ _ _ _ hmoved =>
    refine ⟨fun hstays => ((hmoved.members _ _).mp hstays).2 ⟨rfl, hsource⟩, fun henters => ?_⟩
    obtain ⟨hin, hleaving⟩ := (hmoved.members _ _).mp henters
    rcases hthere with rfl | ⟨hout, hdone⟩
    · exact hleaving ⟨rfl, hsource⟩
    · rcases hin with ⟨hin, -⟩ | ⟨-, hin⟩
      · exact hdone hin.1
      · exact hout hin
  | late _ hpasses henters _ => simp [hpasses, henters] at hfails

/-- Without a target group, the client has left the source group after its turn. -/
theorem lost_of_not_hasGroup (hsplit : clientIds = done ++ clientId :: rest)
    (hnone : NoneStops (MoveStops fails state.db source target) done)
    (hclient : HasClient state.db clientId)
    (hexecuted : fails done.length .client = false ∧ fails done.length .leave = false)
    (hgroup : ¬ HasGroup state.db target) (hsource : id ∈ source)
    (hafter : MoveEnds fails state clientIds source target after) :
    ¬ IsMember after.db clientId id := by
  rcases hafter with ⟨-, hmoved⟩ | ⟨last, other, others, hother, -, hstops, hleft⟩
  · exact hmoved.not_isMember hgroup hclient hsource (Or.inl (by simp [hsplit]))
  obtain ⟨between, rfl⟩ := hnone.not_after (hsplit.symm.trans hother) hstops
  have hturn : between = [] ∧ clientId = other ∨ clientId ∈ done ++ between := by
    rw [hsplit, List.append_assoc] at hother
    have hrest := List.append_cancel_left hother
    cases between with
    | nil => exact Or.inl ⟨rfl, (List.cons.inj hrest).1⟩
    | cons first between => exact Or.inr (by simp [(List.cons.inj hrest).1])
  cases hleft with
  | early hearly hmoved =>
    rcases hturn with ⟨rfl, rfl⟩ | hdone
    · simp [hexecuted] at hearly
    · exact hmoved.not_isMember hgroup hclient hsource (Or.inl hdone)
  | half _ _ _ _ hmoved =>
    refine hmoved.not_isMember hgroup hclient hsource ?_
    exact hturn.symm.imp_right fun hlast => congrArg some hlast.2.symm
  | late htarget _ _ _ => exact absurd htarget hgroup

theorem lost_of_drops (hsplit : clientIds = done ++ clientId :: rest)
    (hnone : NoneStops (MoveStops fails state.db source target) done)
    (hdrops : Drops fails state.db source target done clientId)
    (hafter : MoveEnds fails state clientIds source target after) :
    ¬ KeepsMembers clientIds source target state.db after.db := by
  obtain ⟨hclient, hselect, hleave, id, hsource, hmember, hlost⟩ := hdrops
  rintro ⟨hkept, hunchanged⟩
  by_cases hgroup : HasGroup state.db target
  · obtain ⟨hthere, hfails⟩ := hlost.resolve_left (not_not_intro hgroup)
    have hneither := lost_of_failure hsplit hnone hclient ⟨hselect, hleave⟩ hgroup hsource hthere
      hfails hafter
    rcases hkept clientId (by simp [hsplit]) hclient id hsource hmember with hstays | henters
    · exact hneither.1 hstays
    · exact hneither.2 henters
  · refine lost_of_not_hasGroup hsplit hnone hclient ⟨hselect, hleave⟩ hgroup hsource hafter ?_
    unfold IsMember
    rw [hunchanged hgroup]
    exact hmember

/-- **Moving clients loses nobody exactly if no turn that is reached drops its client.** -/
theorem keepsMembers_iff (fails : ℕ → MoveStatement → Bool) (env : Env) (clientIds : List Str)
    (source : Option ℤ) (target : ℤ) (state : AppState) :
    KeepsMembers clientIds source target state.db
        ((batchMoveClientsUnder fails env ⟨clientIds, source, some target⟩).exec state).db ↔
      ∀ done clientId rest, clientIds = done ++ clientId :: rest →
        NoneStops (MoveStops fails state.db source target) done →
        ¬ Drops fails state.db source target done clientId := by
  have hafter := moveEnds_exec fails env clientIds source target state
  constructor
  · intro hkeeps done clientId rest hsplit hnone hdrops
    exact lost_of_drops hsplit hnone hdrops hafter hkeeps
  · intro hkeeps
    obtain ⟨done, leaving, hmoved, hkept⟩ := kept_of_not_drops hkeeps hafter
    refine ⟨fun clientId _ _ id _ hmember => ?_, fun hgroup => ?_⟩
    · exact (hkept clientId id hmember).imp_right And.right
    · refine hmoved.memberships_eq hgroup fun clientId id hmember => ?_
      exact (hkept clientId id hmember).resolve_right fun htarget => hgroup htarget.1

end Lost

end Moved

section LostClient

attribute [local instance] Unicode.ascii RegexCrate.fragment SerdeJson.plain IpNetCrate.cidr

def beforeMove : AppState := Machine.run policyStep newServer groupSetup

/-- The client is moved to a group that does not exist, or the insertion into the other
group fails: it is in no group. -/
theorem not_keepsMembers_beforeMove :
    ¬ KeepsMembers [str "c1"] (some 1) 9 beforeMove.db
      ((batchMoveClientsUnder (fun _ _ => false) (givenId [])
        ⟨[str "c1"], some 1, some 9⟩).exec beforeMove).db ∧
    ¬ KeepsMembers [str "c1"] (some 1) 2 beforeMove.db
      ((batchMoveClientsUnder (fun _ statement => statement = .enter) (givenId [])
        ⟨[str "c1"], some 1, some 2⟩).exec beforeMove).db := by
  refine ⟨fun hkeeps => ?_, fun hkeeps => ?_⟩
  · have hmember := hkeeps.kept (str "c1") (by simp) (by unfold HasClient; decide +kernel) 1 rfl
      (by decide +kernel)
    revert hmember
    decide +kernel
  · have hmember := hkeeps.kept (str "c1") (by simp) (by unfold HasClient; decide +kernel) 1 rfl
      (by decide +kernel)
    revert hmember
    decide +kernel

end LostClient

end RustDns.Api.ClientGroups
