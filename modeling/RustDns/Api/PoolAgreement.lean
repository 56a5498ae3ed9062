import RustDns.Api.Upstreams

/-!
# The pool and the rows

After a tick of the health task of `main.rs` the pool should hold the rows that are
active and not known to be down.  Of the tasks that write these rows only some reload
the pool, so this holds for some runs only (`Admissible`): a probe changes no status
unless a reload comes after it, a pool that is stored was built from rows that are
still current, and no list of addresses is written that is empty.

The invariant is that pool and rows agree or that some task in flight owes a reload
(`Invariant`).
-/

namespace RustDns.Api.Upstreams

open UpstreamPool HealthTask

/-! ## Agreement -/

def isDown (status : Str) : Bool := status == str "degraded" || status == str "dead"

def isServed (row : DnsUpstream) : Bool := row.isActive && ! isDown row.healthStatus

/-- A row without its status, which a node need not share. -/
def withoutStatus (row : DnsUpstream) : DnsUpstream := { row with healthStatus := [] }

def served (rows : List DnsUpstream) : List DnsUpstream := (rows.filter isServed).map withoutStatus

def expected (rows : List DnsUpstream) : List DnsUpstream :=
  if served rows = [] then [withoutStatus (fallbackNode false).model] else served rows

def models (pool : UpstreamPool) : List DnsUpstream :=
  pool.nodes.map fun node => withoutStatus node.model

/-- The nodes are exactly the rows that belong into the pool. -/
def Agrees (shared : Shared) : Prop :=
  (models shared.pool).Perm (expected shared.db.dnsUpstreams.rows)

instance decidableAgrees (shared : Shared) : Decidable (Agrees shared) :=
  inferInstanceAs (Decidable (List.Perm _ _))

variable {rows rows' : List DnsUpstream} {shared : Shared} {verdict : Verdict}

theorem expected_perm (hserved : (served rows).Perm (served rows')) :
    (expected rows).Perm (expected rows') := by
  unfold expected
  by_cases hempty : served rows = []
  · have hempty' : served rows' = [] := by
      rw [hempty] at hserved
      exact hserved.symm.eq_nil
    rw [if_pos hempty, if_pos hempty']
  · have hempty' : served rows' ≠ [] := by
      intro hnil
      rw [hnil] at hserved
      exact hempty hserved.eq_nil
    rw [if_neg hempty, if_neg hempty']
    exact hserved

theorem Agrees.exists_node (hagrees : Agrees shared) {row : DnsUpstream}
    (hrow : row ∈ shared.db.dnsUpstreams) (hactive : row.isActive = true)
    (hhealthy : row.healthStatus = str "healthy") :
    ∃ node ∈ shared.pool.nodes, node.model.id = row.id := by
  have hserved : withoutStatus row ∈ served shared.db.dnsUpstreams.rows := by
    refine List.mem_map.mpr ⟨row, List.mem_filter.mpr ⟨hrow, ?_⟩, rfl⟩
    rw [isServed, hactive, hhealthy]
    decide
  have hexpected : withoutStatus row ∈ expected shared.db.dnsUpstreams.rows := by
    rw [expected, if_neg (List.ne_nil_of_mem hserved)]
    exact hserved
  obtain ⟨node, hnode, hmodel⟩ := List.mem_map.mp (hagrees.mem_iff.mpr hexpected)
  exact ⟨node, hnode, (DnsUpstream.mk.inj hmodel).1⟩

section New

variable [SerdeJson]

def HasAddresses (row : DnsUpstream) : Prop :=
  ∃ address rest, SerdeJson.stringVec row.addresses = some (address :: rest)

instance decidableHasAddresses (row : DnsUpstream) : Decidable (HasAddresses row) :=
  match haddresses : SerdeJson.stringVec row.addresses with
  | some (address :: rest) => .isTrue ⟨address, rest, haddresses⟩
  | some [] => .isFalse fun ⟨_, _, hcons⟩ => by simp [haddresses] at hcons
  | none => .isFalse fun ⟨_, _, hcons⟩ => by simp [haddresses] at hcons

variable {row : DnsUpstream} {rows : List DnsUpstream}

theorem nodeOf_eq_some (preferIpv4 : Bool) (haddresses : HasAddresses row)
    (hserved : isServed row = true) :
    ∃ node, nodeOf preferIpv4 row = some node ∧ node.model = row := by
  obtain ⟨address, rest, hvec⟩ := haddresses
  refine ⟨⟨row, .withUpstreams (address :: rest) preferIpv4, 0⟩, ?_, rfl⟩
  simp only [isServed, isDown, Bool.and_eq_true, Bool.not_eq_true', Bool.or_eq_false_iff] at hserved
  simp [nodeOf, hvec, hserved.1, hserved.2.1, hserved.2.2]

theorem nodeOf_eq_none {preferIpv4 : Bool} (hserved : isServed row = false) :
    nodeOf preferIpv4 row = none := by
  have hskipped : (!row.isActive || row.healthStatus == str "degraded" ||
      row.healthStatus == str "dead") = true := by
    rw [isServed, isDown] at hserved
    revert hserved
    cases row.isActive <;> cases row.healthStatus == str "degraded" <;>
      cases row.healthStatus == str "dead" <;> simp
  rw [nodeOf, if_pos hskipped]

theorem map_filterMap_nodeOf (preferIpv4 : Bool) (haddresses : ∀ row ∈ rows, HasAddresses row) :
    (rows.filterMap (nodeOf preferIpv4)).map (fun node => withoutStatus node.model) =
      served rows := by
  induction rows with
  | nil => rfl
  | cons row rest ih =>
    have hrest := ih fun other hother => haddresses other (List.mem_cons_of_mem _ hother)
    unfold served at hrest ⊢
    cases hserved : isServed row with
    | true =>
      obtain ⟨node, hnode, hmodel⟩ :=
        nodeOf_eq_some preferIpv4 (haddresses row List.mem_cons_self) hserved
      rw [List.filterMap_cons_some hnode, List.filter_cons_of_pos hserved, List.map_cons,
        List.map_cons, hrest, hmodel]
    | false =>
      rw [List.filterMap_cons_none (nodeOf_eq_none hserved),
        List.filter_cons_of_neg (by simp [hserved]), hrest]

theorem models_new [Unicode] (strategy : Str) (preferIpv4 : Bool)
    (haddresses : ∀ row ∈ rows, HasAddresses row) :
    (models (new rows strategy preferIpv4)).Perm (expected rows) := by
  have hnodes := map_filterMap_nodeOf preferIpv4 haddresses
  have hperm := List.perm_insertionSort
    (fun node other : UpstreamNode => node.model.priority ≤ other.model.priority)
    (rows.filterMap (nodeOf preferIpv4))
  unfold models UpstreamPool.new expected
  dsimp only
  rw [← hnodes]
  split_ifs with hsorted hserved hserved
  · exact List.Perm.refl _
  · -- without nodes no row is served
    rw [hsorted] at hperm
    rw [hperm.symm.eq_nil] at hserved
    exact absurd rfl hserved
  · rw [List.map_eq_nil_iff.mp hserved] at hsorted
    exact absurd rfl hsorted
  · exact hperm.map _

end New

theorem listUpstreams_perm (db : Database) : (listUpstreams db).Perm db.dnsUpstreams.rows :=
  List.perm_insertionSort _ _

theorem served_perm (hperm : rows.Perm rows') : (served rows).Perm (served rows') :=
  (hperm.filter _).map _

/-! ## What changes nothing -/

@[simp] theorem models_healthCheckAll [Wire] (pool : UpstreamPool) (probes : UpstreamNode → Probe) :
    models (pool.healthCheckAll probes).2 = models pool := by
  unfold models healthCheckAll
  dsimp only
  rw [List.map_map]
  refine List.map_congr_left fun node _ => ?_
  dsimp only [Function.comp]
  split <;> rfl

@[simp] theorem models_updateLatency (pool : UpstreamPool) (id : Str) (latencyMs : ℤ) :
    models (updateLatency pool id latencyMs) = models pool := by
  unfold models updateLatency
  dsimp only
  rw [List.map_map]
  refine List.map_congr_left fun node _ => ?_
  dsimp only [Function.comp]
  split <;> rfl

@[simp] theorem recordAll_fst_db (shared : Shared) (results : List (Str × ℤ × Bool)) :
    (shared.recordAll results).1.db = shared.db := by
  induction results generalizing shared with
  | nil => rfl
  | cons result rest ih => exact ih _

@[simp] theorem recordAll_fst_pool (shared : Shared) (results : List (Str × ℤ × Bool)) :
    (shared.recordAll results).1.pool = shared.pool := by
  induction results generalizing shared with
  | nil => rfl
  | cons result rest ih => exact ih _

@[simp] theorem recordAll_fst_ticks (shared : Shared) (results : List (Str × ℤ × Bool)) :
    (shared.recordAll results).1.ticks = shared.ticks := by
  induction results generalizing shared with
  | nil => rfl
  | cons result rest ih => exact ih _

def Unchanged (shared : Shared) (verdict : Verdict) : Prop :=
  ∀ row ∈ shared.db.dnsUpstreams, row.id = verdict.id → row.isActive = true →
    isDown row.healthStatus = ! verdict.isHealthy

instance decidableUnchanged (shared : Shared) (verdict : Verdict) :
    Decidable (Unchanged shared verdict) :=
  inferInstanceAs (Decidable (∀ row ∈ shared.db.dnsUpstreams.rows, _ → _ → _ = _))

theorem isDown_statusText (isHealthy : Bool) : isDown (statusText isHealthy) = ! isHealthy := by
  cases isHealthy <;> decide

theorem served_report (hunchanged : Unchanged shared verdict) :
    served (shared.report verdict).db.dnsUpstreams.rows = served shared.db.dnsUpstreams.rows := by
  unfold served Shared.report Shared.modifyRows Table.updateWhere
  dsimp only
  rw [List.filter_map, List.map_map]
  have hside : ∀ row ∈ shared.db.dnsUpstreams.rows,
      (isServed ∘ fun row => if row.id == verdict.id then
        { row with healthStatus := statusText verdict.isHealthy } else row) row =
        isServed row := by
    intro row hrow
    dsimp only [Function.comp]
    split_ifs with hid
    · rw [isServed, isServed, isDown_statusText]
      cases hactive : row.isActive with
      | false => rfl
      | true => rw [hunchanged row hrow (by simpa using hid) hactive]
    · rfl
  rw [List.filter_congr hside]
  refine List.map_congr_left fun row _ => ?_
  dsimp only [Function.comp]
  split_ifs <;> rfl

theorem Agrees.report (hunchanged : Unchanged shared verdict) (hagrees : Agrees shared) :
    Agrees (shared.report verdict) := by
  refine List.Perm.trans hagrees (expected_perm ?_)
  rw [served_report hunchanged]

/-! ## Debts and conditions -/

def Owes : Task → Prop
  | .writing _ _ needsReload => needsReload = true
  | .tickReload _ => True
  | .requestReload _ _ => True
  | _ => False

instance decidableOwes : DecidablePred Owes
  | .writing _ _ needsReload => inferInstanceAs (Decidable (needsReload = true))
  | .tickReload _ | .requestReload _ _ => .isTrue trivial
  | .idle | .probed _ | .apiIdle | .apiChecking _ | .create _ | .update _ _ | .updateRow _
  | .delete _ | .test _ | .testRow _ _ | .settings _ => .isFalse id

def Current (shared : Shared) (upstreams : List DnsUpstream) : Prop :=
  (served upstreams).Perm (served shared.db.dnsUpstreams.rows)

section Conditions

variable [SerdeJson]

/-- The steps that keep pool and rows together. -/
def Admissible (shared : Shared) (others : List Task) (task : Task) (input : Input) : Prop :=
  match task with
  | .idle =>
    -- a tick without a node to check ends at once
    (∀ node ∈ shared.pool.nodes, node.model.healthCheckEnabled = false) →
      ∀ other ∈ others, ¬ Owes other
  | .writing _ [] needsReload => needsReload = false → ∀ other ∈ others, ¬ Owes other
  | .writing upstreams (verdict :: rest) needsReload =>
    needsReload = false → notices upstreams verdict = false →
      (Unchanged shared verdict ∨ ∃ other ∈ others, Owes other) ∧
        (rest = [] → ∀ other ∈ others, ¬ Owes other)
  | .tickReload (.store upstreams _) => Current shared upstreams
  | .requestReload (.store upstreams _) _ =>
    Current shared upstreams ∨ ∃ other ∈ others, Owes other
  | .apiChecking _ | .testRow _ _ =>
    ∀ verdict ∈ verdictOf shared task input,
      Unchanged shared verdict ∨ ∃ other ∈ others, Owes other
  | .create body => ∀ row ∈ (createdRow input.newId body).toOption, HasAddresses row
  | .updateRow row => HasAddresses row
  | _ => True

instance decidableCurrent (shared : Shared) (upstreams : List DnsUpstream) :
    Decidable (Current shared upstreams) :=
  inferInstanceAs (Decidable (List.Perm _ _))

instance decidableAdmissible (shared : Shared) (others : List Task) (input : Input) :
    (task : Task) → Decidable (Admissible shared others task input)
  | .idle => inferInstanceAs (Decidable ((∀ node ∈ shared.pool.nodes, _ = _) → _))
  | .writing _ [] _ => inferInstanceAs (Decidable (_ = _ → _))
  | .writing _ (_ :: _) _ => inferInstanceAs (Decidable (_ = _ → _ = _ → _))
  | .tickReload (.store upstreams _) => inferInstanceAs (Decidable (Current shared upstreams))
  | .requestReload (.store upstreams _) _ =>
    inferInstanceAs (Decidable (Current shared upstreams ∨ _))
  | .apiChecking rows =>
    inferInstanceAs (Decidable (∀ verdict ∈ verdictOf shared (.apiChecking rows) input, _ ∨ _))
  | .testRow row first =>
    inferInstanceAs (Decidable (∀ verdict ∈ verdictOf shared (.testRow row first) input, _ ∨ _))
  | .create body =>
    inferInstanceAs (Decidable (∀ row ∈ (createdRow input.newId body).toOption, HasAddresses row))
  | .updateRow row => inferInstanceAs (Decidable (HasAddresses row))
  | .probed _ | .tickReload .list | .tickReload (.strategy _) | .requestReload .list _
  | .requestReload (.strategy _) _ | .apiIdle | .update _ _ | .delete _ | .test _
  | .settings _ => .isTrue trivial

def ReloadPoint.Prepared : ReloadPoint → Prop
  | .list => True
  | .strategy upstreams => ∀ row ∈ upstreams, HasAddresses row
  | .store upstreams _ => ∀ row ∈ upstreams, HasAddresses row

def Task.Prepared : Task → Prop
  | .tickReload point => point.Prepared
  | .requestReload point _ => point.Prepared
  | _ => True

structure Invariant (shared : Shared) (tasks : List Task) : Prop where
  addresses : ∀ row ∈ shared.db.dnsUpstreams, HasAddresses row
  prepared : ∀ task ∈ tasks, task.Prepared
  settled : Tasks.Settled (Agrees shared) Owes tasks

theorem Invariant.perm {shared : Shared} {tasks tasks' : List Task} (hperm : tasks.Perm tasks')
    (hinvariant : Invariant shared tasks) : Invariant shared tasks' where
  addresses := hinvariant.addresses
  prepared task htask := hinvariant.prepared task (hperm.symm.subset htask)
  settled := hinvariant.settled.perm hperm

theorem Invariant.begin {shared : Shared} {tasks : List Task} (request : Request)
    (hinvariant : Invariant shared tasks) : Invariant shared (request.begin :: tasks) where
  addresses := hinvariant.addresses
  prepared := by
    refine List.forall_mem_cons.mpr ⟨?_, hinvariant.prepared⟩
    cases request <;> trivial
  settled := hinvariant.settled.cons _

end Conditions

/-! ## Steps -/

section Steps

variable [SerdeJson]

structure Kept (shared after : Shared) (tasks : List Task) : Prop where
  invariant : Invariant after tasks
  tick : shared.ticks < after.ticks → Agrees after

variable {shared after : Shared} {others : List Task} {task : Task} {next : Option Task}

/-- What is to be shown of a step: pool and rows agree, or the step ends no tick and
somebody owes a reload. -/
theorem kept_of (hinvariant : Invariant shared (task :: others))
    (haddresses : ∀ row ∈ after.db.dnsUpstreams, HasAddresses row)
    (hnext : ∀ task ∈ next, task.Prepared)
    (hafter : Agrees after ∨ after.ticks = shared.ticks ∧
      ((∃ task ∈ next, Owes task) ∨ ∃ other ∈ others, Owes other)) :
    Kept shared after (next.toList ++ others) where
  invariant :=
    { addresses := haddresses
      prepared := Tasks.forall_next hnext (List.forall_mem_cons.mp hinvariant.prepared).2
      settled := by
        rcases hafter with hagrees | ⟨-, ⟨task, htask, howes⟩ | howes⟩
        · exact Or.inl hagrees
        · exact Or.inr ⟨task, List.mem_append_left _ (Option.mem_toList.mpr htask), howes⟩
        · exact Tasks.settled_of_others next howes }
  tick := by
    intro hticks
    rcases hafter with hagrees | ⟨hsame, -⟩
    · exact hagrees
    · omega

theorem Invariant.agrees (hinvariant : Invariant shared (task :: others)) (hnot : ¬ Owes task)
    (hothers : ∀ other ∈ others, ¬ Owes other) : Agrees shared := by
  rcases hinvariant.settled.or_others hnot with hagrees | ⟨other, hother, howes⟩
  · exact hagrees
  · exact absurd howes (hothers other hother)

theorem kept_quiet (hinvariant : Invariant shared (task :: others)) (hnot : ¬ Owes task)
    (hrows : after.db.dnsUpstreams = shared.db.dnsUpstreams)
    (hmodels : models after.pool = models shared.pool) (hticks : after.ticks = shared.ticks)
    (hnext : ∀ task ∈ next, task.Prepared) : Kept shared after (next.toList ++ others) := by
  refine kept_of hinvariant (hrows ▸ hinvariant.addresses) hnext ?_
  rcases hinvariant.settled.or_others hnot with hagrees | howes
  · left
    rw [Agrees, hrows, hmodels]
    exact hagrees
  · exact Or.inr ⟨hticks, Or.inr howes⟩

theorem kept_tick (hinvariant : Invariant shared (task :: others)) (hnot : ¬ Owes task)
    (hothers : ∀ other ∈ others, ¬ Owes other)
    (hrows : after.db.dnsUpstreams = shared.db.dnsUpstreams)
    (hmodels : models after.pool = models shared.pool) (hnext : ∀ task ∈ next, task.Prepared) :
    Kept shared after (next.toList ++ others) := by
  refine kept_of hinvariant (hrows ▸ hinvariant.addresses) hnext (Or.inl ?_)
  rw [Agrees, hrows, hmodels]
  exact hinvariant.agrees hnot hothers

theorem kept_owing (hinvariant : Invariant shared (task :: others))
    (haddresses : ∀ row ∈ after.db.dnsUpstreams, HasAddresses row) {nextTask : Task}
    (hticks : after.ticks = shared.ticks) (howes : Owes nextTask) (hnext : nextTask.Prepared) :
    Kept shared after ((some nextTask).toList ++ others) := by
  refine kept_of hinvariant haddresses ?_ (Or.inr ⟨hticks, Or.inl ⟨nextTask, rfl, howes⟩⟩)
  exact Tasks.forall_some hnext

variable {verdict : Verdict} {upstreams : List DnsUpstream}

theorem forall_report (haddresses : ∀ row ∈ shared.db.dnsUpstreams, HasAddresses row) :
    ∀ row ∈ (shared.report verdict).db.dnsUpstreams, HasAddresses row := by
  intro row hrow
  obtain ⟨old, hold, rfl⟩ := List.mem_map.mp hrow
  split_ifs
  · exact haddresses old hold
  · exact haddresses old hold

theorem kept_report (hinvariant : Invariant shared (task :: others)) (hnot : ¬ Owes task)
    (hrows : after.db.dnsUpstreams = (shared.report verdict).db.dnsUpstreams)
    (hmodels : models after.pool = models shared.pool) (hticks : after.ticks = shared.ticks)
    (hnext : ∀ task ∈ next, task.Prepared)
    (hverdict : Unchanged shared verdict ∨ ∃ other ∈ others, Owes other) :
    Kept shared after (next.toList ++ others) := by
  have haddresses : ∀ row ∈ after.db.dnsUpstreams, HasAddresses row := by
    rw [hrows]
    exact forall_report hinvariant.addresses
  refine kept_of hinvariant haddresses hnext ?_
  rcases hverdict with hunchanged | howes
  · rcases hinvariant.settled.or_others hnot with hagrees | howes
    · left
      rw [Agrees, hrows, hmodels]
      exact hagrees.report hunchanged
    · exact Or.inr ⟨hticks, Or.inr howes⟩
  · exact Or.inr ⟨hticks, Or.inr howes⟩

theorem forall_listUpstreams (haddresses : ∀ row ∈ shared.db.dnsUpstreams, HasAddresses row) :
    ∀ row ∈ listUpstreams shared.db, HasAddresses row :=
  fun row hrow => haddresses row ((listUpstreams_perm shared.db).subset hrow)

theorem prepared_nextRow (rows : List DnsUpstream) : (nextRow rows).Prepared := by
  cases rows <;> trivial

variable [Unicode]

theorem agrees_store {strategy : Str} {preferIpv4 : Bool}
    (hprepared : ∀ row ∈ upstreams, HasAddresses row) (hcurrent : Current shared upstreams)
    (hrows : after.db.dnsUpstreams = shared.db.dnsUpstreams)
    (hpool : after.pool = new upstreams strategy preferIpv4) : Agrees after := by
  rw [Agrees, hrows, hpool]
  exact (models_new strategy preferIpv4 hprepared).trans (expected_perm hcurrent)

variable [Wire] {preferIpv4 : Bool} {input : Input}

theorem kept_writing {rest : List Verdict} {needsReload : Bool}
    (hinvariant : Invariant shared (.writing upstreams (verdict :: rest) needsReload :: others))
    (hadmissible :
      Admissible shared others (.writing upstreams (verdict :: rest) needsReload) input) :
    Kept shared (act preferIpv4 shared (.writing upstreams (verdict :: rest) needsReload) input).1
      ((act preferIpv4 shared (.writing upstreams (verdict :: rest) needsReload) input).2.toList ++
        others) := by
  have haddresses : ∀ row ∈ (shared.report verdict).db.dnsUpstreams, HasAddresses row :=
    forall_report hinvariant.addresses
  cases hneeds : (needsReload || notices upstreams verdict) with
  | true =>
    simp only [act, actNext, finishTick, hneeds, if_true]
    split_ifs
    · exact kept_owing hinvariant haddresses rfl trivial trivial
    · exact kept_owing hinvariant haddresses rfl rfl trivial
  | false =>
    obtain ⟨rfl, hnotices⟩ := Bool.or_eq_false_iff.mp hneeds
    obtain ⟨hverdict, hlast⟩ := hadmissible rfl hnotices
    have hnot : ¬ Owes (.writing upstreams (verdict :: rest) false) := Bool.false_ne_true
    simp only [act, actNext, finishTick, hneeds, Bool.false_eq_true, if_false]
    split_ifs with hrest
    · -- the tick ends here, and nobody else is going to reload
      have hothers := hlast hrest
      have hunchanged : Unchanged shared verdict :=
        hverdict.resolve_right fun ⟨other, hother, howes⟩ => hothers other hother howes
      refine kept_of hinvariant haddresses (Tasks.forall_some trivial) (Or.inl ?_)
      exact (hinvariant.agrees hnot hothers).report hunchanged
    · exact kept_report hinvariant hnot rfl rfl rfl (Tasks.forall_some trivial) hverdict

theorem kept_idle (hinvariant : Invariant shared (.idle :: others))
    (hadmissible : Admissible shared others .idle input) :
    Kept shared (act preferIpv4 shared .idle input).1
      ((act preferIpv4 shared .idle input).2.toList ++ others) := by
  simp only [act, actNext]
  split_ifs with hresults hempty
  · -- no results, so there is no node to be checked
    have hnodes : ∀ node ∈ shared.pool.nodes, node.model.healthCheckEnabled = false := by
      intro node hnode
      by_contra hchecked
      rw [hempty] at hresults
      have hnone : checks shared.pool input.probes = 0 := Multiset.map_eq_zero.mp hresults.symm
      have hreport : checkNode node (input.probes node) ∈ checks shared.pool input.probes :=
        mem_checks.mpr ⟨node, hnode, by simpa using hchecked, rfl⟩
      rw [hnone] at hreport
      exact absurd hreport (Multiset.notMem_zero _)
    refine kept_tick hinvariant id (hadmissible hnodes) rfl ?_ (Tasks.forall_some trivial)
    exact models_healthCheckAll shared.pool input.probes
  · refine kept_quiet hinvariant id (by simp) ?_ (by simp) (Tasks.forall_some trivial)
    rw [recordAll_fst_pool]
    exact models_healthCheckAll shared.pool input.probes
  · exact kept_quiet hinvariant id rfl rfl rfl (Tasks.forall_some trivial)

theorem kept_act (hinvariant : Invariant shared (task :: others))
    (hadmissible : Admissible shared others task input) :
    Kept shared (act preferIpv4 shared task input).1
      ((act preferIpv4 shared task input).2.toList ++ others) := by
  have hprepared : task.Prepared := hinvariant.prepared task List.mem_cons_self
  cases task with
  | idle => exact kept_idle hinvariant hadmissible
  | probed verdicts => exact kept_quiet hinvariant id rfl rfl rfl (Tasks.forall_some trivial)
  | writing upstreams verdicts needsReload =>
    cases verdicts with
    | nil =>
      cases needsReload with
      | true => exact kept_owing hinvariant hinvariant.addresses rfl trivial trivial
      | false =>
        exact kept_tick hinvariant Bool.false_ne_true (hadmissible rfl) rfl rfl
          (Tasks.forall_some trivial)
    | cons verdict rest => exact kept_writing hinvariant hadmissible
  | tickReload point =>
    cases point with
    | list =>
      exact kept_owing hinvariant hinvariant.addresses rfl trivial
        (forall_listUpstreams hinvariant.addresses)
    | strategy upstreams =>
      exact kept_owing hinvariant hinvariant.addresses rfl trivial hprepared
    | store upstreams strategy =>
      refine kept_of hinvariant hinvariant.addresses (Tasks.forall_some trivial) (Or.inl ?_)
      exact agrees_store hprepared hadmissible rfl rfl
  | apiIdle =>
    exact kept_quiet hinvariant id rfl rfl rfl (Tasks.forall_some (prepared_nextRow _))
  | apiChecking rows =>
    cases rows with
    | nil => exact kept_quiet hinvariant id rfl rfl rfl (Tasks.forall_some trivial)
    | cons row rest =>
      simp only [act, actNext]
      split
      · exact kept_quiet hinvariant id rfl rfl rfl (Tasks.forall_some (prepared_nextRow _))
      · next verdict hverdict =>
        exact kept_report hinvariant id rfl (models_updateLatency _ _ _) rfl
          (Tasks.forall_some (prepared_nextRow _)) (hadmissible verdict hverdict)
  | create body =>
    simp only [act, actNext]
    split
    · exact kept_quiet hinvariant id rfl rfl rfl Tasks.forall_none
    · next row hrow =>
      split
      · exact kept_quiet hinvariant id rfl rfl rfl Tasks.forall_none
      · next rows hinsert =>
        refine kept_owing hinvariant ?_ rfl trivial trivial
        intro other hother
        have hother : other ∈ rows.rows := hother
        rw [Table.rows_of_insert hinsert] at hother
        rcases List.mem_append.mp hother with hother | hother
        · exact hinvariant.addresses other hother
        · obtain rfl := List.mem_singleton.mp hother
          exact hadmissible other (by simp [hrow, Except.toOption])
  | update id body =>
    simp only [act, actNext]
    split
    · exact kept_quiet hinvariant not_false rfl rfl rfl Tasks.forall_none
    · exact kept_quiet hinvariant not_false rfl rfl rfl (Tasks.forall_some trivial)
  | updateRow row =>
    refine kept_owing hinvariant ?_ rfl trivial trivial
    intro other hother
    obtain ⟨old, hold, rfl⟩ := List.mem_map.mp hother
    split_ifs
    · exact hadmissible
    · exact hinvariant.addresses old hold
  | delete id =>
    simp only [act, actNext]
    split_ifs
    · exact kept_quiet hinvariant not_false rfl rfl rfl Tasks.forall_none
    · refine kept_owing hinvariant ?_ rfl trivial trivial
      exact fun row hrow => hinvariant.addresses row (List.mem_of_mem_filter hrow)
  | test id =>
    simp only [act, actNext]
    split
    · exact kept_quiet hinvariant not_false rfl rfl rfl Tasks.forall_none
    · split
      · exact kept_quiet hinvariant not_false rfl rfl rfl Tasks.forall_none
      · exact kept_quiet hinvariant not_false rfl rfl rfl Tasks.forall_none
      · exact kept_quiet hinvariant not_false rfl rfl rfl (Tasks.forall_some trivial)
  | testRow row first =>
    exact kept_report hinvariant not_false rfl rfl rfl Tasks.forall_none (hadmissible _ rfl)
  | settings strategy =>
    simp only [act, actNext]
    split_ifs
    · exact kept_quiet hinvariant not_false rfl rfl rfl Tasks.forall_none
    · refine kept_owing hinvariant ?_ rfl trivial trivial
      exact hinvariant.addresses
  | requestReload point reply =>
    cases point with
    | list =>
      exact kept_owing hinvariant hinvariant.addresses rfl trivial
        (forall_listUpstreams hinvariant.addresses)
    | strategy upstreams =>
      exact kept_owing hinvariant hinvariant.addresses rfl trivial hprepared
    | store upstreams strategy =>
      refine kept_of hinvariant hinvariant.addresses Tasks.forall_none ?_
      rcases hadmissible with hcurrent | howes
      · exact Or.inl (agrees_store hprepared hcurrent rfl rfl)
      · exact Or.inr ⟨rfl, Or.inr howes⟩

/-- **When pool and rows agree.**  After every tick of an admissible run the nodes of
the pool are the rows that are active and not known to be down; in particular an
upstream that is healthy again is back. -/
theorem agrees_after_tick (preferIpv4 : Bool) (db : Database)
    (haddresses : ∀ row ∈ db.dnsUpstreams, HasAddresses row)
    (events : List (Tasks.Event Request Input))
    (hadmissible : ∀ point ∈ Machine.trace (step preferIpv4) (start preferIpv4 db) events,
      Tasks.AtAdvance Admissible point.1 point.2) :
    ∀ point ∈ Machine.trace (step preferIpv4) (start preferIpv4 db) events,
      point.1.shared.ticks < (step preferIpv4 point.1 point.2).1.shared.ticks →
        Agrees (step preferIpv4 point.1 point.2).1.shared ∧
          ∀ row ∈ (step preferIpv4 point.1 point.2).1.shared.db.dnsUpstreams,
            row.isActive = true → row.healthStatus = str "healthy" →
              ∃ node ∈ (step preferIpv4 point.1 point.2).1.shared.pool.nodes,
                node.model.id = row.id := by
  have hinit : Invariant (start preferIpv4 db).shared (start preferIpv4 db).tasks := by
    refine ⟨haddresses, ?_, Or.inl ?_⟩
    · intro task htask
      rcases List.mem_pair.mp htask with rfl | rfl <;> trivial
    · refine (models_new _ preferIpv4 ?_).trans
        (expected_perm (served_perm (listUpstreams_perm db)))
      exact fun row hrow => haddresses row ((listUpstreams_perm db).subset hrow)
  have hact : ∀ shared others task input, Invariant shared (task :: others) →
      Admissible shared others task input → Invariant (act preferIpv4 shared task input).1
        ((act preferIpv4 shared task input).2.toList ++ others) :=
    fun _ _ _ _ hinvariant hstep => (kept_act hinvariant hstep).invariant
  obtain ⟨-, hrun⟩ := Tasks.invariant_run Invariant (fun _ _ _ hperm => Invariant.perm hperm)
    (fun _ _ request => Invariant.begin request) hact hinit events hadmissible
  intro point hpoint hticks
  have hagrees : Agrees (step preferIpv4 point.1 point.2).1.shared := by
    rcases Tasks.step_shared_cases point.1 point.2 with
      hsame | ⟨index, input, task, hevent, htask, hshared⟩
    · rw [hsame] at hticks
      exact absurd hticks (lt_irrefl _)
    · have hstep := hadmissible point hpoint
      rw [hevent] at hstep
      rw [hshared] at hticks ⊢
      have hinvariant := (hrun point hpoint).perm (Tasks.perm_of_getElem? htask)
      exact (kept_act hinvariant (hstep task htask)).tick hticks
  exact ⟨hagrees, fun row hrow hactive hhealthy => hagrees.exists_node hrow hactive hhealthy⟩

end Steps

/-! ### An upstream that does not come back -/

section Stranded

attribute [local instance] SerdeJson.plain Wire.plain Unicode.ascii

/-- A database with the upstream of `exampleRow`. -/
def oneUpstreamDb : Database :=
  { Database.empty with dnsUpstreams := ⟨[exampleRow], by decide⟩ }

/-- The upstream fails a check of a tick, which reloads the pool; then it passes a check
of the API; then there is another tick. -/
def recoveryRun : List (Tasks.Event Request Input) :=
  [ .advance 0 { probes := fun _ => ⟨.records [], 20, 20⟩, results := [(str "u1", 20, false)] },
    .advance 0 {}, .advance 0 {}, .advance 0 {}, .advance 0 {}, .advance 0 {},
    .advance 1 {}, .advance 1 { outcome := .records [], elapsedMs := 20 },
    .advance 0 {} ]

/-- After the second tick the upstream is active and healthy, and the pool still
consists of the node that stands in. -/
theorem not_agrees_recoveryRun :
    let last := (Machine.run (step false) (start false oneUpstreamDb) recoveryRun).shared
    last.ticks = 2 ∧ last.db.dnsUpstreams.rows = [exampleRow] ∧ ¬ Agrees last := by
  decide +kernel

/-- The upstream fails a check of a tick.  Before the tick has reloaded the pool, the strategy is
changed by a request, which reloads it too, and the task of the API checks the upstream. -/
def busyTick : List (Tasks.Event Request Input) :=
  [ .advance 0 { probes := fun _ => ⟨.records [], 20, 20⟩, results := [(str "u1", 20, false)] },
    .advance 0 {}, .advance 0 {}, .start (.settings (str "fastest")), .advance 1 {},
    .advance 2 {}, .advance 0 {}, .advance 2 {}, .advance 2 {}, .advance 1 {}, .advance 0 {},
    .advance 2 {} ]

/-- The tick ends with a pool without the upstream, as the row asks for. -/
theorem agrees_busyTick :
    let last := (step false (Machine.run (step false) (start false oneUpstreamDb) busyTick)
      (.advance 0 {})).1.shared
    last.db.dnsUpstreams.rows.map (·.healthStatus) = [str "degraded"] ∧ Agrees last := by
  refine ⟨by decide +kernel, ?_⟩
  exact (agrees_after_tick false oneUpstreamDb (by decide +kernel) (busyTick ++ [.advance 0 {}])
    (by decide +kernel) _ (Machine.mem_trace_append _ _ busyTick (.advance 0 {}) [])
    (by decide +kernel)).1

end Stranded

end RustDns.Api.Upstreams
