import RustDns.Dns.Subscription

/-!
# Storing a subscription

`sync_filter_list`: the rules of a downloaded list replace the rows of
`custom_rules` that the list had before, and the number of rules is written to
`filter_lists.rule_count`.

The count is that of the rewritten rules.  A row takes effect at the next reload
only if `add_rule` accepts its rule, so the two numbers agree exactly for the
lists all of whose lines are rewritten to accepted rules
(`ruleCount_eq_effective_iff`).
-/

namespace RustDns

open Text RuleSet Reload

/-- `format!("filter:{}", filter_id)`. -/
def filterPrefix (filterId : Str) : Str := str "filter:" ++ filterId

def importedRow (filterId now id rule : Str) : CustomRule :=
  { id, rule, comment := none, isEnabled := true, createdBy := filterPrefix filterId
    createdAt := now, expiresAt := none }

section Sync

variable [Unicode]

/-- The rows that `sync_filter_list` inserts: the block rules, then the allow
rules, each with an id of its own. -/
def importedRows (newId : ℕ → Str) (now filterId content : Str) : List CustomRule :=
  ((subscriptionRules content).1 ++ (subscriptionRules content).2).mapIdx fun i rule =>
    importedRow filterId now (newId i) rule

/-- The database after the statements of `sync_filter_list`.  The batches of the
insertion only bound the number of parameters of one statement. -/
def storeRules (newId : ℕ → Str) (now filterId content : Str) (db : Database) : Database :=
  let rows := importedRows newId now filterId content
  let cleared := db.customRules.deleteWhere (·.createdBy = filterPrefix filterId)
  { db with
    customRules := rows.foldl Table.insertOrIgnore cleared
    filterLists := db.filterLists.updateWhere (·.id = filterId)
      (fun list => { list with ruleCount := rows.length, lastUpdated := some now })
      fun _ => rfl }

/-- `sync_filter_list`, given what was downloaded: the database after it and the
number it returns.  A failed download changes nothing. -/
def syncFilterList (newId : ℕ → Str) (now filterId : Str) (fetched : Option Str)
    (db : Database) : Option (Database × ℕ) :=
  fetched.map fun content =>
    (storeRules newId now filterId content db, (importedRows newId now filterId content).length)

/-- `Uuid::new_v4` gives ids that were never used. -/
structure FreshIds (newId : ℕ → Str) (table : Table CustomRule.id) : Prop where
  injective : Function.Injective newId
  unused : ∀ row ∈ table, ∀ i, row.id ≠ newId i

variable [RegexCrate]

/-- A row that a reload loads, and whose rule `add_rule` accepts. -/
def isLiveAndAccepted (now : Str) (row : CustomRule) : Bool :=
  isLive now row && (RuleSet.new.addRule row.rule).2

def effectiveRows (now filterId : Str) (db : Database) : List CustomRule :=
  db.customRules.rows.filter fun row =>
    row.createdBy = filterPrefix filterId && isLiveAndAccepted now row

end Sync

section Counting

variable [UnicodeAscii]

/-- All lines of a list are rewritten to rules that `add_rule` accepts. -/
def ListLoads (content : Str) : Prop :=
  if isHostsFormat content then ∀ line ∈ lines content, HostsLineLoads line
  else ∀ line ∈ lines content, isSkipped (trim line) = true ∨ LineLoads (trim line)

theorem parseAdguardRules_accepted_iff (content : Str) :
    (∀ rule ∈ (parseAdguardRules content).1 ++ (parseAdguardRules content).2,
        (parseLine rule).isSome = true) ↔
      ∀ line ∈ lines content, isSkipped (trim line) = true ∨ LineLoads (trim line) := by
  simp only [← adguardLine_accepted_iff, parseAdguardRules, List.mem_append, mem_adguardRules]
  constructor
  · rintro haccepted line hline ⟨action, rule⟩ hrule
    cases action with
    | allow => exact haccepted rule (Or.inr ⟨line, hline, hrule⟩)
    | block => exact haccepted rule (Or.inl ⟨line, hline, hrule⟩)
  · rintro haccepted rule (⟨line, hline, hrule⟩ | ⟨line, hline, hrule⟩)
    · exact haccepted line hline _ hrule
    · exact haccepted line hline _ hrule

theorem parseHostsRules_accepted_iff (content : Str) :
    (∀ rule ∈ parseHostsRules content, (parseLine rule).isSome = true) ↔
      ∀ line ∈ lines content, HostsLineLoads line := by
  simp only [← hostsLine_accepted_iff, parseHostsRules, List.mem_filterMap]
  constructor
  · exact fun haccepted line hline rule hrule => haccepted rule ⟨line, hline, hrule⟩
  · rintro haccepted rule ⟨line, hline, hrule⟩
    exact haccepted line hline rule hrule

theorem subscriptionRules_accepted_iff (content : Str) :
    (∀ rule ∈ (subscriptionRules content).1 ++ (subscriptionRules content).2,
        (parseLine rule).isSome = true) ↔ ListLoads content := by
  unfold subscriptionRules ListLoads
  split_ifs
  · rw [List.append_nil, parseHostsRules_accepted_iff]
  · exact parseAdguardRules_accepted_iff content

variable [RegexCrate]

theorem addRule_accepts (rs : RuleSet) (rule : Str) :
    (rs.addRule rule).2 = (parseLine rule).isSome := by
  rw [addRule_eq]
  cases parseLine rule <;> rfl

variable {newId : ℕ → Str} {now filterId content later : Str} {db : Database}

omit [RegexCrate] [UnicodeAscii] in
theorem nodup_importedRows [Unicode] {table : Table CustomRule.id} (hfresh : FreshIds newId table)
    (condition : CustomRule → Bool) :
    (((table.deleteWhere condition).rows ++
      importedRows newId now filterId content).map CustomRule.id).Nodup := by
  have hids : (importedRows newId now filterId content).map CustomRule.id =
      (List.range (importedRows newId now filterId content).length).map newId := by
    refine List.ext_getElem (by simp) fun i hi hi' => ?_
    simp [importedRows, importedRow]
  rw [List.map_append, List.nodup_append, hids]
  refine ⟨(table.deleteWhere condition).nodup, List.nodup_range.map hfresh.injective, ?_⟩
  intro id hid id' hid'
  obtain ⟨row, hrow, rfl⟩ := List.mem_map.mp hid
  obtain ⟨i, -, rfl⟩ := List.mem_map.mp hid'
  exact hfresh.unused row (List.mem_of_mem_filter hrow) i

theorem effectiveRows_storeRules (hfresh : FreshIds newId db.customRules) :
    effectiveRows later filterId (storeRules newId now filterId content db) =
      (importedRows newId now filterId content).filter fun row => (parseLine row.rule).isSome := by
  have hold : (db.customRules.deleteWhere (·.createdBy = filterPrefix filterId)).rows.filter
      (fun row => row.createdBy = filterPrefix filterId && isLiveAndAccepted later row) = [] := by
    rw [List.filter_eq_nil_iff]
    intro row hrow
    have hcreated := (List.mem_filter.mp hrow).2
    simp_all
  rw [effectiveRows, storeRules, Table.rows_foldl_insertOrIgnore (nodup_importedRows hfresh _),
    List.filter_append, hold, List.nil_append]
  refine List.filter_congr fun row hrow => ?_
  obtain ⟨i, hi, rfl⟩ := List.mem_mapIdx.mp hrow
  simp [importedRow, isLiveAndAccepted, isLive, addRule_accepts]

/-- The number of inserted rows is that of the effective ones when all rules are
accepted. -/
theorem length_effectiveRows_eq_iff (hfresh : FreshIds newId db.customRules) :
    (importedRows newId now filterId content).length =
        (effectiveRows later filterId (storeRules newId now filterId content db)).length ↔
      ListLoads content := by
  rw [effectiveRows_storeRules hfresh, ← subscriptionRules_accepted_iff, eq_comm,
    List.length_filter_eq_length_iff]
  unfold importedRows
  constructor
  · intro hall rule hrule
    obtain ⟨i, hi, rfl⟩ := List.getElem_of_mem hrule
    exact hall (importedRow filterId now (newId i) _) (List.mem_mapIdx.mpr ⟨i, hi, rfl⟩)
  · intro hall row hrow
    obtain ⟨i, hi, rfl⟩ := List.mem_mapIdx.mp hrow
    exact hall _ (List.getElem_mem hi)

/-- **Which lists are stored without loss.**  All rules that a parser makes of a
text are accepted by `add_rule` exactly when each of its lines is rewritten to an
acceptable body; and the count that a download stores is that of the rows that
take effect exactly when this holds for the parser that was chosen. -/
theorem ruleCount_eq_effective_iff (content : Str) :
    ((∀ rule ∈ (parseAdguardRules content).1 ++ (parseAdguardRules content).2,
          ∀ rs : RuleSet, (rs.addRule rule).2 = true) ↔
        ∀ line ∈ lines content, isSkipped (trim line) = true ∨ LineLoads (trim line)) ∧
      ((∀ rule ∈ parseHostsRules content, ∀ rs : RuleSet, (rs.addRule rule).2 = true) ↔
        ∀ line ∈ lines content, HostsLineLoads line) ∧
      ∀ (newId : ℕ → Str) (now later filterId : Str) (db after : Database) (count : ℕ),
        FreshIds newId db.customRules →
        syncFilterList newId now filterId (some content) db = some (after, count) →
        ∀ list ∈ after.filterLists, list.id = filterId →
          (list.ruleCount = (effectiveRows later filterId after).length ↔ ListLoads content) := by
  have haccepts : ∀ rule, (∀ rs : RuleSet, (rs.addRule rule).2 = true) ↔
      (parseLine rule).isSome = true := by
    intro rule
    simp only [addRule_accepts]
    exact ⟨fun h => h RuleSet.new, fun h _ => h⟩
  refine ⟨?_, ?_, ?_⟩
  · simp only [haccepts]
    exact parseAdguardRules_accepted_iff content
  · simp only [haccepts]
    exact parseHostsRules_accepted_iff content
  · intro newId now later filterId db after count hfresh hsync list hlist hid
    obtain rfl : storeRules newId now filterId content db = after := by
      simpa [syncFilterList] using congrArg (Option.map Prod.fst) hsync
    obtain ⟨old, -, rfl⟩ := List.mem_map.mp hlist
    have hcount : (if decide (old.id = filterId) then
        { old with
          ruleCount := ((importedRows newId now filterId content).length : ℤ)
          lastUpdated := some now } else old).ruleCount =
        (importedRows newId now filterId content).length := by
      split_ifs at hid ⊢ with hold
      · rfl
      · exact absurd hid (by simpa using hold)
    rw [hcount, Nat.cast_inj]
    exact length_effectiveRows_eq_iff hfresh

end Counting

section Example

attribute [local instance] UnicodeAscii.ascii RegexCrate.fragment

def subscribedDb : Database :=
  { Database.empty with
    filterLists := ⟨[⟨str "l1", str "Ads", some (str "ads.txt"), true, 0, none,
      str "2026-01-01", 24⟩], by decide⟩ }

def exampleId (i : ℕ) : Str := List.replicate i 'x'

theorem freshIds_subscribedDb : FreshIds exampleId subscribedDb.customRules where
  injective := fun i j h => by simpa [exampleId] using congrArg List.length h
  unused := fun _ hrow => absurd (Table.mem_rows.mpr hrow) List.not_mem_nil

/-- A list of ordinary rules is stored without loss: its two rules are counted,
and both take effect. -/
theorem ruleCount_eq_effective_subscribedDb :
    let content := str "! Title: ads\n||ads.com^$third-party\n@@||safe-*.ads.com^\n"
    FreshIds exampleId subscribedDb.customRules ∧ ListLoads content := by
  refine ⟨freshIds_subscribedDb, ?_⟩
  refine ((ruleCount_eq_effective_iff _).2.2 exampleId (str "2026-02-01") (str "2026-02-02")
    (str "l1") subscribedDb _ _ freshIds_subscribedDb rfl
    ⟨str "l1", str "Ads", some (str "ads.txt"), true, 2,
      some (str "2026-02-01"), str "2026-01-01", 24⟩ ?_ rfl).mp ?_
  · refine Table.mem_rows.mp ?_
    decide +kernel
  · decide +kernel

/-- A name with an underscore is stored as a rule and counted, and no reload ever
loads it. -/
theorem ruleCount_underscoreList :
    let content := str "||my_ads.com^\n"
    (parseAdguardRules content).1 = [str "||my_ads.com^"] ∧
      (RuleSet.new.addRule (str "||my_ads.com^")).2 = false ∧
      (syncFilterList exampleId (str "2026-02-01") (str "l1") (some content) subscribedDb).map
        (fun result => (result.1.filterLists.rows.map FilterList.ruleCount,
          (effectiveRows (str "2026-02-02") (str "l1") result.1).length)) = some ([1], 0) := by
  decide +kernel

end Example

end RustDns
