import RustDns.Machine
import RustDns.Api.Rules

/-!
# The rows of the subscriptions

The handlers of the custom rules share their table with the filter lists, whose rows have
`filter:<id>` as their creator.  Updating, toggling and the bulk actions leave those alone,
and creating and importing only add rows.  `rules::delete` does not look at the creator: it
deletes the row of a filter list like any other, and that is the only way in which a call
changes one (`spares_iff`).
-/

namespace RustDns.Api.Rules

open Text Program Machine

section Calls

variable [Unicode] [RegexCrate]

inductive Call where
  | create (auth : Claims) (body : CreateRuleRequest)
  | update (id : Str) (body : UpdateRuleRequest)
  | toggle (id : Str) (isEnabled : Bool)
  | delete (id : Str)
  | bulkAction (req : BulkActionRequest)
  | importRules (auth : Claims) (multipart : List (Except Str Field))

def Call.handle [SerdeJson] (env : Env) : Call → ApiM Unit
  | create auth body => do let _ ← Rules.create env auth body
  | update id body => do let _ ← Rules.update env id body
  | toggle id isEnabled => Rules.toggle env id isEnabled
  | delete id => Rules.delete env id
  | bulkAction req => do let _ ← Rules.bulkAction env req
  | importRules auth multipart => do let _ ← Rules.importRules env auth multipart

def callStep [SerdeJson] (state : AppState) (call : Env × Call) : AppState × Unit :=
  ((call.2.handle call.1).exec state, ())

/-- The rows of the filter lists are still there, as they were. -/
def Spares (before after : AppState) : Prop :=
  ∀ row ∈ before.db.customRules.rows, isImported row = true → row ∈ after.db.customRules.rows

instance decidableSpares (before after : AppState) : Decidable (Spares before after) :=
  inferInstanceAs (Decidable (∀ row ∈ before.db.customRules.rows, _ → _))

def Call.DeletesOwn (db : Database) : Call → Prop
  | delete id => ∀ row ∈ db.customRules.find? id, isImported row = false
  | _ => True

instance decidableDeletesOwn (db : Database) : (call : Call) → Decidable (call.DeletesOwn db)
  | .delete id =>
    inferInstanceAs (Decidable (∀ row ∈ db.customRules.find? id, isImported row = false))
  | .create _ _ | .update _ _ | .toggle _ _ | .bulkAction _ | .importRules _ _ => .isTrue trivial

section Spares

variable {α : Type} {state before middle after : AppState}

theorem Spares.refl (state : AppState) : Spares state state := fun _ hrow _ => hrow

theorem Spares.trans (hfirst : Spares before middle) (hsecond : Spares middle after) :
    Spares before after := fun row hrow himported =>
  hsecond row (hfirst row hrow himported) himported

theorem Spares.untouched (hspares : Spares before middle) (hsame : Untouched middle after) :
    Spares before after := by
  intro row hrow himported
  rw [hsame.2]
  exact hspares row hrow himported

theorem spares_of_writes {allowed : Table CustomRule.id → Prop}
    (hwrites : Writes state.withRules allowed state after)
    (hrows : ∀ table, allowed table → ∀ row ∈ state.db.customRules.rows, isImported row = true →
      row ∈ table.rows) : Spares state after :=
  hwrites.elim Spares.untouched (.refl _) hrows

variable [SerdeJson] (env : Env)

def Deletes (ruleId : Str) (before after : AppState) : Prop :=
  after.db.customRules = before.db.customRules.deleteWhere (·.id = ruleId)

theorem delete_deletes (ruleId : Str) : Deletes ruleId state ((delete env ruleId).exec state) :=
  congrArg Database.customRules (delete_writes env state ruleId).2

theorem delete_spares_iff (id : Str) :
    Spares state ((delete env id).exec state) ↔ (Call.delete id).DeletesOwn state.db := by
  unfold Spares
  rw [delete_deletes env id]
  constructor
  · intro hspares row hfind
    obtain ⟨hrow, hid⟩ := Table.find?_eq_some_iff.mp hfind
    cases himported : isImported row with
    | false => rfl
    | true =>
      have hkept := (List.mem_filter.mp (hspares row hrow himported)).2
      simp [hid] at hkept
  · intro howns row hrow himported
    refine Table.mem_deleteWhere_of_not hrow (decide_eq_false fun hid => ?_)
    have hnot := howns row (Table.find?_eq_some_iff.mpr ⟨hrow, hid⟩)
    rw [himported] at hnot
    cases hnot

/-- A call spares the rows of the filter lists if and only if it does not delete one of
them by its id. -/
theorem spares_iff (call : Call) :
    Spares state ((call.handle env).exec state) ↔ call.DeletesOwn state.db := by
  cases call with
  | create auth body =>
    refine iff_of_true (spares_of_writes
      (create_writes env state auth body).ignored ?_) trivial
    rintro table ⟨row, -, hinsert⟩ other hother -
    rw [Table.rows_of_insert hinsert]
    exact List.mem_append_left _ hother
  | update id body =>
    refine iff_of_true (spares_of_writes
      (update_writes env state id body).ignored ?_) trivial
    rintro table ⟨hown, rfl⟩ row hrow himported
    refine Table.mem_updateWhere_of_not hrow (decide_eq_false fun hid => ?_)
    rw [hown row (Table.find?_eq_some_iff.mpr ⟨hrow, hid⟩)] at himported
    cases himported
  | toggle id isEnabled =>
    refine iff_of_true (spares_of_writes (toggle_writes env state id isEnabled) ?_) trivial
    rintro table rfl row hrow himported
    exact Table.mem_updateWhere_of_not hrow (by simp [himported])
  | delete id => exact delete_spares_iff env id
  | bulkAction req =>
    have hselects : ∀ row, isImported row = true → req.selects row = false := by
      intro row himported
      simp [BulkActionRequest.selects, himported]
    refine iff_of_true (spares_of_writes
      (bulkAction_writes env state req).ignored ?_) trivial
    rintro table (⟨isEnabled, rfl⟩ | ⟨-, rfl⟩) row hrow himported
    · exact Table.mem_updateWhere_of_not hrow (hselects row himported)
    · exact Table.mem_deleteWhere_of_not hrow (hselects row himported)
  | importRules auth multipart =>
    exact iff_of_true (spares_of_writes
      (importRules_writes env state auth multipart).ignored
      fun table hrows row hrow _ => hrows hrow) trivial

end Spares

/-- **When the rows of the subscriptions stay.**  If no call of a sequence deletes a row of
a filter list by its id, then all of these rows are in the table after every call, as they
were before the first one. -/
theorem spares_of_deletesOwn [SerdeJson] (state : AppState) (calls : List (Env × Call))
    (howns : ∀ point ∈ trace callStep state calls, point.2.2.DeletesOwn point.1.db) :
    Spares state (run callStep state calls) ∧
      ∀ point ∈ trace callStep state calls, Spares state point.1 :=
  forall_trace callStep (Spares state) (fun state call => call.2.DeletesOwn state.db)
    (fun _ call hspares howns => hspares.trans ((spares_iff call.1 call.2).mpr howns))
    (.refl state) calls howns

end Calls

/-! ### A row of a subscription that is deleted -/

section Example

attribute [local instance] Unicode.ascii RegexCrate.fragment SerdeJson.plain

def sharedTable : Table CustomRule.id where
  rows := [⟨str "r1", str "||mine.com^", none, true, str "admin", str "2026-01-01", none⟩,
    ⟨str "r2", str "||ads.com^", none, true, str "filter:l1", str "2026-01-01", none⟩]
  nodup := by decide

def sharedServer : AppState where
  db := { Database.empty with customRules := sharedTable }
  filter := ⟨.new, .empty⟩
  clientConfigCache := []
  tokenBlacklist := []
  spawnedSyncs := []

def quietEnv : Env where
  now := str "2026-02-01"
  newId _ := str "r3"
  salt := []
  reloadFails _ := true
  reloadError := []
  configFails _ := false

/-- The rule of the filter list is gone after it was deleted by its id; toggling, updating
and the bulk action refuse it. -/
theorem not_spares_delete :
    ¬ Spares sharedServer (run callStep sharedServer [(quietEnv, .delete (str "r2"))]) ∧
      Spares sharedServer (run callStep sharedServer
        [(quietEnv, .toggle (str "r2") false),
          (quietEnv, .update (str "r2") ⟨some (str "||mine.com^"), none, none, none⟩),
          (quietEnv, .bulkAction ⟨[str "r2"], str "delete"⟩)]) := by
  decide +kernel

/-- The rule of the user is deleted, and another one is created. -/
theorem spares_ownCalls :
    Spares sharedServer (run callStep sharedServer
      [(quietEnv, .delete (str "r1")),
        (quietEnv, .create ⟨str "u1", str "admin", str "admin", 0, 0, str "t1"⟩
          ⟨str "||new.com^", none, none⟩)]) :=
  (spares_of_deletesOwn sharedServer _ (by decide +kernel)).1

end Example

end RustDns.Api.Rules
