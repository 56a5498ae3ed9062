import RustDns.Batches
import RustDns.Api.Rules
import RustDns.Dns.Sync

/-!
# What an import adds

`rules::import_rules` with statements that may fail (`importRulesUnder`).  The entries of
the file are inserted in one transaction, each after a look whether the table has its rule
already, so that a rule that is listed twice is inserted once.

`importRulesUnder_spec` says how an import that is answered with OK has changed the table,
and that one that is answered with an error has not changed it.
-/

namespace RustDns.Api.Rules

open Text Program

/-! ## The handler -/

/-- Which statements of an import fail, and with which text: `BEGIN`, the selection and the
insertion for an entry, and `COMMIT`.  An insertion also fails when its id is taken. -/
structure ImportFaults where
  begin : Option Str
  select : ℕ → Option Str
  insert : ℕ → Option Str
  commit : Option Str
  idTaken : Str

/-- No statement fails. -/
structure ImportFaults.AreNone (faults : ImportFaults) : Prop where
  begin : faults.begin = .none
  select : ∀ entry, faults.select entry = .none
  insert : ∀ entry, faults.insert entry = .none
  commit : faults.commit = .none

def ImportFaults.none : ImportFaults :=
  { begin := .none, select := fun _ => .none, insert := fun _ => .none, commit := .none
    idTaken := [] }

section Handler

variable [Unicode] [RegexCrate] [SerdeJson]

omit [RegexCrate] in
def readEntries (multipart : List (Except Str Field)) : Except ImportResponse (List RuleEntry) :=
  match readFile multipart with
  | .error response => .error response
  | .ok none => .error (.badRequest (str "No file uploaded or file is empty."))
  | .ok (some (field, upload)) =>
    if upload.size = 0 then .error (.badRequest (str "No file uploaded or file is empty."))
    else match upload.text with
      | none => .error (.badRequest (str "File is not valid UTF-8 text."))
      | some content =>
        match parseEntries (looksLikeJson field content) content with
        | .error message => .error (.badRequest message)
        | .ok [] => .error (.badRequest (str "No valid rules found in the uploaded file."))
        | .ok entries => .ok entries

/-- The loop of the import, with the number of the entry and the numbers of imported and
skipped ones. -/
def importEntriesUnder (faults : ImportFaults) (env : Env) (username : Str) :
    (entry : ℕ) → List RuleEntry → Table CustomRule.id → (imported skipped : ℕ) →
      Except Str (Table CustomRule.id × ℕ × ℕ)
  | _, [], table, imported, skipped => .ok (table, imported, skipped)
  | index, entry :: rest, table, imported, skipped =>
    let rule := trim entry.rule
    if rule = [] then
      importEntriesUnder faults env username (index + 1) rest table imported (skipped + 1)
    else match faults.select index with
      | some e => .error (str "Database error: " ++ e)
      | none =>
        if table.rows.any (·.rule = rule) then
          importEntriesUnder faults env username (index + 1) rest table imported (skipped + 1)
        else match faults.insert index with
          | some e => .error (str "Insert failed: " ++ e)
          | none =>
            let row : CustomRule :=
              { id := env.newId imported, rule, comment := entry.comment, isEnabled := true
                createdBy := username, createdAt := env.now, expiresAt := none }
            match table.insert row with
            | none => .error (str "Insert failed: " ++ faults.idTaken)
            | some table =>
              importEntriesUnder faults env username (index + 1) rest table
                (imported + 1) skipped

/-- `rules::import_rules`, with statements that may fail. -/
def importRulesUnder (faults : ImportFaults) (env : Env) (auth : Claims)
    (multipart : List (Except Str Field)) : ApiM ImportResponse := do
  match readEntries multipart with
  | .error response => return response
  | .ok entries =>
    match faults.begin with
    | some e => return .internalServerError (str "Failed to begin transaction: " ++ e)
    | none =>
      match importEntriesUnder faults env auth.username 0 entries (← get).db.customRules 0 0
        with
      | .error message => return .internalServerError message
      | .ok (table, imported, skipped) =>
        match faults.commit with
        | some e => return .internalServerError (str "Failed to commit transaction: " ++ e)
        | none =>
          modifyRules fun _ => table
          if imported > 0 then tryReloadFilter env
          return .ok imported skipped entries.length

omit [Unicode] [RegexCrate] [SerdeJson] in
theorem importEntriesUnder_none (env : Env) (username : Str) (index : ℕ)
    (entries : List RuleEntry) (table : Table CustomRule.id) (imported skipped : ℕ) :
    importEntriesUnder .none env username index entries table imported skipped =
      match importEntries env username entries table imported skipped with
      | none => .error (str "Insert failed: ")
      | some counted => .ok counted := by
  induction entries generalizing index table imported skipped with
  | nil => rfl
  | cons entry rest ih =>
    unfold importEntriesUnder importEntries
    dsimp only [ImportFaults.none] at ih ⊢
    by_cases hempty : trim entry.rule = []
    · rw [if_pos hempty, if_pos (Or.inl hempty)]
      exact ih ..
    rw [if_neg hempty]
    by_cases hknown : table.rows.any (·.rule = trim entry.rule) = true
    · rw [if_pos hknown, if_pos (Or.inr hknown)]
      exact ih ..
    rw [if_neg hknown, if_neg (not_or_intro hempty hknown)]
    generalize table.insert _ = inserted
    cases inserted with
    | none => exact congrArg Except.error (List.append_nil _)
    | some table => exact ih ..

theorem importRulesUnder_none (env : Env) (auth : Claims) (multipart : List (Except Str Field)) :
    importRulesUnder .none env auth multipart = importRules env auth multipart := by
  unfold importRulesUnder importRules readEntries
  rcases readFile multipart with response | _ | ⟨field, upload⟩
  · rfl
  · rfl
  dsimp only
  split_ifs
  · rfl
  rcases upload.text with _ | content
  · rfl
  dsimp only
  rcases parseEntries (looksLikeJson field content) content with message | _ | ⟨entry, rest⟩
  · rfl
  · rfl
  dsimp only [ImportFaults.none]
  refine bind_congr fun state => ?_
  have hloop := importEntriesUnder_none env auth.username 0 (entry :: rest)
    state.db.customRules 0 0
  dsimp only [ImportFaults.none] at hloop
  rw [hloop]
  rcases importEntries env auth.username (entry :: rest) state.db.customRules 0 0 with
    _ | ⟨table, imported, skipped⟩ <;> rfl

end Handler

/-! ## The rules of a file -/

/-- The text of an item of a JSON array that is a rule: the item, or its `rule`. -/
def ruleText : Json.Value → Option Str
  | .string text => some text
  | .object fields => (fields.lookup (str "rule")).bind Json.Value.asStr
  | _ => none

theorem map_rule_jsonEntry (item : Json.Value) :
    (jsonEntry item).map RuleEntry.rule = ((ruleText item).map trim).filter (· ≠ []) := by
  cases item with
  | string text =>
    by_cases hempty : trim text = [] <;> simp [jsonEntry, ruleText, Option.filter_some, hempty]
  | object fields =>
    dsimp only [jsonEntry, ruleText]
    cases (fields.lookup (str "rule")).bind Json.Value.asStr with
    | none => rfl
    | some text =>
      by_cases hempty : trim text = [] <;> simp [Option.filter_some, hempty]
  | _ => rfl

theorem exists_jsonEntry_iff {item : Json.Value} {rule : Str} (hrule : rule ≠ []) :
    (∃ entry, jsonEntry item = some entry ∧ trim entry.rule = rule) ↔
      ∃ text, ruleText item = some text ∧ trim text = rule := by
  have hmap := map_rule_jsonEntry item
  constructor
  · rintro ⟨entry, hentry, rfl⟩
    rw [hentry, Option.map_some] at hmap
    obtain ⟨hmapped, -⟩ := Option.filter_eq_some_iff.mp hmap.symm
    obtain ⟨text, htext, htrim⟩ := Option.map_eq_some_iff.mp hmapped
    exact ⟨text, htext, by rw [← htrim, trim_trim]⟩
  · rintro ⟨text, htext, rfl⟩
    rw [htext, Option.map_some, Option.filter_some, if_pos (decide_eq_true hrule)] at hmap
    obtain ⟨entry, hentry, htrim⟩ := Option.map_eq_some_iff.mp hmap
    exact ⟨entry, hentry, by rw [htrim, trim_trim]⟩

section Uploaded

variable [SerdeJson]

/-- A rule that the file lists, trimmed and not empty: in JSON an item of the array, in a
text a line that is not a comment. -/
def IsUploaded (isJson : Bool) (content rule : Str) : Prop :=
  rule ≠ [] ∧
    if isJson then
      ∃ items, SerdeJson.fromStr (trim content) = .ok (.array items) ∧
        ∃ item ∈ items, ∃ text, ruleText item = some text ∧ trim text = rule
    else startsWith (str "#") rule = false ∧ ∃ line ∈ lines content, trim line = rule

theorem exists_entry_iff {isJson : Bool} {content : Str} {entries : List RuleEntry}
    (hparse : parseEntries isJson content = .ok entries) (rule : Str) :
    (rule ≠ [] ∧ ∃ entry ∈ entries, trim entry.rule = rule) ↔ IsUploaded isJson content rule := by
  refine and_congr_right fun hrule => ?_
  unfold parseEntries at hparse
  cases isJson with
  | true =>
    simp only [if_true] at hparse ⊢
    split at hparse
    · rename_i items hitems
      cases hparse
      simp only [List.mem_filterMap, hitems, Except.ok.injEq, Json.Value.array.injEq]
      constructor
      · rintro ⟨entry, ⟨item, hitem, hentry⟩, htrim⟩
        exact ⟨items, rfl, item, hitem, (exists_jsonEntry_iff hrule).mp ⟨entry, hentry, htrim⟩⟩
      · rintro ⟨items, rfl, item, hitem, htext⟩
        obtain ⟨entry, hentry, htrim⟩ := (exists_jsonEntry_iff hrule).mpr htext
        exact ⟨entry, ⟨item, hitem, hentry⟩, htrim⟩
    · cases hparse
    · cases hparse
  | false =>
    simp only [Bool.false_eq_true, if_false] at hparse ⊢
    cases hparse
    simp only [List.mem_map, List.mem_filter]
    constructor
    · rintro ⟨entry, ⟨kept, ⟨⟨line, hline, rfl⟩, hkept⟩, rfl⟩, rfl⟩
      refine ⟨?_, line, hline, (trim_trim line).symm⟩
      rw [trim_trim]
      simpa using (Bool.and_eq_true_iff.mp hkept).2
    · rintro ⟨hcomment, line, hline, rfl⟩
      refine ⟨⟨trim line, none⟩, ⟨trim line, ⟨⟨line, hline, rfl⟩, ?_⟩, rfl⟩, trim_trim line⟩
      simp [hcomment, hrule]

end Uploaded

/-! ## What the loop adds -/

/-- The rows after an import of this number of rules: for each rule that is wanted and was
not there, one row that is enabled and does not expire. -/
def GrowsBy (imported : ℕ) (wanted : Str → Prop) (before after : List CustomRule) : Prop :=
  ∃ added, after = before ++ added ∧ added.length = imported ∧
    (added.map CustomRule.rule).Nodup ∧
    (∀ rule, rule ∈ added.map CustomRule.rule ↔
      wanted rule ∧ rule ∉ before.map CustomRule.rule) ∧
    ∀ row ∈ added, row.isEnabled = true ∧ row.expiresAt = none

variable {imported index skipped : ℕ} {wanted : Str → Prop} {before after : List CustomRule}
  {faults : ImportFaults} {env : Env} {username : Str} {table : Table CustomRule.id}

theorem GrowsBy.congr {wanted' : Str → Prop} (hgrows : GrowsBy imported wanted before after)
    (hwanted : ∀ rule ∉ before.map CustomRule.rule, wanted rule ↔ wanted' rule) :
    GrowsBy imported wanted' before after := by
  obtain ⟨added, hafter, hlength, hnodup, hrules, hrows⟩ := hgrows
  refine ⟨added, hafter, hlength, hnodup, fun rule => ?_, hrows⟩
  rw [hrules]
  exact and_congr_left fun hnew => hwanted rule hnew

theorem GrowsBy.cons {row : CustomRule} (hgrows : GrowsBy imported wanted (before ++ [row]) after)
    (hnew : row.rule ∉ before.map CustomRule.rule) (henabled : row.isEnabled = true)
    (hexpires : row.expiresAt = none) :
    GrowsBy (imported + 1) (fun rule => rule = row.rule ∨ wanted rule) before after := by
  obtain ⟨added, rfl, hlength, hnodup, hrules, hrows⟩ := hgrows
  refine ⟨row :: added, by simp, by simp [hlength], ?_, fun rule => ?_, ?_⟩
  · refine List.nodup_cons.mpr ⟨fun hmem => ?_, hnodup⟩
    exact ((hrules _).mp hmem).2 (by simp)
  · rw [List.map_cons, List.mem_cons, hrules, List.map_append, List.mem_append,
      List.map_singleton, List.mem_singleton]
    constructor
    · rintro (rfl | ⟨hwanted, hother⟩)
      · exact ⟨Or.inl rfl, hnew⟩
      · exact ⟨Or.inr hwanted, fun hmem => hother (Or.inl hmem)⟩
    · rintro ⟨hwanted, hother⟩
      by_cases hrule : rule = row.rule
      · exact Or.inl hrule
      · exact Or.inr ⟨hwanted.resolve_left hrule, not_or_intro hother hrule⟩
  · exact List.forall_mem_cons.mpr ⟨⟨henabled, hexpires⟩, hrows⟩

theorem importEntriesUnder_cons {entry : RuleEntry} {rest : List RuleEntry}
    {counted : Table CustomRule.id × ℕ × ℕ}
    (himport : importEntriesUnder faults env username index (entry :: rest) table imported
      skipped = .ok counted) :
    (trim entry.rule = [] ∨ trim entry.rule ∈ table.rows.map CustomRule.rule) ∧
        importEntriesUnder faults env username (index + 1) rest table imported (skipped + 1) =
          .ok counted ∨
      (trim entry.rule ≠ [] ∧ trim entry.rule ∉ table.rows.map CustomRule.rule) ∧
        ∃ row middle, (row.rule = trim entry.rule ∧ row.isEnabled = true ∧ row.expiresAt = none) ∧
          table.insert row = some middle ∧
          importEntriesUnder faults env username (index + 1) rest middle (imported + 1) skipped =
            .ok counted := by
  have hany : table.rows.any (·.rule = trim entry.rule) = true ↔
      trim entry.rule ∈ table.rows.map CustomRule.rule := by
    simp
  unfold importEntriesUnder at himport
  dsimp only at himport
  by_cases hempty : trim entry.rule = []
  · rw [if_pos hempty] at himport
    exact Or.inl ⟨Or.inl hempty, himport⟩
  rw [if_neg hempty] at himport
  cases hselect : faults.select index with
  | some e => simp [hselect] at himport
  | none =>
    rw [hselect] at himport
    dsimp only at himport
    by_cases hknown : table.rows.any (·.rule = trim entry.rule) = true
    · rw [if_pos hknown] at himport
      exact Or.inl ⟨Or.inr (hany.mp hknown), himport⟩
    rw [if_neg hknown] at himport
    cases hfails : faults.insert index with
    | some e => simp [hfails] at himport
    | none =>
      rw [hfails] at himport
      dsimp only at himport
      split at himport
      · cases himport
      · rename_i middle hinsert
        exact Or.inr ⟨⟨hempty, fun hmem => hknown (hany.mpr hmem)⟩, _, middle,
          ⟨rfl, rfl, rfl⟩, hinsert, himport⟩

theorem growsBy_of_importEntriesUnder {entries : List RuleEntry} {after : Table CustomRule.id}
    {imported' skipped' : ℕ}
    (himport : importEntriesUnder faults env username index entries table imported skipped =
      .ok (after, imported', skipped')) :
    imported' + skipped' = imported + skipped + entries.length ∧
      ∃ count, imported' = imported + count ∧
        GrowsBy count (fun rule => rule ≠ [] ∧ ∃ entry ∈ entries, trim entry.rule = rule)
          table.rows after.rows := by
  induction entries generalizing index table imported skipped with
  | nil =>
    obtain ⟨rfl, rfl, rfl⟩ : table = after ∧ imported = imported' ∧ skipped = skipped' := by
      simpa [importEntriesUnder] using himport
    exact ⟨rfl, 0, rfl, [], by simp, rfl, List.nodup_nil, by simp, by simp⟩
  | cons entry rest ih =>
    rw [List.length_cons]
    simp only [List.exists_mem_cons_iff]
    rcases importEntriesUnder_cons himport with
      ⟨hskips, hrest⟩ | ⟨⟨hempty, hnew⟩, row, middle, ⟨hrule, henabled, hexpires⟩, hinsert, hrest⟩
    · obtain ⟨hsum, count, hcount, hgrows⟩ := ih hrest
      refine ⟨by omega, count, hcount, hgrows.congr fun rule hold => ?_⟩
      refine and_congr_right fun hrule => (or_iff_right ?_).symm
      rintro rfl
      exact hskips.elim hrule hold
    · obtain ⟨hsum, count, hcount, hgrows⟩ := ih hrest
      rw [Table.rows_of_insert hinsert] at hgrows
      refine ⟨by omega, count + 1, by omega, ?_⟩
      refine (hgrows.cons (hrule ▸ hnew) henabled hexpires).congr fun rule _ => ?_
      rw [hrule]
      constructor
      · rintro (rfl | ⟨hne, hentry⟩)
        · exact ⟨hempty, Or.inl rfl⟩
        · exact ⟨hne, Or.inr hentry⟩
      · rintro ⟨hne, rfl | hentry⟩
        · exact Or.inl rfl
        · exact Or.inr ⟨hne, hentry⟩

/-- Without a fault the loop comes to its end, if the ids are new. -/
theorem isOk_importEntriesUnder (hnone : faults.AreNone) (env : Env) (username : Str) (index : ℕ)
    (entries : List RuleEntry) (table : Table CustomRule.id) (imported skipped : ℕ)
    (hinjective : Function.Injective env.newId)
    (hunused : ∀ row ∈ table.rows, ∀ i, imported ≤ i → row.id ≠ env.newId i) :
    ∃ counted, importEntriesUnder faults env username index entries table imported skipped =
      .ok counted := by
  induction entries generalizing index table imported skipped with
  | nil => exact ⟨_, rfl⟩
  | cons entry rest ih =>
    unfold importEntriesUnder
    dsimp only
    rw [hnone.select, hnone.insert]
    dsimp only
    split_ifs
    · exact ih _ _ _ _ hunused
    · exact ih _ _ _ _ hunused
    · cases hinsert : Table.insert table _ with
      | none =>
        rw [Table.insert] at hinsert
        split_ifs at hinsert with hkey
        obtain ⟨row, hrow, hid⟩ := List.mem_map.mp hkey
        exact absurd hid (hunused row hrow imported le_rfl)
      | some middle =>
        refine ih _ _ _ _ fun row hrow i hi => ?_
        rw [Table.rows_of_insert hinsert] at hrow
        rcases List.mem_append.mp hrow with hrow | hrow
        · exact hunused row hrow i (by omega)
        · rw [List.mem_singleton.mp hrow]
          exact fun hid => absurd (hinjective hid) (by omega)

/-! ## The whole import -/

section Import

variable [Unicode] [RegexCrate] [SerdeJson]

variable {multipart : List (Except Str Field)} {response : ImportResponse}

omit [RegexCrate] in
theorem exists_file_of_readEntries {entries : List RuleEntry}
    (hentries : readEntries multipart = .ok entries) :
    ∃ field size content, readFile multipart = .ok (some (field, ⟨size, some content⟩)) ∧
      parseEntries (looksLikeJson field content) content = .ok entries := by
  unfold readEntries at hentries
  split at hentries
  · cases hentries
  · cases hentries
  · rename_i field upload hfile
    split_ifs at hentries
    split at hentries
    · cases hentries
    · rename_i content htext
      refine ⟨field, upload.size, content, by rw [hfile, ← htext], ?_⟩
      split at hentries
      · cases hentries
      · cases hentries
      · rename_i hparse
        cases hentries
        exact hparse

omit [RegexCrate] in
theorem ne_ok_of_readEntries (hentries : readEntries multipart = .error response)
    (imported skipped total : ℕ) : response ≠ .ok imported skipped total := by
  have hfile : ∀ multipart, readFile multipart ≠ .error (.ok imported skipped total) := by
    intro multipart
    induction multipart with
    | nil => simp [readFile]
    | cons field rest ih =>
      cases field with
      | error e => simp [readFile]
      | ok field =>
        unfold readFile
        split_ifs with hname
        · split
          · simp
          · split_ifs <;> simp
        · exact ih
  rintro rfl
  unfold readEntries at hentries
  split at hentries
  · rename_i response hread
    cases hentries
    exact hfile multipart hread
  · cases hentries
  · split_ifs at hentries
    · cases hentries
    · split at hentries
      · cases hentries
      · split at hentries <;> cases hentries

/-- An import that has been answered with these numbers: they add up, and the table has
grown by the rules of the file that it did not have. -/
structure HasImported (multipart : List (Except Str Field)) (imported skipped total : ℕ)
    (before after : List CustomRule) : Prop where
  counts : imported + skipped = total
  grows : ∃ field size content,
    readFile multipart = .ok (some (field, ⟨size, some content⟩)) ∧
      GrowsBy imported (IsUploaded (looksLikeJson field content) content) before after

/-- An answer other than OK says that nothing has changed. -/
def ImportResponse.Accounts (multipart : List (Except Str Field)) (before after : AppState) :
    ImportResponse → Prop
  | .ok imported skipped total =>
    HasImported multipart imported skipped total before.db.customRules.rows
      after.db.customRules.rows
  | _ => after = before

theorem accounts_self (hresponse : ∀ imported skipped total, response ≠ .ok imported skipped total)
    (state : AppState) : response.Accounts multipart state state := by
  cases response with
  | ok imported skipped total => exact absurd rfl (hresponse imported skipped total)
  | _ => rfl

theorem ends_tryReloadFilter_bind {α : Type} {env : Env} {next : Unit → ApiM α}
    {state : AppState} {returned : α → AppState → Prop} {stopped : AppError → AppState → Prop}
    (hnext : ∀ filter, Ends (next ()) { state with filter } returned stopped) :
    Ends (tryReloadFilter env >>= next) state returned stopped := by
  unfold tryReloadFilter
  rw [bind_assoc]
  refine ends_get_bind ?_
  cases FilterEngine.reload env.reloadFails env.now state.db with
  | none => exact hnext state.filter
  | some filter => exact hnext filter

/-- **What an import adds.**  An import that is answered with OK has added one row for each
rule of the file that was not there, and counted them; after any other answer the state is
the one before.  A file that can be read is answered with OK unless a statement fails. -/
theorem importRulesUnder_spec (faults : ImportFaults) (env : Env) (auth : Claims)
    (multipart : List (Except Str Field)) (state : AppState) :
    Ends (importRulesUnder faults env auth multipart) state
      (fun response after => response.Accounts multipart state after ∧
        (faults.AreNone → FreshIds env.newId state.db.customRules →
          (∃ entries, readEntries multipart = .ok entries) →
            ∃ imported skipped total, response = .ok imported skipped total))
      fun _ _ => False := by
  unfold importRulesUnder
  cases hentries : readEntries multipart with
  | error response =>
    exact ends_pure
      ⟨accounts_self (ne_ok_of_readEntries hentries) state, fun _ _ ⟨_, h⟩ => nomatch h⟩
  | ok entries =>
    cases hbegin : faults.begin with
    | some e =>
      exact ends_pure ⟨rfl, fun hnone _ _ => nomatch hbegin.symm.trans hnone.begin⟩
    | none =>
      refine ends_get_bind ?_
      cases himport : importEntriesUnder faults env auth.username 0 entries
          state.db.customRules 0 0 with
      | error message =>
        refine ends_pure ⟨rfl, fun hnone hfresh _ => ?_⟩
        obtain ⟨counted, hcounted⟩ := isOk_importEntriesUnder hnone env auth.username 0 entries
          state.db.customRules 0 0 hfresh.injective fun row hrow i _ => hfresh.unused row hrow i
        cases himport.symm.trans hcounted
      | ok counted =>
        obtain ⟨table, imported, skipped⟩ := counted
        dsimp only
        cases hcommit : faults.commit with
        | some e => exact ends_pure ⟨rfl, fun hnone _ _ => nomatch hcommit.symm.trans hnone.commit⟩
        | none =>
          obtain ⟨field, size, content, hfile, hparse⟩ :=
            exists_file_of_readEntries hentries
          obtain ⟨hsum, count, hcount, hgrows⟩ := growsBy_of_importEntriesUnder himport
          rw [Nat.zero_add] at hsum hcount
          have hadded : HasImported multipart imported skipped entries.length
              state.db.customRules.rows table.rows :=
            ⟨by omega, field, size, content, hfile, hcount ▸ hgrows.congr fun rule _ =>
              exists_entry_iff hparse rule⟩
          have hok : ∃ i s t, ImportResponse.ok imported skipped entries.length = .ok i s t :=
            ⟨_, _, _, rfl⟩
          refine ends_modify_bind (ends_ite (fun _ => ?_) fun _ =>
            ends_pure ⟨hadded, fun _ _ _ => hok⟩)
          exact ends_tryReloadFilter_bind fun _ => ends_pure ⟨hadded, fun _ _ _ => hok⟩

end Import

/-! ### A file with a new rule and an old one -/

section Example

attribute [local instance] Unicode.ascii RegexCrate.fragment SerdeJson.plain

def twoLines : List (Except Str Field) :=
  [.ok ⟨some (str "file"), none, none, .ok ⟨16, some (str "ads.com\nnew.com\n")⟩⟩]

def oneRule : Table CustomRule.id where
  rows := [⟨str "r1", str "ads.com", none, true, str "admin", str "2026-01-01", none⟩]
  nodup := List.nodup_singleton _

def importServer : AppState :=
  ⟨{ Database.empty with customRules := oneRule }, ⟨.new, .empty⟩, [], [], []⟩

def importEnv : Env :=
  ⟨str "2026-02-01", fun n => List.replicate n 'x', [], fun _ => true, [], fun _ => false, .inPlace⟩

/-- The file can be read and no statement fails, so the answer is OK, with one row more. -/
theorem importRulesUnder_spec_twoLines :
    Ends (importRulesUnder .none importEnv ⟨str "u1", str "admin", str "admin", 0, 0, str "t1"⟩
        twoLines) importServer
      (fun response after => ∃ imported skipped total, response = .ok imported skipped total ∧
        HasImported twoLines imported skipped total importServer.db.customRules.rows
          after.db.customRules.rows) fun _ _ => False := by
  have hnone : ImportFaults.none.AreNone := ⟨rfl, fun _ => rfl, fun _ => rfl, rfl⟩
  have hfresh : FreshIds importEnv.newId importServer.db.customRules := by
    refine ⟨fun m n heq => by simpa [importEnv] using congrArg List.length heq, ?_⟩
    intro row hrow i heq
    obtain rfl := List.mem_singleton.mp hrow
    have hid : str "r1" = List.replicate i 'x' := heq
    have hmem : 'r' ∈ List.replicate i 'x' := hid ▸ (by decide : 'r' ∈ str "r1")
    exact absurd (List.eq_of_mem_replicate hmem) (by decide)
  have hread : ∃ entries, readEntries twoLines = .ok entries := by
    have hok : (readEntries twoLines).toOption.isSome = true := by decide +kernel
    cases hentries : readEntries twoLines with
    | error response => simp [hentries, Except.toOption] at hok
    | ok entries => exact ⟨entries, rfl⟩
  refine (importRulesUnder_spec .none importEnv _ twoLines importServer).mono ?_ fun _ _ h => h
  rintro response after ⟨haccounts, hok⟩
  obtain ⟨imported, skipped, total, rfl⟩ := hok hnone hfresh hread
  exact ⟨imported, skipped, total, rfl, haccounts⟩

end Example

end RustDns.Api.Rules
