import RustDns.TextLines
import RustDns.Api.RuleImport
import RustDns.Api.RuleExport

/-!
# The text export, and its import

`rules::export_rules` writes a text with one line for each rule and one for each comment.
What is not to be read as a rule stands behind a `#`: the comments and the rules that are
not enabled.  Nothing in the format is escaped.  A comment of two lines has its `#` before
the first only, so the import reads the second as a rule; a rule that begins with `#` is read
as a comment, and a rule with a line feed as two.

`restoresEnabled_iff` says for which tables the import gives back the rules that are enabled,
and no others.
-/

namespace RustDns.Api.Rules

open Text Program

/-! ## The lines of the file -/

/-- The lines of a row that are to be no rules, and do not stand behind a `#`. -/
def strayLines (row : CustomRule) : List Str :=
  ((row.comment.getD []).splitOn '\n').tail ++
    if row.isEnabled then [] else (row.rule.splitOn '\n').tail

variable {row : CustomRule} {line : Str}

theorem notMem_of_mem_strayLines (hline : line ∈ strayLines row) : '\n' ∉ line := by
  unfold strayLines at hline
  rcases List.mem_append.mp hline with hcomment | hrule
  · exact notMem_of_mem_splitOn (List.mem_of_mem_tail hcomment)
  · split_ifs at hrule
    · cases hrule
    · exact notMem_of_mem_splitOn (List.mem_of_mem_tail hrule)

def rowLines (row : CustomRule) : List Str :=
  (if row.comment.getD [] = [] then [] else (str "# " ++ row.comment.getD []).splitOn '\n') ++
    (if row.isEnabled then row.rule else str "# (disabled) " ++ row.rule).splitOn '\n'

theorem txtLines_eq (row : CustomRule) : txtLines row =
    (if row.comment.getD [] = [] then [] else str "# " ++ row.comment.getD [] ++ str "\n") ++
      ((if row.isEnabled then row.rule else str "# (disabled) " ++ row.rule) ++ str "\n") := by
  have hrule : (if row.isEnabled then row.rule ++ str "\n"
        else str "# (disabled) " ++ row.rule ++ str "\n") =
      (if row.isEnabled then row.rule else str "# (disabled) " ++ row.rule) ++ str "\n" := by
    split_ifs <;> rfl
  unfold txtLines
  rw [hrule]
  cases row.comment <;> rfl

theorem splitOn_line_append (line rest : Str) :
    ((line ++ str "\n") ++ rest).splitOn '\n' = line.splitOn '\n' ++ rest.splitOn '\n' := by
  rw [List.append_assoc]
  exact splitOn_append_cons '\n' line rest

theorem splitOn_txtLines_append (row : CustomRule) (rest : Str) :
    (txtLines row ++ rest).splitOn '\n' = rowLines row ++ rest.splitOn '\n' := by
  rw [txtLines_eq, rowLines]
  by_cases hcomment : row.comment.getD [] = []
  · rw [if_pos hcomment, if_pos hcomment, List.nil_append, List.nil_append, splitOn_line_append]
  · rw [if_neg hcomment, if_neg hcomment, List.append_assoc, splitOn_line_append,
      splitOn_line_append, List.append_assoc]

theorem splitOn_flatMap_txtLines (rows : List CustomRule) :
    (rows.flatMap txtLines).splitOn '\n' = rows.flatMap rowLines ++ [[]] := by
  induction rows with
  | nil => rfl
  | cons row rest ih =>
    rw [List.flatMap_cons, splitOn_txtLines_append, ih, List.flatMap_cons, List.append_assoc]

theorem splitOn_txtBody {now : Str} (hnow : '\n' ∉ now) (rows : List CustomRule) :
    (txtBody now rows).splitOn '\n' =
      [str "# Rust DNS — custom rules export", str "# Exported: " ++ now, []] ++
        (rows.flatMap rowLines ++ [[]]) := by
  have hexported : '\n' ∉ str "# Exported: " ++ now := by
    rw [List.mem_append, not_or]
    exact ⟨by decide, hnow⟩
  have hheader : str "# Rust DNS — custom rules export\n" =
      str "# Rust DNS — custom rules export" ++ str "\n" := by
    decide +kernel
  have hfeeds : str "\n\n" = str "\n" ++ str "\n" := by decide +kernel
  have hbody : txtBody now rows = (str "# Rust DNS — custom rules export" ++ str "\n") ++
      (((str "# Exported: " ++ now) ++ str "\n") ++
        (([] ++ str "\n") ++ rows.flatMap txtLines)) := by
    unfold txtBody
    rw [hheader, hfeeds]
    simp only [List.append_assoc, List.nil_append]
  rw [hbody, splitOn_line_append, splitOn_line_append, splitOn_line_append,
    splitOn_flatMap_txtLines, splitOn_of_notMem hexported, splitOn_of_notMem (by decide +kernel)]
  rfl

theorem startsWith_trim_of_comment (start : Str) (hline : line = '#' :: start) :
    startsWith (str "#") (trim line) = true := by
  obtain ⟨tail, htail⟩ := exists_trim_cons (by decide : isWhitespace '#' = false) start
  rw [hline, htail]
  rfl

theorem exists_rowLines_iff {rule : Str} (hrule : startsWith (str "#") rule = false) :
    (∃ line ∈ rowLines row, trim line = rule) ↔ (∃ line ∈ strayLines row, trim line = rule) ∨
        row.isEnabled = true ∧ ∃ line ∈ row.rule.splitOn '\n', trim line = rule := by
  -- the first of the lines behind a `#` is not read, the others are those of the text
  have hbehind : ∀ start text : Str, '\n' ∉ '#' :: start →
      ((∃ line ∈ ('#' :: start ++ text).splitOn '\n', trim line = rule) ↔
        ∃ line ∈ (text.splitOn '\n').tail, trim line = rule) := by
    intro start text hstart
    obtain ⟨first, hsplit⟩ := splitOn_append_of_notMem hstart text
    rw [hsplit, List.exists_mem_cons_iff]
    refine or_iff_right fun hfirst => ?_
    have hcomment := startsWith_trim_of_comment (start ++ first)
      (List.cons_append : '#' :: start ++ first = _)
    rw [hfirst, hrule] at hcomment
    cases hcomment
  have hcomment : (∃ line ∈ (if row.comment.getD [] = [] then []
        else (str "# " ++ row.comment.getD []).splitOn '\n'), trim line = rule) ↔
      ∃ line ∈ ((row.comment.getD []).splitOn '\n').tail, trim line = rule := by
    split_ifs with hempty
    · rw [hempty]
      rfl
    · exact hbehind [' '] _ (by decide)
  unfold rowLines strayLines
  simp only [List.mem_append, or_and_right, exists_or, hcomment, or_assoc]
  refine or_congr_right ?_
  cases row.isEnabled with
  | true => simp
  | false =>
    simp only [Bool.false_eq_true, if_false, false_and, or_false]
    exact hbehind _ row.rule (by decide)

/-! ## The size of the file -/

def txtRowSize (row : CustomRule) : ℕ :=
  (if row.comment.getD [] = [] then 0 else 3 + len (row.comment.getD [])) +
    ((if row.isEnabled then 1 else 14) + len row.rule)

def txtSize (now : Str) (rows : List CustomRule) : ℕ :=
  49 + len now + (rows.map txtRowSize).sum

theorem len_txtLines (row : CustomRule) : len (txtLines row) = txtRowSize row := by
  have hmark : len (str "# ") = 2 := by decide +kernel
  have hdisabled : len (str "# (disabled) ") = 13 := by decide +kernel
  have hfeed : len (str "\n") = 1 := by decide +kernel
  have hcomment : len (if row.comment.getD [] = [] then []
        else str "# " ++ row.comment.getD [] ++ str "\n") =
      if row.comment.getD [] = [] then 0 else 3 + len (row.comment.getD []) := by
    split_ifs
    · rfl
    · rw [len_append, len_append, hmark, hfeed]
      omega
  have hrule : len (if row.isEnabled then row.rule else str "# (disabled) " ++ row.rule) + 1 =
      (if row.isEnabled then 1 else 14) + len row.rule := by
    split_ifs
    · omega
    · rw [len_append, hdisabled]
      omega
  rw [txtLines_eq, txtRowSize, len_append, hcomment, len_append, hfeed, hrule]

theorem len_txtBody (now : Str) (rows : List CustomRule) :
    len (txtBody now rows) = txtSize now rows := by
  have hrows : len (rows.flatMap txtLines) = (rows.map txtRowSize).sum := by
    induction rows with
    | nil => rfl
    | cons row rest ih =>
      rw [List.flatMap_cons, len_append, ih, len_txtLines, List.map_cons, List.sum_cons]
  have hheader : len (str "# Rust DNS — custom rules export\n") = 35 := by decide +kernel
  have hexported : len (str "# Exported: ") = 12 := by decide +kernel
  have hfeeds : len (str "\n\n") = 2 := by decide +kernel
  unfold txtBody txtSize
  simp only [len_append, hheader, hexported, hfeeds, hrows]
  omega

def Sending.FitsText (sending : Sending) (now : Str) (rows : List CustomRule) : Prop :=
  sending.framing + txtSize now rows ≤ sending.bodyLimit ∧ txtSize now rows ≤ maxImportSize

instance (sending : Sending) (now : Str) (rows : List CustomRule) :
    Decidable (sending.FitsText now rows) :=
  inferInstanceAs (Decidable (_ ∧ _))

section RoundTrip

variable [Unicode] [RegexCrate] [SerdeJson]

theorem mem_rules_importRules {env : Env} {auth : Claims} {multipart : List (Except Str Field)}
    {field : Field} {size : ℕ} {content : Str} {state : AppState}
    (hfile : readFile multipart = .ok (some (field, ⟨size, some content⟩))) (hsize : size ≠ 0)
    (htext : looksLikeJson field content = false) (hempty : state.db.customRules.rows = [])
    (hid : Function.Injective env.newId) (rule : Str) :
    rule ∈ ((importRules env auth multipart).exec state).db.customRules.rows.map CustomRule.rule ↔
      IsUploaded false content rule := by
  obtain ⟨entries, hentries⟩ : ∃ entries, parseEntries false content = .ok entries := ⟨_, rfl⟩
  have hids : state.db.customRules.rows.map CustomRule.id = (List.range 0).map env.newId := by
    rw [hempty]
    rfl
  obtain ⟨⟨table, imported, skipped⟩, himport⟩ :=
    exists_importEntries hid hids
  have hunder := importEntriesUnder_none env auth.username 0 entries state.db.customRules 0 0
  rw [himport] at hunder
  obtain ⟨-, count, -, added, hrows, -, -, hrules, -⟩ := growsBy_of_importEntriesUnder hunder
  rw [customRules_importRules hfile hsize (by rw [htext, hentries]) state, himport]
  dsimp only
  rw [hrows, hempty, List.nil_append, hrules, hempty]
  exact (and_iff_left List.not_mem_nil).trans (exists_entry_iff hentries rule)

structure Sending.IsText (sending : Sending) : Prop where
  contentType : (sending.contentType.any fun type => str "application/json" <:+: type) = false
  fileName : (sending.fileName.any fun name => endsWith (str ".json") (toLowercase name)) = false

omit [RegexCrate] [SerdeJson] in
theorem looksLikeJson_txtBody {sending : Sending} (htext : sending.IsText) {field : Field}
    (hfileName : field.fileName = sending.fileName)
    (hcontentType : field.contentType = sending.contentType) (now : Str)
    (rows : List CustomRule) : looksLikeJson field (txtBody now rows) = false := by
  obtain ⟨rest, hbody⟩ : ∃ rest, txtBody now rows = '#' :: rest := ⟨_, rfl⟩
  unfold looksLikeJson
  rw [hfileName, hcontentType, htext.contentType, htext.fileName, hbody,
    List.dropWhile_cons_of_neg (by decide)]
  rfl

def RestoresEnabled (before after : List CustomRule) : Prop :=
  ∀ rule, rule ∈ after.map CustomRule.rule ↔
    ∃ row ∈ before, isImported row = false ∧ row.isEnabled = true ∧ row.rule = rule

/-- The lines of a row are read as what they are: an enabled rule is one line and not a
comment, and the lines that do not stand behind a `#` are empty, comments, or enabled rules of
the table. -/
structure ReadsBack (rows : List CustomRule) (row : CustomRule) : Prop where
  enabled : row.isEnabled = true → '\n' ∉ row.rule ∧ startsWith (str "#") row.rule = false
  strays : ∀ line ∈ strayLines row, trim line = [] ∨ startsWith (str "#") (trim line) = true ∨
    ∃ other ∈ rows, isImported other = false ∧ other.isEnabled = true ∧ other.rule = trim line

section Restores

variable {exportEnv importEnv : Env} {auth : Claims} {sending : Sending} {source target : AppState}

variable {db : Database} {now rule : Str} {rows : List CustomRule}

omit [SerdeJson] [Unicode] [RegexCrate] in
theorem mem_exportedRows {row : CustomRule} :
    row ∈ exportedRows db ↔ row ∈ db.customRules.rows ∧ isImported row = false := by
  unfold exportedRows Keyset.descending
  rw [List.mem_insertionSort, List.mem_filter, Bool.not_eq_true']

omit [Unicode] [RegexCrate] in
theorem isUploaded_txtBody (hnow : '\n' ∉ now) :
    IsUploaded false (txtBody now rows) rule ↔
      (rule ≠ [] ∧ startsWith (str "#") rule = false) ∧ ∃ row ∈ rows,
        (∃ line ∈ strayLines row, trim line = rule) ∨
          row.isEnabled = true ∧ ∃ line ∈ row.rule.splitOn '\n', trim line = rule := by
  unfold IsUploaded
  simp only [Bool.false_eq_true, if_false, ← and_assoc]
  refine and_congr_right fun hrule => ?_
  rw [exists_trim_lines_iff hrule.1, splitOn_txtBody hnow]
  have hcomment : ∀ start, trim ('#' :: start) ≠ rule := by
    rintro start rfl
    rw [startsWith_trim_of_comment start rfl] at hrule
    cases hrule.2
  have hempty : trim [] ≠ rule := Ne.symm hrule.1
  constructor
  · rintro ⟨line, hline, htrim⟩
    simp only [List.mem_append, List.mem_cons, List.not_mem_nil, or_false] at hline
    rcases hline with (rfl | rfl | rfl) | hline | rfl
    · exact absurd htrim (hcomment _)
    · exact absurd htrim (hcomment _)
    · exact absurd htrim hempty
    · obtain ⟨row, hrow, hline⟩ := List.mem_flatMap.mp hline
      exact ⟨row, hrow, (exists_rowLines_iff hrule.2).mp ⟨line, hline, htrim⟩⟩
    · exact absurd htrim hempty
  · rintro ⟨row, hrow, hread⟩
    obtain ⟨line, hline, htrim⟩ := (exists_rowLines_iff hrule.2).mpr hread
    refine ⟨line, List.mem_append_right _ (List.mem_append_left _ ?_), htrim⟩
    exact List.mem_flatMap.mpr ⟨row, hrow, hline⟩

theorem restore_txt [SerdeJsonPretty] :
    restore exportEnv importEnv (some (str "txt")) auth sending source target =
      (importRules importEnv auth
        (sending.multipart (txtBody exportEnv.now (exportedRows source.db)))).exec target := by
  have hcsv : str "txt" ≠ str "csv" := by decide
  simp only [restore, exportRules, eval_bind, eval_get, Option.getD_some, if_neg hcsv, if_true,
    eval_pure]

theorem mem_rules_restore [SerdeJsonPretty] (htext : sending.IsText)
    (hempty : target.db.customRules.rows = []) (hid : Function.Injective importEnv.newId)
    (hfits : sending.FitsText exportEnv.now (exportedRows source.db)) (rule : Str) :
    rule ∈ (restore exportEnv importEnv (some (str "txt")) auth sending source
        target).db.customRules.rows.map CustomRule.rule ↔
      IsUploaded false (txtBody exportEnv.now (exportedRows source.db)) rule := by
  have hread := readFile_multipart sending (txtBody exportEnv.now (exportedRows source.db))
  rw [len_txtBody, if_pos hfits.1, if_neg (not_lt.mpr hfits.2)] at hread
  have hsize : txtSize exportEnv.now (exportedRows source.db) ≠ 0 := by
    unfold txtSize
    omega
  rw [restore_txt]
  exact mem_rules_importRules hread hsize (looksLikeJson_txtBody htext rfl rfl _ _) hempty hid rule

theorem restore_of_not_fits [SerdeJsonPretty]
    (hfits : ¬ sending.FitsText exportEnv.now (exportedRows source.db)) :
    restore exportEnv importEnv (some (str "txt")) auth sending source target = target := by
  obtain ⟨response, hresponse⟩ : ∃ response, readFile (sending.multipart
      (txtBody exportEnv.now (exportedRows source.db))) = .error response := by
    rw [readFile_multipart, len_txtBody]
    split_ifs with hbody hlarge
    · exact ⟨_, rfl⟩
    · exact absurd ⟨hbody, not_lt.mp hlarge⟩ hfits
    · exact ⟨_, rfl⟩
  rw [restore_txt, importRules, hresponse]
  rfl

omit [Unicode] [RegexCrate] in
theorem notMem_of_isUploaded (hnow : '\n' ∉ now)
    (hread : IsUploaded false (txtBody now rows) rule) : '\n' ∉ rule := by
  obtain ⟨-, row, -, ⟨line, hline, rfl⟩ | ⟨-, line, hline, rfl⟩⟩ :=
    (isUploaded_txtBody hnow).mp hread
  · exact fun hfeed => notMem_of_mem_strayLines hline (subset_of_trim line hfeed)
  · exact fun hfeed => notMem_of_mem_splitOn hline (subset_of_trim line hfeed)

omit [Unicode] [RegexCrate] in
/-- The rules that the import reads are the enabled ones if every row is read as what it is. -/
theorem isUploaded_iff_enabled (hnow : '\n' ∉ now)
    (hrules : ∀ row ∈ db.customRules.rows, isImported row = false →
      row.rule ≠ [] ∧ trim row.rule = row.rule) :
    (∀ rule, IsUploaded false (txtBody now (exportedRows db)) rule ↔
      ∃ row ∈ db.customRules.rows, isImported row = false ∧ row.isEnabled = true ∧
        row.rule = rule) ↔
      ∀ row ∈ db.customRules.rows, isImported row = false → ReadsBack db.customRules.rows row := by
  constructor
  · intro hrestores row hrow hown
    refine ⟨fun henabled => ?_, fun line hline => ?_⟩
    · have hread := (hrestores row.rule).mpr ⟨row, hrow, hown, henabled, rfl⟩
      exact ⟨notMem_of_isUploaded hnow hread, ((isUploaded_txtBody hnow).mp hread).1.2⟩
    · by_cases hblank : trim line = []
      · exact Or.inl hblank
      by_cases hcomment : startsWith (str "#") (trim line) = true
      · exact Or.inr (Or.inl hcomment)
      refine Or.inr (Or.inr ((hrestores (trim line)).mp ((isUploaded_txtBody hnow).mpr
        ⟨⟨hblank, by simpa using hcomment⟩, row, mem_exportedRows.mpr ⟨hrow, hown⟩, ?_⟩)))
      exact Or.inl ⟨line, hline, rfl⟩
  · intro hreads rule
    rw [isUploaded_txtBody hnow]
    constructor
    · rintro ⟨⟨hblank, hcomment⟩, row, hexported, hread⟩
      obtain ⟨hrow, hown⟩ := mem_exportedRows.mp hexported
      rcases hread with ⟨line, hline, rfl⟩ | ⟨henabled, line, hline, rfl⟩
      · rcases (hreads row hrow hown).strays line hline with hempty | hmark | hrule
        · exact absurd hempty hblank
        · rw [hcomment] at hmark
          cases hmark
        · exact hrule
      · rw [splitOn_of_notMem ((hreads row hrow hown).enabled henabled).1,
          List.mem_singleton] at hline
        subst hline
        exact ⟨row, hrow, hown, henabled, (hrules row hrow hown).2.symm⟩
    · rintro ⟨row, hrow, hown, henabled, rfl⟩
      obtain ⟨hfeed, hcomment⟩ := (hreads row hrow hown).enabled henabled
      refine ⟨⟨(hrules row hrow hown).1, hcomment⟩, row, mem_exportedRows.mpr ⟨hrow, hown⟩,
        Or.inr ⟨henabled, row.rule, ?_, (hrules row hrow hown).2⟩⟩
      rw [splitOn_of_notMem hfeed]
      exact List.mem_singleton_self _

/-- **Which rules come back from the text export.**  The rules of the users are not empty and
trimmed; the text export is imported as a text to an empty table.  Exactly the enabled rules
come back if the file fits and every row is read as what it is, or if it does not fit and there
are none. -/
theorem restoresEnabled_iff [SerdeJsonPretty]
    (hrules : ∀ row ∈ source.db.customRules.rows, isImported row = false →
      row.rule ≠ [] ∧ trim row.rule = row.rule)
    (hempty : target.db.customRules.rows = []) (hid : Function.Injective importEnv.newId)
    (hnow : '\n' ∉ exportEnv.now) (htext : sending.IsText) :
    RestoresEnabled source.db.customRules.rows
        (restore exportEnv importEnv (some (str "txt")) auth sending source
          target).db.customRules.rows ↔
      if sending.FitsText exportEnv.now (exportedRows source.db) then
        ∀ row ∈ source.db.customRules.rows, isImported row = false →
          ReadsBack source.db.customRules.rows row
      else ∀ row ∈ source.db.customRules.rows, isImported row = false → row.isEnabled = false := by
  unfold RestoresEnabled
  split_ifs with hfits
  · simp only [mem_rules_restore htext hempty hid hfits]
    exact isUploaded_iff_enabled hnow hrules
  · rw [restore_of_not_fits hfits, hempty]
    constructor
    · intro hrestores row hrow hown
      by_contra henabled
      exact List.not_mem_nil ((hrestores row.rule).mpr
        ⟨row, hrow, hown, by simpa using henabled, rfl⟩)
    · rintro hdisabled rule
      refine ⟨fun hrule => absurd hrule List.not_mem_nil, ?_⟩
      rintro ⟨row, hrow, hown, henabled, -⟩
      rw [hdisabled row hrow hown] at henabled
      cases henabled

end Restores

end RoundTrip

/-! ### A comment of two lines -/

section Example

attribute [local instance] Unicode.ascii RegexCrate.fragment SerdeJson.standard
  SerdeJsonPretty.standard

def textFile : Sending where
  fileName := some (str "rules_export.txt")
  contentType := some (str "text/plain; charset=utf-8")
  framing := 200
  bodyLimit := 2 * 1024 * 1024
  limitError := str "Request payload is too large"

/-- A rule with a comment of two lines, and a rule that begins with `#`. -/
def markedRules : Table CustomRule.id where
  rows := [⟨str "a", str "||ads.com^", some (str "ads\n||shop.com^"), true, str "admin",
      str "2026-01-01", none⟩,
    ⟨str "b", str "#tracker", none, true, str "admin", str "2026-01-02", none⟩]
  nodup := List.nodup_cons.mpr ⟨by simp [str], List.nodup_singleton _⟩

def switchedRules : Table CustomRule.id where
  rows := [⟨str "a", str "||ads.com^", some (str "ads"), true, str "admin", str "2026-01-01",
      none⟩,
    ⟨str "b", str "||shop.com^", none, false, str "admin", str "2026-01-02", none⟩]
  nodup := List.nodup_cons.mpr ⟨by simp [str], List.nodup_singleton _⟩

def importedText (customRules : Table CustomRule.id) : List CustomRule :=
  (restore restoreEnv restoreEnv (some (str "txt")) restoreAuth textFile (serverWith customRules)
    (serverWith .empty)).db.customRules.rows

/-- The second line of the comment comes back as a rule, and one of the rules does not come
back. -/
theorem not_restoresEnabled_markedRules :
    (∀ row ∈ markedRules.rows, isImported row = false ∧ row.rule ≠ [] ∧
      trim row.rule = row.rule) ∧
    (importedText markedRules).map CustomRule.rule = [str "||shop.com^", str "||ads.com^"] ∧
    ¬ RestoresEnabled markedRules.rows (importedText markedRules) := by
  have hrules : (importedText markedRules).map CustomRule.rule =
      [str "||shop.com^", str "||ads.com^"] := by
    decide +kernel
  refine ⟨by decide +kernel, hrules, fun hrestores => ?_⟩
  have hlost := (hrestores (str "#tracker")).mpr ⟨_, List.mem_cons_of_mem _ List.mem_cons_self,
    by decide +kernel, rfl, rfl⟩
  rw [hrules] at hlost
  revert hlost
  decide +kernel

theorem restoresEnabled_switchedRules :
    RestoresEnabled switchedRules.rows (importedText switchedRules) := by
  have hid : Function.Injective restoreEnv.newId := fun m n heq => by
    simpa [restoreEnv] using congrArg List.length heq
  refine (restoresEnabled_iff (by decide +kernel) rfl hid (by decide +kernel)
    ⟨by decide +kernel, by decide +kernel⟩).mpr ?_
  rw [if_pos (by decide +kernel)]
  intro row hrow _
  have hrows : ∀ row ∈ switchedRules.rows, '\n' ∉ row.rule ∧
      startsWith (str "#") row.rule = false ∧ strayLines row = [] := by
    decide +kernel
  obtain ⟨hfeed, hcomment, hstrays⟩ := hrows row hrow
  refine ⟨fun _ => ⟨hfeed, hcomment⟩, ?_⟩
  rw [hstrays]
  exact fun line hline => absurd hline List.not_mem_nil

end Example

end RustDns.Api.Rules
