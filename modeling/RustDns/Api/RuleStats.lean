import RustDns.Keyset
import RustDns.Overwrite
import RustDns.Api.Rules

/-!
# The hit statistics

`api/handlers/rule_stats.rs`: how often the user's rules have been hit.  The handlers do not ask the
filter engine.  They read the blocked questions of a window from the query log, grouped by question
and counted, and match them against a rule with a parser and a matcher of their own.

`rule_hit_detail` lists the groups that a rule matches, and their counts add up to the number of
blocked rows (`sum_cnt_detailHits`).  `rule_hit_stats` first puts the groups into a map under the
question in lower case, where questions that differ in case only replace each other
(`hitCount_eq_iff`).
-/

namespace RustDns.Api.RuleStats

open Text RuleSet

/-! ## Matchers -/

/-- `RuleMatcher`.  A wildcard has the pattern of its compiled `Regex`. -/
inductive RuleMatcher where
  | domain (domain : Str)
  | wildcard (pattern : Str)
  | skip
deriving DecidableEq

section Matcher

variable [Unicode]

/-- `wildcard_to_regex` of the handlers, which is a copy of that of the engine. -/
def wildcardToRegex (pattern : Str) : Str := RustDns.wildcardToRegex pattern

/-- The end of three branches: a text without a star is a domain as it stands. -/
def domainOrSkip (text : Str) : RuleMatcher :=
  let d := toLowercase (trim text)
  if !d.isEmpty && !d.contains '*' then .domain d else .skip

def hostsStarts : List Str := [str "0.0.0.0 ", str "127.0.0.1 ", str "::1 ", str "::0 "]

/-- What `splitn(2, ' ')` leaves behind the first space. -/
def afterSpace (line : Str) : Str := (line.dropWhile (· != ' ')).drop 1

def parsePlain (line : Str) : RuleMatcher :=
  if hostsStarts.any (startsWith · line) then domainOrSkip (afterSpace line)
  else if line.contains '*' then .skip
  else if !line.contains '/' && !line.contains ' ' then
    let d := toLowercase line
    if !d.isEmpty then .domain d else .skip
  else .skip

variable [RegexCrate]

/-- A line `||domain^` or `||ad-*.example.com^`, without the bars.  A pattern compiles by itself
when the set of this pattern does. -/
def parseBars (rest : Str) : RuleMatcher :=
  let domainStr := toLowercase (adguardBody rest)
  if domainStr.isEmpty then .skip
  else if domainStr.contains '*' then
    let pattern := wildcardToRegex domainStr
    if (RegexCrate.new [pattern]).isSome then .wildcard pattern else .skip
  else .domain domainStr

/-- The matcher of a line without white space around it. -/
def parseTrimmed (r : Str) : RuleMatcher :=
  if r.isEmpty || startsWith (str "#") r || startsWith (str "!") r || startsWith (str "@@") r then
    .skip
  else
    match stripPrefix (str "||") r with
    | some rest => parseBars rest
    | none =>
      match (stripPrefix (str "*.") r).orElse fun _ => stripPrefix (str ".") r with
      | some rest => domainOrSkip rest
      | none => parsePlain r

def parseRuleMatcher (rule : Str) : RuleMatcher := parseTrimmed (trim rule)

def domainMatches (question ruleDomain : Str) : Bool :=
  let q := toLowercase (trimEndMatches '.' question)
  q == ruleDomain || endsWith ('.' :: ruleDomain) q

def RuleMatcher.counts : RuleMatcher → Str → Bool
  | .domain ruleDomain, question => domainMatches question ruleDomain
  | .wildcard pattern, question => RegexCrate.patternMatch pattern (trimEndMatches '.' question)
  | .skip, _ => false

omit [RegexCrate] in
theorem domainMatches_iff {question ruleDomain : Str} :
    domainMatches question ruleDomain = true ↔ Within (normalizeQuery question) ruleDomain := by
  simp [domainMatches, normalizeQuery, Within, endsWith]

end Matcher

/-! ## The query log -/

/-- The columns of `query_log` that the handlers read.  Times are in microseconds. -/
structure LogRow where
  question : Str
  status : Str
  time : ℤ
deriving DecidableEq

/-- A row of the grouped query: `question, COUNT(*) as cnt, MAX(time)::text as last_seen`. -/
structure QuestionCount where
  question : Str
  cnt : ℕ
  lastSeen : Option Str
deriving DecidableEq

/-- `params.hours.unwrap_or(24).clamp(1, 720)`. -/
def clampHours (hours : Option ℤ) : ℤ := max 1 (min 720 (hours.getD 24))

/-- The rows that the query selects: `status = 'blocked'`, in the last hours. -/
def window (now hours : ℤ) (log : List LogRow) : List LogRow :=
  log.filter fun row => row.status == str "blocked" && now - hours * 3600000000 ≤ row.time

/-- The group of a question; `timeText` is how PostgreSQL writes a time. -/
def groupOf (timeText : ℤ → Str) (rows : List LogRow) (question : Str) : QuestionCount where
  question
  cnt := (rows.map LogRow.question).count question
  lastSeen := ((rows.filter (·.question == question)).map LogRow.time).max?.map timeText

def groups (timeText : ℤ → Str) (rows : List LogRow) : List QuestionCount :=
  (rows.map LogRow.question).dedup.map (groupOf timeText rows)

/-- An entry of the map `question_counts`. -/
abbrev Entry := Str × ℕ × Option Str

/-- The orders that the program has no say in: of the rows of the grouped query, and of the entries
of a `HashMap`. -/
structure Orders where
  rows : List QuestionCount → List QuestionCount
  entries : List Entry → List Entry
  rows_perm : ∀ list, (rows list).Perm list
  entries_perm : ∀ list, (entries list).Perm list

def Orders.asListed : Orders := ⟨id, id, fun _ => .rfl, fun _ => .rfl⟩

/-! ## The handlers -/

structure RuleHits where
  id : Str
  rule : Str
  comment : Option Str
  isEnabled : Bool
  createdAt : Str
  hitCount : ℕ
  lastSeen : Option Str
deriving DecidableEq

/-- The response of `rule_hit_stats`. -/
structure StatsResponse where
  data : List RuleHits
  hours : ℤ
  totalRules : ℕ

/-- The response of `rule_hit_detail`. -/
structure DetailResponse where
  ruleId : Str
  rule : Str
  hits : List QuestionCount
  hours : ℤ

def laterSeen : Option Str → Option Str → Option Str
  | none, some seen => some seen
  | some current, some seen => if current < seen then some seen else some current
  | current, none => current

section Handlers

variable [Unicode] [RegexCrate]

/-- The map `question_counts`. -/
def questionCounts (blockedRows : List QuestionCount) : List Entry :=
  Overwrite.collect (blockedRows.map fun row => (toLowercase row.question, row.cnt, row.lastSeen))

def countEntry (matcher : RuleMatcher) (hits : ℕ × Option Str) (entry : Entry) :
    ℕ × Option Str :=
  if matcher.counts entry.1 then (hits.1 + entry.2.1, laterSeen hits.2 entry.2.2) else hits

variable (orders : Orders) (timeText : ℤ → Str) (log : List LogRow) (now : ℤ)

def blockedRows (hours : Option ℤ) : List QuestionCount :=
  orders.rows (groups timeText (window now (clampHours hours) log))

def ruleHits (hours : Option ℤ) (row : CustomRule) : RuleHits :=
  let counts := questionCounts (blockedRows orders timeText log now hours)
  let hits := (orders.entries counts).foldl (countEntry (parseRuleMatcher row.rule)) (0, none)
  { id := row.id, rule := row.rule, comment := row.comment, isEnabled := row.isEnabled
    createdAt := row.createdAt, hitCount := hits.1, lastSeen := hits.2 }

def ruleHitStats (db : Database) (hours limit : Option ℤ) : StatsResponse :=
  let ruleRows :=
    Keyset.descending CustomRule.createdAt (db.customRules.rows.filter (! Rules.isImported ·))
  let result := Keyset.descending RuleHits.hitCount
    (ruleRows.map (ruleHits orders timeText log now hours))
  ⟨result.take (max 1 (min 1000 (limit.getD 100))).toNat, clampHours hours, ruleRows.length⟩

def detailHits (hours : Option ℤ) (rule : Str) : List QuestionCount :=
  Keyset.descending QuestionCount.cnt ((blockedRows orders timeText log now hours).filter fun row =>
    (parseRuleMatcher rule).counts row.question)

def ruleHitDetail (db : Database) (ruleId : Str) (hours limit : Option ℤ) :
    Except AppError DetailResponse :=
  match db.customRules.rows.find? fun row => row.id == ruleId && !Rules.isImported row with
  | none => .error (.notFound ruleId)
  | some row => .ok
      { ruleId := row.id, rule := row.rule
        hits := (detailHits orders timeText log now hours row.rule).take
          (max 1 (min 200 (limit.getD 20))).toNat
        hours := clampHours hours }

end Handlers

/-! ## Adding up -/

section Sums

def hitWeight (condition : Str → Bool) (group : QuestionCount) : ℕ :=
  if condition group.question then group.cnt else 0

variable {orders : Orders} {timeText : ℤ → Str} {log : List LogRow} {now : ℤ}
  {hours : Option ℤ}

theorem perm_blockedRows : (blockedRows orders timeText log now hours).Perm
    (groups timeText (window now (clampHours hours) log)) :=
  orders.rows_perm _

variable {group : QuestionCount} {matcher : RuleMatcher}

theorem mem_blockedRows :
    group ∈ blockedRows orders timeText log now hours ↔ ∃ row ∈ window now (clampHours hours) log,
      groupOf timeText (window now (clampHours hours) log) row.question = group := by
  rw [perm_blockedRows.mem_iff, groups]
  simp

theorem nodup_blockedRows : (blockedRows orders timeText log now hours).Nodup :=
  perm_blockedRows.nodup_iff.mpr ((List.nodup_dedup _).map fun _ _ heq =>
    congrArg QuestionCount.question heq)

theorem cnt_pos (hgroup : group ∈ blockedRows orders timeText log now hours) : 0 < group.cnt := by
  obtain ⟨row, hrow, rfl⟩ := mem_blockedRows.mp hgroup
  exact List.count_pos_iff.mpr (List.mem_map_of_mem hrow)

theorem sum_hitWeight (condition : Str → Bool) (list : List QuestionCount) :
    (list.map (hitWeight condition)).sum =
      ((list.filter fun group => condition group.question).map QuestionCount.cnt).sum := by
  refine (List.sum_map_ite _ _ _ _).trans ?_
  simp

/-- The counts of the groups that meet a condition add up to the number of the rows that do. -/
theorem sum_hitWeight_blockedRows (condition : Str → Bool) :
    ((blockedRows orders timeText log now hours).map (hitWeight condition)).sum =
      (window now (clampHours hours) log).countP fun row => condition row.question := by
  set rows := window now (clampHours hours) log
  calc ((blockedRows orders timeText log now hours).map (hitWeight condition)).sum
      = ((groups timeText rows).map (hitWeight condition)).sum :=
        (perm_blockedRows.map _).sum_eq
    _ = (((rows.map LogRow.question).dedup.filter condition).map fun question =>
          (rows.map LogRow.question).count question).sum := by
        rw [sum_hitWeight, groups, List.filter_map, List.map_map]
        rfl
    _ = (rows.map LogRow.question).countP condition := by
        rw [← List.sum_map_count_dedup_filter_eq_countP condition]
        refine congrArg List.sum (List.map_congr_left fun question _ => ?_)
        apply List.countP_congr
        intro other _
        show (other == question) = true ↔ decide (other = question) = true
        rw [beq_iff_eq, decide_eq_true_iff]
    _ = rows.countP fun row => condition row.question := by
        rw [List.countP_map]
        rfl

variable [Unicode] [RegexCrate]

/-- The number of blocked rows in the window whose question a rule matches. -/
def matchedRows (log : List LogRow) (now : ℤ) (hours : Option ℤ) (rule : Str) : ℕ :=
  (window now (clampHours hours) log).countP fun row =>
    (parseRuleMatcher rule).counts row.question

/-- **The counts of the detail list add up** to the number of blocked rows that the rule matches. -/
theorem sum_cnt_detailHits (rule : Str) :
    ((detailHits orders timeText log now hours rule).map QuestionCount.cnt).sum =
      matchedRows log now hours rule := by
  have hsorted : (detailHits orders timeText log now hours rule).Perm
      ((blockedRows orders timeText log now hours).filter fun row =>
        (parseRuleMatcher rule).counts row.question) :=
    List.perm_insertionSort _ _
  rw [(hsorted.map _).sum_eq, ← sum_hitWeight, sum_hitWeight_blockedRows, matchedRows]

theorem fst_foldl_countEntry (matcher : RuleMatcher) (entries : List Entry)
    (hits : ℕ × Option Str) :
    (entries.foldl (countEntry matcher) hits).1 =
      hits.1 + (entries.map fun entry => if matcher.counts entry.1 then entry.2.1 else 0).sum := by
  induction entries generalizing hits with
  | nil => rfl
  | cons entry rest ih =>
    rw [List.foldl_cons, ih, List.map_cons, List.sum_cons, countEntry]
    split_ifs
    · exact Nat.add_assoc _ _ _
    · rw [Nat.zero_add]

def entryOf (group : QuestionCount) : Entry :=
  (toLowercase group.question, group.cnt, group.lastSeen)

theorem hitCount_ruleHits (row : CustomRule) :
    (ruleHits orders timeText log now hours row).hitCount =
      ((Overwrite.collect ((blockedRows orders timeText log now hours).map entryOf)).map
        fun entry => if (parseRuleMatcher row.rule).counts entry.1 then entry.2.1 else 0).sum := by
  have hentries := orders.entries_perm
    (questionCounts (blockedRows orders timeText log now hours))
  rw [ruleHits, fst_foldl_countEntry, Nat.zero_add, (hentries.map _).sum_eq]
  rfl

/-! ## Letter case -/

variable [LawfulLowercase]

omit [RegexCrate] in
theorem normalizeQuery_toLowercase (s : Str) :
    normalizeQuery (toLowercase s) = normalizeQuery s := by
  induction s using List.reverseRecOn with
  | nil =>
    have hnil : toLowercase ([] : Str) = [] :=
      LawfulLowercase.toLowercase_ascii [] fun c hc => absurd hc List.not_mem_nil
    rw [hnil]
  | append_singleton s c ih =>
    by_cases hc : c = '.'
    · subst hc
      have hdot (t : Str) : trimEndMatches '.' (t ++ ['.']) = trimEndMatches '.' t := by
        rw [trimEndMatches, List.rdropWhile_concat_pos _ _ _ rfl, trimEndMatches]
      rw [LawfulLowercase.toLowercase_dot, normalizeQuery, normalizeQuery, hdot, hdot]
      exact ih
    · have hlast : (s ++ [c]).getLast? ≠ some '.' := by
        rw [List.getLast?_concat]
        exact fun h => hc (Option.some.inj h)
      rw [normalizeQuery, normalizeQuery, trimEndMatches_of_getLast hlast,
        trimEndMatches_of_getLast fun h => hlast (Unicode.toLowercase_getLast _ h),
        Unicode.toLowercase_idem]

/-- The matcher counts the questions of the rows as it counts them in lower case.  A domain does so
by itself; a pattern has the flag `(?i)` for it. -/
def IgnoresCase (rows : List LogRow) : RuleMatcher → Prop
  | .wildcard pattern => ∀ row ∈ rows,
      (RuleMatcher.wildcard pattern).counts (toLowercase row.question) =
        (RuleMatcher.wildcard pattern).counts row.question
  | _ => True

theorem IgnoresCase.counts_eq {rows : List LogRow} (hignores : IgnoresCase rows matcher)
    {row : LogRow} (hrow : row ∈ rows) :
    matcher.counts (toLowercase row.question) = matcher.counts row.question := by
  cases matcher with
  | domain ruleDomain =>
    rw [Bool.eq_iff_iff]
    simp only [RuleMatcher.counts, domainMatches_iff, normalizeQuery_toLowercase]
  | wildcard pattern => exact hignores row hrow
  | skip => rfl

def OneSpelling (rows : List LogRow) (matcher : RuleMatcher) : Prop :=
  ∀ row ∈ rows, ∀ other ∈ rows, matcher.counts row.question = true →
    toLowercase row.question = toLowercase other.question → row.question = other.question

instance (rows : List LogRow) : DecidablePred (IgnoresCase rows)
  | .domain _ => instDecidableTrue
  | .wildcard pattern => inferInstanceAs (Decidable (∀ row ∈ rows,
      (RuleMatcher.wildcard pattern).counts (toLowercase row.question) =
        (RuleMatcher.wildcard pattern).counts row.question))
  | .skip => instDecidableTrue

instance (rows : List LogRow) (matcher : RuleMatcher) : Decidable (OneSpelling rows matcher) :=
  inferInstanceAs (Decidable (∀ row ∈ rows, ∀ other ∈ rows, matcher.counts row.question = true →
    toLowercase row.question = toLowercase other.question → row.question = other.question))

def Clash (matcher : RuleMatcher) (group other : QuestionCount) : Prop :=
  toLowercase group.question = toLowercase other.question ∧
    matcher.counts (toLowercase group.question) = true

/-- Where the matcher ignores case, two groups clash if and only if there are two spellings of a
question that it counts. -/
theorem pairwise_not_clash_iff
    (hignores : IgnoresCase (window now (clampHours hours) log) matcher) :
    (blockedRows orders timeText log now hours).Pairwise
        (fun group other => ¬ Clash matcher group other) ↔
      OneSpelling (window now (clampHours hours) log) matcher := by
  have hsymm : Std.Symm fun group other => ¬ Clash matcher group other :=
    ⟨fun group other hclash hother => hclash ⟨hother.1.symm, hother.1 ▸ hother.2⟩⟩
  rw [← nodup_blockedRows.pairwise_coe]
  constructor
  · intro hpairs row hrow other hother hcounts hlower
    by_contra hne
    refine hpairs (mem_blockedRows.mpr ⟨row, hrow, rfl⟩) (mem_blockedRows.mpr ⟨other, hother, rfl⟩)
      (fun heq => hne (congrArg QuestionCount.question heq)) ⟨hlower, ?_⟩
    exact (hignores.counts_eq hrow).trans hcounts
  · intro hone group hgroup other hother hne hclash
    obtain ⟨row, hrow, rfl⟩ := mem_blockedRows.mp hgroup
    obtain ⟨row', hrow', rfl⟩ := mem_blockedRows.mp hother
    have hcounts : matcher.counts row.question = true :=
      (hignores.counts_eq hrow).symm.trans hclash.2
    exact hne (congrArg _ (hone row hrow row' hrow' hcounts hclash.1))

/-- **The hit counts add up.**  The counts that `rule_hit_detail` lists for a rule add up to the
number of blocked rows that the rule matches.  The count of `rule_hit_stats` is this number if and
only if no two spellings of a question that the rule matches are in the window; for a pattern,
where it ignores the case of the questions. -/
theorem hitCount_eq_iff (orders : Orders) (timeText : ℤ → Str) (log : List LogRow) (now : ℤ)
    (hours : Option ℤ) (row : CustomRule) :
    ((detailHits orders timeText log now hours row.rule).map QuestionCount.cnt).sum =
        matchedRows log now hours row.rule ∧
      (IgnoresCase (window now (clampHours hours) log) (parseRuleMatcher row.rule) →
        ((ruleHits orders timeText log now hours row).hitCount =
            matchedRows log now hours row.rule ↔
          OneSpelling (window now (clampHours hours) log) (parseRuleMatcher row.rule))) := by
  refine ⟨sum_cnt_detailHits row.rule, fun hignores => ?_⟩
  set matcher := parseRuleMatcher row.rule with hmatcher
  let weight (entry : Entry) : ℕ := if matcher.counts entry.1 then entry.2.1 else 0
  -- Without the replaced groups the map has all that the rule matches.
  have hall : (((blockedRows orders timeText log now hours).map entryOf).map weight).sum =
      matchedRows log now hours row.rule := by
    rw [List.map_map]
    refine Eq.trans (congrArg List.sum (List.map_congr_left fun group hgroup => ?_))
      (sum_hitWeight_blockedRows matcher.counts)
    obtain ⟨logged, hlogged, rfl⟩ := mem_blockedRows.mp hgroup
    have hcounts := hignores.counts_eq hlogged
    show (if matcher.counts (toLowercase logged.question) then _ else 0) = _
    rw [hcounts]
    rfl
  rw [hitCount_ruleHits, ← hall, Overwrite.sum_collect_eq_iff, List.pairwise_map,
    ← pairwise_not_clash_iff hignores]
  refine List.Pairwise.iff_of_mem fun {group other} hgroup _ => ?_
  have hpos := cnt_pos hgroup
  show (toLowercase group.question = toLowercase other.question →
      (if matcher.counts (toLowercase group.question) then group.cnt else 0) = 0) ↔ _
  rw [Clash, not_and]
  refine imp_congr_right fun _ => ?_
  split_ifs with hcounts
  · simp [hcounts, hpos.ne']
  · simp [hcounts]

end Sums

/-! ## A log -/

section Example

attribute [local instance] Unicode.ascii RegexCrate.fragment Unicode.lawfulLowercase_ascii

/-- A rule for `ads.example.com`. -/
def adsRule : CustomRule where
  id := str "1"
  rule := str "||ads.example.com^"
  comment := none
  isEnabled := true
  createdBy := str "admin"
  createdAt := str "2026-01-01"
  expiresAt := none

def blockedRow (question : String) : LogRow := ⟨str question, str "blocked", -1000000⟩

/-- Two devices ask for one name, of which one writes the first letter in upper case. -/
def mixedLog : List LogRow :=
  [blockedRow "Ads.example.com.", blockedRow "ads.example.com.", blockedRow "ads.example.com."]

/-- In lower case all rows are counted. -/
theorem hitCount_eq_iff_lower :
    (ruleHits Orders.asListed (fun _ => []) (mixedLog.drop 1) 0 none adsRule).hitCount =
      matchedRows (mixedLog.drop 1) 0 none adsRule.rule :=
  ((hitCount_eq_iff Orders.asListed (fun _ => []) (mixedLog.drop 1) 0 none adsRule).2
    (by decide +kernel)).mpr (by decide +kernel)

/-- The row in the other spelling is lost. -/
theorem hitCount_mixedLog :
    (ruleHits Orders.asListed (fun _ => []) mixedLog 0 none adsRule).hitCount = 2 ∧
      matchedRows mixedLog 0 none adsRule.rule = 3 ∧
      ((detailHits Orders.asListed (fun _ => []) mixedLog 0 none adsRule.rule).map
        QuestionCount.cnt).sum = 3 := by
  decide +kernel

end Example

end RustDns.Api.RuleStats
