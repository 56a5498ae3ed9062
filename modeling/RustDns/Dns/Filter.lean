import RustDns.Json
import RustDns.Db.Database
import RustDns.Dns.RuleChange

/-!
# The filter engine

`dns/filter.rs`: the global rule set and the global rewrites, and how `reload`
computes both from the database.

`reload` makes up to eight queries.  Some failures abort it, and then the engine
keeps what it had; others are replaced by a default.  The model takes the set of
failing queries as an argument, so that both kinds can be told apart.

A custom rule is loaded when it is enabled and not expired, whoever created it:
`dueLines` are of rows whose list, if any, is enabled, `strayLines` of the others.
-/

namespace RustDns

open Text RuleSet

/-! ## Rewrites -/

/-- A map from names to answers.  Names are put in lower case when they are
inserted, so a key is always in lower case. -/
structure Rewrites [Unicode] where
  entries : AList fun _ : Str => Str
  lower : ∀ name ∈ entries, toLowercase name = name

namespace Rewrites

variable [Unicode]

/-- `HashMap::new`. -/
def empty : Rewrites := ⟨∅, fun name hname => absurd hname (AList.notMem_empty name)⟩

/-- `rewrites.insert(domain.to_lowercase(), answer)`. -/
def insert (rewrites : Rewrites) (domain answer : Str) : Rewrites where
  entries := rewrites.entries.insert (toLowercase domain) answer
  lower := by
    intro name hname
    rcases AList.mem_insert _ |>.mp hname with rfl | hold
    · exact Unicode.toLowercase_idem domain
    · exact rewrites.lower name hold

/-- `rewrites.get(name).cloned()`. -/
def get (rewrites : Rewrites) (name : Str) : Option Str := rewrites.entries.lookup name

/-- Insert pairs one after the other; a later one replaces an earlier one of the
same name. -/
def insertAll (rewrites : Rewrites) (pairs : List (Str × Str)) : Rewrites :=
  pairs.foldl (fun rewrites pair => rewrites.insert pair.1 pair.2) rewrites

def lastAnswer (pairs : List (Str × Str)) (name : Str) : Option Str :=
  (pairs.reverse.find? fun pair => toLowercase pair.1 == name).map Prod.snd

theorem lastAnswer_append (pairs more : List (Str × Str)) (name : Str) :
    lastAnswer (pairs ++ more) name = (lastAnswer more name).or (lastAnswer pairs name) := by
  unfold lastAnswer
  rw [List.reverse_append, List.find?_append]
  cases more.reverse.find? fun pair => toLowercase pair.1 == name <;> rfl

theorem lastAnswer_flatMap {α : Type*} (blocks : List α) (pairs : α → List (Str × Str))
    (name : Str) :
    lastAnswer (blocks.flatMap pairs) name =
      blocks.reverse.findSome? fun block => lastAnswer (pairs block) name := by
  induction blocks with
  | nil => rfl
  | cons block rest ih =>
    rw [List.flatMap_cons, lastAnswer_append, ih, List.reverse_cons, List.findSome?_append]
    simp

theorem get_insert (rewrites : Rewrites) (domain answer name : Str) :
    (rewrites.insert domain answer).get name =
      if toLowercase domain = name then some answer else rewrites.get name := by
  unfold insert get
  split_ifs with hname
  · subst hname
    exact AList.lookup_insert _
  · exact AList.lookup_insert_ne (Ne.symm hname)

theorem get_insertAll (rewrites : Rewrites) (pairs : List (Str × Str)) (name : Str) :
    (rewrites.insertAll pairs).get name = (lastAnswer pairs name).or (rewrites.get name) := by
  induction pairs using List.reverseRecOn with
  | nil => rfl
  | append_singleton front pair ih =>
    have hstep : rewrites.insertAll (front ++ [pair]) =
        (rewrites.insertAll front).insert pair.1 pair.2 := by
      simp [insertAll]
    rw [hstep, get_insert, ih]
    by_cases hname : toLowercase pair.1 = name <;> simp [lastAnswer, hname]

theorem get_empty (name : Str) : empty.get name = none := AList.lookup_empty name

theorem get_eq_none_of_ne {rewrites : Rewrites} {name : Str} (hname : toLowercase name ≠ name) :
    rewrites.get name = none :=
  AList.lookup_eq_none.mpr fun hmem => hname (rewrites.lower name hmem)

end Rewrites

/-! ## Reloading -/

/-- The queries of `reload`, in order. -/
inductive ReloadQuery where
  | countRules
  | rules
  | countLists
  | rewrites
  | safeSearch
  | parentalEnabled
  | parentalLevel
  | categories
deriving DecidableEq

namespace Reload

def noFailure : ReloadQuery → Bool := fun _ => false

/-- `is_enabled = true AND (expires_at IS NULL OR expires_at > $1)`. -/
def isLive (now : Str) (row : CustomRule) : Bool :=
  row.isEnabled && row.expiresAt.all (now < ·)

/-- The custom rules that `reload` loads. -/
def liveRows (now : Str) (db : Database) : List CustomRule :=
  db.customRules.rows.filter (isLive now)

/-- A setting read with `fetch_one(…).unwrap_or_else(default)`: the default
stands for a missing row and for a failed query. -/
def settingOr (failed : Bool) (db : Database) (key : String) (default : String) : Str :=
  if failed then str default else (db.setting (str key)).getD (str default)

def safeSearchRules : List (Str × Str) :=
  [ (str "www.google.com", str "forcesafesearch.google.com"),
    (str "google.com", str "forcesafesearch.google.com"),
    (str "www.bing.com", str "strict.bing.com"),
    (str "bing.com", str "strict.bing.com"),
    (str "www.youtube.com", str "restrict.youtube.com"),
    (str "youtube.com", str "restrict.youtube.com"),
    (str "duckduckgo.com", str "safe.duckduckgo.com"),
    (str "yandex.com", str "family.yandex.com"),
    (str "www.yandex.com", str "family.yandex.com") ]

variable [SerdeJson]

def categoryLines (db : Database) (level : Str) : List Str :=
  (db.parentalControlCategories.rows.filter (·.level == level)).flatMap fun row =>
    ((SerdeJson.stringVec row.domains).getD []).map (str "||" ++ ·)

/-- The parental-control part of `reload`: the rules it adds, or an error. -/
def parentalLines (fails : ReloadQuery → Bool) (db : Database) : Option (List Str) :=
  if settingOr (fails .parentalEnabled) db "parental_control_enabled" "false" = str "true" then
    let level := settingOr (fails .parentalLevel) db "parental_control_level" "none"
    if level = str "none" then some []
    else if fails .categories then none
    else some (categoryLines db level)
  else some []

end Reload

open Reload

/-- `FilterEngine`, without the connection pool. -/
structure FilterEngine [Unicode] [RegexCrate] where
  rules : RuleSet
  rewrites : Rewrites

namespace FilterEngine

variable [Unicode] [RegexCrate]

def isBlocked (engine : FilterEngine) (domain : Str) : Bool := engine.rules.isBlocked domain

def checkRewrite (engine : FilterEngine) (domain : Str) : Option Str :=
  engine.rewrites.get (toLowercase domain)

variable [SerdeJson]

/-- The rewrites that `reload` installs. -/
def reloadRewrites (fails : ReloadQuery → Bool) (db : Database) : Rewrites :=
  let stored := Rewrites.empty.insertAll
    (db.dnsRewrites.rows.map fun row => (row.domain, row.answer))
  if settingOr (fails .safeSearch) db "safe_search_enabled" "false" = str "true" then
    stored.insertAll safeSearchRules
  else stored

/-- `FilterEngine::reload`: the new contents of the engine, or an error, which
leaves the engine as it is. -/
def reload (fails : ReloadQuery → Bool) (now : Str) (db : Database) : Option FilterEngine :=
  -- the result of the counting query only sizes the hash sets, and it may fail
  if fails .rules then none
  else if fails .countLists then none
  else if fails .rewrites then none
  else match parentalLines fails db with
    | none => none
    | some parental =>
      some
        { rules := (ofLines ((liveRows now db).map CustomRule.rule ++ parental)).build
          rewrites := reloadRewrites fails db }

end FilterEngine

/-! ## Which rows should be in force -/

namespace Reload

/-- The list that imported a row: the id behind `filter:` in `created_by`. -/
def listOf (row : CustomRule) : Option Str := stripPrefix (str "filter:") row.createdBy

def isDue (db : Database) (row : CustomRule) : Bool :=
  match listOf row with
  | none => true
  | some id => db.filterLists.rows.any fun list => list.id == id && list.isEnabled

variable [SerdeJson]

def selectedParental (db : Database) : List Str :=
  (parentalLines noFailure db).getD []

/-- Everything that `reload` loads. -/
def liveLines (now : Str) (db : Database) : List Str :=
  (liveRows now db).map CustomRule.rule ++ selectedParental db

def dueLines (now : Str) (db : Database) : List Str :=
  ((liveRows now db).filter (isDue db)).map CustomRule.rule ++ selectedParental db

/-- What `reload` loads beyond that: the rows of lists that are disabled or
gone. -/
def strayLines (now : Str) (db : Database) : List Str :=
  ((liveRows now db).filter (! isDue db ·)).map CustomRule.rule

variable (now : Str) (db : Database)

theorem parentalLines_noFailure : parentalLines noFailure db = some (selectedParental db) := by
  unfold selectedParental parentalLines
  simp only [noFailure, Bool.false_eq_true, if_false]
  split_ifs <;> rfl

theorem dueLines_sublist : (dueLines now db).Sublist (liveLines now db) :=
  (List.filter_sublist.map _).append (List.Sublist.refl _)

theorem mem_liveLines_iff (line : Str) :
    line ∈ liveLines now db ↔ line ∈ dueLines now db ∨ line ∈ strayLines now db := by
  simp only [liveLines, dueLines, strayLines, List.mem_append, List.mem_map, List.mem_filter]
  constructor
  · rintro (⟨row, hrow, rfl⟩ | hparental)
    · cases hdue : isDue db row with
      | true => exact Or.inl (Or.inl ⟨row, ⟨hrow, hdue⟩, rfl⟩)
      | false => exact Or.inr ⟨row, ⟨hrow, by simp [hdue]⟩, rfl⟩
    · exact Or.inl (Or.inr hparental)
  · rintro ((⟨row, ⟨hrow, -⟩, rfl⟩ | hparental) | ⟨row, ⟨hrow, -⟩, rfl⟩)
    · exact Or.inl ⟨row, hrow, rfl⟩
    · exact Or.inr hparental
    · exact Or.inl ⟨row, hrow, rfl⟩

end Reload

namespace FilterEngine

variable [Unicode] [RegexCrate] [SerdeJson]

theorem reload_noFailure (now : Str) (db : Database) :
    reload noFailure now db =
      some { rules := built (liveLines now db), rewrites := reloadRewrites noFailure db } := by
  unfold reload
  rw [parentalLines_noFailure]
  rfl

/-- **What the rows of disabled lists change.**  After a reload a domain is
decided as by the rows that should be in force, exactly when the other loaded
rows do not overturn that decision. -/
theorem reload_isBlocked_eq_due_iff (now : Str) (db : Database) (domain : Str) :
    (reload noFailure now db).map (·.isBlocked domain) =
        some ((built (dueLines now db)).isBlocked domain) ↔
      ¬ Overturned (liveLines now db) (dueLines now db) (strayLines now db)
        (normalizeQuery domain) := by
  rw [← isBlocked_eq_iff (dueLines_sublist now db) (mem_liveLines_iff now db) domain,
    reload_noFailure, Option.map_some, Option.some_inj]
  rfl

/-- The answer that the database gives for a lower-case name: the Safe Search
target, if Safe Search is on and has one, else that of the last rewrite for the
name. -/
def globalAnswer (db : Database) (name : Str) : Option Str :=
  let stored := Rewrites.lastAnswer
    (db.dnsRewrites.rows.map fun row => (row.domain, row.answer)) name
  if settingOr (noFailure .safeSearch) db "safe_search_enabled" "false" = str "true" then
    (Rewrites.lastAnswer safeSearchRules name).or stored
  else stored

omit [RegexCrate] [SerdeJson] in
theorem get_reloadRewrites (db : Database) (name : Str) :
    (reloadRewrites noFailure db).get name = globalAnswer db name := by
  unfold reloadRewrites globalAnswer
  split_ifs <;> simp [Rewrites.get_insertAll, Rewrites.get_empty]

end FilterEngine

/-! ### A rule of a disabled list -/

/-- A database in which the disabled list `l1` has imported a rule. -/
def disabledListDb : Database :=
  { Database.empty with
    filterLists := ⟨[⟨str "l1", str "Ads", none, false, 1, none, str "2026-01-01", 0⟩],
      by decide⟩
    customRules := ⟨[⟨str "r1", str "||ads.com^", none, true, str "filter:l1",
      str "2026-01-01", none⟩], by decide⟩ }

/-- The rule still blocks its domain, which nothing else blocks. -/
theorem reload_isBlocked_disabledListDb :
    letI := Unicode.ascii
    letI := RegexCrate.fragment
    letI := SerdeJson.plain
    ¬ (FilterEngine.reload noFailure (str "2026-02-01") disabledListDb).map
        (·.isBlocked (str "ads.com")) =
      some ((built (dueLines (str "2026-02-01") disabledListDb)).isBlocked (str "ads.com")) := by
  decide +kernel

end RustDns
