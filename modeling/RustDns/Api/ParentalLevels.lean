import RustDns.Api.Settings
import RustDns.Dns.ReloadFailures
import RustDns.JsonText

/-!
# The levels of parental control

`update_dns` stores one of the levels `basic`, `standard` and `strict`, and `FilterEngine::reload`
takes the categories of which the level is equal to it.  So a stricter level does not include the
categories below it: what is blocked at one level may be free at the next.

The rules of a category only block (`isBlock_of_parseLine_bars`), so the exceptions are the same at
all levels, and what remains is to compare the block rules (`stayBlocked_iff`).
-/

namespace RustDns

open Text RuleSet Reload FilterEngine

/-! ## Rules that only block -/

section Bars

variable [Unicode]

def Rule.IsBlock : Rule → Prop
  | .blockAll => True
  | .domain action _ | .wildcard action _ => action = .block

theorem isBlock_of_parseBlockLine {line : Str} {rule : Rule}
    (hrule : parseBlockLine line = some rule) : rule.IsBlock := by
  unfold parseBlockLine at hrule
  split at hrule
  · cases hrule
    rfl
  split at hrule
  · cases hrule
    rfl
  split at hrule
  · obtain ⟨domain, -, rfl⟩ := Option.map_eq_some_iff.mp hrule
    rfl
  split at hrule
  · cases hrule
    rfl
  split at hrule
  · cases hrule
    rfl
  dsimp only at hrule
  split_ifs at hrule
  cases hrule
  rfl

theorem isBlock_of_parseLine_bars {rest : Str} {rule : Rule}
    (hrule : parseLine (str "||" ++ rest) = some rule) : rule.IsBlock := by
  obtain ⟨tail, htail⟩ : ∃ tail, trim ('|' :: '|' :: rest) = '|' :: tail :=
    exists_trim_cons (by decide) _
  unfold parseLine at hrule
  rw [show str "||" ++ rest = '|' :: '|' :: rest from rfl, htail] at hrule
  dsimp only at hrule
  have hat : stripPrefix (str "@@") ('|' :: tail) = none :=
    stripPrefix_cons_eq_none (by decide) _ _
  rw [hat] at hrule
  split_ifs at hrule
  · cases hrule
    trivial
  · exact isBlock_of_parseBlockLine hrule

end Bars

namespace ParentalLevels

open Api.Settings

def atLevel (db : Database) (level : Str) : Database :=
  { db with
    settings := [⟨str "parental_control_enabled", str "true"⟩,
      ⟨str "parental_control_level", level⟩].foldl writeSetting db.settings }

theorem dictatedLevel_atLevel (db : Database) {level : Str} (hlevel : level ≠ str "none") :
    dictatedLevel (atLevel db level) = some level := by
  have henabled : (atLevel db level).setting (str "parental_control_enabled") =
      some (str "true") := by
    rw [setting_eq]
    refine Option.map_eq_some_iff.mpr ⟨⟨str "parental_control_enabled", str "true"⟩, ?_, rfl⟩
    have hne : str "parental_control_enabled" ≠ str "parental_control_level" := by decide
    refine Table.find?_eq_some_iff.mpr ⟨?_, rfl⟩
    exact Table.mem_upsert_of_ne (mem_writeSetting_self _ _) hne
  have hstored : (atLevel db level).setting (str "parental_control_level") = some level := by
    rw [setting_eq]
    refine Option.map_eq_some_iff.mpr ⟨⟨str "parental_control_level", level⟩, ?_, rfl⟩
    exact Table.find?_eq_some_iff.mpr ⟨mem_writeSetting_self _ _, rfl⟩
  rw [dictatedLevel, if_pos henabled, hstored]
  simp [Option.filter, hlevel]

section Levels

variable [Unicode] [RegexCrate] [SerdeJson]

def BlockedAt (now : Str) (db : Database) (level domain : Str) : Prop :=
  ∃ engine, reload noFailure now (atLevel db level) = some engine ∧ engine.isBlocked domain = true

omit [Unicode] [RegexCrate] in
def levelLines (now : Str) (db : Database) (level : Str) : List Str :=
  customLines now db ++ categoryLines db level

omit [RegexCrate] in
theorem isBlock_of_reads_categoryLines {db : Database} {level : Str} {rule : Rule}
    (hrule : Reads (categoryLines db level) rule) : rule.IsBlock := by
  obtain ⟨line, hline, hparse⟩ := hrule
  obtain ⟨row, -, hrow⟩ := List.mem_flatMap.mp hline
  obtain ⟨domain, -, rfl⟩ := List.mem_map.mp hrow
  exact isBlock_of_parseLine_bars hparse

variable (now : Str) (db : Database)

theorem allows_levelLines_iff (level name : Str) :
    Allows (levelLines now db level) name ↔ Allows (customLines now db) name := by
  have hdomains : domains .allow (categoryLines db level) = [] := by
    refine List.eq_nil_iff_forall_not_mem.mpr fun domain hmem => ?_
    cases isBlock_of_reads_categoryLines (mem_domains.mp hmem)
  have hpatterns : patterns .allow (categoryLines db level) = [] := by
    refine List.eq_nil_iff_forall_not_mem.mpr fun pattern hmem => ?_
    cases isBlock_of_reads_categoryLines (mem_patterns.mp hmem)
  have hdomainsAll : domains .allow (levelLines now db level) =
      domains .allow (customLines now db) :=
    List.filterMap_append.trans (by rw [← domains, ← domains, hdomains, List.append_nil])
  have hpatternsAll : patterns .allow (levelLines now db level) =
      patterns .allow (customLines now db) :=
    List.filterMap_append.trans (by rw [← patterns, ← patterns, hpatterns, List.append_nil])
  unfold Allows Covers
  rw [hdomainsAll, hpatternsAll]

theorem blockedAt_iff {level : Str} (hlevel : level ≠ str "none") (domain : Str) :
    BlockedAt now db level domain ↔ ¬ Allows (customLines now db) (normalizeQuery domain) ∧
      Blocks (levelLines now db level) (normalizeQuery domain) := by
  have hreload : reload noFailure now (atLevel db level) = some
      { rules := built (levelLines now db level)
        rewrites := reloadRewrites noFailure (atLevel db level) } := by
    rcases reload_cases noFailure now (atLevel db level) with ⟨haborts, -⟩ | ⟨-, hreload⟩
    · rcases haborts with h | h | h | h <;> cases h
    · rw [dictatedLevel_atLevel db hlevel, if_neg (by decide)] at hreload
      exact hreload
  unfold BlockedAt
  rw [hreload, ← allows_levelLines_iff now db level, ← isBlocked_built]
  simp [FilterEngine.isBlocked]

def StayBlocked (now : Str) (db : Database) (level next domain : Str) : Prop :=
  BlockedAt now db level domain → BlockedAt now db next domain

/-- A rule of the level alone blocks the name: one of its categories, or a custom wildcard that
compiles with its categories only.  No custom rule blocks it at both levels, and the next level has
no rule of its own for it. -/
def Released (now : Str) (db : Database) (level next name : Str) : Prop :=
  let custom := Reads (customLines now db)
  GrantedAlone .block (levelLines now db level) (levelLines now db next)
      (Reads (categoryLines db level)) custom name ∧
    ¬ GrantedByBoth .block (levelLines now db level) (levelLines now db next) custom name ∧
    ¬ GrantedAlone .block (levelLines now db next) (levelLines now db level)
      (Reads (categoryLines db next)) custom name

theorem blocks_levelLines_iff (level next name : Str) :
    Blocks (levelLines now db level) name ↔
      GrantedByBoth .block (levelLines now db level) (levelLines now db next)
          (Reads (customLines now db)) name ∨
        GrantedAlone .block (levelLines now db level) (levelLines now db next)
          (Reads (categoryLines db level)) (Reads (customLines now db)) name := by
  have hreads : Merges (levelLines now db level) (customLines now db) (categoryLines db level) :=
    merges_of_mem fun _ => List.mem_append
  rw [← granted_of_parts hreads]
  simp [Blocks]

theorem stayBlocked_iff {level next : Str} (hlevel : level ≠ str "none")
    (hnext : next ≠ str "none") (domain : Str) :
    StayBlocked now db level next domain ↔ Allows (customLines now db) (normalizeQuery domain) ∨
        ¬ Released now db level next (normalizeQuery domain) := by
  have hnextBlocks := (blocks_levelLines_iff now db next level (normalizeQuery domain)).trans
    (or_congr_left grantedByBoth_comm)
  unfold StayBlocked Released
  rw [blockedAt_iff now db hlevel, blockedAt_iff now db hnext, hnextBlocks,
    blocks_levelLines_iff now db level next]
  tauto

/-- **When a stricter level blocks at least as much.**  A domain that is blocked at a level is
blocked at the levels above it if and only if a custom rule allows it, or no level releases it. -/
theorem stayBlocked_levels_iff (now : Str) (db : Database) (domain : Str) :
    StayBlocked now db (str "basic") (str "standard") domain ∧
        StayBlocked now db (str "standard") (str "strict") domain ↔
      Allows (customLines now db) (normalizeQuery domain) ∨
        ¬ Released now db (str "basic") (str "standard") (normalizeQuery domain) ∧
          ¬ Released now db (str "standard") (str "strict") (normalizeQuery domain) := by
  rw [stayBlocked_iff now db (by decide) (by decide),
    stayBlocked_iff now db (by decide) (by decide)]
  exact or_and_left.symm

end Levels

/-! ### A site that the next level forgets -/

def presetDb : Database :=
  { Database.empty with
    parentalControlCategories :=
      ⟨[⟨str "basic-phishing", str "basic", str "[\"phishing.com\",\"scam.com\"]"⟩,
        ⟨str "std-gambling", str "standard", str "[\"poker.com\",\"casino.com\"]"⟩,
        ⟨str "strict-social", str "strict", str "[\"facebook.com\",\"reddit.com\"]"⟩],
        by decide⟩ }

section Preset

attribute [local instance] Unicode.ascii RegexCrate.fragment SerdeJson.standard

theorem not_stayBlocked_presetDb :
    ¬ (StayBlocked (str "2026") presetDb (str "basic") (str "standard") (str "scam.com") ∧
      StayBlocked (str "2026") presetDb (str "standard") (str "strict") (str "scam.com")) := by
  rintro ⟨hstay, -⟩
  have hbasic : (reload noFailure (str "2026") (atLevel presetDb (str "basic"))).any
      (·.isBlocked (str "scam.com")) = true := by decide +kernel
  have hstandard : (reload noFailure (str "2026") (atLevel presetDb (str "standard"))).any
      (·.isBlocked (str "scam.com")) = false := by decide +kernel
  obtain ⟨engine, hengine, hblocked⟩ :=
    hstay (by simpa [BlockedAt, Option.any_eq_true] using hbasic)
  simp [hengine, hblocked] at hstandard

end Preset

end ParentalLevels

end RustDns
