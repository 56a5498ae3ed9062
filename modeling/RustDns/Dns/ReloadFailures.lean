import RustDns.Dns.Filter

/-!
# Reloads with failing queries

`FilterEngine::reload` makes up to eight queries.  Four of them abort it.  The count of the rules
may fail without a consequence.  The three settings are read with a default that stands for a
missing row as well as for a failed query:

```text
safe_search_enabled         "false"   no Safe Search rewrites
parental_control_enabled    "false"   no parental-control rules
parental_control_level      "none"    no parental-control rules
```

So a query of a setting that fails takes out of force what the stored setting asks for, and the
call returns `Ok`.  `dictated` is what the contents of the database ask for, and
`reloadInto_dictated_iff` says for which failures a call is right: it fails, or nothing is lost with
the defaults.
-/

namespace RustDns

open RuleSet Reload

/-! ## What the database asks for -/

namespace Reload

/-- The level whose categories are to be blocked, if parental control is on. -/
def dictatedLevel (db : Database) : Option Str :=
  if db.setting (str "parental_control_enabled") = some (str "true") then
    (db.setting (str "parental_control_level")).filter (· ≠ str "none")
  else none

def storedRewrites (db : Database) : List (Str × Str) :=
  db.dnsRewrites.rows.map fun row => (row.domain, row.answer)

def customLines (now : Str) (db : Database) : List Str := (liveRows now db).map CustomRule.rule

end Reload

namespace FilterEngine

variable [Unicode] [RegexCrate]

def SameContent (engine other : FilterEngine) : Prop :=
  engine.rules = other.rules ∧ ∀ name, engine.rewrites.get name = other.rewrites.get name

variable [SerdeJson]

/-- What the contents of the database dictate: the live rules with those of the categories, and the
stored rewrites with those of Safe Search over them. -/
def dictated (now : Str) (db : Database) : FilterEngine where
  rules := built (customLines now db ++ (dictatedLevel db).elim [] (categoryLines db))
  rewrites :=
    if db.setting (str "safe_search_enabled") = some (str "true") then
      (Rewrites.empty.insertAll (storedRewrites db)).insertAll safeSearchRules
    else Rewrites.empty.insertAll (storedRewrites db)

/-- A call of `reload` on an engine: whether it returns `Ok`, and the contents afterwards. -/
def reloadInto (fails : ReloadQuery → Bool) (now : Str) (db : Database) (engine : FilterEngine) :
    Bool × FilterEngine :=
  ((reload fails now db).isSome, (reload fails now db).getD engine)

end FilterEngine

/-! ## What fails -/

namespace Reload

/-- A query fails of which the error is passed on.  The categories are asked for only if the
settings were read and select a level. -/
inductive Aborts (fails : ReloadQuery → Bool) (db : Database) : Prop where
  | rules (h : fails .rules = true)
  | countLists (h : fails .countLists = true)
  | rewrites (h : fails .rewrites = true)
  | categories (h : fails .categories = true) (henabled : fails .parentalEnabled = false)
      (hlevel : fails .parentalLevel = false) (hdictated : (dictatedLevel db).isSome = true)

def SafeSearchKept [Unicode] (fails : ReloadQuery → Bool) (db : Database) : Prop :=
  fails .safeSearch = true → db.setting (str "safe_search_enabled") = some (str "true") →
    ∀ name answer, Rewrites.lastAnswer safeSearchRules name = some answer →
      Rewrites.lastAnswer (storedRewrites db) name = some answer

/-- Both settings of parental control are read, or it is off, or the rules of the categories are in
force already and none is a wildcard. -/
def ParentalKept [Unicode] [SerdeJson] (fails : ReloadQuery → Bool) (now : Str) (db : Database) :
    Prop :=
  fails .parentalEnabled = true ∨ fails .parentalLevel = true →
    ∀ level, dictatedLevel db = some level → ∀ rule, Reads (categoryLines db level) rule →
      (∀ action pattern, rule ≠ .wildcard action pattern) ∧ Reads (customLines now db) rule

theorem settingOr_eq_true_iff (failed : Bool) (db : Database) (key : String) :
    settingOr failed db key "false" = str "true" ↔
      failed = false ∧ db.setting (str key) = some (str "true") := by
  unfold settingOr
  cases failed with
  | true => simp [str]
  | false =>
    cases db.setting (str key) with
    | none => simp [str]
    | some value => simp

section Parental

variable [SerdeJson]

theorem parentalLines_eq (fails : ReloadQuery → Bool) (db : Database) :
    parentalLines fails db =
      if fails .parentalEnabled = true ∨ fails .parentalLevel = true then some []
      else match dictatedLevel db with
        | none => some []
        | some level => if fails .categories then none else some (categoryLines db level) := by
  unfold parentalLines dictatedLevel
  simp only [settingOr_eq_true_iff]
  cases henabled : fails .parentalEnabled with
  | true => simp
  | false =>
    by_cases hon : db.setting (str "parental_control_enabled") = some (str "true")
    · unfold settingOr
      cases hlevel : fails .parentalLevel with
      | true => simp [hon]
      | false =>
        cases db.setting (str "parental_control_level") with
        | none => simp [hon]
        | some level => by_cases hnone : level = str "none" <;> simp [hon, hnone, Option.filter]
    · simp [hon]

end Parental

end Reload

namespace FilterEngine

variable [Unicode] [RegexCrate] [SerdeJson]

variable (fails : ReloadQuery → Bool) (now : Str) (db : Database)

theorem reload_cases :
    Aborts fails db ∧ reload fails now db = none ∨ ¬ Aborts fails db ∧ reload fails now db = some
        { rules := built (customLines now db ++
            if fails .parentalEnabled = true ∨ fails .parentalLevel = true then []
            else (dictatedLevel db).elim [] (categoryLines db))
          rewrites := reloadRewrites fails db } := by
  unfold reload
  rw [parentalLines_eq]
  by_cases hrules : fails .rules = true
  · exact Or.inl ⟨.rules hrules, if_pos hrules⟩
  by_cases hlists : fails .countLists = true
  · exact Or.inl ⟨.countLists hlists, by simp [hlists]⟩
  by_cases hrewrites : fails .rewrites = true
  · exact Or.inl ⟨.rewrites hrewrites, by simp [hrewrites]⟩
  rw [if_neg hrules, if_neg hlists, if_neg hrewrites]
  -- from here on only the categories can abort the call
  have hothers : (fails .categories = true → fails .parentalEnabled = false →
      fails .parentalLevel = false → (dictatedLevel db).isSome = true → False) →
      ¬ Aborts fails db := by
    rintro hcategories (h | h | h | ⟨h, henabled, hlevel, hdictated⟩)
    · exact hrules h
    · exact hlists h
    · exact hrewrites h
    · exact hcategories h henabled hlevel hdictated
  by_cases hsettings : fails .parentalEnabled = true ∨ fails .parentalLevel = true
  · refine Or.inr ⟨hothers fun _ henabled hlevel _ => ?_, by simp only [if_pos hsettings]; rfl⟩
    simp [henabled, hlevel] at hsettings
  obtain ⟨henabled, hlevel⟩ := not_or.mp hsettings
  rw [if_neg hsettings]
  cases hdictated : dictatedLevel db with
  | none =>
    refine Or.inr ⟨hothers fun _ _ _ h => ?_, by simp only [if_neg hsettings]; rfl⟩
    simp [hdictated] at h
  | some level =>
    by_cases hcategories : fails .categories = true
    · refine Or.inl ⟨.categories hcategories ?_ ?_ ?_, by simp [hcategories]⟩
      · simpa using henabled
      · simpa using hlevel
      · rw [hdictated, Option.isSome_some]
    · refine Or.inr ⟨hothers fun h _ _ _ => hcategories h, ?_⟩
      simp only [hcategories, if_neg hsettings]
      rfl

/-- The rules are those that the database asks for unless parental control is lost. -/
theorem rules_eq_dictated_iff :
    built (customLines now db ++
        if fails .parentalEnabled = true ∨ fails .parentalLevel = true then []
        else (dictatedLevel db).elim [] (categoryLines db)) = (dictated now db).rules ↔
      ParentalKept fails now db := by
  unfold dictated ParentalKept
  dsimp only
  split_ifs with hsettings
  · rw [List.append_nil, eq_comm, built_append_eq_iff]
    cases dictatedLevel db with
    | none => simp [hsettings, Reads]
    | some level => simp [hsettings]
  · simp [hsettings]

omit [RegexCrate] [SerdeJson] in
theorem get_stored (name : Str) :
    (Rewrites.empty.insertAll (storedRewrites db)).get name =
      Rewrites.lastAnswer (storedRewrites db) name := by
  rw [Rewrites.get_insertAll, Rewrites.get_empty, Option.or_none]

omit [RegexCrate] [SerdeJson] in
/-- The answer for a name after a reload: that of Safe Search if its setting was read as on, else
that of the last rewrite for the name. -/
theorem get_reloadRewrites_eq (name : Str) :
    (reloadRewrites fails db).get name =
      if settingOr (fails .safeSearch) db "safe_search_enabled" "false" = str "true" then
        (Rewrites.lastAnswer safeSearchRules name).or
          (Rewrites.lastAnswer (storedRewrites db) name)
      else Rewrites.lastAnswer (storedRewrites db) name := by
  unfold reloadRewrites
  dsimp only
  split_ifs
  · rw [Rewrites.get_insertAll]
    exact congrArg _ (get_stored db name)
  · exact get_stored db name

/-- The answers are those that the database asks for unless Safe Search is lost. -/
theorem rewrites_get_eq_dictated_iff :
    (∀ name, (reloadRewrites fails db).get name = (dictated now db).rewrites.get name) ↔
      SafeSearchKept fails db := by
  unfold reloadRewrites dictated SafeSearchKept
  simp only [settingOr_eq_true_iff]
  by_cases hon : db.setting (str "safe_search_enabled") = some (str "true")
  · cases hfails : fails .safeSearch with
    | false => simp [hon, storedRewrites]
    | true =>
      simp only [hon, Bool.true_eq_false, false_and, if_false, if_true, forall_const]
      refine forall_congr' fun name => ?_
      change (Rewrites.empty.insertAll (storedRewrites db)).get name = _ ↔ _
      rw [Rewrites.get_insertAll _ safeSearchRules, get_stored]
      cases hsafe : Rewrites.lastAnswer safeSearchRules name with
      | none => simp
      | some answer => simp
  · simp [hon, storedRewrites]

/-- **Which failures a reload survives.**  A call fails and leaves the engine, or installs what the
database dictates, if and only if a query fails whose error is passed on, or nothing is lost with
the defaults of the settings. -/
theorem reloadInto_dictated_iff (fails : ReloadQuery → Bool) (now : Str) (db : Database)
    (engine : FilterEngine) :
    (reloadInto fails now db engine = (false, engine) ∨
        ∃ new, reloadInto fails now db engine = (true, new) ∧ new.SameContent (dictated now db)) ↔
      Aborts fails db ∨ SafeSearchKept fails db ∧ ParentalKept fails now db := by
  unfold reloadInto
  rcases reload_cases fails now db with ⟨haborts, hreload⟩ | ⟨haborts, hreload⟩
  · rw [hreload]
    exact iff_of_true (Or.inl rfl) (Or.inl haborts)
  · rw [hreload, ← rewrites_get_eq_dictated_iff fails now db, ← rules_eq_dictated_iff]
    constructor
    · rintro (herror | ⟨new, hnew, hrules, hrewrites⟩)
      · cases congrArg Prod.fst herror
      · obtain rfl : _ = new := congrArg Prod.snd hnew
        exact Or.inr ⟨hrewrites, hrules⟩
    · rintro (h | ⟨hrewrites, hrules⟩)
      · exact absurd h haborts
      · exact Or.inr ⟨_, rfl, hrules, hrewrites⟩

end FilterEngine

/-! ### A setting that cannot be read -/

def safeSearchDb : Database :=
  { Database.empty with
    settings := ⟨[⟨str "safe_search_enabled", str "true"⟩], List.nodup_singleton _⟩ }

section Unread

attribute [local instance] Unicode.ascii RegexCrate.fragment SerdeJson.plain

open FilterEngine

/-- One query fails, the call returns `Ok`, and Safe Search is off. -/
theorem reloadInto_safeSearchDb :
    ¬ (reloadInto (· == .safeSearch) (str "2026-01-01") safeSearchDb
          (dictated (str "2026-01-01") safeSearchDb) =
        (false, dictated (str "2026-01-01") safeSearchDb) ∨
      ∃ new, reloadInto (· == .safeSearch) (str "2026-01-01") safeSearchDb
          (dictated (str "2026-01-01") safeSearchDb) = (true, new) ∧
        new.SameContent (dictated (str "2026-01-01") safeSearchDb)) := by
  have hok : (reloadInto (· == .safeSearch) (str "2026-01-01") safeSearchDb
      (dictated (str "2026-01-01") safeSearchDb)).1 = true := by decide +kernel
  have hlost : (reloadInto (· == .safeSearch) (str "2026-01-01") safeSearchDb
      (dictated (str "2026-01-01") safeSearchDb)).2.rewrites.get (str "www.google.com") =
        none := by decide +kernel
  have hdictated : (dictated (str "2026-01-01") safeSearchDb).rewrites.get (str "www.google.com") =
      some (str "forcesafesearch.google.com") := by decide +kernel
  rintro (herror | ⟨new, hnew, -, hrewrites⟩)
  · rw [herror] at hok
    cases hok
  · rw [hnew, hrewrites, hdictated] at hlost
    cases hlost

end Unread

end RustDns
