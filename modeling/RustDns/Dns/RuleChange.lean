import RustDns.Dns.RuleMeaning

/-!
# What more rules change

Two lists of rule lines of which one has everything the other has: `base`, and
`all`, which has the lines of `extra` as well.  A rule of `base` still covers
what it covered, with one exception: a wildcard of `extra` that does not compile
takes the wildcards of `base` down with it.  `Overturned` lists the ways in which
the extra lines can change whether a name is blocked (`isBlocked_eq_iff`); with a
single extra line more can be said (`matchDomain_concat_iff`).

Two lists of which neither contains the other but which have rules in common are
compared by `matchDomain_eq_iff_granted`.
-/

namespace RustDns

open RuleSet

section Parts

variable [Unicode] {part lines : List Str} {name pattern line : Str} {action : Action}

def Reads (lines : List Str) (rule : Rule) : Prop := ∃ line ∈ lines, parseLine line = some rule

/-- The rules of `part` are those of `base` and those of `extra`. -/
def Merges (part base extra : List Str) : Prop :=
  ∀ rule, Reads part rule ↔ Reads base rule ∨ Reads extra rule

theorem merges_of_mem {base extra : List Str}
    (hpart : ∀ line, line ∈ part ↔ line ∈ base ∨ line ∈ extra) : Merges part base extra := by
  intro rule
  simp only [Reads, hpart, or_and_right, exists_or]

theorem hasBlockAll_merge {base extra : List Str} (hpart : Merges part base extra) :
    hasBlockAll part = true ↔ hasBlockAll base = true ∨ hasBlockAll extra = true := by
  simp only [hasBlockAll_iff]
  exact hpart .blockAll

theorem domains_concat_wildcard {kind : Action}
    (hline : parseLine line = some (.wildcard kind pattern)) :
    domains action (lines ++ [line]) = domains action lines := by
  simp [domains, hline]

theorem patterns_concat (hline : ∀ pattern, parseLine line ≠ some (.wildcard action pattern)) :
    patterns action (lines ++ [line]) = patterns action lines := by
  have hnone : patterns action [line] = [] := by
    refine List.eq_nil_iff_forall_not_mem.mpr fun pattern hpattern => ?_
    obtain ⟨other, hother, hparse⟩ := mem_patterns.mp hpattern
    rw [List.mem_singleton.mp hother] at hparse
    exact hline pattern hparse
  calc patterns action (lines ++ [line])
      = patterns action lines ++ patterns action [line] := List.filterMap_append
    _ = patterns action lines := by rw [hnone, List.append_nil]

theorem patterns_concat_wildcard (hline : parseLine line = some (.wildcard action pattern)) :
    patterns action (lines ++ [line]) = patterns action lines ++ [pattern] := by
  simp [patterns, hline]

theorem covered_concat (line : Str) (h : Covered (domains action lines) name) :
    Covered (domains action (lines ++ [line])) name := by
  obtain ⟨domain, hdomain, hwithin⟩ := h
  refine ⟨domain, ?_, hwithin⟩
  simp only [domains, List.filterMap_append, List.mem_append]
  exact Or.inl hdomain

theorem hasBlockAll_append (lines more : List Str) :
    hasBlockAll (lines ++ more) = (hasBlockAll lines || hasBlockAll more) :=
  List.any_append

variable [RegexCrate]

/-- The lines of `part` cover `name` when they are compiled together with the
rest of `all`. -/
def Keeps (action : Action) (all part : List Str) (name : Str) : Prop :=
  Covered (domains action part) name ∨
    (RegexCrate.new (patterns action all)).isSome = true ∧ PatternHit (patterns action part) name

theorem covers_iff_keeps (action : Action) (all : List Str) (name : Str) :
    Covers action all name ↔ Keeps action all all name := by
  unfold Covers Keeps livePatterns
  split_ifs with hnew
  · simp [hnew]
  · simp [hnew, PatternHit]

theorem keeps_merge {base extra : List Str} (hpart : Merges part base extra) (action : Action)
    (all : List Str) (name : Str) :
    Keeps action all part name ↔ Keeps action all base name ∨ Keeps action all extra name := by
  have hcovered : Covered (domains action part) name ↔
      Covered (domains action base) name ∨ Covered (domains action extra) name := by
    have hdomain := fun domain => hpart (.domain action domain)
    simp only [Reads] at hdomain
    simp only [Covered, mem_domains, hdomain, or_and_right, exists_or]
  have hhit : PatternHit (patterns action part) name ↔
      PatternHit (patterns action base) name ∨ PatternHit (patterns action extra) name := by
    have hpattern := fun pattern => hpart (.wildcard action pattern)
    simp only [Reads] at hpattern
    simp only [PatternHit, mem_patterns, hpattern, or_and_right, exists_or]
  rw [Keeps, hcovered, hhit, and_or_left, or_or_or_comm]
  rfl

theorem Keeps.covers {all base : List Str} (hsub : base.Sublist all)
    (h : Keeps action all base name) : Covers action base name := by
  rw [covers_iff_keeps]
  exact h.imp id (And.imp (RegexCrate.isSome_new_of_sublist (hsub.filterMap _)) id)

/-- The lines of `extra` change whether `name` is blocked. -/
inductive Overturned (all base extra : List Str) (name : Str) : Prop where
  /-- An extra exception frees a name that `base` blocks. -/
  | freed (hblocks : Blocks base name) (hallows : ¬ Allows base name)
      (hextra : Keeps .allow all extra name)
  /-- An extra block rule blocks a name that `base` has no rule for. -/
  | caught (hallows : ¬ Allows base name) (hblocks : ¬ Blocks base name)
      (hextra : hasBlockAll extra = true ∨ Keeps .block all extra name)
      (hnone : ¬ Keeps .allow all extra name)
  /-- `base` blocks the name by wildcards only, and they are lost. -/
  | disarmed (hblocks : Blocks base name) (hallows : ¬ Allows base name)
      (hlost : ¬ Blocks all name)
  /-- `base` allows the name by wildcards only, they are lost, and the name is
  blocked by what is left. -/
  | exposed (hallows : Allows base name) (hlost : ¬ Allows all name) (hblocks : Blocks all name)

variable {all base extra : List Str}

theorem allows_merge (hmem : Merges all base extra) (name : Str) :
    Allows all name ↔ Keeps .allow all base name ∨ Keeps .allow all extra name :=
  (covers_iff_keeps .allow all name).trans (keeps_merge hmem .allow all name)

theorem blocks_merge (hmem : Merges all base extra) (name : Str) :
    Blocks all name ↔ (hasBlockAll base = true ∨ Keeps .block all base name) ∨
        hasBlockAll extra = true ∨ Keeps .block all extra name := by
  have hkeeps := (covers_iff_keeps .block all name).trans (keeps_merge hmem .block all name)
  rw [Blocks, hkeeps, hasBlockAll_merge hmem]
  tauto

theorem isBlocked_eq_iff (hsub : base.Sublist all)
    (hmem : ∀ line, line ∈ all ↔ line ∈ base ∨ line ∈ extra) (domain : Str) :
    (built all).isBlocked domain = (built base).isBlocked domain ↔
      ¬ Overturned all base extra (normalizeQuery domain) := by
  rw [Bool.eq_iff_iff, isBlocked_built, isBlocked_built]
  generalize normalizeQuery domain = name
  have hallow := allows_merge (merges_of_mem hmem) name
  have hblock := blocks_merge (merges_of_mem hmem) name
  have hallowBase : Keeps .allow all base name → Allows base name := Keeps.covers hsub
  have hblockBase : hasBlockAll base = true ∨ Keeps .block all base name → Blocks base name :=
    Or.imp id (Keeps.covers hsub)
  constructor
  · rintro heq (⟨hb, ha, hextra⟩ | ⟨ha, hb, hextra, hnone⟩ | ⟨hb, ha, hlost⟩ | ⟨ha, hlost, hb⟩)
    · exact (heq.mpr ⟨ha, hb⟩).1 (hallow.mpr (Or.inr hextra))
    · have hfree : ¬ Allows all name := fun h => (hallow.mp h).elim (ha ∘ hallowBase) hnone
      exact hb (heq.mp ⟨hfree, hblock.mpr (Or.inr hextra)⟩).2
    · exact hlost (heq.mpr ⟨ha, hb⟩).2
    · exact (heq.mp ⟨hlost, hb⟩).1 ha
  · intro hkept
    constructor
    · rintro ⟨ha, hb⟩
      have hbase : ¬ Allows base name := fun h => hkept (.exposed h ha hb)
      refine ⟨hbase, ?_⟩
      by_contra hopen
      refine hkept (.caught hbase hopen ?_ fun h => ha (hallow.mpr (Or.inr h)))
      exact (hblock.mp hb).resolve_left (hopen ∘ hblockBase)
    · rintro ⟨ha, hb⟩
      refine ⟨fun h => ?_, by_contra fun hlost => hkept (.disarmed hb ha hlost)⟩
      rcases hallow.mp h with hkeeps | hextra
      · exact ha (hallowBase hkeeps)
      · exact hkept (.freed hb ha hextra)

/-! ## One more line -/

/-- The line is a wildcard that does not compile with those there are, and only
they cover the name. -/
def Breaks (action : Action) (lines : List Str) (line name : Str) : Prop :=
  ∃ pattern, parseLine line = some (.wildcard action pattern) ∧
    (RegexCrate.new (patterns action lines)).isSome = true ∧
    RegexCrate.new (patterns action lines ++ [pattern]) = none ∧
    PatternHit (patterns action lines) name ∧ ¬ Covered (domains action lines) name

/-- A name is no longer covered after a further line exactly when that line
breaks the wildcards. -/
theorem lost_concat_iff (action : Action) (lines : List Str) (line name : Str) :
    Covers action lines name ∧ ¬ Covers action (lines ++ [line]) name ↔
      Breaks action lines line name := by
  constructor
  · rintro ⟨hcovers, hlost⟩
    have hdomain : ¬ Covered (domains action lines) name :=
      fun h => hlost (Or.inl (covered_concat line h))
    have hhit := hcovers.resolve_left hdomain
    unfold livePatterns at hhit
    split_ifs at hhit with hcompiles
    · by_cases hline : ∃ pattern, parseLine line = some (.wildcard action pattern)
      · obtain ⟨pattern, hline⟩ := hline
        refine ⟨pattern, hline, hcompiles, ?_, hhit, hdomain⟩
        by_contra hsome
        refine hlost (Or.inr ?_)
        rw [patterns_concat_wildcard hline, livePatterns,
          if_pos (Option.isSome_iff_ne_none.mpr hsome)]
        obtain ⟨found, hfound, hmatch⟩ := hhit
        exact ⟨found, List.mem_append_left _ hfound, hmatch⟩
      · -- without a new pattern the compiled set is the same
        refine absurd (Or.inr ?_) hlost
        rw [patterns_concat (fun pattern h => hline ⟨pattern, h⟩), livePatterns, if_pos hcompiles]
        exact hhit
    · simp [PatternHit] at hhit
  · rintro ⟨pattern, hline, hcompiles, hbroken, hhit, hdomain⟩
    refine ⟨Or.inr ?_, ?_⟩
    · rwa [livePatterns, if_pos hcompiles]
    · rw [Covers, domains_concat_wildcard hline, patterns_concat_wildcard hline, livePatterns,
        hbroken]
      simp [hdomain, PatternHit]

theorem unchanged_of_breaks (hbreaks : Breaks .block lines line name) :
    (Allows (lines ++ [line]) name ↔ Allows lines name) ∧
      hasBlockAll (lines ++ [line]) = hasBlockAll lines := by
  obtain ⟨pattern, hline, -⟩ := hbreaks
  constructor
  · rw [Allows, Covers, domains_concat_wildcard hline,
      patterns_concat (fun other h => by simp [hline] at h)]
    rfl
  · simp [hasBlockAll, hline]

/-- **When a further line takes no verdict away.**  A blocked name stays blocked
or becomes allowed and an allowed name stays allowed, unless the line breaks the
wildcards that the verdict rests on. -/
theorem matchDomain_concat_iff (lines : List Str) (line domain : Str) :
    ((built lines).matchDomain domain = .blocked →
        (built (lines ++ [line])).matchDomain domain = .blocked ∨
          (built (lines ++ [line])).matchDomain domain = .allowed) ∧
      ((built lines).matchDomain domain = .allowed →
        (built (lines ++ [line])).matchDomain domain = .allowed) ↔
      ¬ Breaks .allow lines line (normalizeQuery domain) ∧
        ¬ (Breaks .block lines line (normalizeQuery domain) ∧ hasBlockAll lines = false ∧
          ¬ Allows lines (normalizeQuery domain)) := by
  have hbefore := verdict_built lines domain
  have hafter := verdict_built (lines ++ [line]) domain
  rw [hbefore.blocked, hafter.blocked, hbefore.allowed, hafter.allowed]
  generalize normalizeQuery domain = name
  have hallow : Allows lines name ∧ ¬ Allows (lines ++ [line]) name ↔
      Breaks .allow lines line name := lost_concat_iff .allow lines line name
  have hblock := lost_concat_iff .block lines line name
  constructor
  · rintro ⟨hblocked, hallowed⟩
    refine ⟨fun hbreaks => ?_, ?_⟩
    · obtain ⟨hbase, hlost⟩ := hallow.mpr hbreaks
      exact hlost (hallowed hbase)
    · rintro ⟨hbreaks, hnone, hfree⟩
      obtain ⟨hcovers, hlost⟩ := hblock.mpr hbreaks
      obtain ⟨hsame, hsameAll⟩ := unchanged_of_breaks hbreaks
      rcases hblocked ⟨hfree, Or.inr hcovers⟩ with ⟨-, hall | hcovers'⟩ | hallows
      · simp [hsameAll, hnone] at hall
      · exact hlost hcovers'
      · exact hfree (hsame.mp hallows)
  · rintro ⟨hexceptions, hblocks⟩
    have hkept : Allows lines name → Allows (lines ++ [line]) name :=
      fun hallows => by_contra fun hlost => hexceptions (hallow.mp ⟨hallows, hlost⟩)
    refine ⟨?_, hkept⟩
    rintro ⟨hfree, hblocked⟩
    by_cases hallows : Allows (lines ++ [line]) name
    · exact Or.inr hallows
    refine Or.inl ⟨hallows, ?_⟩
    cases hall : hasBlockAll lines with
    | true => exact Or.inl (by simp [hasBlockAll_append, hall])
    | false =>
      have hcovers : Covers .block lines name := hblocked.resolve_left (by simp [hall])
      by_contra hlost
      exact hblocks ⟨hblock.mp ⟨hcovers, fun h => hlost (Or.inr h)⟩, hall, hfree⟩

end Parts

/-- One rule with a dash from outside ASCII, and the name that another wildcard
blocked is free. -/
theorem matchDomain_concat_dashLine :
    letI := Unicode.ascii
    letI := RegexCrate.fragment
    (built [str "||ads-*.com^"]).matchDomain (str "ads-1.com") = .blocked ∧
      (built ([str "||ads-*.com^"] ++ [str "||*–cdn.com^"])).matchDomain (str "ads-1.com") =
        .none := by
  decide +kernel

/-! ## Two lists with rules in common -/

section Common

variable [RegexCrate]

/-- A rule of the given kind is about the name; a wildcard only if it is in
force. -/
def Rule.Grants (inForce : Prop) (action : Action) (name : Str) : Rule → Prop
  | .blockAll => action = .block
  | .domain kind host => kind = action ∧ Within name host
  | .wildcard kind pattern => kind = action ∧ inForce ∧ PatternHit [pattern] name

/-- One of the rules is about the name. -/
def Granted (inForce : Prop) (action : Action) (rules : Rule → Prop) (name : Str) : Prop :=
  ∃ rule, rules rule ∧ rule.Grants inForce action name

/-- The wildcards of a list are in force: they compile together. -/
def InForce [Unicode] (action : Action) (lines : List Str) : Prop :=
  (RegexCrate.new (patterns action lines)).isSome = true

/-- A rule of both lists is about the name, and in force in both. -/
def GrantedByBoth [Unicode] (action : Action) (left right : List Str) (common : Rule → Prop)
    (name : Str) : Prop :=
  Granted (InForce action left ∧ InForce action right) action common name

/-- A rule is about the name that only the first list has, or that is in force
there only. -/
def GrantedAlone [Unicode] (action : Action) (this other : List Str) (own common : Rule → Prop)
    (name : Str) : Prop :=
  Granted (InForce action this) action own name ∨
    Granted (InForce action this ∧ ¬ InForce action other) action common name

variable {inForce : Prop} {action : Action} {name : Str} {common own : Rule → Prop}

theorem granted_or : Granted inForce action (fun rule => common rule ∨ own rule) name ↔
    Granted inForce action common name ∨ Granted inForce action own name := by
  simp only [Granted, or_and_right, exists_or]

theorem granted_iff_cases (other : Prop) :
    Granted inForce action common name ↔
      Granted (inForce ∧ other) action common name ∨
        Granted (inForce ∧ ¬ other) action common name := by
  -- without any wildcard in force there is less, not more
  have hweak : Granted False action common name → Granted inForce action common name := by
    rintro ⟨rule, hrule, hgrants⟩
    refine ⟨rule, hrule, ?_⟩
    cases rule with
    | blockAll => exact hgrants
    | domain kind host => exact hgrants
    | wildcard kind pattern => exact hgrants.2.1.elim
  by_cases hother : other
  · simpa [hother] using hweak
  · simpa [hother] using hweak

variable [Unicode] {left right : List Str}

theorem granted_reads (action : Action) (lines : List Str) (name : Str) :
    Granted (InForce action lines) action (Reads lines) name ↔
      action = .block ∧ hasBlockAll lines = true ∨ Covers action lines name := by
  rw [covers_iff_keeps, hasBlockAll_iff]
  constructor
  · rintro ⟨rule, hrule, hgrants⟩
    cases rule with
    | blockAll => exact Or.inl ⟨hgrants, hrule⟩
    | domain kind domain =>
      obtain ⟨rfl, hwithin⟩ := hgrants
      exact Or.inr (Or.inl ⟨domain, mem_domains.mpr hrule, hwithin⟩)
    | wildcard kind pattern =>
      obtain ⟨rfl, hforce, _, hmem, hhit⟩ := hgrants
      obtain rfl := List.mem_singleton.mp hmem
      exact Or.inr (Or.inr ⟨hforce, _, mem_patterns.mpr hrule, hhit⟩)
  · rintro (⟨haction, hrule⟩ | ⟨domain, hmem, hwithin⟩ | ⟨hforce, pattern, hmem, hhit⟩)
    · exact ⟨.blockAll, hrule, haction⟩
    · exact ⟨.domain action domain, mem_domains.mp hmem, rfl, hwithin⟩
    · exact ⟨.wildcard action pattern, mem_patterns.mp hmem, rfl, hforce, pattern,
        List.mem_singleton_self _, hhit⟩

theorem grantedByBoth_comm : GrantedByBoth action left right common name ↔
    GrantedByBoth action right left common name := by
  rw [GrantedByBoth, and_comm]
  rfl

theorem granted_of_parts (hleft : ∀ rule, Reads left rule ↔ common rule ∨ own rule)
    (right : List Str) (action : Action) (name : Str) :
    action = .block ∧ hasBlockAll left = true ∨ Covers action left name ↔
      GrantedByBoth action left right common name ∨
        GrantedAlone action left right own common name := by
  have hreads : Reads left = fun rule => common rule ∨ own rule :=
    funext fun rule => propext (hleft rule)
  rw [← granted_reads, hreads, granted_or, granted_iff_cases (InForce action right), GrantedAlone,
    GrantedByBoth]
  tauto

end Common

/-! ### Rules that add nothing -/

section Redundant

variable [Unicode] [RegexCrate]

theorem built_eq_iff (left right : List Str) :
    built left = built right ↔
      (∀ action, (domains action left).toFinset = (domains action right).toFinset) ∧
        (∀ action, patterns action left = patterns action right) ∧
          hasBlockAll left = hasBlockAll right := by
  simp only [built, ofLines_eq]
  constructor
  · intro hsame
    refine ⟨fun action => ?_, fun action => ?_, congrArg RuleSet.blockAll hsame⟩
    · cases action with
      | allow => exact congrArg RuleSet.allowed hsame
      | block => exact congrArg RuleSet.blocked hsame
    · cases action with
      | allow => exact congrArg RuleSet.wildcardAllowedPatterns hsame
      | block => exact congrArg RuleSet.wildcardBlockedPatterns hsame
  · rintro ⟨hdomain, hpattern, hall⟩
    simp only [hdomain, hpattern, hall]

/-- A rule set stays the same if and only if no wildcard is added and every other rule was there. -/
theorem built_append_eq_iff (base extra : List Str) :
    built (base ++ extra) = built base ↔ ∀ rule, Reads extra rule →
        (∀ action pattern, rule ≠ .wildcard action pattern) ∧ Reads base rule := by
  have hdomains : ∀ action, domains action (base ++ extra) =
      domains action base ++ domains action extra := fun _ => List.filterMap_append
  have hpatterns : ∀ action, patterns action (base ++ extra) =
      patterns action base ++ patterns action extra := fun _ => List.filterMap_append
  simp only [built_eq_iff, hdomains, hpatterns, hasBlockAll_append, List.toFinset_append,
    Finset.union_eq_left, List.append_right_eq_self, Bool.or_eq_left_iff_imp]
  constructor
  · rintro ⟨hdomain, hpattern, hall⟩ rule hrule
    cases rule with
    | blockAll => exact ⟨fun _ _ => nofun, hasBlockAll_iff.mp (hall (hasBlockAll_iff.mpr hrule))⟩
    | domain action domain =>
      have hmem := hdomain action (List.mem_toFinset.mpr (mem_domains.mpr hrule))
      exact ⟨fun _ _ => nofun, mem_domains.mp (List.mem_toFinset.mp hmem)⟩
    | wildcard action pattern =>
      have hmem := mem_patterns.mpr hrule
      rw [hpattern] at hmem
      cases hmem
  · intro hredundant
    refine ⟨fun action domain hmem => ?_, fun action => ?_, fun hextra => ?_⟩
    · rw [List.mem_toFinset] at hmem ⊢
      exact mem_domains.mpr (hredundant _ (mem_domains.mp hmem)).2
    · rw [List.eq_nil_iff_forall_not_mem]
      intro pattern hmem
      exact (hredundant _ (mem_patterns.mp hmem)).1 action pattern rfl
    · exact hasBlockAll_iff.mpr (hredundant _ (hasBlockAll_iff.mp hextra)).2

end Redundant

end RustDns
