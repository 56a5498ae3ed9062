import RustDns.Dns.Rules

/-!
# What a list of rule lines means

`Rules.lean` models how a rule set is filled and searched.  This file says what
it means: every line is read as at most one `Rule`, a domain rule is about the
names within its domain, a wildcard rule about the names that have a parent (or
are themselves) matched by its pattern, and a verdict is taken by asking the
allow rules first and the block rules second.

The connection has three steps.

* **Lines.**  `addRule_eq` shows that `addRule` files exactly the rule that
  `parseLine` reads, so a rule set is determined by the parsed rules
  (`ofLines_eq`).
* **Walks.**  `climb_iff` turns the parent-walking loop into a statement about
  suffixes, so that both loops become statements about `Within`.
* **Compilation.**  `build` keeps the patterns when they compile and drops all
  of them otherwise.  `livePatterns` is what it leaves.

Their sum is `verdict_built`.  When the patterns compile, `matchDomain_iff_lines`
reads the verdict off the single lines.
-/

namespace RustDns

open Text

inductive Action where
  | allow
  | block
deriving DecidableEq

inductive Rule where
  | blockAll
  | domain (action : Action) (domain : Str)
  | wildcard (action : Action) (pattern : Str)
deriving DecidableEq

/-! ## Reading lines -/

section Lines

variable [Unicode]

/-- The rule of a line, given what follows its `@@`. -/
def parseAllowLine (rest : Str) : Option Rule :=
  match parseAdguardDomain rest with
  | some domain => some (.domain .allow domain)
  | none => (parseAdguardWildcardPattern rest).map (.wildcard .allow)

/-- The rule of a line that is not a comment, not a regular expression, not a
block-all line and has no `@@` in front. -/
def parseBlockLine (line : Str) : Option Rule :=
  match parseAdguardDomain line with
  | some domain => some (.domain .block domain)
  | none =>
    match parseAdguardWildcardPattern line with
    | some pattern => some (.wildcard .block pattern)
    | none =>
      match stripPrefix (str ".") line with
      | some inner => (parseLeadingDot inner).map (.domain .block)
      | none =>
        match parseHostsLine line with
        | some domain => some (.domain .block domain)
        | none =>
          match parseLeadingStar line with
          | some domain => some (.domain .block domain)
          | none =>
            let domain := normalizeDomain line
            if isValidDomain domain then some (.domain .block domain) else none

/-- The rule that `add_rule` reads from a line, if it accepts it. -/
def parseLine (line : Str) : Option Rule :=
  let line := trim line
  if line.isEmpty || startsWith (str "#") line || startsWith (str "!") line then none
  else if startsWith (str "/") line && endsWith (str "/") line then none
  else if line == str "||*^" || line == str "||*" then some .blockAll
  else match stripPrefix (str "@@") line with
    | some rest => parseAllowLine rest
    | none => parseBlockLine line

/-- The domains of the rules of one kind among `lines`. -/
def domains (action : Action) (lines : List Str) : List Str :=
  lines.filterMap fun line => match parseLine line with
    | some (.domain kind domain) => if kind = action then some domain else none
    | _ => none

/-- The patterns of the rules of one kind among `lines`. -/
def patterns (action : Action) (lines : List Str) : List Str :=
  lines.filterMap fun line => match parseLine line with
    | some (.wildcard kind pattern) => if kind = action then some pattern else none
    | _ => none

/-- Whether a block-all line is among `lines`. -/
def hasBlockAll (lines : List Str) : Bool := lines.any fun line => parseLine line == some .blockAll

variable {action : Action} {lines : List Str} {domain line : Str}

theorem mem_domains :
    domain ∈ domains action lines ↔
      ∃ line ∈ lines, parseLine line = some (.domain action domain) := by
  unfold domains
  simp only [List.mem_filterMap]
  refine exists_congr fun line => and_congr_right fun _ => ?_
  split <;> simp_all

theorem mem_patterns {pattern : Str} :
    pattern ∈ patterns action lines ↔
      ∃ line ∈ lines, parseLine line = some (.wildcard action pattern) := by
  unfold patterns
  simp only [List.mem_filterMap]
  refine exists_congr fun line => and_congr_right fun _ => ?_
  split <;> simp_all

theorem hasBlockAll_iff :
    hasBlockAll lines = true ↔ ∃ line ∈ lines, parseLine line = some .blockAll := by
  simp [hasBlockAll]

/-! ### Filed domains are normalised -/

theorem normalizeQuery_normalizeDomain (s : Str) :
    RuleSet.normalizeQuery (normalizeDomain s) = normalizeDomain s := by
  unfold RuleSet.normalizeQuery normalizeDomain
  have hlast : (toLowercase (trimEndMatches '.' (trim s))).getLast? ≠ some '.' :=
    fun hdot => getLast_trimEndMatches '.' (trim s) (Unicode.toLowercase_getLast _ hdot)
  rw [trimEndMatches_of_getLast hlast, Unicode.toLowercase_idem]

theorem exists_of_valid {s : Str}
    (h : (if isValidDomain (normalizeDomain s) then some (normalizeDomain s) else none) =
      some domain) : ∃ s, domain = normalizeDomain s ∧ isValidDomain domain = true := by
  split_ifs at h with hvalid
  cases h
  exact ⟨s, rfl, hvalid⟩

theorem exists_of_parseAdguardDomain {rule : Str} (h : parseAdguardDomain rule = some domain) :
    ∃ s, domain = normalizeDomain s ∧ isValidDomain domain = true := by
  obtain ⟨rest, -, hrest⟩ := Option.bind_eq_some_iff.mp h
  exact exists_of_valid hrest

theorem exists_of_parseHostsLine (h : parseHostsLine line = some domain) :
    ∃ s, domain = normalizeDomain s ∧ isValidDomain domain = true := by
  unfold parseHostsLine at h
  split at h
  · split_ifs at h
    exact exists_of_valid h
  · cases h

theorem exists_of_parseLeadingDot {inner : Str} (h : parseLeadingDot inner = some domain) :
    ∃ s, domain = normalizeDomain s ∧ isValidDomain domain = true :=
  exists_of_valid h

theorem exists_of_parseLeadingStar (h : parseLeadingStar line = some domain) :
    ∃ rest, line = str "*." ++ rest ∧ domain = normalizeDomain rest ∧ domain ≠ [] := by
  obtain ⟨hmap, hne⟩ := Option.filter_eq_some_iff.mp h
  obtain ⟨rest, hstrip, hrest⟩ := Option.map_eq_some_iff.mp hmap
  exact ⟨rest, stripPrefix_eq_some.mp hstrip, hrest.symm, by simpa using hne⟩

/-- Where the domain of a line may come from: it is valid, or what follows `*.`. -/
def ReadsDomain (line domain : Str) : Prop :=
  (∃ s, domain = normalizeDomain s ∧ isValidDomain domain = true) ∨
    ∃ rest, line = str "*." ++ rest ∧ domain = normalizeDomain rest ∧ domain ≠ []

theorem exists_of_parseAllowLine {rest : Str}
    (h : parseAllowLine rest = some (.domain action domain)) :
    ∃ s, domain = normalizeDomain s ∧ isValidDomain domain = true := by
  unfold parseAllowLine at h
  cases hadguard : parseAdguardDomain rest with
  | some found =>
    obtain ⟨-, rfl⟩ : Action.allow = action ∧ found = domain := by simpa [hadguard] using h
    exact exists_of_parseAdguardDomain hadguard
  | none => simp [hadguard] at h

theorem readsDomain_of_parseBlockLine (h : parseBlockLine line = some (.domain action domain)) :
    ReadsDomain line domain := by
  unfold parseBlockLine at h
  split at h
  · rename_i found hfound
    obtain ⟨-, rfl⟩ : Action.block = action ∧ found = domain := by simpa using h
    exact Or.inl (exists_of_parseAdguardDomain hfound)
  split at h
  · cases h
  split at h
  · obtain ⟨found, hfound, heq⟩ := Option.map_eq_some_iff.mp h
    obtain ⟨-, rfl⟩ : Action.block = action ∧ found = domain := by simpa using heq
    exact Or.inl (exists_of_parseLeadingDot hfound)
  split at h
  · rename_i found hfound
    obtain ⟨-, rfl⟩ : Action.block = action ∧ found = domain := by simpa using h
    exact Or.inl (exists_of_parseHostsLine hfound)
  split at h
  · rename_i found hfound
    obtain ⟨-, rfl⟩ : Action.block = action ∧ found = domain := by simpa using h
    exact Or.inr (exists_of_parseLeadingStar hfound)
  dsimp only at h
  split_ifs at h with hvalid
  obtain ⟨-, rfl⟩ : Action.block = action ∧ normalizeDomain line = domain := by simpa using h
  exact Or.inl ⟨line, rfl, hvalid⟩

theorem readsDomain_of_parseLine (h : parseLine line = some (.domain action domain)) :
    ReadsDomain (trim line) domain := by
  unfold parseLine at h
  dsimp only at h
  split_ifs at h
  · cases h
  · split at h
    · exact Or.inl (exists_of_parseAllowLine h)
    · exact readsDomain_of_parseBlockLine h

theorem normalizeQuery_of_mem_domains (h : domain ∈ domains action lines) :
    RuleSet.normalizeQuery domain = domain := by
  obtain ⟨line, -, hparse⟩ := mem_domains.mp h
  obtain ⟨s, rfl, -⟩ | ⟨rest, -, rfl, -⟩ := readsDomain_of_parseLine hparse
  · exact normalizeQuery_normalizeDomain s
  · exact normalizeQuery_normalizeDomain rest

end Lines

/-! ## `addRule` files the parsed rule -/

namespace RuleSet

variable [Unicode] [RegexCrate]

def file (rs : RuleSet) : Rule → RuleSet
  | .blockAll => { rs with blockAll := true }
  | .domain .allow domain => rs.allow domain
  | .domain .block domain => rs.block domain
  | .wildcard .allow pattern => rs.allowWildcard pattern
  | .wildcard .block pattern => rs.blockWildcard pattern

def fileParsed (rs : RuleSet) : Option Rule → RuleSet × Bool
  | some rule => (rs.file rule, true)
  | none => (rs, false)

variable (rs : RuleSet) (lines : List Str) (line : Str)

theorem addAllowRule_eq (rest : Str) :
    rs.addAllowRule rest = rs.fileParsed (parseAllowLine rest) := by
  unfold addAllowRule parseAllowLine
  cases parseAdguardDomain rest with
  | some domain => rfl
  | none => cases parseAdguardWildcardPattern rest <;> rfl

theorem addBlockRule_eq : rs.addBlockRule line = rs.fileParsed (parseBlockLine line) := by
  unfold addBlockRule parseBlockLine
  cases parseAdguardDomain line with
  | some domain => rfl
  | none =>
    cases parseAdguardWildcardPattern line with
    | some pattern => rfl
    | none =>
      cases stripPrefix (str ".") line with
      | some inner => cases hinner : parseLeadingDot inner <;> simp [hinner, fileParsed, file]
      | none =>
        cases parseHostsLine line with
        | some domain => rfl
        | none =>
          cases parseLeadingStar line with
          | some domain => rfl
          | none =>
            dsimp only
            split <;> rfl

theorem addRule_eq : rs.addRule line = rs.fileParsed (parseLine line) := by
  unfold addRule parseLine
  dsimp only
  split_ifs
  · rfl
  · rfl
  · rfl
  · cases stripPrefix (str "@@") (trim line) with
    | some rest => exact addAllowRule_eq rs rest
    | none => exact addBlockRule_eq rs (trim line)

theorem ofLines_concat :
    ofLines (lines ++ [line]) = ((ofLines lines).fileParsed (parseLine line)).1 := by
  simp [ofLines, List.foldl_append, addRule_eq]

theorem addRulesFromStr_fst (content : Str) :
    (new.addRulesFromStr content).1 = ofLines (Text.lines content) := by
  have hfold : ∀ (list : List Str) (rs : RuleSet) (count : ℕ),
      (list.foldl (fun state line =>
        let added := state.1.addRule line
        (added.1, if added.2 then state.2 + 1 else state.2)) (rs, count)).1 =
      list.foldl (fun rs line => (rs.addRule line).1) rs := by
    intro list
    induction list with
    | nil => exact fun _ _ => rfl
    | cons line rest ih => exact fun rs count => ih _ _
  exact hfold _ _ _

/-- What `add_rule` has accumulated after a list of lines: the parsed rules,
sorted by kind, and no compiled set. -/
theorem ofLines_eq :
    ofLines lines =
      { blocked := (domains .block lines).toFinset
        allowed := (domains .allow lines).toFinset
        wildcardBlockedPatterns := patterns .block lines
        wildcardAllowedPatterns := patterns .allow lines
        wildcardBlockedSet := none
        wildcardAllowedSet := none
        blockAll := hasBlockAll lines } := by
  induction lines using List.reverseRecOn with
  | nil => rfl
  | append_singleton lines line ih =>
    rw [ofLines_concat, ih]
    cases hrule : parseLine line with
    | none => simp [fileParsed, domains, patterns, hasBlockAll, hrule]
    | some rule =>
      rcases rule with _ | ⟨_ | _, domain⟩ | ⟨_ | _, pattern⟩ <;>
        simp [fileParsed, file, block, allow, blockWildcard, allowWildcard, domains,
          patterns, hasBlockAll, hrule, List.toFinset_append]

end RuleSet

/-! ## Names within a domain -/

/-- `name` is `domain` or one of its subdomains. -/
def Within (name domain : Str) : Prop := name = domain ∨ '.' :: domain <:+ name

instance (name domain : Str) : Decidable (Within name domain) :=
  inferInstanceAs (Decidable (name = domain ∨ '.' :: domain <:+ name))

theorem Within.refl (name : Str) : Within name name := Or.inl rfl

theorem Within.trans {a b c : Str} (hab : Within a b) (hbc : Within b c) : Within a c := by
  rcases hab with rfl | hab
  · exact hbc
  · rcases hbc with rfl | hbc
    · exact Or.inr hab
    · exact Or.inr (hbc.trans ((List.suffix_cons '.' b).trans hab))

/-- Some domain of the list has `name` within it. -/
def Covered (list : List Str) (name : Str) : Prop := ∃ domain ∈ list, Within name domain

theorem Covered.of_within {list : List Str} {name domain : Str} (hwithin : Within name domain)
    (h : Covered list domain) : Covered list name := by
  obtain ⟨top, htop, hdomain⟩ := h
  exact ⟨top, htop, hwithin.trans hdomain⟩

namespace RuleSet

theorem climb_iff (hit : Str → Bool) (name : Str) :
    climb hit name = true ↔ ∃ parent, '.' :: parent <:+ name ∧ hit parent = true := by
  induction name with
  | nil => simp [climb]
  | cons c rest ih =>
    simp only [List.suffix_cons_iff, or_and_right, exists_or, ← ih]
    by_cases hc : c = '.'
    · subst hc
      simp [climb]
    · simp [climb, hc, Ne.symm hc]

theorem hit_or_climb_iff (hit : Str → Bool) (name : Str) :
    (hit name || climb hit name) = true ↔ ∃ parent, Within name parent ∧ hit parent = true := by
  rw [Bool.or_eq_true, climb_iff]
  simp only [Within, or_and_right, exists_or, exists_eq_left']

theorem matchesSet_iff (name : Str) (set : Finset Str) :
    matchesSet name set = true ↔ ∃ domain ∈ set, Within name domain := by
  have hwalk := hit_or_climb_iff (fun current => decide (current ∈ set)) name
  simpa [matchesSet, and_comm] using hwalk

end RuleSet

/-! ## Compilation -/

section Compilation

variable [RegexCrate]

/-- What `build` leaves of the accumulated patterns: all of them if they compile
together, none otherwise. -/
def livePatterns (list : List Str) : List Str :=
  if (RegexCrate.new list).isSome then list else []

/-- Some pattern matches `name` or one of its parents. -/
def PatternHit (list : List Str) (name : Str) : Prop :=
  ∃ pattern ∈ list, ∃ parent, Within name parent ∧
    RegexCrate.patternMatch pattern parent = true

theorem PatternHit.of_within {list : List Str} {name domain : Str}
    (hwithin : Within name domain) (h : PatternHit list domain) : PatternHit list name := by
  obtain ⟨pattern, hpattern, parent, hparent, hmatch⟩ := h
  exact ⟨pattern, hpattern, parent, hwithin.trans hparent, hmatch⟩

theorem livePatterns_of_isSome {list : List Str}
    (h : list ≠ [] → (RegexCrate.new list).isSome = true) : livePatterns list = list := by
  unfold livePatterns
  split_ifs with hnew
  · rfl
  · by_contra hne
    exact hnew (h (Ne.symm hne))

theorem RuleSet.matchesWildcardSet_build (list : List Str) (name : Str) :
    matchesWildcardSet name (if list.isEmpty then none else RegexCrate.new list) = true ↔
      PatternHit (livePatterns list) name := by
  cases list with
  | nil => simp [matchesWildcardSet, livePatterns, PatternHit]
  | cons pattern rest =>
    cases hnew : RegexCrate.new (pattern :: rest) with
    | none => simp [matchesWildcardSet, livePatterns, PatternHit, hnew]
    | some set =>
      have hempty : RegexCrate.isEmpty set = false := RegexCrate.isEmpty_new hnew
      simp only [matchesWildcardSet, livePatterns, hnew, hempty, Option.isSome_some, if_true,
        List.isEmpty_cons, Bool.false_eq_true, if_false]
      rw [hit_or_climb_iff]
      simp only [PatternHit, RegexCrate.isMatch_new hnew, List.any_eq_true]
      constructor
      · rintro ⟨parent, hwithin, pattern, hpattern, hmatch⟩
        exact ⟨pattern, hpattern, parent, hwithin, hmatch⟩
      · rintro ⟨pattern, hpattern, parent, hwithin, hmatch⟩
        exact ⟨parent, hwithin, pattern, hpattern, hmatch⟩

end Compilation

/-! ## Verdicts -/

/-- A result is read off two questions, of which the first decides alone if it is
answered with yes. -/
structure Verdict (result : MatchResult) (allows blocks : Prop) : Prop where
  allowed : result = .allowed ↔ allows
  blocked : result = .blocked ↔ ¬ allows ∧ blocks
  none : result = .none ↔ ¬ allows ∧ ¬ blocks

theorem Verdict.eq_iff {result other : MatchResult} {allows blocks allows' blocks' : Prop}
    (h : Verdict result allows blocks) (h' : Verdict other allows' blocks') :
    result = other ↔ (allows ↔ allows') ∧ (¬ allows' → (blocks ↔ blocks')) := by
  cases other with
  | allowed =>
    have hallows := h'.allowed.mp rfl
    rw [h.allowed]
    simp [hallows]
  | blocked =>
    obtain ⟨hallows, hblocks⟩ := h'.blocked.mp rfl
    rw [h.blocked]
    simp [hallows, hblocks]
  | none =>
    obtain ⟨hallows, hblocks⟩ := h'.none.mp rfl
    rw [h.none]
    simp [hallows, hblocks]

section Verdicts

variable [Unicode] [RegexCrate]

/-- The rules of one kind among `lines`, compiled together, cover `name`. -/
def Covers (action : Action) (lines : List Str) (name : Str) : Prop :=
  Covered (domains action lines) name ∨ PatternHit (livePatterns (patterns action lines)) name

/-- `lines` allow `name`. -/
def Allows (lines : List Str) (name : Str) : Prop := Covers .allow lines name

/-- `lines` have a block rule for `name`, which an allow rule may still
overrule. -/
def Blocks (lines : List Str) (name : Str) : Prop :=
  hasBlockAll lines = true ∨ Covers .block lines name

variable {lines : List Str} {name domain : Str}

theorem Covers.of_within {action : Action} (hwithin : Within name domain)
    (h : Covers action lines domain) : Covers action lines name :=
  h.imp (Covered.of_within hwithin) (PatternHit.of_within hwithin)

theorem Blocks.of_within (hwithin : Within name domain) (h : Blocks lines domain) :
    Blocks lines name :=
  h.imp id (Covers.of_within hwithin)

namespace RuleSet

/-- The verdict of any rule set: its allow side is asked first, its block side
second. -/
theorem verdict_matchDomain {rs : RuleSet} {domain : Str} {allows blocks : Prop}
    (hallow : allows ↔ matchesSet (normalizeQuery domain) rs.allowed = true ∨
      matchesWildcardSet (normalizeQuery domain) rs.wildcardAllowedSet = true)
    (hblock : blocks ↔ rs.blockAll = true ∨ matchesSet (normalizeQuery domain) rs.blocked = true ∨
      matchesWildcardSet (normalizeQuery domain) rs.wildcardBlockedSet = true) :
    Verdict (rs.matchDomain domain) allows blocks := by
  constructor
  all_goals
    rw [hallow]
    try rw [hblock]
    unfold matchDomain
    dsimp only
    split_ifs <;> simp_all

def built (lines : List Str) : RuleSet := (ofLines lines).build

/-- **The meaning of a built rule set.**  Allow rules decide first, block rules
second. -/
theorem verdict_built (lines : List Str) (domain : Str) :
    Verdict ((built lines).matchDomain domain) (Allows lines (normalizeQuery domain))
      (Blocks lines (normalizeQuery domain)) := by
  rw [built, ofLines_eq, build]
  apply verdict_matchDomain
  · rw [matchesSet_iff, matchesWildcardSet_build]
    simp [Allows, Covers, Covered]
  · rw [matchesSet_iff, matchesWildcardSet_build]
    simp [Blocks, Covers, Covered]

theorem isBlocked_built (lines : List Str) (domain : Str) :
    (built lines).isBlocked domain = true ↔
      ¬ Allows lines (normalizeQuery domain) ∧ Blocks lines (normalizeQuery domain) := by
  rw [← (verdict_built lines domain).blocked]
  simp [isBlocked]

/-! ### The verdict by lines -/

/-- `RegexSet::new` succeeds on the accumulated patterns, as far as `build` calls
it. -/
def Compiles (lines : List Str) : Prop :=
  ((ofLines lines).wildcardBlockedPatterns ≠ [] →
      (RegexCrate.new (ofLines lines).wildcardBlockedPatterns).isSome = true) ∧
    ((ofLines lines).wildcardAllowedPatterns ≠ [] →
      (RegexCrate.new (ofLines lines).wildcardAllowedPatterns).isSome = true)

/-- Some line was parsed to a domain of the given kind that has `name` within
it, or to a pattern of that kind that matches `name` or one of its parents. -/
def LineFor (action : Action) (lines : List Str) (name : Str) : Prop :=
  ∃ line ∈ lines,
    (∃ domain, parseLine line = some (.domain action domain) ∧ Within name domain) ∨
      ∃ pattern, parseLine line = some (.wildcard action pattern) ∧
        ∃ parent, Within name parent ∧ RegexCrate.patternMatch pattern parent = true

/-- Some line was parsed to block-all, or to a block rule for `name`. -/
def BlockLineFor (lines : List Str) (name : Str) : Prop :=
  (∃ line ∈ lines, parseLine line = some .blockAll) ∨ LineFor .block lines name

variable {lines : List Str}

theorem covers_iff_lineFor {action : Action}
    (hlive : livePatterns (patterns action lines) = patterns action lines) (name : Str) :
    Covers action lines name ↔ LineFor action lines name := by
  unfold Covers Covered PatternHit LineFor
  rw [hlive]
  simp only [mem_domains, mem_patterns]
  constructor
  · rintro (⟨domain, ⟨line, hline, hparse⟩, hwithin⟩ | ⟨pattern, ⟨line, hline, hparse⟩, hhit⟩)
    · exact ⟨line, hline, Or.inl ⟨domain, hparse, hwithin⟩⟩
    · exact ⟨line, hline, Or.inr ⟨pattern, hparse, hhit⟩⟩
  · rintro ⟨line, hline, ⟨domain, hparse, hwithin⟩ | ⟨pattern, hparse, hhit⟩⟩
    · exact Or.inl ⟨domain, ⟨line, hline, hparse⟩, hwithin⟩
    · exact Or.inr ⟨pattern, ⟨line, hline, hparse⟩, hhit⟩

theorem allows_iff_lineFor (hcompiles : Compiles lines) (name : Str) :
    Allows lines name ↔ LineFor .allow lines name :=
  covers_iff_lineFor (livePatterns_of_isSome (by simpa [ofLines_eq] using hcompiles.2)) name

theorem blocks_iff_blockLineFor (hcompiles : Compiles lines) (name : Str) :
    Blocks lines name ↔ BlockLineFor lines name :=
  or_congr hasBlockAll_iff
    (covers_iff_lineFor (livePatterns_of_isSome (by simpa [ofLines_eq] using hcompiles.1)) name)

theorem verdict_lines (hcompiles : Compiles lines) (domain : Str) :
    Verdict ((built lines).matchDomain domain) (LineFor .allow lines (normalizeQuery domain))
      (BlockLineFor lines (normalizeQuery domain)) := by
  rw [← allows_iff_lineFor hcompiles, ← blocks_iff_blockLineFor hcompiles]
  exact verdict_built lines domain

/-- **The verdict on a domain, line by line.**  An allow line for the name gives
`allowed`; failing that, a block line gives `blocked`; failing both, the result
is `none`.  Any list with the same lines gives the same result. -/
theorem matchDomain_iff_lines (lines : List Str) (hcompiles : Compiles lines) (domain : Str) :
    ((built lines).matchDomain domain = .allowed ↔
        LineFor .allow lines (normalizeQuery domain)) ∧
      ((built lines).matchDomain domain = .blocked ↔
        ¬ LineFor .allow lines (normalizeQuery domain) ∧
          BlockLineFor lines (normalizeQuery domain)) ∧
      ((built lines).matchDomain domain = .none ↔
        ¬ LineFor .allow lines (normalizeQuery domain) ∧
          ¬ BlockLineFor lines (normalizeQuery domain)) ∧
      ∀ lines', (∀ line, line ∈ lines' ↔ line ∈ lines) → Compiles lines' →
        (built lines').matchDomain domain = (built lines).matchDomain domain := by
  have hverdict := verdict_lines hcompiles domain
  refine ⟨hverdict.allowed, hverdict.blocked, hverdict.none, fun lines' hmem hcompiles' => ?_⟩
  rw [(verdict_lines hcompiles' domain).eq_iff hverdict]
  -- both sides only ask which lines there are
  simp [LineFor, BlockLineFor, hmem]

end RuleSet

end Verdicts

/-- A wildcard exception wins over a wildcard block, for a subdomain in mixed
case with a trailing dot. -/
theorem matchDomain_iff_lines_adsCom :
    let lines := [str "||*.ads.com^", str "@@||safe-*.ads.com^", str "0.0.0.0 tracker.com"]
    letI := Unicode.ascii
    letI := RegexCrate.fragment
    RuleSet.Compiles lines ∧
      (RuleSet.built lines).matchDomain (str "x.Safe-CDN.ads.com.") = .allowed := by
  intro lines
  let _ := Unicode.ascii
  let _ := RegexCrate.fragment
  have hcompiles : RuleSet.Compiles lines := by
    unfold RuleSet.Compiles
    exact ⟨fun _ => by decide +kernel, fun _ => by decide +kernel⟩
  refine ⟨hcompiles, (RuleSet.matchDomain_iff_lines lines hcompiles _).1.mpr ?_⟩
  refine ⟨str "@@||safe-*.ads.com^", by simp [lines],
    Or.inr ⟨str "(?i)^safe-[^.]+\\.ads\\.com$", ?_, str "safe-cdn.ads.com", ?_, ?_⟩⟩
  all_goals decide +kernel

end RustDns
