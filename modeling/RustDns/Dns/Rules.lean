import RustDns.Net.IpAddr
import RustDns.Regex

/-!
# The rule set

`dns/rules.rs`: parsing a rule line, accumulating rules, compiling the wildcard
patterns and matching a domain.

A rule set is filled in two phases.  `addRule` parses one line and files it
under one of five headings: block all, a blocked or allowed domain, a blocked or
allowed wildcard pattern.  `build` then compiles the patterns.  A pattern that
has not been compiled matches nothing, and a list of patterns that does not
compile is dropped as a whole.

The two hash sets are finite sets; the patterns are kept in the order in which
they were added, since they are compiled in that order.
-/

namespace RustDns

open Text

inductive MatchResult where
  | allowed
  | blocked
  | none
deriving DecidableEq

variable [Unicode]

/-! ## Parsing one line -/

def normalizeDomain (s : Str) : Str := toLowercase (trimEndMatches '.' (trim s))

/-- The label check of `is_valid_domain`. -/
def isValidLabel (label : Str) : Bool :=
  !label.isEmpty && len label ≤ 63 && label.all (fun c => isAlphanumeric c || c == '-') &&
    !startsWith (str "-") label && !endsWith (str "-") label

def isValidDomain (s : Str) : Bool :=
  if s.isEmpty || 253 < len s then false
  -- a single label is only accepted for `localhost`
  else if !s.contains '.' && s != str "localhost" then false
  else (s.splitOn '.').all isValidLabel

/-- The text between the marker and the options of an AdGuard rule: everything
before the first `^`, of that everything before the first `$`, without trailing
`|`, then `/`, then `.`. -/
def adguardBody (rest : Str) : Str :=
  let afterCaret := splitNext '^' rest
  let domainRaw := splitNext '$' afterCaret
  trimEndMatches '.' (trimEndMatches '/' (trimEndMatches '|' domainRaw))

def parseAdguardDomain (rule : Str) : Option Str := do
  let rest ← (stripPrefix (str "||") rule).orElse fun _ => stripPrefix (str "|") rule
  let domain := normalizeDomain (adguardBody rest)
  if isValidDomain domain then some domain else none

def wildcardToRegex (pattern : Str) : Str :=
  let piece (c : Char) : Str :=
    if c = '*' then str "[^.]+"
    else if c = '.' then str "\\."
    else if isAlphanumeric c || c == '-' || c == '_' then [c]
    else ['\\', c]
  str "(?i)^" ++ pattern.flatMap piece ++ str "$"

def parseAdguardWildcardPattern (rule : Str) : Option Str := do
  let rest ← stripPrefix (str "||") rule
  let domainStr := toLowercase (adguardBody rest)
  if !domainStr.contains '*' then none
  else if !domainStr.contains '.' then none
  else some (wildcardToRegex domainStr)

def parseHostsLine (line : Str) : Option Str :=
  match splitWhitespace line with
  | ip :: domainPart :: _ =>
    if (IpAddr.parse ip).isNone then none
    else if domainPart == str "localhost" || endsWith (str ".local") domainPart then none
    else
      let domain := normalizeDomain domainPart
      if isValidDomain domain then some domain else none
  | _ => none

/-- The domain of a rule `.domain.com^`. -/
def parseLeadingDot (inner : Str) : Option Str :=
  let domain := normalizeDomain (trimEndMatches '.' (splitNext '$' (splitNext '^' inner)))
  if isValidDomain domain then some domain else none

/-- The domain of a line `*.example.com`.  An empty rest is no domain, and the
line is then tried as a plain domain. -/
def parseLeadingStar (line : Str) : Option Str :=
  ((stripPrefix (str "*.") line).map normalizeDomain).filter (! ·.isEmpty)

/-! ## The rule set -/

variable [RegexCrate]

structure RuleSet where
  blocked : Finset Str
  allowed : Finset Str
  wildcardBlockedPatterns : List Str
  wildcardAllowedPatterns : List Str
  wildcardBlockedSet : Option RegexCrate.RegexSet
  wildcardAllowedSet : Option RegexCrate.RegexSet
  blockAll : Bool

namespace RuleSet

/-- `RuleSet::new`, and `RuleSet::with_capacity`, which differs only in the
memory it reserves. -/
def new : RuleSet := ⟨∅, ∅, [], [], none, none, false⟩

/-- `self.blocked.insert(domain)`. -/
def block (rs : RuleSet) (domain : Str) : RuleSet :=
  { rs with blocked := insert domain rs.blocked }

/-- `self.allowed.insert(domain)`. -/
def allow (rs : RuleSet) (domain : Str) : RuleSet :=
  { rs with allowed := insert domain rs.allowed }

def blockWildcard (rs : RuleSet) (pattern : Str) : RuleSet :=
  { rs with
    wildcardBlockedPatterns := rs.wildcardBlockedPatterns ++ [pattern]
    wildcardBlockedSet := none }

def allowWildcard (rs : RuleSet) (pattern : Str) : RuleSet :=
  { rs with
    wildcardAllowedPatterns := rs.wildcardAllowedPatterns ++ [pattern]
    wildcardAllowedSet := none }

def build (rs : RuleSet) : RuleSet :=
  { rs with
    wildcardBlockedSet :=
      if rs.wildcardBlockedPatterns.isEmpty then none
      else RegexCrate.new rs.wildcardBlockedPatterns
    wildcardAllowedSet :=
      if rs.wildcardAllowedPatterns.isEmpty then none
      else RegexCrate.new rs.wildcardAllowedPatterns }

/-- The part of `add_rule` behind `@@`: an allowed domain or an allow pattern. -/
def addAllowRule (rs : RuleSet) (rest : Str) : RuleSet × Bool :=
  match parseAdguardDomain rest with
  | some domain => (rs.allow domain, true)
  | none =>
    match parseAdguardWildcardPattern rest with
    | some pattern => (rs.allowWildcard pattern, true)
    | none => (rs, false)

/-- The part of `add_rule` for lines without `@@`: the AdGuard formats, a leading
dot, the hosts format, `*.example.com` and a plain domain, in this order. -/
def addBlockRule (rs : RuleSet) (line : Str) : RuleSet × Bool :=
  match parseAdguardDomain line with
  | some domain => (rs.block domain, true)
  | none =>
    match parseAdguardWildcardPattern line with
    | some pattern => (rs.blockWildcard pattern, true)
    | none =>
      match stripPrefix (str ".") line with
      | some inner =>
        match parseLeadingDot inner with
        | some domain => (rs.block domain, true)
        | none => (rs, false)
      | none =>
        match parseHostsLine line with
        | some domain => (rs.block domain, true)
        | none =>
          match parseLeadingStar line with
          | some domain => (rs.block domain, true)
          | none =>
            let domain := normalizeDomain line
            if isValidDomain domain then (rs.block domain, true) else (rs, false)

/-- `RuleSet::add_rule`: the rule set after the call and the result. -/
def addRule (rs : RuleSet) (line : Str) : RuleSet × Bool :=
  let line := trim line
  if line.isEmpty || startsWith (str "#") line || startsWith (str "!") line then (rs, false)
  -- regex rules are skipped
  else if startsWith (str "/") line && endsWith (str "/") line then (rs, false)
  else if line == str "||*^" || line == str "||*" then ({ rs with blockAll := true }, true)
  else match stripPrefix (str "@@") line with
    | some rest => rs.addAllowRule rest
    | none => rs.addBlockRule line

/-- `RuleSet::new()` followed by `add_rule` on every line. -/
def ofLines (lines : List Str) : RuleSet :=
  lines.foldl (fun rs line => (rs.addRule line).1) new

/-- `RuleSet::add_rules_from_str`: the rule set after the call, and how many lines
were accepted. -/
def addRulesFromStr (rs : RuleSet) (content : Str) : RuleSet × ℕ :=
  (lines content).foldl
    (fun state line =>
      let added := state.1.addRule line
      (added.1, if added.2 then state.2 + 1 else state.2))
    (rs, 0)

/-! ## Matching -/

/-- The parent-walking loop of `matches_set` and `matches_wildcard_set` after
its first test: go to what follows the next dot, test it, and so on until no
dot is left. -/
def climb (hit : Str → Bool) : Str → Bool
  | [] => false
  | c :: rest => if c = '.' then hit rest || climb hit rest else climb hit rest

def matchesSet (domain : Str) (set : Finset Str) : Bool :=
  let hit (current : Str) : Bool := current ∈ set
  hit domain || climb hit domain

def matchesWildcardSet (domain : Str) (set : Option RegexCrate.RegexSet) : Bool :=
  match set with
  | some set =>
    if RegexCrate.isEmpty set then false
    else RegexCrate.isMatch set domain || climb (RegexCrate.isMatch set) domain
  | none => false

/-- The name that `match_domain` looks up: no trailing dots, lower case. -/
def normalizeQuery (domain : Str) : Str := toLowercase (trimEndMatches '.' domain)

def matchDomain (rs : RuleSet) (domain : Str) : MatchResult :=
  let domain := normalizeQuery domain
  if matchesSet domain rs.allowed then .allowed
  else if matchesWildcardSet domain rs.wildcardAllowedSet then .allowed
  else if rs.blockAll then .blocked
  else if matchesSet domain rs.blocked then .blocked
  else if matchesWildcardSet domain rs.wildcardBlockedSet then .blocked
  else .none

def isBlocked (rs : RuleSet) (domain : Str) : Bool := rs.matchDomain domain == .blocked

end RuleSet

end RustDns
