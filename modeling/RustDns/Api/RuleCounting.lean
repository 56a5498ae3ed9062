import RustDns.Api.RuleAgreement
import RustDns.Api.RuleStats
import RustDns.Dns.SubscriptionMeaning

/-!
# What the hit statistics count

`parse_rule_matcher` is a second parser of the rule language, next to that of the filter engine.
Both look at the first characters of a line, so that for every line there is one `Reading`, which
says what the two make of it.

`counts_eq_isBlocked_iff` says for every line and every question whether the statistics count what
the engine blocks.
-/

namespace RustDns.Api.RuleCounting

open Text RuleSet RuleStats RuleAgreement

/-! ## Readings -/

inductive Reading where
  /-- A comment or an exception. -/
  | nothing
  /-- `||*` or `||*^`. -/
  | everything
  /-- A pattern with a star. -/
  | pattern (body : Str)
  /-- The domain of the statistics, and that of the engine. -/
  | domains (counted filed : Option Str)

theorem hostsStarts_eq_false {line : Str} (hspace : ' ' ∉ line) :
    hostsStarts.any (startsWith · line) = false := by
  rw [List.any_eq_false]
  intro start hstart
  rw [startsWith_iff]
  rintro ⟨rest, rfl⟩
  have hspaces : hostsStarts.all (fun start => decide (' ' ∈ start)) = true := by decide
  have hmem : ' ' ∈ start := of_decide_eq_true (List.all_eq_true.mp hspaces start hstart)
  exact hspace (List.mem_append_left rest hmem)

section Readings

variable [UnicodeNonempty]

def validName (s : Str) : Option Str := (some (normalizeDomain s)).filter isValidDomain

def starlessName (text : Str) : Option Str :=
  (some (toLowercase (trim text))).filter fun d => !d.isEmpty && !d.contains '*'

/-- The domain that a line without a marker is for the statistics. -/
def countedPlain (line : Str) : Option Str :=
  if hostsStarts.any (startsWith · line) then starlessName (afterSpace line)
  else if '*' ∈ line ∨ '/' ∈ line ∨ ' ' ∈ line then none
  else some (toLowercase line)

/-- The domain that a line without a marker is for the engine. -/
def filedPlain (line : Str) : Option Str := (parseHostsLine line).or (validName line)

def reading : Str → Reading
  | [] => .nothing
  | '#' :: _ => .nothing
  | '!' :: _ => .nothing
  | '@' :: '@' :: _ => .nothing
  | '|' :: '|' :: rest =>
    if rest = str "*^" ∨ rest = str "*" then .everything
    else if '*' ∈ adguardBody rest then .pattern (adguardBody rest)
    else .domains ((some (toLowercase (adguardBody rest))).filter (! ·.isEmpty))
      (validName (adguardBody rest))
  | '|' :: rest => .domains (countedPlain ('|' :: rest)) (validName (adguardBody rest))
  | '*' :: '.' :: rest =>
    .domains (starlessName rest) ((some (normalizeDomain rest)).filter (! ·.isEmpty))
  | '.' :: inner => .domains (starlessName inner) (validName (dottedName inner))
  | line => .domains (countedPlain line) (filedPlain line)

/-! ## The statistics -/

theorem domainOrSkip_eq (text : Str) :
    domainOrSkip text = (starlessName text).elim .skip .domain := by
  unfold domainOrSkip starlessName
  rw [Option.filter_some]
  dsimp only
  split_ifs <;> rfl

variable {line body question : Str}

theorem parsePlain_eq (hline : line ≠ []) :
    parsePlain line = (countedPlain line).elim .skip .domain := by
  have hlower : toLowercase line ≠ [] := (UnicodeNonempty.toLowercase_eq_nil line).not.mpr hline
  unfold parsePlain countedPlain
  by_cases hhosts : hostsStarts.any (startsWith · line) = true
  · rw [if_pos hhosts, if_pos hhosts, domainOrSkip_eq]
  · rw [if_neg hhosts, if_neg hhosts]
    by_cases hstar : '*' ∈ line
    · simp [hstar]
    · by_cases hslash : '/' ∈ line
      · simp [hstar, hslash]
      · by_cases hspace : ' ' ∈ line
        · simp [hstar, hslash, hspace]
        · simp [hstar, hslash, hspace, hlower]

variable [RegexCrate]

def bodyPattern (body : Str) : Str := RustDns.wildcardToRegex (toLowercase body)

def patternMatcher (body : Str) : RuleMatcher :=
  if (RegexCrate.new [bodyPattern body]).isSome then .wildcard (bodyPattern body) else .skip

def Reading.matcher : Reading → RuleMatcher
  | .nothing => .skip
  | .everything => patternMatcher (str "*")
  | .pattern body => patternMatcher body
  | .domains counted _ => counted.elim .skip .domain

theorem parseBars_eq (rest : Str) :
    parseBars rest = if '*' ∈ adguardBody rest then patternMatcher (adguardBody rest)
      else ((some (toLowercase (adguardBody rest))).filter (! ·.isEmpty)).elim .skip .domain := by
  have hstar : '*' ∈ toLowercase (adguardBody rest) ↔ '*' ∈ adguardBody rest :=
    UnicodeAscii.mem_toLowercase _ _ (by decide) (by decide)
  unfold parseBars
  rw [Option.filter_some]
  dsimp only
  by_cases hmem : '*' ∈ adguardBody rest
  · have hempty : toLowercase (adguardBody rest) ≠ [] := List.ne_nil_of_mem (hstar.mpr hmem)
    simp only [List.contains_eq_mem, hstar, hmem, hempty, List.isEmpty_iff, decide_true, if_true,
      if_false]
    rfl
  · by_cases hempty : toLowercase (adguardBody rest) = []
    · simp [hmem, hempty]
    · simp [hstar, hmem, hempty]

omit [UnicodeNonempty] [RegexCrate] in
theorem startsWith_eq_false {start s : Str} (hs : ∀ rest, s ≠ start ++ rest) :
    startsWith start s = false := by
  rw [← Bool.not_eq_true, startsWith_iff]
  rintro ⟨rest, hrest⟩
  exact hs rest hrest

theorem parseTrimmed_plain (hline : line ≠ []) (hhash : ∀ rest, line ≠ '#' :: rest)
    (hbang : ∀ rest, line ≠ '!' :: rest) (hat : ∀ rest, line ≠ '@' :: '@' :: rest)
    (hbars : ∀ rest, line ≠ '|' :: '|' :: rest) (hstar : ∀ rest, line ≠ '*' :: '.' :: rest)
    (hdot : ∀ rest, line ≠ '.' :: rest) :
    parseTrimmed line = (countedPlain line).elim .skip .domain := by
  have hmarkers : stripPrefix (str "||") line = none ∧ stripPrefix (str "*.") line = none ∧
      stripPrefix (str ".") line = none :=
    ⟨stripPrefix_eq_none_iff.mpr (startsWith_eq_false hbars),
      stripPrefix_eq_none_iff.mpr (startsWith_eq_false hstar),
      stripPrefix_eq_none_iff.mpr (startsWith_eq_false hdot)⟩
  have hstarts : startsWith (str "#") line = false ∧ startsWith (str "!") line = false ∧
      startsWith (str "@@") line = false :=
    ⟨startsWith_eq_false hhash, startsWith_eq_false hbang, startsWith_eq_false hat⟩
  rw [← parsePlain_eq hline, parseTrimmed]
  simp [hmarkers, hstarts, hline]

theorem parseTrimmed_eq (line : Str) : parseTrimmed line = (reading line).matcher := by
  have hbars (rest : Str) : parseTrimmed ('|' :: '|' :: rest) = parseBars rest := by
    simp [parseTrimmed, startsWith, str, stripPrefix, List.dropPrefix?]
  fun_cases reading line with
  | case1 => rfl
  | case2 => rfl
  | case3 => rfl
  | case4 => rfl
  | case5 rest hall =>
    rw [hbars, parseBars_eq]
    rcases hall with rfl | rfl
    · rfl
    · rfl
  | case6 rest hall hstar =>
    rw [hbars, parseBars_eq, if_pos hstar]
    rfl
  | case7 rest hall hstar =>
    rw [hbars, parseBars_eq, if_neg hstar]
    rfl
  | case8 rest hrest =>
    refine parseTrimmed_plain (by simp) (by simp) (by simp) (by simp) ?_ (by simp) (by simp)
    intro tail htail
    exact hrest tail (List.cons.inj htail).2
  | case9 rest =>
    have hstar : parseTrimmed ('*' :: '.' :: rest) = domainOrSkip rest := by
      simp [parseTrimmed, startsWith, str, stripPrefix, List.dropPrefix?]
    rw [hstar, domainOrSkip_eq]
    rfl
  | case10 inner =>
    have hdot : parseTrimmed ('.' :: inner) = domainOrSkip inner := by
      simp [parseTrimmed, startsWith, str, stripPrefix, List.dropPrefix?]
    rw [hdot, domainOrSkip_eq]
    rfl
  | case11 line hempty hhash hbang hat hbars hbar hstar hdot =>
    exact parseTrimmed_plain hempty hhash hbang hat hbars hstar hdot

def Compiles (body : Str) : Prop := (RegexCrate.new [bodyPattern body]).isSome = true

def Matches (body text : Str) : Prop := RegexCrate.patternMatch (bodyPattern body) text = true

def Reading.Counts (question : Str) : Reading → Prop
  | .nothing => False
  | .everything => Compiles (str "*") ∧ Matches (str "*") (trimEndMatches '.' question)
  | .pattern body => Compiles body ∧ Matches body (trimEndMatches '.' question)
  | .domains counted _ => ∃ domain ∈ counted, Within (normalizeQuery question) domain

theorem counts_patternMatcher :
    (patternMatcher body).counts question = true ↔
      Compiles body ∧ Matches body (trimEndMatches '.' question) := by
  unfold patternMatcher Compiles
  split_ifs with hcompiles
  · exact (and_iff_right hcompiles).symm
  · exact iff_of_false Bool.false_ne_true fun h => hcompiles h.1

theorem counts_matcher {reading : Reading} :
    reading.matcher.counts question = true ↔ reading.Counts question := by
  cases reading with
  | nothing => exact iff_of_false Bool.false_ne_true id
  | everything => exact counts_patternMatcher
  | pattern body => exact counts_patternMatcher
  | domains counted filed =>
    cases counted with
    | none => simp [Reading.matcher, Reading.Counts, RuleMatcher.counts]
    | some domain =>
      simp [Reading.matcher, Reading.Counts, RuleMatcher.counts, domainMatches_iff]

/-! ## The engine -/

def MatchesParent (body name : Str) : Prop := ∃ parent, Within name parent ∧ Matches body parent

def Reading.Blocks (question : Str) : Reading → Prop
  | .nothing => False
  | .everything => True
  | .pattern body => '.' ∈ body ∧ Compiles body ∧ MatchesParent body (normalizeQuery question)
  | .domains _ filed => ∃ domain ∈ filed, Within (normalizeQuery question) domain

def RuleBlocks (name : Str) : Option Rule → Prop
  | some .blockAll => True
  | some (.domain .block domain) => Within name domain
  | some (.wildcard .block pattern) => (RegexCrate.new [pattern]).isSome = true ∧
      ∃ parent, Within name parent ∧ RegexCrate.patternMatch pattern parent = true
  | _ => False

theorem isBlocked_singleton (rule question : Str) :
    (built [rule]).isBlocked question = true ↔
      RuleBlocks (normalizeQuery question) (parseLine rule) := by
  rw [isBlocked_built]
  unfold Allows RustDns.Blocks Covers Covered PatternHit livePatterns domains patterns hasBlockAll
  rcases hrule : parseLine rule with _ | _ | ⟨_ | _, domain⟩ | ⟨_ | _, pattern⟩
  · simp [RuleBlocks, hrule]
  · simp [RuleBlocks, hrule]
  · simp [RuleBlocks, hrule]
  · simp [RuleBlocks, hrule]
  · simp [RuleBlocks, hrule]
  · simp [RuleBlocks, hrule]

omit [UnicodeNonempty] in
theorem ruleBlocks_domain {name : Str} {filed : Option Str} :
    RuleBlocks name (filed.map (.domain .block)) ↔ ∃ domain ∈ filed, Within name domain := by
  cases filed with
  | none => simp [RuleBlocks]
  | some domain => simp [RuleBlocks]

omit [UnicodeNonempty] in
theorem not_ruleBlocks_parseAllowLine [Unicode] (name rest : Str) :
    ¬ RuleBlocks name (parseAllowLine rest) := by
  unfold parseAllowLine
  cases parseAdguardDomain rest with
  | some domain => exact id
  | none =>
    cases parseAdguardWildcardPattern rest with
    | some pattern => exact id
    | none => exact id

omit [RegexCrate] in
theorem bodyRule_of_not_mem (hstar : '*' ∉ body) :
    bodyRule .block body = (validName body).map (.domain .block) := by
  unfold bodyRule validName
  rw [Option.filter_some, if_neg (fun h : '*' ∈ body ∧ '.' ∈ body => hstar h.1)]
  split_ifs <;> rfl

omit [RegexCrate] in
theorem bodyRule_of_mem (hstar : '*' ∈ body) :
    bodyRule .block body =
      if '.' ∈ body then some (.wildcard .block (bodyPattern body)) else none := by
  have hvalid : isValidDomain (normalizeDomain body) = false :=
    isValidDomain_normalizeDomain_eq_false (by decide) (by decide) hstar
  unfold bodyRule
  simp only [hvalid, Bool.false_eq_true, if_false, hstar, true_and]
  rfl

omit [RegexCrate] in
theorem unmarkedRule_eq (line : Str) :
    unmarkedRule line = (filedPlain line).map (.domain .block) := by
  unfold unmarkedRule plainRule filedPlain validName
  cases parseHostsLine line with
  | some domain => rfl
  | none =>
    rw [Option.none_or, Option.filter_some]
    split_ifs <;> rfl

theorem isBlocked_iff (rule question : Str) :
    (built [rule]).isBlocked question = true ↔ (reading (trim rule)).Blocks question := by
  rw [isBlocked_singleton, ← parseLine_trim]
  have htrim : trim (trim rule) = trim rule := trim_trim rule
  generalize trim rule = line at htrim ⊢
  have hbars {rest : Str} (htrim : trim ('|' :: '|' :: rest) = '|' :: '|' :: rest) :
      parseLine ('|' :: '|' :: rest) = if rest = str "*^" ∨ rest = str "*" then some .blockAll
        else bodyRule .block (adguardBody rest) :=
    parseLine_bars htrim
  fun_cases reading line with
  | case1 => exact Iff.rfl
  | case2 rest =>
    rw [parseLine, htrim]
    exact Iff.rfl
  | case3 rest =>
    rw [parseLine, htrim]
    exact Iff.rfl
  | case4 rest =>
    have hat : stripPrefix (str "@@") ('@' :: '@' :: rest) = some rest :=
      stripPrefix_eq_some.mpr rfl
    have hparse : parseLine ('@' :: '@' :: rest) = parseAllowLine rest := by
      rw [parseLine, htrim, hat]
      simp [startsWith, str]
    rw [hparse]
    exact iff_of_false (not_ruleBlocks_parseAllowLine _ rest) id
  | case5 rest hall =>
    rw [hbars htrim, if_pos hall]
    exact Iff.rfl
  | case6 rest hall hstar =>
    rw [hbars htrim, if_neg hall, bodyRule_of_mem hstar]
    split_ifs with hdot
    · exact (and_iff_right hdot).symm
    · exact iff_of_false id fun h => hdot h.1
  | case7 rest hall hstar =>
    rw [hbars htrim, if_neg hall, bodyRule_of_not_mem hstar, ruleBlocks_domain]
    exact Iff.rfl
  | case8 rest hrest =>
    rw [parseLine_bar_eq hrest htrim, ruleBlocks_domain]
    exact Iff.rfl
  | case9 rest =>
    rw [parseLine_starred_eq htrim, ruleBlocks_domain]
    exact Iff.rfl
  | case10 inner =>
    have hdotted : parseLeadingDot inner = validName (dottedName inner) := by
      rw [parseLeadingDot, validName, Option.filter_some]
      rfl
    rw [parseLine_dot htrim, hdotted, ruleBlocks_domain]
    exact Iff.rfl
  | case11 line hempty hhash hbang hat hbars hbar hstar hdot =>
    obtain ⟨c, rest, rfl⟩ := List.exists_cons_of_ne_nil hempty
    have hfirst (d : Char) (hd : ∀ tail, c :: rest ≠ d :: tail) : c ≠ d :=
      fun hc => hd rest (congrArg (· :: rest) hc)
    rw [parseLine_unmarked htrim (hfirst _ hbar) (hfirst _ hdot) (fun tail => hat ('|' :: tail))
      hstar, unmarkedRule_eq, ruleBlocks_domain]
    exact Iff.rfl

/-! ## Where they agree -/

/-- The two ways to read a rule come to the same for a question. -/
def CountedAlike (question : Str) : Reading → Prop
  | .nothing => True
  -- a question with one label only
  | .everything => Compiles (str "*") ∧ Matches (str "*") (trimEndMatches '.' question)
  | .pattern body =>
    Compiles body →
      if '.' ∈ body then
        Matches body (trimEndMatches '.' question) ↔ MatchesParent body (normalizeQuery question)
      else ¬ Matches body (trimEndMatches '.' question)
  | .domains none none => True
  -- a rule for one side only, which must not be about the question
  | .domains (some domain) none => ¬ Within (normalizeQuery question) domain
  | .domains none (some domain) => ¬ Within (normalizeQuery question) domain
  -- one domain, or two which the question is both in or both outside of
  | .domains (some counted) (some filed) =>
    counted = filed ∨
      Within (normalizeQuery question) counted ∧ Within (normalizeQuery question) filed ∨
      ¬ Within (normalizeQuery question) counted ∧ ¬ Within (normalizeQuery question) filed

theorem countedAlike_domains (question : Str) (counted filed : Option Str) :
    ((∃ domain ∈ counted, Within (normalizeQuery question) domain) ↔
        ∃ domain ∈ filed, Within (normalizeQuery question) domain) ↔
      CountedAlike question (.domains counted filed) := by
  cases counted with
  | none => cases filed <;> simp [CountedAlike]
  | some counted =>
    cases filed with
    | none => simp [CountedAlike]
    | some filed =>
      simp only [Option.mem_def, Option.some_inj, exists_eq_left', CountedAlike]
      refine ⟨fun hiff => Or.inr (iff_iff_and_or_not_and_not.mp hiff), ?_⟩
      rintro (rfl | halike)
      · exact Iff.rfl
      · exact iff_iff_and_or_not_and_not.mpr halike

/-- **The statistics count what the engine blocks**, for a rule and a question, if and only if the
reading of the rule has the question counted alike. -/
theorem counts_eq_isBlocked_iff (rule question : Str) :
    ((parseRuleMatcher rule).counts question = true ↔
        (built [rule]).isBlocked question = true) ↔
      CountedAlike question (reading (trim rule)) := by
  rw [parseRuleMatcher, parseTrimmed_eq, counts_matcher, isBlocked_iff]
  cases reading (trim rule) with
  | nothing => exact iff_of_true Iff.rfl trivial
  | everything => exact iff_true_right trivial
  | pattern body =>
    unfold Reading.Counts Reading.Blocks CountedAlike
    by_cases hcompiles : Compiles body
    · by_cases hdot : '.' ∈ body
      · simp [hcompiles, hdot]
      · simp [hcompiles, hdot]
    · simp [hcompiles]
  | domains counted filed => exact countedAlike_domains question counted filed

end Readings

/-! ## Ordinary rules -/

section Ordinary

variable [UnicodeNonempty]

structure IsFiled (domain : Str) : Prop where
  valid : isValidDomain domain = true
  normal : normalizeDomain domain = domain

namespace IsFiled

variable {domain : Str} (hdomain : IsFiled domain)

include hdomain

theorem not_mem {c : Char} (hc : Foreign c) : c ∉ domain := by
  intro hmem
  have hvalid := hdomain.valid
  rw [isValidDomain_eq_false hc hmem] at hvalid
  cases hvalid

theorem isWhitespace_of_mem {c : Char} (hc : c ∈ domain) : isWhitespace c = false := by
  rw [← Bool.not_eq_true]
  exact fun hspace => hdomain.not_mem (foreign_of_isWhitespace hspace) hc

theorem ne_nil : domain ≠ [] := by
  rintro rfl
  exact absurd hdomain.valid (by simp [isValidDomain])

theorem toLowercase_eq : toLowercase domain = domain := by
  rw [← hdomain.normal, normalizeDomain, Unicode.toLowercase_idem]

theorem getLast_ne_dot : domain.getLast? ≠ some '.' := by
  rw [← hdomain.normal, normalizeDomain]
  exact fun hlast => getLast_trimEndMatches '.' _ (Unicode.toLowercase_getLast _ hlast)

theorem ne_dot_cons (inner : Str) : domain ≠ '.' :: inner := by
  rintro rfl
  have hempty : ([] : Str) ∈ ('.' :: inner).splitOn '.' := by
    rw [List.splitOn, List.splitOnP_cons_eq_if_modifyHead]
    simp
  have hvalid := hdomain.valid
  unfold isValidDomain at hvalid
  split_ifs at hvalid
  exact absurd (List.all_eq_true.mp hvalid [] hempty) (by simp [isValidLabel])

theorem trim_append (front tail : Str) (hfront : front.any isWhitespace = false)
    (htail : tail.any isWhitespace = false) :
    trim (front ++ (domain ++ tail)) = front ++ (domain ++ tail) := by
  have hall : ∀ c ∈ front ++ (domain ++ tail), isWhitespace c = false := by
    intro c hc
    rcases List.mem_append.mp hc with hc | hc
    · exact Bool.not_eq_true _ ▸ List.any_eq_false.mp hfront c hc
    · rcases List.mem_append.mp hc with hc | hc
      · exact hdomain.isWhitespace_of_mem hc
      · exact Bool.not_eq_true _ ▸ List.any_eq_false.mp htail c hc
  exact trim_eq_self (fun c hc => hall c (List.mem_of_mem_head? hc))
    fun c hc => hall c (List.mem_of_getLast? hc)

theorem trim_eq : trim domain = domain := by
  have htrim := hdomain.trim_append [] [] rfl rfl
  rwa [List.nil_append, List.append_nil] at htrim

theorem adguardBody_eq : adguardBody domain = domain := by
  refine adguardBody_eq_self (hdomain.not_mem (by decide)) (hdomain.not_mem (by decide)) ?_
  intro c hc hlast
  have hmem := List.mem_of_getLast? hlast
  simp only [List.mem_cons, List.not_mem_nil, or_false] at hc
  rcases hc with rfl | rfl | rfl
  · exact hdomain.not_mem (by decide) hmem
  · exact hdomain.not_mem (by decide) hmem
  · exact hdomain.getLast_ne_dot hlast

theorem validName_eq : validName domain = some domain := by
  rw [validName, hdomain.normal, Option.filter_some, if_pos hdomain.valid]

theorem starlessName_eq : starlessName domain = some domain := by
  have hstar : '*' ∉ domain := hdomain.not_mem (by decide)
  rw [starlessName, hdomain.trim_eq, hdomain.toLowercase_eq, Option.filter_some]
  simp [hdomain.ne_nil, hstar]

theorem countedPlain_eq : countedPlain domain = some domain := by
  have hstar : '*' ∉ domain := hdomain.not_mem (by decide)
  have hslash : '/' ∉ domain := hdomain.not_mem (by decide)
  have hspace : ' ' ∉ domain := hdomain.not_mem (by decide)
  rw [countedPlain, hostsStarts_eq_false hspace, hdomain.toLowercase_eq]
  simp [hstar, hslash, hspace]

theorem filedPlain_eq : filedPlain domain = some domain := by
  have hhosts : parseHostsLine domain = none := by
    unfold parseHostsLine
    split
    · next ip name words hsplit =>
        obtain ⟨c, hc, hspace⟩ := exists_whitespace_of_two_words hsplit
        rw [hdomain.isWhitespace_of_mem hc] at hspace
        cases hspace
    · rfl
  rw [filedPlain, hhosts, Option.none_or, hdomain.validName_eq]

/-- A domain alone is read as it stands, since it begins with none of the markers. -/
theorem reading_plain : reading domain = .domains (some domain) (some domain) := by
  have hfirst (c : Char) (hc : Foreign c) (rest : Str) : domain ≠ c :: rest := by
    rintro rfl
    exact hdomain.not_mem hc List.mem_cons_self
  fun_cases reading domain with
  | case1 => exact absurd rfl hdomain.ne_nil
  | case2 rest => exact absurd rfl (hfirst _ (by decide) _)
  | case3 rest => exact absurd rfl (hfirst _ (by decide) _)
  | case4 rest => exact absurd rfl (hfirst _ (by decide) _)
  | case5 rest hall => exact absurd rfl (hfirst _ (by decide) _)
  | case6 rest hall hstar => exact absurd rfl (hfirst _ (by decide) _)
  | case7 rest hall hstar => exact absurd rfl (hfirst _ (by decide) _)
  | case8 rest hrest => exact absurd rfl (hfirst _ (by decide) _)
  | case9 rest => exact absurd rfl (hfirst _ (by decide) _)
  | case10 inner => exact absurd rfl (hdomain.ne_dot_cons _)
  | case11 => rw [hdomain.countedPlain_eq, hdomain.filedPlain_eq]

theorem reading_bars :
    reading ('|' :: '|' :: (domain ++ str "^")) = .domains (some domain) (some domain) := by
  have hstar : '*' ∉ domain := hdomain.not_mem (by decide)
  have hall : ¬ (domain ++ str "^" = str "*^" ∨ domain ++ str "^" = str "*") := by
    have hmem : '*' ∉ domain ++ str "^" := by simp [str, hstar]
    rintro (hcaret | hcaret)
    · exact hmem (hcaret ▸ by decide)
    · exact hmem (hcaret ▸ by decide)
  have hbody : adguardBody (domain ++ str "^") = domain := by
    rw [adguardBody_append_caret, hdomain.adguardBody_eq]
  rw [reading, if_neg hall, hbody, if_neg hstar, hdomain.toLowercase_eq, hdomain.validName_eq,
    Option.filter_some]
  simp [hdomain.ne_nil]

theorem reading_star : reading ('*' :: '.' :: domain) = .domains (some domain) (some domain) := by
  rw [reading, hdomain.starlessName_eq, hdomain.normal, Option.filter_some]
  simp [hdomain.ne_nil]

theorem reading_dot : reading ('.' :: domain) = .domains (some domain) (some domain) := by
  have hname : dottedName domain = domain := by
    unfold dottedName splitNext
    rw [not_mem_takeWhile (hdomain.not_mem (by decide)),
      not_mem_takeWhile (hdomain.not_mem (by decide)),
      trimEndMatches_of_getLast hdomain.getLast_ne_dot]
  rw [reading, hdomain.starlessName_eq, hname, hdomain.validName_eq]

end IsFiled

/-- **The ordinary rules are counted as they block**: a domain alone, or after `||`, `*.` or a
dot. -/
theorem counts_iff_isBlocked_of_isFiled [RegexCrate] {domain rule : Str} (hdomain : IsFiled domain)
    (hrule : rule ∈ [domain, '|' :: '|' :: (domain ++ str "^"), '*' :: '.' :: domain,
      '.' :: domain]) (question : Str) :
    (parseRuleMatcher rule).counts question = true ↔ (built [rule]).isBlocked question = true := by
  have hreading : reading (trim rule) = .domains (some domain) (some domain) := by
    simp only [List.mem_cons, List.not_mem_nil, or_false] at hrule
    rcases hrule with rfl | rfl | rfl | rfl
    · rw [hdomain.trim_eq, hdomain.reading_plain]
    · have htrim := hdomain.trim_append (str "||") (str "^") (by decide) (by decide)
      exact (congrArg reading htrim).trans hdomain.reading_bars
    · have htrim := hdomain.trim_append (str "*.") [] (by decide) rfl
      rw [List.append_nil] at htrim
      exact (congrArg reading htrim).trans hdomain.reading_star
    · have htrim := hdomain.trim_append (str ".") [] (by decide) rfl
      rw [List.append_nil] at htrim
      exact (congrArg reading htrim).trans hdomain.reading_dot
  rw [parseRuleMatcher, parseTrimmed_eq, counts_matcher, isBlocked_iff, hreading]
  exact Iff.rfl

end Ordinary

section Example

attribute [local instance] UnicodeNonempty.ascii RegexCrate.fragment

/-- Three rules block a name that they are not counted for: one for all names, a pattern that a
parent of the name matches, and a domain after a single bar.  A rule for a single label is counted,
and blocks nothing. -/
theorem counts_ne_isBlocked :
    let counted (rule question : String) : Bool :=
      (parseRuleMatcher (str rule)).counts (str question)
    let blocked (rule question : String) : Bool := (built [str rule]).isBlocked (str question)
    (counted "||*^" "example.com" = false ∧ blocked "||*^" "example.com" = true) ∧
      (counted "||ad-*.example.com^" "x.ad-1.example.com" = false ∧
        blocked "||ad-*.example.com^" "x.ad-1.example.com" = true) ∧
      (counted "|ads.example.com^" "ads.example.com" = false ∧
        blocked "|ads.example.com^" "ads.example.com" = true) ∧
      counted "||example^" "www.example" = true ∧ blocked "||example^" "www.example" = false := by
  decide +kernel

theorem counts_iff_isBlocked_star :
    (parseRuleMatcher (str "*.ads.com")).counts (str "x.ads.com") = true ↔
      (built [str "*.ads.com"]).isBlocked (str "x.ads.com") = true :=
  counts_iff_isBlocked_of_isFiled
    (⟨by decide +kernel, by decide +kernel⟩ : IsFiled (str "ads.com")) (by decide +kernel) _

end Example

end RustDns.Api.RuleCounting
