import RustDns.Dns.Subscription

/-!
# Do subscriptions keep the meaning of a list?

A list can reach a rule set in two ways: `add_rules_from_str` reads its lines as
they are, and a subscription rewrites them first.  The two know different
dialects.

For an AdGuard list `Shared` describes the lines that both ways read alike
(`subscribed_eq_parseLine`).  Outside of it are the lines that only the rule set
reads (hosts lines, `*.name`, `|name|`, names that are not ASCII, rules that
carry a cosmetic marker, names with a trailing dot) and those that only become
rules by the rewriting (`name^`, `name$options`, `.name/`).  A verdict is the
same exactly when it does not rest on such lines
(`matchDomain_subscription_iff`).

For a hosts file the two ways differ in the check of the name alone
(`matchDomain_hosts_iff`).
-/

namespace RustDns

open Text RuleSet

/-! ## Reading a list directly -/

section Direct

variable [Unicode] [RegexCrate]

/-- `add_rules_from_str` on an empty rule set, and then `build`. -/
def direct (content : Str) : RuleSet := (RuleSet.new.addRulesFromStr content).1.build

theorem direct_eq_built (content : Str) : direct content = built (lines content) := by
  rw [direct, addRulesFromStr_fst]
  rfl

end Direct

/-! ## AdGuard lists -/

section Adguard

/-- A line, without white space at its ends, that the rule set and the
subscription parser read alike. -/
inductive Shared (line : Str) : Prop where
  /-- Nothing, or a comment. -/
  | comment (h : line = [] ∨ startsWith (str "#") line = true ∨ startsWith (str "!") line = true)
  /-- A regular expression, which neither reads. -/
  | regex (h : startsWith (str "/") line = true ∧ endsWith (str "/") line = true)
  /-- A rule with a marker and an ASCII name, or with a star. -/
  | marked (action : Action) (rest : Str) (hline : line = marker action ++ rest)
      (hcosmetic : isCosmetic line = false)
      (hrest : (∃ name options, rest = name ++ options ∧ isRuleName name = true ∧
        isOptions options = true) ∨ '*' ∈ rest)
  /-- A rule `.name` whose name is a plain one. -/
  | dotted (c : Char) (inner : Str) (hline : line = '.' :: c :: inner)
      (hcosmetic : isCosmetic line = false) (hdot : '.' ∈ dottedName (c :: inner))
      (hstar : '*' ∉ dottedName (c :: inner))
      (hslash : (dottedName (c :: inner)).getLast? ≠ some '/')
      (hbar : (dottedName (c :: inner)).getLast? ≠ some '|')
  /-- A plain domain. -/
  | simple (hcosmetic : isCosmetic line = false) (hsimple : isSimple line = true)
      (hchars : ∀ c ∈ line, c ∉ ['^', '$', '@']) (hhosts : isHostsLine line = false)
      (hhash : startsWith (str "#") line = false) (hbang : startsWith (str "!") line = false)

variable {c : Char} {line content : Str} {rule : Rule}

/-- A name without options and with nothing to trim is its own body. -/
theorem adguardBody_eq_self {name : Str} (hcaret : '^' ∉ name) (hdollar : '$' ∉ name)
    (hlast : ∀ c ∈ ['|', '/', '.'], name.getLast? ≠ some c) : adguardBody name = name := by
  simp only [adguardBody, splitNext, not_mem_takeWhile hcaret, not_mem_takeWhile hdollar]
  rw [trimEndMatches_of_getLast (hlast '|' (by decide)),
    trimEndMatches_of_getLast (hlast '/' (by decide)),
    trimEndMatches_of_getLast (hlast '.' (by decide))]

variable [UnicodeAscii]

/-- A rule that both read in a line of the shared dialect. -/
def KeptRule (content : Str) (rule : Rule) : Prop :=
  ∃ line ∈ lines content, Shared (trim line) ∧ parseLine line = some rule

/-- All rules that the parser makes of a list, in the order in which they are
stored. -/
def emittedRules (content : Str) : List Str :=
  (parseAdguardRules content).1 ++ (parseAdguardRules content).2

variable [RegexCrate]

/-- A rule that is read by both, and in force for both, is about the name. -/
def Kept (action : Action) (content name : Str) : Prop :=
  GrantedByBoth action (emittedRules content) (lines content) (KeptRule content) name

end Adguard

section Hosts

variable [UnicodeAscii]

def lineName (line : Str) : Option Str :=
  if isContentLine line then
    match splitWhitespace (trim line) with
    | _ :: name :: _ => some name
    | _ => none
  else none

/-- The names that `parse_hosts_line` skips. -/
def isLocalName (name : Str) : Bool := name == str "localhost" || endsWith (str ".local") name

theorem hostsLine_bind_parseLine (line : Str) :
    (hostsLine line).bind parseLine =
      (lineName line).bind fun name => if isHostName name then plainRule name else none := by
  unfold hostsLine lineName isContentLine
  cases hcomment : (trim line).isEmpty || startsWith (str "#") (trim line) with
  | true =>
    rw [Bool.or_eq_true] at hcomment
    rcases hcomment with hempty | hhash
    · simp [hempty]
    · simp [hhash]
  | false =>
    rw [Bool.or_eq_false_iff] at hcomment
    simp only [hcomment, Bool.or_self, Bool.false_eq_true, if_false, Bool.not_false,
      Bool.and_self, if_true]
    rcases splitWhitespace (trim line) with _ | ⟨first, _ | ⟨name, words⟩⟩
    · rfl
    · rfl
    · by_cases hname : isHostName name = true
      · simp [hname, parseLine_hostName hname]
      · simp [hname]

omit [UnicodeAscii] in
theorem isUnmarked_of_isSome_parse {c : Char} {word : Str}
    (hip : (IpAddr.parse (c :: word)).isSome = true) : c ∉ ['|', '.', '*', '@'] := by
  intro hmem
  have hnone : IpAddr.parse (c :: word) = none := by
    simp only [List.mem_cons, List.not_mem_nil, or_false] at hmem
    rcases hmem with rfl | rfl | rfl | rfl <;>
      exact IpAddr.parse_cons_eq_none (by decide) (by decide) word
  simp [hnone] at hip

theorem parseLine_hostsLine {line : Str} (hline : isContentLine line = true →
    isHostsLine line = true) :
    parseLine line =
      (lineName line).bind fun name => if isLocalName name then none else plainRule name := by
  cases hcontent : isContentLine line with
  | false =>
    have hcomment : (trim line).isEmpty = true ∨ startsWith (str "#") (trim line) = true := by
      simpa [isContentLine, ← Bool.not_eq_true, imp_iff_not_or] using hcontent
    rw [lineName, hcontent, parseLine]
    rcases hcomment with hempty | hhash
    · simp [hempty]
    · simp [hhash]
  | true =>
    have hhosts := hline hcontent
    unfold isHostsLine at hhosts
    rw [lineName, hcontent, if_pos rfl]
    rcases hwords : splitWhitespace (trim line) with _ | ⟨first, _ | ⟨name, words⟩⟩
    · simp [hwords] at hhosts
    · simp [hwords] at hhosts
    · have hip : (IpAddr.parse first).isSome = true := by simpa [hwords] using hhosts
      obtain ⟨c, rest, htrim⟩ : ∃ c rest, trim line = c :: rest := by
        cases htrim : trim line with
        | nil => simp [htrim, splitWhitespace] at hwords
        | cons c rest => exact ⟨c, rest, rfl⟩
      have hc : isWhitespace c = false := isWhitespace_head_trim (s := line) (by simp [htrim])
      obtain ⟨word, others, hsplit⟩ := splitWhitespace_cons hc rest
      obtain rfl : first = c :: word := by
        rw [htrim, hsplit] at hwords
        exact (List.cons.inj hwords).1.symm
      -- between the words there is white space, which no plain domain has
      have hplain : plainRule (trim line) = none := by
        obtain ⟨space, hmem, hspace⟩ := exists_whitespace_of_two_words hwords
        have hforeign := foreign_of_isWhitespace hspace
        have hinvalid : isValidDomain (normalizeDomain (trim line)) = false :=
          isValidDomain_eq_false hforeign (hforeign.mem_normalizeDomain_trim.mpr hmem)
        simp [plainRule, hinvalid]
      have hparse : parseHostsLine (trim line) =
        if isLocalName name then none
          else if isValidDomain (normalizeDomain name) then some (normalizeDomain name)
          else none := by
        rw [parseHostsLine, hwords]
        simp [Option.isSome_iff_ne_none.mp hip, isLocalName]
      rw [← parseLine_trim, htrim, parseLine_of_first (by rw [← htrim, trim_trim])
        (isUnmarked_of_isSome_parse hip), ← htrim, unmarkedRule, hparse, hplain, Option.bind_some,
        plainRule]
      split_ifs <;> rfl

def hostDomains (select : Str → Bool) (content : Str) : List Str :=
  (((lines content).filterMap lineName).filter fun name =>
    select name && isValidDomain (normalizeDomain name)).map normalizeDomain

def keptDomains (content : Str) : List Str :=
  hostDomains (fun name => isHostName name && !isLocalName name) content

/-- The names that only a subscription turns into rules. -/
def addedDomains (content : Str) : List Str :=
  hostDomains (fun name => isHostName name && isLocalName name) content

/-- The names that only the rule set turns into rules. -/
def droppedDomains (content : Str) : List Str :=
  hostDomains (fun name => !isHostName name && !isLocalName name) content

variable {select : Str → Bool} {content : Str}

theorem mem_hostDomains {domain : Str} :
    domain ∈ hostDomains select content ↔
      ∃ line ∈ lines content, ((lineName line).bind fun name =>
        if select name then plainRule name else none) = some (.domain .block domain) := by
  simp only [hostDomains, List.mem_map, List.mem_filter, List.mem_filterMap, Bool.and_eq_true,
    Option.bind_eq_some_iff, plainRule]
  constructor
  · rintro ⟨name, ⟨⟨line, hline, hname⟩, hselect, hvalid⟩, rfl⟩
    exact ⟨line, hline, name, hname, by simp [hselect, hvalid]⟩
  · rintro ⟨line, hline, name, hname, hrule⟩
    split_ifs at hrule with hselect hvalid
    exact ⟨name, ⟨⟨line, hline, hname⟩, hselect, hvalid⟩, by simpa using hrule⟩

theorem exists_domain_of_lineName {rule : Rule}
    (h : ∃ line ∈ lines content, ((lineName line).bind fun name =>
      if select name then plainRule name else none) = some rule) :
    ∃ domain, rule = .domain .block domain := by
  obtain ⟨line, -, hrule⟩ := h
  obtain ⟨name, -, hread⟩ := Option.bind_eq_some_iff.mp hrule
  unfold plainRule at hread
  split_ifs at hread
  exact ⟨normalizeDomain name, (Option.some.inj hread).symm⟩

theorem covered_hostDomains_split (select split : Str → Bool) (content name : Str) :
    Covered (hostDomains select content) name ↔
      Covered (hostDomains (fun host => select host && split host) content) name ∨
        Covered (hostDomains (fun host => select host && !split host) content) name := by
  have hmem : ∀ domain, domain ∈ hostDomains select content ↔
      domain ∈ hostDomains (fun host => select host && split host) content ∨
        domain ∈ hostDomains (fun host => select host && !split host) content := by
    intro domain
    simp only [hostDomains, List.mem_map, List.mem_filter, Bool.and_eq_true, Bool.not_eq_true']
    constructor
    · rintro ⟨host, ⟨hhost, hselect, hvalid⟩, rfl⟩
      cases hsplit : split host with
      | true => exact Or.inl ⟨host, ⟨hhost, ⟨hselect, hsplit⟩, hvalid⟩, rfl⟩
      | false => exact Or.inr ⟨host, ⟨hhost, ⟨hselect, hsplit⟩, hvalid⟩, rfl⟩
    · rintro (⟨host, ⟨hhost, ⟨hselect, -⟩, hvalid⟩, rfl⟩ |
        ⟨host, ⟨hhost, ⟨hselect, -⟩, hvalid⟩, rfl⟩)
      · exact ⟨host, ⟨hhost, hselect, hvalid⟩, rfl⟩
      · exact ⟨host, ⟨hhost, hselect, hvalid⟩, rfl⟩
  simp only [Covered, hmem, or_and_right, exists_or]

variable [RegexCrate]

theorem verdict_of_blocks {list covered : List Str}
    (honly : ∀ rule, Reads list rule → ∃ domain, rule = .domain .block domain)
    (hcovered : ∀ domain, Reads list (.domain .block domain) ↔ domain ∈ covered) (domain : Str) :
    Verdict ((built list).matchDomain domain) False (Covered covered (normalizeQuery domain)) := by
  have hpatterns : ∀ action, patterns action list = [] := by
    intro action
    refine List.eq_nil_iff_forall_not_mem.mpr fun pattern hpattern => ?_
    obtain ⟨_, heq⟩ := honly _ (mem_patterns.mp hpattern)
    cases heq
  have hlive : ∀ name, ¬ PatternHit (livePatterns ([] : List Str)) name := by
    intro name
    simp [livePatterns, PatternHit]
  have hallow : ¬ Allows list (normalizeQuery domain) := by
    rintro (⟨found, hfound, -⟩ | hhit)
    · obtain ⟨_, heq⟩ := honly _ (mem_domains.mp hfound)
      cases heq
    · rw [hpatterns] at hhit
      exact hlive _ hhit
  have hall : hasBlockAll list = false := by
    rw [← Bool.not_eq_true, hasBlockAll_iff]
    intro hread
    obtain ⟨_, heq⟩ := honly _ hread
    cases heq
  have hblock : Blocks list (normalizeQuery domain) ↔ Covered covered (normalizeQuery domain) := by
    unfold Blocks Covers
    rw [hpatterns, hall]
    simp only [Bool.false_eq_true, false_or, hlive, or_false]
    unfold Covered
    refine exists_congr fun found => and_congr_left fun _ => ?_
    rw [mem_domains]
    exact hcovered found
  have hverdict := verdict_built list domain
  rw [hblock] at hverdict
  simpa [hallow] using hverdict

/-- **When a subscription keeps the verdict of a hosts file.**  The rules made of
it give a domain the verdict that the file itself gives, exactly when a name that
both accept has the domain within it, or the names in `.local` that are added and
the names with a trailing dot and the like that are dropped make no
difference. -/
theorem matchDomain_hosts_iff (content domain : Str) (hformat : isHostsFormat content = true)
    (hlines : ∀ line ∈ lines content, isContentLine line = true → isHostsLine line = true) :
    (built ((subscriptionRules content).1 ++ (subscriptionRules content).2)).matchDomain domain =
        (direct content).matchDomain domain ↔
      Covered (keptDomains content) (normalizeQuery domain) ∨
        (Covered (addedDomains content) (normalizeQuery domain) ↔
          Covered (droppedDomains content) (normalizeQuery domain)) := by
  have hemitted : Verdict ((built (parseHostsRules content)).matchDomain domain) False
      (Covered (hostDomains isHostName content) (normalizeQuery domain)) := by
    have hreads : ∀ rule, Reads (parseHostsRules content) rule ↔
        ∃ line ∈ lines content, ((lineName line).bind fun name =>
          if isHostName name then plainRule name else none) = some rule := by
      intro rule
      simp only [← hostsLine_bind_parseLine, Reads, parseHostsRules, List.mem_filterMap,
        Option.bind_eq_some_iff]
      constructor
      · rintro ⟨text, ⟨line, hline, htext⟩, hread⟩
        exact ⟨line, hline, text, htext, hread⟩
      · rintro ⟨line, hline, text, htext, hread⟩
        exact ⟨text, ⟨line, hline, htext⟩, hread⟩
    refine verdict_of_blocks (fun rule hrule => ?_) (fun found => ?_) domain
    · exact exists_domain_of_lineName ((hreads rule).mp hrule)
    · rw [hreads, mem_hostDomains]
  have hdirect : Verdict ((direct content).matchDomain domain) False
      (Covered (hostDomains (! isLocalName ·) content) (normalizeQuery domain)) := by
    have hreads : ∀ rule, Reads (lines content) rule ↔
        ∃ line ∈ lines content, ((lineName line).bind fun name =>
          if !isLocalName name then plainRule name else none) = some rule := by
      intro rule
      refine exists_congr fun line => and_congr_right fun hline => ?_
      rw [parseLine_hostsLine (hlines line hline)]
      refine Eq.congr_left (congrArg _ (funext fun name => ?_))
      cases isLocalName name <;> rfl
    rw [direct_eq_built]
    refine verdict_of_blocks (fun rule hrule => ?_) (fun found => ?_) domain
    · exact exists_domain_of_lineName ((hreads rule).mp hrule)
    · rw [hreads, mem_hostDomains]
  have hcomm : ∀ p q : Str → Bool, (fun name => p name && q name) = fun name => q name && p name :=
    fun p q => funext fun name => Bool.and_comm _ _
  rw [subscriptionRules, if_pos hformat, List.append_nil, hemitted.eq_iff hdirect,
    covered_hostDomains_split isHostName isLocalName,
    covered_hostDomains_split (! isLocalName ·) isHostName, hcomm (! isLocalName ·) isHostName,
    hcomm (! isLocalName ·) (! isHostName ·)]
  -- every rule blocks, so the verdicts agree if the covered names do
  change (_ ∧ (_ → (Covered (addedDomains content) _ ∨ Covered (keptDomains content) _ ↔
    Covered (keptDomains content) _ ∨ Covered (droppedDomains content) _))) ↔ _
  tauto

end Hosts

section Example

attribute [local instance] UnicodeAscii.ascii RegexCrate.fragment

/-- A hosts file of ordinary names keeps its verdicts. -/
theorem matchDomain_hosts_adsFile :
    let content := str "# ads\n0.0.0.0 ads.com\n127.0.0.1 localhost\n"
    isHostsFormat content = true ∧
      (built ((subscriptionRules content).1 ++ (subscriptionRules content).2)).matchDomain
        (str "x.ads.com") = (direct content).matchDomain (str "x.ads.com") := by
  refine ⟨by decide +kernel, ?_⟩
  refine (matchDomain_hosts_iff _ _ (by decide +kernel) (by decide +kernel)).mpr (Or.inl ?_)
  exact ⟨str "ads.com", by decide +kernel, by decide +kernel⟩

/-- A name in `.local` is skipped by the rule set and blocked by a
subscription. -/
theorem matchDomain_hosts_localFile :
    let content := str "0.0.0.0 printer.local\n"
    isHostsFormat content = true ∧
      (∀ line ∈ lines content, isContentLine line = true → isHostsLine line = true) ∧
      (built ((subscriptionRules content).1 ++ (subscriptionRules content).2)).matchDomain
        (str "printer.local") = .blocked ∧
      (direct content).matchDomain (str "printer.local") = .none := by
  decide +kernel

end Example

end RustDns
