import RustDns.Dns.Filter
import RustDns.Dns.RuleForms

/-!
# Subscriptions

`dns/subscription.rs`: how a downloaded list becomes rows of `custom_rules`.  A
list is taken for a hosts file or for an AdGuard list, its lines are rewritten
into rules of the form `||…^` or `@@||…^` (wildcard rules are kept as they are),
and the rules replace the rows that the list had before.

The two patterns `ADGUARD_DOMAIN_RULE` and `ADGUARD_EXCEPTION` differ in the
marker only.  What they capture after it is `captureDomain`
(`captureDomain_eq_some_iff`).

The rules are read a second time when the filter engine reloads, by `add_rule`.
`adguardLine_accepted_iff` and `hostsLine_accepted_iff` say for which lines of the
list it accepts what has become of them.
-/

namespace RustDns

open Text RuleSet Reload

/-! ## The patterns -/

/-- `[a-zA-Z0-9_.-]`. -/
def isNameChar (c : Char) : Bool := c.isAlphanum || c == '_' || c == '.' || c == '-'

/-- `[a-zA-Z0-9][a-zA-Z0-9_.-]*[a-zA-Z0-9]`. -/
def isRuleName (s : Str) : Bool :=
  2 ≤ s.length && s.head?.any Char.isAlphanum && s.getLast?.any Char.isAlphanum &&
    s.all isNameChar

/-- `(?:[\^$].*)?$`, where the dot does not match a line feed. -/
def isOptions : Str → Bool
  | [] => true
  | c :: rest => (c == '^' || c == '$') && !rest.contains '\n'

/-- The group that `ADGUARD_DOMAIN_RULE` captures after `||`, and
`ADGUARD_EXCEPTION` after `@@||`. -/
def captureDomain (rest : Str) : Option Str :=
  let domain := rest.takeWhile isNameChar
  if isRuleName domain && isOptions (rest.dropWhile isNameChar) then some domain else none

variable {rest domain s line : Str} {action : Action} {c : Char}

theorem captureDomain_eq_some_iff :
    captureDomain rest = some domain ↔ isRuleName domain = true ∧
        ∃ options, rest = domain ++ options ∧ isOptions options = true := by
  unfold captureDomain
  constructor
  · intro hcapture
    dsimp only at hcapture
    split_ifs at hcapture with hmatch
    cases hcapture
    rw [Bool.and_eq_true] at hmatch
    exact ⟨hmatch.1, _, List.takeWhile_append_dropWhile.symm, hmatch.2⟩
  · rintro ⟨hname, options, rfl, hoptions⟩
    have hall : ∀ c ∈ domain, isNameChar c = true := by
      simp only [isRuleName, Bool.and_eq_true, List.all_eq_true] at hname
      exact hname.2
    -- the options begin with a character that no name has
    have hstop : options.takeWhile isNameChar = [] ∧ options.dropWhile isNameChar = options := by
      cases options with
      | nil => simp
      | cons c tail =>
        have hc : isNameChar c = false := by
          simp only [isOptions, Bool.and_eq_true, Bool.or_eq_true, beq_iff_eq] at hoptions
          rcases hoptions.1 with rfl | rfl <;> rfl
        simp [hc]
    rw [List.takeWhile_append_of_pos hall, List.dropWhile_append_of_pos hall, hstop.1, hstop.2,
      List.append_nil]
    simp [hname, hoptions]

/-! ## Rewriting a line -/

def marker : Action → Str
  | .allow => str "@@||"
  | .block => str "||"

/-- `format!("||{}^", domain)` and `format!("@@||{}^", domain)`. -/
def ruleText (action : Action) (domain : Str) : Str := marker action ++ (domain ++ str "^")

def isCosmetic (line : Str) : Bool :=
  contains (str "##") line || contains (str "#@#") line || contains (str "#%#") line

/-- The name of a line `.name`, without its options. -/
def dottedName (inner : Str) : Str := trimEndMatches '.' (splitNext '$' (splitNext '^' inner))

/-- The rule of a line `.name`, the dot already taken off. -/
def dottedRule (inner : Str) : Option Str :=
  let domain := dottedName inner
  if domain.contains '.' && !domain.isEmpty then some (ruleText .block domain) else none

/-- The name of a line without markers: `line.trim_end_matches(['^', '$'])`. -/
def simpleName (line : Str) : Str := line.rdropWhile fun c => c == '^' || c == '$'

/-- The lines without markers that are taken for a domain. -/
def isSimple (line : Str) : Bool :=
  !(line.any fun c => c == '/' || c == ':' || c == '*' || c == '|') &&
    !(simpleName line).contains '^' && (simpleName line).contains '.' &&
    !startsWith (str ".") (simpleName line) && !endsWith (str ".") (simpleName line)

def simpleRule (line : Str) : Option Str :=
  if isSimple line then some (ruleText .block (simpleName line)) else none

/-- The body of the loop of `parse_adguard_rules`: the rule that a line is
rewritten to, and whether it goes to the block or to the allow rules. -/
def adguardLine (line : Str) : Option (Action × Str) :=
  let line := trim line
  if line.isEmpty || startsWith (str "!") line || startsWith (str "#") line then none
  else if isCosmetic line then none
  -- regex rules are skipped
  else if startsWith (str "/") line && endsWith (str "/") line then none
  else if startsWith (str ".") line && 1 < len line then
    (dottedRule line.tail).map (Action.block, ·)
  else match (stripPrefix (str "@@||") line).bind captureDomain with
    | some domain => some (.allow, ruleText .allow domain)
    | none =>
      match (stripPrefix (str "||") line).bind captureDomain with
      | some domain => some (.block, ruleText .block domain)
      | none =>
        if startsWith (str "@@||") line && line.contains '*' then some (.allow, line)
        else if startsWith (str "||") line && line.contains '*' then some (.block, line)
        else (simpleRule line).map (Action.block, ·)

def adguardRules (action : Action) (content : Str) : List Str :=
  (lines content).filterMap fun line =>
    (adguardLine line).bind fun rule => if rule.1 = action then some rule.2 else none

/-- `parse_adguard_rules`: the block rules and the allow rules. -/
def parseAdguardRules (content : Str) : List Str × List Str :=
  (adguardRules .block content, adguardRules .allow content)

theorem mem_adguardRules {content rule : Str} :
    rule ∈ adguardRules action content ↔
      ∃ line ∈ lines content, adguardLine line = some (action, rule) := by
  unfold adguardRules
  rw [List.mem_filterMap]
  refine exists_congr fun line => and_congr_right fun _ => ?_
  cases adguardLine line with
  | none => simp
  | some found =>
    obtain ⟨kind, text⟩ := found
    simp only [Option.bind_some, Option.some.injEq, Prod.mk.injEq]
    split_ifs with hkind <;> simp [hkind]

/-! ### The forms of a line -/

/-- The lines that `parse_adguard_rules` passes over at once. -/
def isSkipped (line : Str) : Bool :=
  line.isEmpty || startsWith (str "!") line || startsWith (str "#") line || isCosmetic line ||
    startsWith (str "/") line && endsWith (str "/") line

/-- A line with neither of the markers, and not one of those `.name`. -/
def isUnmarked (line : Str) : Bool :=
  !startsWith (str "@@||") line && !startsWith (str "||") line &&
    (!startsWith (str ".") line || line == str ".")

theorem startsWith_iff {start : Str} : startsWith start s = true ↔ ∃ rest, s = start ++ rest := by
  rw [startsWith, List.isPrefixOf_iff_prefix, List.prefix_iff_exists_eq_append]

theorem line_forms (line : Str) :
    isSkipped line = true ∨ (∃ c inner, line = '.' :: c :: inner) ∨
      (∃ action rest, line = marker action ++ rest) ∨ isUnmarked line = true := by
  by_cases hallow : startsWith (str "@@||") line = true
  · exact Or.inr (Or.inr (Or.inl ⟨.allow, startsWith_iff.mp hallow⟩))
  by_cases hblock : startsWith (str "||") line = true
  · exact Or.inr (Or.inr (Or.inl ⟨.block, startsWith_iff.mp hblock⟩))
  by_cases hdot : startsWith (str ".") line = true
  · obtain ⟨_ | ⟨c, inner⟩, rfl⟩ := startsWith_iff.mp hdot
    · exact Or.inr (Or.inr (Or.inr rfl))
    · exact Or.inr (Or.inl ⟨c, inner, rfl⟩)
  · exact Or.inr (Or.inr (Or.inr (by simp [isUnmarked, hallow, hblock, hdot])))

theorem adguardLine_skipped (hskip : isSkipped (trim line) = true) : adguardLine line = none := by
  simp only [isSkipped, Bool.or_eq_true] at hskip
  unfold adguardLine
  dsimp only
  split_ifs <;> simp_all

theorem adguardLine_of_not_skipped (hskip : isSkipped (trim line) = false) :
    adguardLine line =
      if startsWith (str ".") (trim line) && 1 < len (trim line) then
        (dottedRule (trim line).tail).map (Action.block, ·)
      else match (stripPrefix (str "@@||") (trim line)).bind captureDomain with
        | some domain => some (.allow, ruleText .allow domain)
        | none =>
          match (stripPrefix (str "||") (trim line)).bind captureDomain with
          | some domain => some (.block, ruleText .block domain)
          | none =>
            if startsWith (str "@@||") (trim line) && (trim line).contains '*' then
              some (.allow, trim line)
            else if startsWith (str "||") (trim line) && (trim line).contains '*' then
              some (.block, trim line)
            else (simpleRule (trim line)).map (Action.block, ·) := by
  simp only [isSkipped, Bool.or_eq_false_iff] at hskip
  obtain ⟨⟨⟨⟨hempty, hbang⟩, hhash⟩, hcosmetic⟩, hregex⟩ := hskip
  rw [adguardLine]
  simp only [hempty, hbang, hhash, hcosmetic, hregex, Bool.or_self, Bool.false_eq_true, if_false]

theorem adguardLine_dotted {inner : Str} (hskip : isSkipped (trim line) = false)
    (hline : trim line = '.' :: c :: inner) :
    adguardLine line = (dottedRule (c :: inner)).map (Action.block, ·) := by
  have hlen : 1 < len ('.' :: c :: inner) := by
    have hc := Char.utf8Size_pos c
    simp only [len, List.map_cons, List.sum_cons]
    have hdot : Char.utf8Size '.' = 1 := rfl
    omega
  rw [adguardLine_of_not_skipped hskip, hline]
  simp [startsWith, str, hlen]

theorem adguardLine_marked (hskip : isSkipped (trim line) = false)
    (hline : trim line = marker action ++ rest) :
    adguardLine line =
      match captureDomain rest with
      | some domain => some (action, ruleText action domain)
      | none => if '*' ∈ rest then some (action, trim line) else none := by
  have hdot : startsWith (str ".") (trim line) = false := by
    rw [hline]
    cases action <;> exact startsWith_cons_eq_false (by decide) _ _
  have hstar : (trim line).contains '*' = decide ('*' ∈ rest) := by
    rw [hline]
    cases action <;> simp [marker, str]
  have hsimple : simpleRule (trim line) = none := by
    rw [hline]
    cases action <;> simp [simpleRule, isSimple, marker, str]
  have hstrip : stripPrefix (marker action) (trim line) = some rest :=
    stripPrefix_eq_some.mpr hline
  have hstart : startsWith (marker action) (trim line) = true :=
    startsWith_iff.mpr ⟨rest, hline⟩
  rw [adguardLine_of_not_skipped hskip, hdot, hstar, hsimple]
  cases action with
  | allow =>
    have hother : stripPrefix (str "||") (trim line) = none := by
      rw [hline]
      exact stripPrefix_cons_eq_none (by decide) _ _
    have hothers : startsWith (str "||") (trim line) = false := by
      rw [hline]
      exact startsWith_cons_eq_false (by decide) _ _
    simp only [marker] at hstrip hstart
    simp [hstrip, hstart, hother, hothers]
  | block =>
    have hother : stripPrefix (str "@@||") (trim line) = none := by
      rw [hline]
      exact stripPrefix_cons_eq_none (by decide) _ _
    have hothers : startsWith (str "@@||") (trim line) = false := by
      rw [hline]
      exact startsWith_cons_eq_false (by decide) _ _
    simp only [marker] at hstrip hstart
    simp [hstrip, hstart, hother, hothers]

theorem adguardLine_unmarked (hskip : isSkipped (trim line) = false)
    (hform : isUnmarked (trim line) = true) :
    adguardLine line = (simpleRule (trim line)).map (Action.block, ·) := by
  simp only [isUnmarked, Bool.and_eq_true, Bool.or_eq_true, Bool.not_eq_true', beq_iff_eq] at hform
  obtain ⟨⟨hallow, hblock⟩, hdot⟩ := hform
  have hstrip : ∀ start, startsWith start (trim line) = false →
      stripPrefix start (trim line) = none := by
    intro start hstart
    by_contra hsome
    obtain ⟨rest, hrest⟩ := Option.ne_none_iff_exists'.mp hsome
    rw [startsWith_iff.mpr ⟨rest, stripPrefix_eq_some.mp hrest⟩] at hstart
    cases hstart
  have hfirst : (startsWith (str ".") (trim line) && decide (1 < len (trim line))) = false := by
    rcases hdot with hdot | hdot
    · rw [hdot, Bool.false_and]
    · rw [hdot]
      rfl
  rw [adguardLine_of_not_skipped hskip, hfirst, hstrip _ hallow, hstrip _ hblock, hallow, hblock]
  simp

/-! ## Hosts files -/

section Hosts

variable [Unicode]

/-- The check that `parse_hosts_rules` makes of a name. -/
def isHostName (domain : Str) : Bool :=
  domain.contains '.' && !startsWith (str ".") domain && !endsWith (str ".") domain &&
    domain.all fun c => isAlphanumeric c || c == '.' || c == '-' || c == '_'

/-- The body of the loop of `parse_hosts_rules`.  The first word of a line is not
looked at. -/
def hostsLine (line : Str) : Option Str :=
  let line := trim line
  if line.isEmpty || startsWith (str "#") line then none
  else match splitWhitespace line with
    | _ :: domain :: _ => if isHostName domain then some (ruleText .block domain) else none
    | _ => none

def parseHostsRules (content : Str) : List Str := (lines content).filterMap hostsLine

def isContentLine (line : Str) : Bool :=
  !(trim line).isEmpty && !startsWith (str "#") (trim line)

def isHostsLine (line : Str) : Bool :=
  match splitWhitespace (trim line) with
  | first :: _ :: _ => (IpAddr.parse first).isSome
  | _ => false

/-- `is_hosts_format`.  The quotient of the two counts is compared with one half;
both are at most 100, so the comparison in `f64` is exact. -/
def isHostsFormat (content : Str) : Bool :=
  let considered := ((lines content).take 100).filter isContentLine
  let totalLines := considered.length
  let hostsLines := considered.countP isHostsLine
  0 < totalLines && totalLines < 2 * hostsLines

/-- The choice of `sync_filter_list`: the block rules and the allow rules. -/
def subscriptionRules (content : Str) : List Str × List Str :=
  if isHostsFormat content then (parseHostsRules content, []) else parseAdguardRules content

end Hosts

/-! ## Reading the rewritten rules -/

theorem not_mem_takeWhile (hs : c ∉ s) : s.takeWhile (· != c) = s :=
  List.takeWhile_eq_self_iff.mpr fun d hd => by
    have hne : d ≠ c := fun h => hs (h ▸ hd)
    simpa using hne

theorem adguardBody_append_caret (domain : Str) :
    adguardBody (domain ++ str "^") = adguardBody domain := by
  have hcaret : splitNext '^' (domain ++ str "^") = splitNext '^' domain := by
    induction domain with
    | nil => rfl
    | cons c rest ih =>
      unfold splitNext at ih ⊢
      rw [List.cons_append, List.takeWhile_cons, List.takeWhile_cons, ih]
  rw [adguardBody, hcaret]
  rfl

theorem adguardBody_captureDomain (hcapture : captureDomain rest = some domain) :
    adguardBody rest = adguardBody domain := by
  obtain ⟨hname, options, rfl, hoptions⟩ := captureDomain_eq_some_iff.mp hcapture
  simp only [isRuleName, Bool.and_eq_true, List.all_eq_true] at hname
  have hcaret : '^' ∉ domain := fun h => absurd (hname.2 _ h) (by decide)
  have hdollar : '$' ∉ domain := fun h => absurd (hname.2 _ h) (by decide)
  have hpos : ∀ c, c ∉ domain → ∀ d ∈ domain, (d != c) = true := by
    intro c hc d hd
    have hne : d ≠ c := fun h => hc (h ▸ hd)
    simpa using hne
  have hname : splitNext '$' (splitNext '^' (domain ++ options)) = domain := by
    unfold splitNext
    rw [List.takeWhile_append_of_pos (hpos _ hcaret), List.takeWhile_append_of_pos (hpos _ hdollar)]
    cases options with
    | nil => simp
    | cons c tail =>
      simp only [isOptions, Bool.and_eq_true, Bool.or_eq_true, beq_iff_eq] at hoptions
      rcases hoptions.1 with rfl | rfl <;> simp
  have hself : splitNext '$' (splitNext '^' domain) = domain := by
    unfold splitNext
    rw [not_mem_takeWhile hcaret, not_mem_takeWhile hdollar]
  simp only [adguardBody, hname, hself]

section Reading

variable [UnicodeAscii]

variable {action : Action} {rest line : Str}

theorem parseLine_marker (htrim : trim (marker action ++ rest) = marker action ++ rest) :
    parseLine (marker action ++ rest) =
      if action = .block ∧ (rest = str "*^" ∨ rest = str "*") then some .blockAll
      else bodyRule action (adguardBody rest) := by
  cases action with
  | allow => simpa [marker] using parseLine_exception htrim
  | block => simpa [marker] using parseLine_bars htrim

omit [UnicodeAscii] in
theorem trim_ruleText (action : Action) (domain : Str) :
    trim (ruleText action domain) = ruleText action domain := by
  have hlast : (ruleText action domain).getLast? = some '^' := by
    rw [ruleText, ← List.append_assoc]
    exact List.getLast?_concat
  refine trim_eq_self (fun c hc => ?_) fun c hc => ?_
  · cases action <;>
      · cases hc
        rfl
  · obtain rfl := Option.some.inj (hlast.symm.trans hc)
    rfl

variable {domain text inner : Str}

theorem parseLine_ruleText (action : Action) (hdomain : domain ≠ str "*") :
    parseLine (ruleText action domain) = bodyRule action (adguardBody domain) := by
  have hall : ¬ (domain ++ str "^" = str "*^" ∨ domain ++ str "^" = str "*") := by
    rintro (h | h)
    · exact hdomain (List.append_cancel_right (h.trans (rfl : str "*^" = str "*" ++ str "^")))
    · have hlast := congrArg List.getLast? h
      simp [str] at hlast
  rw [ruleText, parseLine_marker (trim_ruleText action domain), adguardBody_append_caret]
  simp [hall]

omit [UnicodeAscii] in
theorem ne_star_of_mem_dot (hdot : '.' ∈ domain) : domain ≠ str "*" := by
  rintro rfl
  simp [str] at hdot

def subscribed (line : Str) : Option Rule := (adguardLine line).bind fun rule => parseLine rule.2

/-- A rule with a marker is taken over if its name is one that the pattern
captures or if it has a star; it keeps its meaning. -/
theorem subscribed_marked (hskip : isSkipped (trim line) = false)
    (hline : trim line = marker action ++ rest) :
    subscribed line =
      if (captureDomain rest).isSome = true ∨ '*' ∈ rest then parseLine line else none := by
  rw [subscribed, adguardLine_marked hskip hline]
  cases hcapture : captureDomain rest with
  | none => by_cases hstar : '*' ∈ rest <;> simp [hstar, parseLine_trim]
  | some domain =>
    have hname := (captureDomain_eq_some_iff.mp hcapture).1
    have hdomain : domain ≠ str "*" := by
      rintro rfl
      exact absurd hname (by decide)
    have hrest : ¬ (rest = str "*^" ∨ rest = str "*") := by
      rintro (rfl | rfl) <;> cases hcapture
    have hread : parseLine line = bodyRule action (adguardBody rest) := by
      rw [← parseLine_trim, hline, parseLine_marker (by rw [← hline, trim_trim])]
      simp [hrest]
    simp [hread, parseLine_ruleText action hdomain, adguardBody_captureDomain hcapture]

theorem subscribed_dotted {c : Char} (hskip : isSkipped (trim line) = false)
    (hline : trim line = '.' :: c :: inner) :
    subscribed line =
      if '.' ∈ dottedName (c :: inner) then
        bodyRule .block (adguardBody (dottedName (c :: inner)))
      else none := by
  rw [subscribed, adguardLine_dotted hskip hline, dottedRule]
  by_cases hdot : '.' ∈ dottedName (c :: inner)
  · have hne : dottedName (c :: inner) ≠ [] := List.ne_nil_of_mem hdot
    simp [hdot, hne, parseLine_ruleText .block (ne_star_of_mem_dot hdot)]
  · simp [hdot]

theorem subscribed_unmarked (hskip : isSkipped (trim line) = false)
    (hform : isUnmarked (trim line) = true) :
    subscribed line =
      if isSimple (trim line) then bodyRule .block (adguardBody (simpleName (trim line)))
      else none := by
  rw [subscribed, adguardLine_unmarked hskip hform, simpleRule]
  by_cases hsimple : isSimple (trim line) = true
  · have hdot : '.' ∈ simpleName (trim line) := by
      simp only [isSimple, Bool.and_eq_true, List.contains_eq_mem, decide_eq_true_eq] at hsimple
      exact hsimple.1.1.2
    simp [hsimple, parseLine_ruleText .block (ne_star_of_mem_dot hdot)]
  · simp [hsimple]

theorem parseLine_hostName (hname : isHostName domain = true) :
    parseLine (ruleText .block domain) = plainRule domain := by
  simp only [isHostName, Bool.and_eq_true, Bool.not_eq_true', List.contains_eq_mem,
    decide_eq_true_eq, List.all_eq_true] at hname
  obtain ⟨⟨⟨hdot, -⟩, hend⟩, hchars⟩ := hname
  have hforeign : ∀ c, Foreign c → c ≠ '_' → c ∉ domain := by
    intro c hc hne hmem
    simpa [hc.isAlphanumeric, hc.2.1, hc.2.2.1, hne] using hchars c hmem
  have hlast : ∀ c, c ∉ domain → domain.getLast? ≠ some c :=
    fun c hc hlast => hc (List.mem_of_getLast? hlast)
  have hbody : adguardBody domain = domain := by
    have hcaret : '^' ∉ domain := hforeign _ (by decide) (by decide)
    have hdollar : '$' ∉ domain := hforeign _ (by decide) (by decide)
    have hbar : '|' ∉ domain := hforeign _ (by decide) (by decide)
    have hslash : '/' ∉ domain := hforeign _ (by decide) (by decide)
    have hstop : domain.getLast? ≠ some '.' := getLast_ne_of_endsWith hend
    simp only [adguardBody, splitNext, not_mem_takeWhile hcaret, not_mem_takeWhile hdollar]
    rw [trimEndMatches_of_getLast (hlast _ hbar), trimEndMatches_of_getLast (hlast _ hslash),
      trimEndMatches_of_getLast hstop]
  have hstar : '*' ∉ domain := hforeign _ (by decide) (by decide)
  rw [parseLine_ruleText .block (ne_star_of_mem_dot hdot), hbody, bodyRule, plainRule]
  simp [hstar]

/-! ## Which lists are accepted as a whole -/

/-- A body that `add_rule` accepts: a valid domain, or a pattern with a dot. -/
def Loadable (body : Str) : Prop :=
  isValidDomain (normalizeDomain body) = true ∨ '*' ∈ body ∧ '.' ∈ body

theorem isSome_bodyRule {body : Str} : (bodyRule action body).isSome = true ↔ Loadable body := by
  unfold bodyRule Loadable
  split_ifs with hvalid hstar
  · simp [hvalid]
  · simp [hstar]
  · simp [hvalid, hstar]

/-- Whatever rule the line stands for has a body that `add_rule` accepts. -/
structure LineLoads (line : Str) : Prop where
  /-- A line `.name` with a dot in the name. -/
  dotted : ∀ inner, line = '.' :: inner → '.' ∈ dottedName inner →
    Loadable (adguardBody (dottedName inner))
  /-- A line `||…` or `@@||…` with a name that the pattern captures, or with a star. -/
  marked : ∀ action rest, line = marker action ++ rest →
    (∃ name options, rest = name ++ options ∧ isRuleName name = true ∧
      isOptions options = true) ∨ '*' ∈ rest →
    action = .block ∧ (rest = str "*^" ∨ rest = str "*") ∨ Loadable (adguardBody rest)
  /-- A line without markers. -/
  simple : isSimple line = true → Loadable (adguardBody (simpleName line))

omit [UnicodeAscii] in
theorem isSome_captureDomain :
    (captureDomain rest).isSome = true ↔
      ∃ name options, rest = name ++ options ∧ isRuleName name = true ∧
        isOptions options = true := by
  rw [Option.isSome_iff_exists]
  simp only [captureDomain_eq_some_iff]
  exact exists_congr fun name => by
    constructor
    · rintro ⟨hname, options, hrest, hoptions⟩
      exact ⟨options, hrest, hname, hoptions⟩
    · rintro ⟨options, hrest, hname, hoptions⟩
      exact ⟨hname, options, hrest, hoptions⟩

omit [UnicodeAscii] in
theorem isUnmarked_of_isSimple (hsimple : isSimple line = true) : isUnmarked line = true := by
  simp only [isSimple, Bool.and_eq_true, Bool.not_eq_true', List.any_eq_false,
    List.contains_eq_mem, decide_eq_true_eq] at hsimple
  obtain ⟨⟨⟨⟨hchars, -⟩, hdot⟩, hstart⟩, -⟩ := hsimple
  have hbar : '|' ∉ line := fun hmem => hchars '|' hmem (by decide)
  have hmarker : ∀ action, startsWith (marker action) line = false := by
    intro action
    rw [← Bool.not_eq_true, startsWith_iff]
    rintro ⟨rest, rfl⟩
    cases action <;> simp [marker, str] at hbar
  have hfirst : startsWith (str ".") line = false := by
    rw [← Bool.not_eq_true, startsWith_iff]
    rintro ⟨rest, hline⟩
    -- the name is not empty, so it begins as the line does
    obtain ⟨tail, htail⟩ : simpleName line <+: line := List.rdropWhile_prefix _ _
    cases hname : simpleName line with
    | nil => simp [hname] at hdot
    | cons c front =>
      rw [hname, hline] at htail
      obtain rfl : c = '.' := (List.cons.inj htail).1
      simp [hname, startsWith, str] at hstart
  have hallow := hmarker .allow
  have hblock := hmarker .block
  simp only [marker] at hallow hblock
  simp [isUnmarked, hallow, hblock, hfirst]

omit [UnicodeAscii] in
theorem not_isSimple_marker (action : Action) (rest : Str) :
    ¬ isSimple (marker action ++ rest) = true := by
  intro hsimple
  have hunmarked := isUnmarked_of_isSimple hsimple
  have hstart : startsWith (marker action) (marker action ++ rest) = true :=
    startsWith_iff.mpr ⟨rest, rfl⟩
  cases action <;> simp_all [isUnmarked, marker]

omit [UnicodeAscii] in
theorem marker_append_inj {action' : Action} {rest' : Str}
    (h : marker action ++ rest = marker action' ++ rest') : action = action' ∧ rest = rest' := by
  cases action <;> cases action' <;> simp_all [marker, str]

theorem lineLoads_dotted (c : Char) (inner : Str) :
    LineLoads ('.' :: c :: inner) ↔
      ('.' ∈ dottedName (c :: inner) → Loadable (adguardBody (dottedName (c :: inner)))) := by
  constructor
  · intro hloads
    exact hloads.dotted (c :: inner) rfl
  · intro hdotted
    refine ⟨fun inner' heq => ?_, fun action rest heq => ?_, fun hsimple => ?_⟩
    · obtain rfl := (List.cons.inj heq).2
      exact hdotted
    · cases action <;> cases heq
    · exact absurd (isUnmarked_of_isSimple hsimple) (by simp [isUnmarked, startsWith, str])

theorem lineLoads_marker (action : Action) (rest : Str) :
    LineLoads (marker action ++ rest) ↔
      ((∃ name options, rest = name ++ options ∧ isRuleName name = true ∧
          isOptions options = true) ∨ '*' ∈ rest →
        action = .block ∧ (rest = str "*^" ∨ rest = str "*") ∨ Loadable (adguardBody rest)) := by
  constructor
  · intro hloads
    exact hloads.marked action rest rfl
  · intro hmarked
    refine ⟨fun inner heq => ?_, fun action' rest' heq => ?_, fun hsimple => ?_⟩
    · cases action <;> cases heq
    · obtain ⟨rfl, rfl⟩ := marker_append_inj heq
      exact hmarked
    · exact absurd hsimple (not_isSimple_marker action rest)

omit [UnicodeAscii] in
theorem eq_nil_of_isUnmarked_dot (hform : isUnmarked ('.' :: inner) = true) : inner = [] := by
  simp only [isUnmarked, Bool.and_eq_true, Bool.or_eq_true, Bool.not_eq_true', beq_iff_eq] at hform
  rcases hform.2 with hstart | heq
  · simp [startsWith, str] at hstart
  · exact (List.cons.inj heq).2

theorem lineLoads_unmarked (hform : isUnmarked line = true) :
    LineLoads line ↔ (isSimple line = true → Loadable (adguardBody (simpleName line))) := by
  constructor
  · exact fun hloads => hloads.simple
  · intro hsimple
    refine ⟨?_, ?_, hsimple⟩
    · rintro inner rfl hdot
      rw [eq_nil_of_isUnmarked_dot hform] at hdot
      cases hdot
    · rintro action rest rfl
      have hstart : startsWith (marker action) (marker action ++ rest) = true :=
        startsWith_iff.mpr ⟨rest, rfl⟩
      cases action <;> simp_all [isUnmarked, marker]

theorem adguardLine_accepted_iff (line : Str) :
    (∀ rule, adguardLine line = some rule → (parseLine rule.2).isSome = true) ↔
      isSkipped (trim line) = true ∨ LineLoads (trim line) := by
  have hread : (∀ rule, adguardLine line = some rule → (parseLine rule.2).isSome = true) ↔
      ((adguardLine line).isSome = true → (subscribed line).isSome = true) := by
    unfold subscribed
    cases adguardLine line <;> simp
  rw [hread]
  cases hskip : isSkipped (trim line) with
  | true => simp [adguardLine_skipped hskip]
  | false =>
    simp only [Bool.false_eq_true, false_or]
    rcases (line_forms (trim line)).resolve_left (by simp [hskip]) with
      ⟨c, inner, hline⟩ | ⟨action, rest, hline⟩ | hform
    · rw [subscribed_dotted hskip hline, adguardLine_dotted hskip hline, hline,
        lineLoads_dotted, dottedRule]
      by_cases hdot : '.' ∈ dottedName (c :: inner)
      · simp [hdot, isSome_bodyRule, List.ne_nil_of_mem hdot]
      · simp [hdot]
    · have hsome : (adguardLine line).isSome = true ↔
          (captureDomain rest).isSome = true ∨ '*' ∈ rest := by
        rw [adguardLine_marked hskip hline]
        cases captureDomain rest <;> simp
      have hself : parseLine line = parseLine (marker action ++ rest) := by
        rw [← parseLine_trim, hline]
      rw [hsome, subscribed_marked hskip hline, hself, hline, lineLoads_marker,
        ← isSome_captureDomain, parseLine_marker (by rw [← hline, trim_trim])]
      refine forall_congr' fun htaken => ?_
      rw [if_pos htaken]
      split_ifs with hall
      · simp [hall]
      · simp [hall, isSome_bodyRule]
    · rw [subscribed_unmarked hskip hform, adguardLine_unmarked hskip hform,
        lineLoads_unmarked hform, simpleRule]
      by_cases hsimple : isSimple (trim line) = true
      · simp [hsimple, isSome_bodyRule]
      · simp [hsimple]

/-- A host name that passes the check is one that `add_rule` accepts. -/
def HostsLineLoads (line : Str) : Prop :=
  isContentLine line = true → ∀ first domain words,
    splitWhitespace (trim line) = first :: domain :: words → isHostName domain = true →
      isValidDomain (normalizeDomain domain) = true

theorem hostsLine_accepted_iff (line : Str) :
    (∀ rule, hostsLine line = some rule → (parseLine rule).isSome = true) ↔
      HostsLineLoads line := by
  unfold hostsLine HostsLineLoads isContentLine
  cases hcomment : (trim line).isEmpty || startsWith (str "#") (trim line) with
  | true =>
    rw [Bool.or_eq_true] at hcomment
    rcases hcomment with hempty | hhash
    · simp [hempty]
    · simp [hhash]
  | false =>
    rw [Bool.or_eq_false_iff] at hcomment
    simp only [hcomment, Bool.or_self, Bool.false_eq_true, if_false, Bool.not_false,
      Bool.and_self, forall_const]
    rcases hwords : splitWhitespace (trim line) with _ | ⟨first, _ | ⟨domain, words⟩⟩
    · simp
    · simp
    · by_cases hname : isHostName domain = true
      · have hread : (parseLine (ruleText .block domain)).isSome = true ↔
            isValidDomain (normalizeDomain domain) = true := by
          rw [parseLine_hostName hname, plainRule]
          split_ifs with hvalid <;> simp [hvalid]
        simp [hname, hread]
      · simp [hname]

end Reading

end RustDns
