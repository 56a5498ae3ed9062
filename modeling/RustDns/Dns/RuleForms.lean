import RustDns.Dns.RuleMeaning

/-!
# Reading a line by its form

`parseLine` tries the formats of a rule one after the other.  For a line whose
first characters are known only one of them is left, and this file says which
rule comes out of it.

* `||…` or `@@||…` as its body, the text up to the options (`parseLine_bars`,
  `parseLine_exception`);
* `|…` or `@@|…` as the domain up to the options (`parseLine_bar_eq`);
* `.…` as the domain after the dot (`parseLine_dot`);
* `*.…` as what follows, unless that is empty (`parseLine_starred_eq`);
* without any of the markers as a hosts line or a domain (`parseLine_unmarked`).

What excludes the other formats are the characters that no domain has, the
`Foreign` ones: normalising a text keeps them, so a text with one of them is no
valid domain.
-/

namespace RustDns

open Text RuleSet

theorem stripPrefix_bars {rest : Str} (hrest : ∀ tail, rest ≠ '|' :: tail) :
    stripPrefix (str "||") ('|' :: rest) = none := by
  rw [Option.eq_none_iff_forall_ne_some]
  intro tail htail
  exact hrest tail (List.cons.inj (stripPrefix_eq_some.mp htail)).2

variable [UnicodeAscii]

/-! ## Characters of a domain -/

/-- A character that is not part of any domain: white space, or an ASCII
character other than the letters, the digits, `-` and `.`. -/
def Foreign (c : Char) : Prop :=
  c.isAlphanum = false ∧ c ≠ '-' ∧ c ≠ '.' ∧ (c.toNat < 128 ∨ isWhitespace c = true)

instance (c : Char) : Decidable (Foreign c) :=
  inferInstanceAs (Decidable (c.isAlphanum = false ∧ c ≠ '-' ∧ c ≠ '.' ∧
    (c.toNat < 128 ∨ isWhitespace c = true)))

variable {c : Char} {s rest : Str}

omit [UnicodeAscii] in
theorem foreign_of_isWhitespace (hc : isWhitespace c = true) : Foreign c := by
  refine ⟨isAlphanum_of_isWhitespace hc, ?_, ?_, Or.inr hc⟩
  · rintro rfl
    simp [isWhitespace] at hc
  · rintro rfl
    simp [isWhitespace] at hc

theorem Foreign.isAlphanumeric (hc : Foreign c) : isAlphanumeric c = false := by
  obtain ⟨halnum, -, -, hascii | hspace⟩ := hc
  · rw [UnicodeAscii.isAlphanumeric_ascii c hascii, halnum]
  · exact UnicodeAscii.isAlphanumeric_whitespace c hspace

theorem Foreign.mem_toLowercase (hc : Foreign c) : c ∈ toLowercase s ↔ c ∈ s :=
  UnicodeAscii.mem_toLowercase s c hc.1 hc.2.2.2

theorem isValidDomain_eq_false (hc : Foreign c) (hs : c ∈ s) : isValidDomain s = false := by
  obtain ⟨label, hlabel, hmem⟩ : ∃ label ∈ s.splitOn '.', c ∈ label :=
    exists_mem_splitOnP (by simpa using hc.2.2.1) hs
  have hinvalid : isValidLabel label = false := by
    have hall : label.all (fun c => RustDns.isAlphanumeric c || c == '-') = false := by
      rw [List.all_eq_false]
      exact ⟨c, hmem, by simp [hc.isAlphanumeric, hc.2.1]⟩
    simp [isValidLabel, hall]
  unfold isValidDomain
  split_ifs
  · rfl
  · rfl
  · rw [List.all_eq_false]
    exact ⟨label, hlabel, by simp [hinvalid]⟩

theorem Foreign.mem_normalizeDomain (hc : Foreign c) (hspace : isWhitespace c = false) :
    c ∈ normalizeDomain s ↔ c ∈ s := by
  rw [normalizeDomain, hc.mem_toLowercase, mem_trimEndMatches hc.2.2.1, mem_trim hspace]

theorem Foreign.mem_normalizeDomain_trim (hc : Foreign c) :
    c ∈ normalizeDomain (trim s) ↔ c ∈ trim s := by
  rw [normalizeDomain, trim_trim, hc.mem_toLowercase, mem_trimEndMatches hc.2.2.1]

theorem isValidDomain_normalizeDomain_eq_false (hc : Foreign c) (hspace : isWhitespace c = false)
    (hs : c ∈ s) : isValidDomain (normalizeDomain s) = false :=
  isValidDomain_eq_false hc ((hc.mem_normalizeDomain hspace).mpr hs)

/-! ## Lines with a marker -/

def bodyRule (action : Action) (body : Str) : Option Rule :=
  if isValidDomain (normalizeDomain body) then some (.domain action (normalizeDomain body))
  else if '*' ∈ body ∧ '.' ∈ body then
    some (.wildcard action (wildcardToRegex (toLowercase body)))
  else none

theorem parseAdguardDomain_bars (rest : Str) :
    parseAdguardDomain (str "||" ++ rest) =
      if isValidDomain (normalizeDomain (adguardBody rest)) then
        some (normalizeDomain (adguardBody rest))
      else none := by
  have hstrip : stripPrefix (str "||") (str "||" ++ rest) = some rest :=
    stripPrefix_eq_some.mpr rfl
  simp [parseAdguardDomain, hstrip]

theorem parseAdguardWildcardPattern_bars (rest : Str) :
    parseAdguardWildcardPattern (str "||" ++ rest) =
      if '*' ∈ adguardBody rest ∧ '.' ∈ adguardBody rest then
        some (wildcardToRegex (toLowercase (adguardBody rest)))
      else none := by
  have hstrip : stripPrefix (str "||") (str "||" ++ rest) = some rest :=
    stripPrefix_eq_some.mpr rfl
  have hstar : '*' ∈ toLowercase (adguardBody rest) ↔ '*' ∈ adguardBody rest :=
    UnicodeAscii.mem_toLowercase _ _ (by decide) (by decide)
  have hdot : '.' ∈ toLowercase (adguardBody rest) ↔ '.' ∈ adguardBody rest :=
    UnicodeAscii.mem_toLowercase _ _ (by decide) (by decide)
  simp only [parseAdguardWildcardPattern, hstrip, Option.bind_eq_bind, Option.bind_some,
    Bool.not_eq_true', List.contains_eq_mem, decide_eq_false_iff_not, hstar, hdot]
  by_cases hs : '*' ∈ adguardBody rest <;> by_cases hd : '.' ∈ adguardBody rest <;> simp [hs, hd]

theorem parseAllowLine_bars (rest : Str) :
    parseAllowLine (str "||" ++ rest) = bodyRule .allow (adguardBody rest) := by
  rw [parseAllowLine, parseAdguardDomain_bars, parseAdguardWildcardPattern_bars, bodyRule]
  split_ifs <;> rfl

theorem parseBlockLine_bars (rest : Str) :
    parseBlockLine (str "||" ++ rest) = bodyRule .block (adguardBody rest) := by
  have hdot : stripPrefix (str ".") (str "||" ++ rest) = none := by
    simp [stripPrefix, str, List.dropPrefix?]
  have hhosts : parseHostsLine (str "||" ++ rest) = none := by
    obtain ⟨word, words, hsplit⟩ := splitWhitespace_cons (c := '|') (by decide) ('|' :: rest)
    have hparse : IpAddr.parse ('|' :: word) = none :=
      IpAddr.parse_cons_eq_none (by decide) (by decide) word
    unfold parseHostsLine
    rw [show str "||" ++ rest = '|' :: '|' :: rest from rfl, hsplit]
    cases words <;> simp [hparse]
  have hstar : parseLeadingStar (str "||" ++ rest) = none := by
    simp [parseLeadingStar, stripPrefix, str, List.dropPrefix?]
  have hplain : isValidDomain (normalizeDomain (str "||" ++ rest)) = false :=
    isValidDomain_normalizeDomain_eq_false (c := '|') (by decide) (by decide) (by simp [str])
  rw [parseBlockLine, parseAdguardDomain_bars, parseAdguardWildcardPattern_bars, bodyRule, hdot,
    hhosts, hstar]
  simp only [hplain, Bool.false_eq_true, if_false]
  split_ifs <;> rfl

theorem parseLine_trim (line : Str) : parseLine (trim line) = parseLine line := by
  simp only [parseLine, trim_trim]

theorem parseLine_bars (htrim : trim (str "||" ++ rest) = str "||" ++ rest) :
    parseLine (str "||" ++ rest) =
      if rest = str "*^" ∨ rest = str "*" then some .blockAll
      else bodyRule .block (adguardBody rest) := by
  have hat : stripPrefix (str "@@") (str "||" ++ rest) = none :=
    stripPrefix_cons_eq_none (by decide) _ _
  rw [parseLine, htrim, hat, parseBlockLine_bars]
  by_cases hall : rest = str "*^" ∨ rest = str "*"
  · rcases hall with rfl | rfl <;> rfl
  · have hcaret : rest ≠ ['*', '^'] := fun h => hall (Or.inl h)
    have hstar : rest ≠ ['*'] := fun h => hall (Or.inr h)
    rw [if_neg hall]
    simp [str, startsWith, hcaret, hstar]

theorem parseLine_exception (htrim : trim (str "@@||" ++ rest) = str "@@||" ++ rest) :
    parseLine (str "@@||" ++ rest) = bodyRule .allow (adguardBody rest) := by
  have hat : stripPrefix (str "@@") (str "@@||" ++ rest) = some (str "||" ++ rest) :=
    stripPrefix_eq_some.mpr rfl
  rw [parseLine, htrim, hat, ← parseAllowLine_bars]
  simp [str, startsWith]

/-! ## Lines without a bar -/

omit [UnicodeAscii] in
theorem parseAdguard_cons [Unicode] (hc : c ≠ '|') (rest : Str) :
    parseAdguardDomain (c :: rest) = none ∧ parseAdguardWildcardPattern (c :: rest) = none := by
  have hbars : stripPrefix (str "||") (c :: rest) = none := stripPrefix_cons_eq_none hc _ _
  have hbar : stripPrefix (str "|") (c :: rest) = none := stripPrefix_cons_eq_none hc _ _
  simp [parseAdguardDomain, parseAdguardWildcardPattern, hbars, hbar]

/-- A line that begins with a foreign character other than a colon is neither a
hosts line nor a plain domain. -/
theorem plain_cons_eq_none (hc : Foreign c) (hspace : isWhitespace c = false)
    (hdigit : IpAddr.toDigit 16 c = none) (hcolon : c ≠ ':') (rest : Str) :
    parseHostsLine (c :: rest) = none ∧ isValidDomain (normalizeDomain (c :: rest)) = false := by
  refine ⟨?_, isValidDomain_normalizeDomain_eq_false hc hspace List.mem_cons_self⟩
  obtain ⟨word, words, hwords⟩ := splitWhitespace_cons hspace rest
  unfold parseHostsLine
  rw [hwords]
  cases words with
  | nil => rfl
  | cons name words => simp [IpAddr.parse_cons_eq_none hdigit hcolon word]

theorem parseLine_dot {inner : Str} (htrim : trim ('.' :: inner) = '.' :: inner) :
    parseLine ('.' :: inner) = (parseLeadingDot inner).map (.domain .block) := by
  obtain ⟨hdomain, hpattern⟩ := parseAdguard_cons (c := '.') (by decide) inner
  have hat : stripPrefix (str "@@") ('.' :: inner) = none :=
    stripPrefix_cons_eq_none (by decide) _ _
  have hdot : stripPrefix (str ".") ('.' :: inner) = some inner := stripPrefix_eq_some.mpr rfl
  rw [parseLine, htrim, hat]
  dsimp only
  rw [parseBlockLine, hdomain, hpattern, hdot]
  simp [str, startsWith]

theorem parseLine_starred_eq (htrim : trim ('*' :: '.' :: rest) = '*' :: '.' :: rest) :
    parseLine ('*' :: '.' :: rest) =
      ((some (normalizeDomain rest)).filter (! ·.isEmpty)).map (.domain .block) := by
  obtain ⟨hhosts, hplain⟩ :=
    plain_cons_eq_none (c := '*') (by decide) (by decide) (by decide) (by decide) ('.' :: rest)
  obtain ⟨hdomain, hpattern⟩ := parseAdguard_cons (c := '*') (by decide) ('.' :: rest)
  have hat : stripPrefix (str "@@") ('*' :: '.' :: rest) = none :=
    stripPrefix_cons_eq_none (by decide) _ _
  have hdot : stripPrefix (str ".") ('*' :: '.' :: rest) = none :=
    stripPrefix_cons_eq_none (by decide) _ _
  have hstar : stripPrefix (str "*.") ('*' :: '.' :: rest) = some rest :=
    stripPrefix_eq_some.mpr rfl
  have hparse : parseLine ('*' :: '.' :: rest) = parseBlockLine ('*' :: '.' :: rest) := by
    rw [parseLine, htrim, hat]
    simp [startsWith, str]
  rw [hparse, parseBlockLine, hdomain, hpattern, hdot, hhosts, parseLeadingStar, hstar,
    Option.map_some, Option.filter_some]
  simp only [hplain, Bool.false_eq_true, if_false]
  split_ifs <;> rfl

def plainRule (line : Str) : Option Rule :=
  if isValidDomain (normalizeDomain line) then some (.domain .block (normalizeDomain line))
  else none

/-- The rule of a line without a marker: a hosts line or a plain domain. -/
def unmarkedRule (line : Str) : Option Rule :=
  match parseHostsLine line with
  | some domain => some (.domain .block domain)
  | none => plainRule line

theorem unmarkedRule_eq_none (hc : c ∈ ['*', '#', '!', '/', '@']) (rest : Str) :
    unmarkedRule (c :: rest) = none := by
  obtain ⟨hc, hspace, hdigit, hcolon⟩ :
      Foreign c ∧ isWhitespace c = false ∧ IpAddr.toDigit 16 c = none ∧ c ≠ ':' := by
    simp only [List.mem_cons, List.not_mem_nil, or_false] at hc
    rcases hc with rfl | rfl | rfl | rfl | rfl <;>
      exact ⟨by decide, by decide, by decide, by decide⟩
  obtain ⟨hhosts, hplain⟩ := plain_cons_eq_none hc hspace hdigit hcolon rest
  simp [unmarkedRule, plainRule, hhosts, hplain]

/-- A line without any of the markers is read as a hosts line or a plain domain.
The characters that could still have a meaning of their own make it neither. -/
theorem parseLine_unmarked (htrim : trim (c :: rest) = c :: rest) (hbar : c ≠ '|') (hdot : c ≠ '.')
    (hexception : ∀ tail, c :: rest ≠ '@' :: '@' :: '|' :: tail)
    (hstar : ∀ tail, c :: rest ≠ '*' :: '.' :: tail) :
    parseLine (c :: rest) = unmarkedRule (c :: rest) := by
  rw [parseLine, htrim]
  split_ifs with hskip hregex hall
  · refine (unmarkedRule_eq_none ?_ rest).symm
    by_contra hc
    simp only [List.mem_cons, List.not_mem_nil, or_false, not_or] at hc
    have hhash : startsWith (str "#") (c :: rest) = false := startsWith_cons_eq_false hc.2.1 _ _
    have hbang : startsWith (str "!") (c :: rest) = false := startsWith_cons_eq_false hc.2.2.1 _ _
    simp [hhash, hbang] at hskip
  · refine (unmarkedRule_eq_none ?_ rest).symm
    by_contra hc
    simp only [List.mem_cons, List.not_mem_nil, or_false, not_or] at hc
    have hslash : startsWith (str "/") (c :: rest) = false :=
      startsWith_cons_eq_false hc.2.2.2.1 _ _
    simp [hslash] at hregex
  · simp [str, hbar] at hall
  · cases hat : stripPrefix (str "@@") (c :: rest) with
    | none =>
      obtain ⟨hdomain, hpattern⟩ := parseAdguard_cons hbar rest
      have hnodot : stripPrefix (str ".") (c :: rest) = none := stripPrefix_cons_eq_none hdot _ _
      have hnostar : stripPrefix (str "*.") (c :: rest) = none := by
        rw [Option.eq_none_iff_forall_ne_some]
        intro tail htail
        exact hstar tail (stripPrefix_eq_some.mp htail)
      dsimp only
      rw [parseBlockLine, hdomain, hpattern, hnodot, unmarkedRule, parseLeadingStar, hnostar]
      rfl
    | some tail =>
      have hline : c :: rest = '@' :: '@' :: tail := stripPrefix_eq_some.mp hat
      rw [unmarkedRule_eq_none (by rw [(List.cons.inj hline).1]; decide)]
      cases tail with
      | nil => rfl
      | cons d tail =>
        have hd : d ≠ '|' := by
          rintro rfl
          exact hexception tail hline
        obtain ⟨hdomain, hpattern⟩ := parseAdguard_cons hd tail
        simp [parseAllowLine, hdomain, hpattern]

theorem parseLine_of_first (htrim : trim (c :: rest) = c :: rest)
    (hc : c ∉ ['|', '.', '*', '@']) : parseLine (c :: rest) = unmarkedRule (c :: rest) := by
  simp only [List.mem_cons, List.not_mem_nil, or_false, not_or] at hc
  obtain ⟨hbar, hdot, hstar, hat⟩ := hc
  exact parseLine_unmarked htrim hbar hdot (fun _ h => hat (List.cons.inj h).1)
    fun _ h => hstar (List.cons.inj h).1

/-! ## Lines with one bar -/

theorem parseAdguardDomain_bar (hrest : ∀ tail, rest ≠ '|' :: tail) :
    parseAdguardDomain ('|' :: rest) = if isValidDomain (normalizeDomain (adguardBody rest)) then
        some (normalizeDomain (adguardBody rest))
      else none := by
  have hbar : stripPrefix (str "|") ('|' :: rest) = some rest := stripPrefix_eq_some.mpr rfl
  simp [parseAdguardDomain, stripPrefix_bars hrest, hbar]

omit [UnicodeAscii] in
theorem parseAdguardWildcardPattern_bar [Unicode] (hrest : ∀ tail, rest ≠ '|' :: tail) :
    parseAdguardWildcardPattern ('|' :: rest) = none := by
  simp [parseAdguardWildcardPattern, stripPrefix_bars hrest]

theorem parseLine_bar_eq (hrest : ∀ tail, rest ≠ '|' :: tail)
    (htrim : trim ('|' :: rest) = '|' :: rest) :
    parseLine ('|' :: rest) =
      ((some (normalizeDomain (adguardBody rest))).filter isValidDomain).map (.domain .block) := by
  obtain ⟨hhosts, hplain⟩ :=
    plain_cons_eq_none (c := '|') (by decide) (by decide) (by decide) (by decide) rest
  have hat : stripPrefix (str "@@") ('|' :: rest) = none := stripPrefix_cons_eq_none (by decide) _ _
  have hdot : stripPrefix (str ".") ('|' :: rest) = none := stripPrefix_cons_eq_none (by decide) _ _
  have hstar : stripPrefix (str "*.") ('|' :: rest) = none :=
    stripPrefix_cons_eq_none (by decide) _ _
  have hparse : parseLine ('|' :: rest) = parseBlockLine ('|' :: rest) := by
    rw [parseLine, htrim, hat]
    simp [startsWith, str, hrest]
  rw [hparse, parseBlockLine, parseAdguardDomain_bar hrest, parseAdguardWildcardPattern_bar hrest,
    hdot, hhosts, parseLeadingStar, hstar, Option.filter_some]
  simp only [hplain, Bool.false_eq_true, if_false]
  split_ifs <;> rfl

theorem parseLine_exceptionBar_eq (hrest : ∀ tail, rest ≠ '|' :: tail)
    (htrim : trim ('@' :: '@' :: '|' :: rest) = '@' :: '@' :: '|' :: rest) :
    parseLine ('@' :: '@' :: '|' :: rest) =
      ((some (normalizeDomain (adguardBody rest))).filter isValidDomain).map (.domain .allow) := by
  have hat : stripPrefix (str "@@") ('@' :: '@' :: '|' :: rest) = some ('|' :: rest) :=
    stripPrefix_eq_some.mpr rfl
  have hparse : parseLine ('@' :: '@' :: '|' :: rest) = parseAllowLine ('|' :: rest) := by
    rw [parseLine, htrim, hat]
    simp [startsWith, str]
  rw [hparse, parseAllowLine, parseAdguardDomain_bar hrest, parseAdguardWildcardPattern_bar hrest,
    Option.filter_some]
  split_ifs <;> rfl

end RustDns
