import RustDns.Api.Validators
import RustDns.Dns.Subscription

/-!
# The rule validator and the filter engine

The validator of the management API and `RuleSet::add_rule` both decide whether a
line is a rule.  They divide the lines by the same first characters, so for every
form of a line (`lineForm`) there is on each side one condition: `Validated` and
`Loaded`.

`Agrees` is the condition under which they coincide.  The forms `|name`,
`@@|name` and `.name` are rules for the engine only.  For the others, what
differs are stars, options, repeated markers, local names, final dots and the
single label `localhost` (`validateRule_eq_addRule_iff`).
-/

namespace RustDns.Api.RuleAgreement

open Text RuleSet Validators DomainValidator

/-! ## The forms of a line -/

inductive LineForm where
  /-- `||rest` or `@@||rest`. -/
  | marked (action : Action) (rest : Str)
  /-- `|rest` or `@@|rest`. -/
  | bar (rest : Str)
  /-- `.inner`. -/
  | dotted (inner : Str)
  /-- `*.rest`. -/
  | starred (rest : Str)
  /-- Two words or more, of which these are the first. -/
  | hosts (first name : Str)
  /-- Anything else. -/
  | word (line : Str)

def plainForm (line : Str) : LineForm :=
  match splitWhitespace line with
  | first :: name :: _ => .hosts first name
  | _ => .word line

def lineForm : Str → LineForm
  | '|' :: '|' :: rest => .marked .block rest
  | '@' :: '@' :: '|' :: '|' :: rest => .marked .allow rest
  | '|' :: rest => .bar rest
  | '@' :: '@' :: '|' :: rest => .bar rest
  | '.' :: inner => .dotted inner
  | '*' :: '.' :: rest => .starred rest
  | line => plainForm line

def checkedText (action : Action) (rest : Str) : Str :=
  trimEndMatches '^' (trimStartMatches (marker action) rest)

section Forms

variable [UnicodeNonempty]

def Validated : LineForm → Prop
  | .marked action rest => CheckedName (checkedText action rest)
  | .bar _ => False
  | .dotted _ => False
  | .starred rest => CheckedName ('*' :: '.' :: rest)
  | .hosts first name => (IpAddr.parse first).isSome = true ∧ CheckedName name
  | .word line => CheckedName line

def Loaded : LineForm → Prop
  | .marked action rest =>
    action = .block ∧ (rest = str "*^" ∨ rest = str "*") ∨ Loadable (adguardBody rest)
  | .bar rest => isValidDomain (normalizeDomain (adguardBody rest)) = true
  | .dotted inner => isValidDomain (normalizeDomain (dottedName inner)) = true
  | .starred rest => normalizeDomain rest ≠ []
  | .hosts first name =>
    (IpAddr.parse first).isSome = true ∧
      (name ≠ str "localhost" ∧ endsWith (str ".local") name = false) ∧
      isValidDomain (normalizeDomain name) = true
  | .word line => isValidDomain (normalizeDomain line) = true

def Agrees : LineForm → Prop
  | .marked action rest =>
    if CheckedName (checkedText action rest) then
      -- a repeated marker is part of the name for the engine
      '*' ∈ rest ∨ startsWith (marker action) rest = false ∧
        isValidDomain (normalizeDomain (checkedText action rest)) = true
    else
      -- options, partial stars and `||*` are beyond the validator
      ¬ Loadable (adguardBody rest) ∧
        ¬ (action = .block ∧ (rest = str "*^" ∨ rest = str "*"))
  | .bar rest => isValidDomain (normalizeDomain (adguardBody rest)) = false
  | .dotted inner => isValidDomain (normalizeDomain (dottedName inner)) = false
  | .starred rest => CheckedName ('*' :: '.' :: rest) ∨ normalizeDomain rest = []
  | .hosts first name =>
    (IpAddr.parse first).isSome = true →
      if CheckedName name then
        endsWith (str ".local") name = false ∧ isValidDomain (normalizeDomain name) = true
      else
        (name = str "localhost" ∨ endsWith (str ".local") name = true) ∨
          isValidDomain (normalizeDomain name) = false
  | .word line =>
    if CheckedName line then isValidDomain (normalizeDomain line) = true
    else isValidDomain (normalizeDomain line) = false

/-! ## Characters of a checked name -/

variable {s line rest : Str} {c : Char}

theorem not_mem_undotted (hname : CheckedName s) (hc : Foreign c) (hstar : c ≠ '*') :
    c ∉ undotted s := by
  intro hmem
  obtain ⟨label, hlabel, hcl⟩ : ∃ label ∈ (undotted s).splitOn '.', c ∈ label :=
    exists_mem_splitOnP (by simpa using hc.2.2.1) hmem
  rcases hname.labels label hlabel with rfl | hvalid
  · simp [str, hstar] at hcl
  · simp only [isValidLabel, Bool.and_eq_true, List.all_eq_true] at hvalid
    have hchar := hvalid.1.1.2 c hcl
    simp [hc.isAlphanumeric, hc.2.1] at hchar

/-- A checked name has no foreign character but stars, and white space only
around it. -/
theorem not_mem_of_checkedName (hname : CheckedName s) (hc : Foreign c) (hstar : c ≠ '*')
    (hspace : isWhitespace c = false) : c ∉ s := by
  have hmem := not_mem_undotted hname hc hstar
  rwa [undotted, mem_trimEndMatches hc.2.2.1, mem_trim hspace] at hmem

theorem not_isWhitespace_of_checkedName (htrim : trim s = s) (hname : CheckedName s) (hc : c ∈ s) :
    isWhitespace c = false := by
  by_contra hspace
  rw [Bool.not_eq_false] at hspace
  have hforeign := foreign_of_isWhitespace hspace
  have hstar : c ≠ '*' := by
    rintro rfl
    exact absurd hspace (by decide)
  apply not_mem_undotted hname hforeign hstar
  rwa [undotted, htrim, mem_trimEndMatches hforeign.2.2.1]

omit [UnicodeNonempty] in
theorem not_checkedName_dot [Unicode] (inner : Str) : ¬ CheckedName ('.' :: inner) := by
  intro hname
  have hfront : ('.' :: inner).dropWhile isWhitespace = '.' :: inner :=
    List.dropWhile_cons_of_neg (by decide)
  have hstart : undotted ('.' :: inner) <+: '.' :: inner := by
    unfold undotted trim trimEndMatches
    rw [hfront]
    exact ( List.rdropWhile_prefix _ _).trans ( List.rdropWhile_prefix _ _)
  obtain ⟨tail, htail⟩ := hstart
  cases hname' : undotted ('.' :: inner) with
  | nil => exact absurd hname.dotted (by simp [hname'])
  | cons c rest =>
    rw [hname'] at htail
    obtain rfl : c = '.' := (List.cons.inj htail).1
    have hempty : ([] : Str) ∈ (undotted ('.' :: inner)).splitOn '.' := by
      rw [hname', List.splitOn, List.splitOnP_cons_eq_if_modifyHead]
      simp
    rcases hname.labels [] hempty with hstar | hvalid
    · cases hstar
    · simp [isValidLabel] at hvalid

/-! ## The validator -/

omit [UnicodeNonempty] in
theorem isWhitespace_of_mem_splitWhitespace {word : Str} (hword : word ∈ splitWhitespace s)
    (hc : c ∈ word) : isWhitespace c = false := by
  have hpart : word ∈ s.splitOnP isWhitespace := (List.mem_filter.mp hword).1
  clear hword
  induction s generalizing word with
  | nil =>
    rw [List.splitOnP_nil, List.mem_singleton] at hpart
    rw [hpart] at hc
    cases hc
  | cons d rest ih =>
    rw [List.splitOnP_cons_eq_if_modifyHead] at hpart
    obtain ⟨first, others, hsplit⟩ :=
      List.exists_cons_of_ne_nil (List.splitOnP_ne_nil isWhitespace rest)
    rw [hsplit] at ih hpart
    split_ifs at hpart with hd
    · rcases List.mem_cons.mp hpart with rfl | hpart
      · cases hc
      · exact ih hc hpart
    · rcases List.mem_cons.mp hpart with rfl | hpart
      · rcases List.mem_cons.mp hc with rfl | hc
        · simpa using hd
        · exact ih hc List.mem_cons_self
      · exact ih hc (List.mem_cons_of_mem first hpart)

omit [UnicodeNonempty] in
theorem trim_of_mem_splitWhitespace {word : Str} (hword : word ∈ splitWhitespace s) :
    trim word = word :=
  trim_eq_self
    (fun _ hc => isWhitespace_of_mem_splitWhitespace hword (List.mem_of_mem_head? hc))
    fun _ hc => isWhitespace_of_mem_splitWhitespace hword (List.mem_of_getLast? hc)

theorem validateFilterRule_plain (hblock : startsWith (str "||") line = false)
    (hallow : startsWith (str "@@||") line = false) :
    (RuleValidator.validateFilterRule line).isOk = true ↔ Validated (plainForm line) := by
  unfold RuleValidator.validateFilterRule plainForm
  rw [hblock, hallow]
  simp only [Bool.false_eq_true, if_false]
  rcases hwords : splitWhitespace line with _ | ⟨first, _ | ⟨name, words⟩⟩
  · simp [Validated, DomainValidator.validate_isOk_iff]
  · simp [Validated, DomainValidator.validate_isOk_iff]
  · have hspace : line.any isWhitespace = true := by
      simpa using exists_whitespace_of_two_words hwords
    have hfirst : trim first = first := trim_of_mem_splitWhitespace (s := line) (by simp [hwords])
    rw [hspace]
    simp [Validated, isOk_bind, DomainValidator.validate_isOk_iff,
      IpValidator.validate_isOk_iff, hfirst]

/-- A line that begins with a character that no address begins with is checked as
one name, if at all. -/
theorem validated_plainForm_cons (hdigit : IpAddr.toDigit 16 c = none) (hcolon : c ≠ ':')
    (hspace : isWhitespace c = false) (htrim : trim (c :: rest) = c :: rest) :
    Validated (plainForm (c :: rest)) ↔ CheckedName (c :: rest) := by
  obtain ⟨word, words, hwords⟩ := splitWhitespace_cons hspace rest
  unfold plainForm
  rw [hwords]
  cases words with
  | nil => exact Iff.rfl
  | cons name words =>
    have hparse : IpAddr.parse (c :: word) = none :=
      IpAddr.parse_cons_eq_none hdigit hcolon word
    refine iff_of_false (by simp [Validated, hparse]) fun hname => ?_
    obtain ⟨d, hd, hwhite⟩ := exists_whitespace_of_two_words hwords
    rw [not_isWhitespace_of_checkedName htrim hname hd] at hwhite
    cases hwhite

theorem validateRule_isOk_iff (rule : Str) :
    (RuleValidator.validateRule (str "filter") rule).isOk = true ↔
      Validated (lineForm (trim rule)) := by
  have hdispatch : (RuleValidator.validateRule (str "filter") rule).isOk = true ↔
      trim rule ≠ [] ∧ (RuleValidator.validateFilterRule (trim rule)).isOk = true := by
    unfold RuleValidator.validateRule
    dsimp only
    rw [if_pos rfl]
    split_ifs with hempty
    · simp [List.isEmpty_iff.mp hempty]
    · exact ⟨fun hok => ⟨by simpa using hempty, hok⟩, fun h => h.2⟩
  rw [hdispatch]
  have htrim : trim (trim rule) = trim rule := trim_trim rule
  generalize trim rule = line at htrim ⊢
  fun_cases lineForm line with
  | case1 rest =>
    have hstart : startsWith (str "||") ('|' :: '|' :: rest) = true := rfl
    have htext : trimStartMatches (str "||") ('|' :: '|' :: rest) =
        trimStartMatches (str "||") rest := trimStartMatches_append (by decide) rest
    simp [RuleValidator.validateFilterRule, hstart, htext, Validated, checkedText, marker,
      DomainValidator.validate_isOk_iff]
  | case2 rest =>
    have hblock : startsWith (str "||") ('@' :: '@' :: '|' :: '|' :: rest) = false := rfl
    have hallow : startsWith (str "@@||") ('@' :: '@' :: '|' :: '|' :: rest) = true := rfl
    have htext : trimStartMatches (str "@@||") ('@' :: '@' :: '|' :: '|' :: rest) =
        trimStartMatches (str "@@||") rest := trimStartMatches_append (by decide) rest
    simp [RuleValidator.validateFilterRule, hblock, hallow, htext, Validated, checkedText, marker,
      DomainValidator.validate_isOk_iff]
  | case3 rest hnot =>
    have hbars : startsWith (str "||") ('|' :: rest) = false := by
      rw [← Bool.not_eq_true, startsWith_iff]
      rintro ⟨tail, htail⟩
      exact hnot tail (List.cons.inj htail).2
    rw [validateFilterRule_plain hbars rfl,
      validated_plainForm_cons (by decide) (by decide) (by decide) htrim]
    refine iff_of_false (fun h => ?_) id
    exact not_mem_of_checkedName h.2 (c := '|') (by decide) (by decide) (by decide) (by simp)
  | case4 rest hnot =>
    have hbars : startsWith (str "@@||") ('@' :: '@' :: '|' :: rest) = false := by
      rw [← Bool.not_eq_true, startsWith_iff]
      rintro ⟨tail, htail⟩
      exact hnot tail (by simpa [str] using htail)
    rw [validateFilterRule_plain rfl hbars,
      validated_plainForm_cons (by decide) (by decide) (by decide) htrim]
    refine iff_of_false (fun h => ?_) id
    exact not_mem_of_checkedName h.2 (c := '|') (by decide) (by decide) (by decide) (by simp)
  | case5 inner =>
    rw [validateFilterRule_plain rfl rfl,
      validated_plainForm_cons (by decide) (by decide) (by decide) htrim]
    exact iff_of_false (fun h => not_checkedName_dot inner h.2) id
  | case6 rest =>
    rw [validateFilterRule_plain rfl rfl,
      validated_plainForm_cons (by decide) (by decide) (by decide) htrim]
    exact ⟨fun h => h.2, fun h => ⟨by simp, h⟩⟩
  | case7 line hblock hallow =>
    have hbars : startsWith (str "||") line = false := by
      rw [← Bool.not_eq_true, startsWith_iff]
      rintro ⟨rest, rfl⟩
      exact hblock rest rfl
    have hexception : startsWith (str "@@||") line = false := by
      rw [← Bool.not_eq_true, startsWith_iff]
      rintro ⟨rest, rfl⟩
      exact hallow rest rfl
    rw [validateFilterRule_plain hbars hexception]
    refine ⟨fun h => h.2, fun h => ⟨?_, h⟩⟩
    rintro rfl
    exact absurd h.dotted (by simp [undotted, trim, trimEndMatches])

/-! ## The engine -/

theorem parseLine_bar (hrest : ∀ tail, rest ≠ '|' :: tail)
    (htrim : trim ('|' :: rest) = '|' :: rest) :
    (parseLine ('|' :: rest)).isSome = true ↔ Loaded (.bar rest) := by
  rw [parseLine_bar_eq hrest htrim, Option.isSome_map, Option.filter_some]
  unfold Loaded
  split_ifs with hvalid
  · simp [hvalid]
  · simp [hvalid]

theorem parseLine_exceptionBar (hrest : ∀ tail, rest ≠ '|' :: tail)
    (htrim : trim ('@' :: '@' :: '|' :: rest) = '@' :: '@' :: '|' :: rest) :
    (parseLine ('@' :: '@' :: '|' :: rest)).isSome = true ↔ Loaded (.bar rest) := by
  rw [parseLine_exceptionBar_eq hrest htrim, Option.isSome_map, Option.filter_some]
  unfold Loaded
  split_ifs with hvalid
  · simp [hvalid]
  · simp [hvalid]

theorem parseLine_starred (htrim : trim ('*' :: '.' :: rest) = '*' :: '.' :: rest) :
    (parseLine ('*' :: '.' :: rest)).isSome = true ↔ Loaded (.starred rest) := by
  rw [parseLine_starred_eq htrim, Option.isSome_map, Option.filter_some]
  unfold Loaded
  by_cases hempty : normalizeDomain rest = []
  · simp [hempty]
  · simp [hempty]

theorem isSome_parseHostsLine (line : Str) :
    (parseHostsLine line).isSome = true ↔
      ∃ first name words, splitWhitespace line = first :: name :: words ∧
        Loaded (.hosts first name) := by
  unfold parseHostsLine
  rcases splitWhitespace line with _ | ⟨first, _ | ⟨name, words⟩⟩
  · simp
  · simp
  · have hunique : (∃ first' name' words', first :: name :: words = first' :: name' :: words' ∧
        Loaded (.hosts first' name')) ↔ Loaded (.hosts first name) := by
      constructor
      · rintro ⟨_, _, _, heq, hloaded⟩
        obtain ⟨rfl, rfl, -⟩ := by simpa using heq
        exact hloaded
      · exact fun hloaded => ⟨first, name, words, rfl, hloaded⟩
    rw [hunique]
    unfold Loaded
    dsimp only
    split_ifs with hparse hlocal hvalid
    · simp [Option.isNone_iff_eq_none.mp hparse]
    · rw [Bool.or_eq_true, beq_iff_eq] at hlocal
      refine iff_of_false (by simp) fun h => ?_
      rcases hlocal with hname | hend
      · exact h.2.1.1 hname
      · rw [h.2.1.2] at hend
        cases hend
    · rw [Bool.or_eq_true, beq_iff_eq, not_or, Bool.not_eq_true] at hlocal
      exact iff_of_true rfl ⟨by simpa [Option.isSome_iff_ne_none] using hparse, hlocal, hvalid⟩
    · simp [hvalid]

theorem isSome_unmarkedRule (line : Str) :
    (unmarkedRule line).isSome = true ↔ (parseHostsLine line).isSome = true ∨
      isValidDomain (normalizeDomain line) = true := by
  unfold unmarkedRule plainRule
  cases parseHostsLine line with
  | some domain => simp
  | none =>
    dsimp only
    split_ifs with hvalid
    · simp [hvalid]
    · simp [hvalid]

theorem not_loaded_nil : ¬ Loaded (plainForm []) := by
  have hlower : toLowercase ([] : Str) = [] := (UnicodeNonempty.toLowercase_eq_nil _).mpr rfl
  simp [plainForm, splitWhitespace, Loaded, normalizeDomain, trim, trimEndMatches, hlower,
    isValidDomain]

theorem loaded_plainForm (htrim : trim line = line) :
    (∃ first name words, splitWhitespace line = first :: name :: words ∧
        Loaded (.hosts first name)) ∨ isValidDomain (normalizeDomain line) = true ↔
      Loaded (plainForm line) := by
  unfold plainForm
  rcases hwords : splitWhitespace line with _ | ⟨first, _ | ⟨name, words⟩⟩
  · simp [Loaded]
  · simp [Loaded]
  · obtain ⟨c, hc, hspace⟩ := exists_whitespace_of_two_words hwords
    have hforeign := foreign_of_isWhitespace hspace
    have hinvalid : isValidDomain (normalizeDomain line) = false := by
      apply isValidDomain_eq_false hforeign
      rw [← htrim, hforeign.mem_normalizeDomain_trim, htrim]
      exact hc
    rw [hinvalid]
    simp

theorem parseLine_isSome_iff (htrim : trim line = line) :
    (parseLine line).isSome = true ↔ Loaded (lineForm line) := by
  fun_cases lineForm line with
  | case1 rest =>
    change (parseLine (marker .block ++ rest)).isSome = true ↔ _
    rw [parseLine_marker htrim]
    simp only [Loaded]
    split_ifs with hall
    · exact iff_of_true rfl (Or.inl hall)
    · rw [isSome_bodyRule, or_iff_right hall]
  | case2 rest =>
    change (parseLine (marker .allow ++ rest)).isSome = true ↔ _
    rw [parseLine_marker htrim]
    simp [Loaded, isSome_bodyRule]
  | case3 rest hnot => exact parseLine_bar hnot htrim
  | case4 rest hnot => exact parseLine_exceptionBar hnot htrim
  | case5 inner =>
    rw [parseLine_dot htrim]
    unfold Loaded parseLeadingDot dottedName
    dsimp only
    split_ifs with hvalid
    · simp [hvalid]
    · simp [hvalid]
  | case6 rest => exact parseLine_starred htrim
  | case7 line hblock hallow hbar hexception hdot hstar =>
    cases line with
    | nil => exact iff_of_false (by simp [parseLine, trim]) not_loaded_nil
    | cons c rest =>
      have hc : c ≠ '|' ∧ c ≠ '.' := by
        constructor
        · rintro rfl
          exact hbar rest rfl
        · rintro rfl
          exact hdot rest rfl
      rw [parseLine_unmarked htrim hc.1 hc.2 hexception hstar, isSome_unmarkedRule,
        isSome_parseHostsLine]
      exact loaded_plainForm htrim

theorem addRule_iff [RegexCrate] (rule : Str) :
    (RuleSet.new.addRule rule).2 = true ↔ Loaded (lineForm (trim rule)) := by
  rw [addRule_eq, ← parseLine_isSome_iff (trim_trim rule), parseLine_trim]
  cases parseLine rule with
  | none => exact Iff.rfl
  | some parsed => exact Iff.rfl

/-! ## Where they coincide -/

omit [UnicodeNonempty] in
theorem exists_checkedText (action : Action) (rest : Str) :
    ∃ front carets, rest = front ++ checkedText action rest ++ carets ∧
      (∀ c ∈ front, c ∈ marker action) ∧ (∀ c ∈ carets, c = '^') ∧
      (startsWith (marker action) rest = false → front = []) := by
  have hcarets : ∀ c ∈ (trimStartMatches (marker action) rest).rtakeWhile (· == '^'), c = '^' := by
    intro c hc
    simpa using List.mem_rtakeWhile_imp hc
  have hsplit : checkedText action rest ++
      (trimStartMatches (marker action) rest).rtakeWhile (· == '^') =
        trimStartMatches (marker action) rest :=
    List.rdropWhile_append_rtakeWhile
  by_cases hstart : startsWith (marker action) rest = true
  · obtain ⟨front, hrest, hfront⟩ := exists_trimStartRounds (marker action) rest.length rest
    refine ⟨front, _, ?_, hfront, hcarets, by simp [hstart]⟩
    rw [List.append_assoc, hsplit]
    exact hrest
  · rw [Bool.not_eq_true] at hstart
    refine ⟨[], _, ?_, by simp, hcarets, fun _ => rfl⟩
    rw [List.nil_append, hsplit, trimStartMatches_of_not_startsWith hstart]

/-- The engine trims final dots before white space as well.  For a name that passes
this makes no difference. -/
theorem undotted_trimEndMatches (hname : CheckedName s) :
    trimEndMatches '.' (trim (trimEndMatches '.' s)) = undotted s := by
  apply trimEndMatches_trim_trimEndMatches (by decide)
  intro c hc
  by_contra hspace
  rw [Bool.not_eq_false] at hspace
  have hstar : c ≠ '*' := by
    rintro rfl
    exact absurd hspace (by decide)
  exact not_mem_undotted hname (foreign_of_isWhitespace hspace) hstar (List.mem_of_getLast? hc)

theorem dot_mem_trimEndMatches (hname : CheckedName s) : '.' ∈ trimEndMatches '.' s := by
  have hdot := hname.dotted
  rw [← undotted_trimEndMatches hname] at hdot
  have hinner : '.' ∈ trim (trimEndMatches '.' s) := ( List.rdropWhile_prefix _ _).subset hdot
  rwa [mem_trim (by decide)] at hinner

/-- The body that the engine reads of a rule whose text passes the check. -/
theorem adguardBody_of_checked {front core carets : Str} (hcore : CheckedName core)
    (hcaret : '^' ∉ front) (hdollar : '$' ∉ front) (hcarets : ∀ c ∈ carets, c = '^') :
    adguardBody (front ++ core ++ carets) = front ++ trimEndMatches '.' core := by
  have hnot : ∀ c, Foreign c → c ≠ '*' → isWhitespace c = false → c ∉ core :=
    fun c => not_mem_of_checkedName hcore
  have hkept : trimEndMatches '.' core ≠ [] := List.ne_nil_of_mem (dot_mem_trimEndMatches hcore)
  have hne : core ≠ [] := by
    rintro rfl
    exact hkept rfl
  -- a bar or a slash could only be trimmed if the name ended in one
  have hlast : ∀ c, c ∉ core → trimEndMatches c (front ++ core) = front ++ core := by
    intro c hc
    apply trimEndMatches_of_getLast
    rw [List.getLast?_append_of_ne_nil _ hne]
    exact fun heq => hc (List.mem_of_getLast? heq)
  have hsplitCaret : splitNext '^' (front ++ core ++ carets) = front ++ core := by
    apply splitNext_append _ fun c hc => hcarets c (List.mem_of_mem_head? hc)
    simp [hcaret, hnot '^' (by decide) (by decide) (by decide)]
  have hsplitDollar : splitNext '$' (front ++ core) = front ++ core := by
    apply not_mem_takeWhile
    simp [hdollar, hnot '$' (by decide) (by decide) (by decide)]
  unfold adguardBody
  dsimp only
  rw [hsplitCaret, hsplitDollar, hlast '|' (hnot _ (by decide) (by decide) (by decide)),
    hlast '/' (hnot _ (by decide) (by decide) (by decide))]
  exact rdropWhile_append_of_ne_nil hkept front

/-- **Rules with a marker that pass the check.**  The engine takes those with a star
as patterns, and the others unless the marker is repeated. -/
theorem loadable_iff_of_checked {action : Action}
    (hchecked : CheckedName (checkedText action rest)) :
    Loadable (adguardBody rest) ↔ '*' ∈ rest ∨ startsWith (marker action) rest = false ∧
        isValidDomain (normalizeDomain (checkedText action rest)) = true := by
  obtain ⟨front, carets, hrest, hfront, hcarets, hnil⟩ := exists_checkedText action rest
  have hmarker : ∀ c, c ≠ '@' → c ≠ '|' → c ∉ front := by
    intro c hat hbar hc
    have hmem := hfront c hc
    cases action <;> simp [marker, str, hat, hbar] at hmem
  have hbody : adguardBody rest = front ++ trimEndMatches '.' (checkedText action rest) := by
    conv_lhs => rw [hrest]
    exact adguardBody_of_checked hchecked (hmarker _ (by decide) (by decide))
      (hmarker _ (by decide) (by decide)) hcarets
  have hdot : '.' ∈ adguardBody rest := by
    rw [hbody]
    exact List.mem_append_right _ (dot_mem_trimEndMatches hchecked)
  have hstar : '*' ∈ adguardBody rest ↔ '*' ∈ rest := by
    have hcaret : '*' ∉ carets := fun hc => absurd (hcarets _ hc) (by decide)
    conv_rhs => rw [hrest]
    rw [hbody]
    simp [mem_trimEndMatches, hcaret]
  rw [Loadable, hstar, and_iff_left hdot, or_comm]
  apply or_congr_right'
  intro hnostar
  cases hstart : startsWith (marker action) rest with
  | true =>
    -- the bars of the second marker are part of the body
    have hbar : '|' ∈ rest := by
      obtain ⟨tail, rfl⟩ := startsWith_iff.mp hstart
      cases action <;> simp [marker, str]
    have hbarFront : '|' ∈ front := by
      have hcore : '|' ∉ checkedText action rest :=
        not_mem_of_checkedName hchecked (by decide) (by decide) (by decide)
      have hcaret : '|' ∉ carets := fun hc => absurd (hcarets _ hc) (by decide)
      rw [hrest] at hbar
      simpa [hcore, hcaret] using hbar
    rw [isValidDomain_normalizeDomain_eq_false (c := '|') (by decide) (by decide)
      (by rw [hbody]; exact List.mem_append_left _ hbarFront)]
    simp
  | false =>
    rw [hbody, hnil hstart, List.nil_append, normalizeDomain, undotted_trimEndMatches hchecked]
    simp [normalizeDomain, undotted]

theorem normalizeDomain_ne_nil_of_starred (htrim : trim ('*' :: '.' :: rest) = '*' :: '.' :: rest)
    (hname : CheckedName ('*' :: '.' :: rest)) : normalizeDomain rest ≠ [] := by
  have hrest : trim rest = rest := by
    apply trim_eq_self
    · intro c hc
      apply not_isWhitespace_of_checkedName htrim hname
      simp [List.mem_of_mem_head? hc]
    · intro c hc
      apply not_isWhitespace_of_checkedName htrim hname
      simp [List.mem_of_getLast? hc]
  rw [normalizeDomain, Ne, UnicodeNonempty.toLowercase_eq_nil, hrest]
  intro hnil
  -- nothing but dots would follow the star, and there would be one label
  have hdots : ∀ c ∈ '.' :: rest, (c == '.') = true := by
    rw [List.forall_mem_cons]
    exact ⟨rfl, List.rdropWhile_eq_nil_iff.mp hnil⟩
  have hone : undotted ('*' :: '.' :: rest) = ['*'] := by
    rw [undotted, htrim, trimEndMatches, rdropWhile_cons_of_neg (by decide),
      List.rdropWhile_eq_nil_iff.mpr hdots]
  have hdot := hname.dotted
  rw [hone] at hdot
  exact absurd hdot (by decide)

theorem agrees_marked (action : Action) (rest : Str) :
    (Validated (.marked action rest) ↔ Loaded (.marked action rest)) ↔
      Agrees (.marked action rest) := by
  simp only [Validated, Loaded, Agrees]
  split_ifs with hchecked
  · have hall : ¬ (action = .block ∧ (rest = str "*^" ∨ rest = str "*")) := by
      rintro ⟨rfl, rfl | rfl⟩
      · exact absurd hchecked.dotted (by decide)
      · exact absurd hchecked.dotted (by decide)
    rw [or_iff_right hall, loadable_iff_of_checked hchecked]
    simp [hchecked]
  · rw [iff_false_left hchecked, not_or, and_comm]

theorem agrees_hosts (first name : Str) :
    (Validated (.hosts first name) ↔ Loaded (.hosts first name)) ↔ Agrees (.hosts first name) := by
  simp only [Validated, Loaded, Agrees]
  cases hparse : (IpAddr.parse first).isSome with
  | false => simp
  | true =>
    split_ifs with hchecked
    · have hlocalhost : name ≠ str "localhost" := by
        rintro rfl
        exact absurd hchecked.dotted (by decide)
      simp [hchecked, hlocalhost]
    · have hlocal : ¬ (name ≠ str "localhost" ∧ endsWith (str ".local") name = false) ↔
          name = str "localhost" ∨ endsWith (str ".local") name = true := by
        rw [not_and_or, not_not, Bool.not_eq_false]
      simp only [hchecked, and_false, true_and, false_iff, forall_const, not_and_or, hlocal,
        Bool.not_eq_true]

/-- Form by form, the two conditions coincide where `Agrees` says so. -/
theorem agrees_iff (htrim : trim line = line) :
    (Validated (lineForm line) ↔ Loaded (lineForm line)) ↔ Agrees (lineForm line) := by
  have hplain : (Validated (plainForm line) ↔ Loaded (plainForm line)) ↔
      Agrees (plainForm line) := by
    unfold plainForm
    split
    · exact agrees_hosts _ _
    · simp only [Validated, Loaded, Agrees]
      split_ifs with hchecked
      · simp [hchecked]
      · simp [hchecked]
  fun_cases lineForm line with
  | case1 rest => exact agrees_marked .block rest
  | case2 rest => exact agrees_marked .allow rest
  | case3 rest hnot => simp [Validated, Loaded, Agrees]
  | case4 rest hnot => simp [Validated, Loaded, Agrees]
  | case5 inner => simp [Validated, Loaded, Agrees]
  | case6 rest =>
    simp only [Validated, Loaded, Agrees]
    by_cases hchecked : CheckedName ('*' :: '.' :: rest)
    · simp [hchecked, normalizeDomain_ne_nil_of_starred htrim hchecked]
    · simp [hchecked]
  | case7 line => exact hplain

/-- **The validator and the engine agree on a rule exactly when `Agrees` holds of its
form.** -/
theorem validateRule_eq_addRule_iff [RegexCrate] (rule : Str) :
    ((RuleValidator.validateRule (str "filter") rule).isOk = true ↔
        (RuleSet.new.addRule rule).2 = true) ↔
      Agrees (lineForm (trim rule)) := by
  rw [validateRule_isOk_iff, addRule_iff]
  exact agrees_iff (trim_trim rule)

end Forms

section Example

attribute [local instance] UnicodeNonempty.ascii RegexCrate.fragment

/-- A rule with an option is one for the engine only, a star within a plain name one
for the validator only. -/
theorem validateRule_ne_addRule :
    ((RuleValidator.validateRule (str "filter") (str "||ads.com^$third-party")).isOk = false ∧
        (RuleSet.new.addRule (str "||ads.com^$third-party")).2 = true) ∧
      (RuleValidator.validateRule (str "filter") (str "a.*.com")).isOk = true ∧
        (RuleSet.new.addRule (str "a.*.com")).2 = false := by
  decide +kernel

end Example

end RustDns.Api.RuleAgreement
