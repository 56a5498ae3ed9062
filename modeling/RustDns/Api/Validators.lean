import RustDns.Dns.RuleForms
import RustDns.TextPieces

/-!
# The validators of the management API

`api/validators`: the checks behind the endpoint that tells a user whether a rule
is well formed.  They are written independently of the parser of the filter
engine.  `RuleAgreement.lean` compares the two.

A domain passes `DomainValidator` exactly when it is a `CheckedName`
(`validate_isOk_iff`): not too long, at least two labels, and every label either
a single star or one that the engine takes as well.
-/

namespace RustDns.Api.Validators

open Text

structure ValidationError where
  code : Str
  message : Str
  field : Str
  line : Option ℕ
  column : Option ℕ
  suggestion : Option Str
deriving DecidableEq

/-- `map_err` with the field set to `rule`. -/
def inRule (result : Except ValidationError Unit) : Except ValidationError Unit :=
  result.mapError fun e => { e with field := str "rule" }

@[simp] theorem isOk_inRule (result : Except ValidationError Unit) :
    (inRule result).isOk = result.isOk := by
  cases result <;> rfl

@[simp] theorem isOk_ok : (Except.ok () : Except ValidationError Unit).isOk = true := rfl

@[simp] theorem isOk_error (e : ValidationError) :
    (Except.error e : Except ValidationError Unit).isOk = false := rfl

theorem isOk_bind (first : Except ValidationError Unit)
    (second : Unit → Except ValidationError Unit) :
    (first >>= second).isOk = (first.isOk && (second ()).isOk) := by
  cases first <;> rfl

/-! ## Domains -/

namespace DomainValidator

variable [Unicode]

def isValidLabelChar (c : Char) : Bool := isAlphanumeric c || c == '-'

/-- The body of the loop over the labels.  The star is taken as a label without
a look at its characters. -/
def checkLabel (domain : Str) (i : ℕ) (label : Str) : Except ValidationError Unit :=
  if label.isEmpty then
    .error
      { code := str "E003"
        message := str "Domain contains empty label"
        field := str "domain"
        line := none
        column := some (len domain - i)
        suggestion := some (str "Ensure domain has no consecutive dots") }
  else if 63 < len label then
    .error
      { code := str "E003"
        message := str "Label '" ++ label ++ str "' exceeds 63 characters"
        field := str "domain"
        line := none
        column := none
        suggestion := some (str "Use shorter labels in the domain") }
  else if label == str "*" then .ok ()
  else if !label.all isValidLabelChar then
    .error
      { code := str "E004"
        message := str "Label '" ++ label ++ str "' contains invalid characters"
        field := str "domain"
        line := none
        column := none
        suggestion := some (str "Labels can only contain letters, digits, and hyphens") }
  else if startsWith (str "-") label || endsWith (str "-") label then
    .error
      { code := str "E005"
        message := str "Label '" ++ label ++ str "' cannot start or end with hyphen"
        field := str "domain"
        line := none
        column := none
        suggestion := some (str "Remove leading/trailing hyphens") }
  else .ok ()

/-- The loop over the labels, the first of which has number `i`. -/
def checkLabels (domain : Str) (i : ℕ) : List Str → Except ValidationError Unit
  | [] => .ok ()
  | label :: labels => do
    checkLabel domain i label
    checkLabels domain (i + 1) labels

def labelsOf (domain : Str) : Except ValidationError (List Str) :=
  match stripPrefix (str "*.") domain with
  | some rest =>
    if rest.isEmpty then
      .error
        { code := str "E003"
          message := str "Wildcard domain missing target domain"
          field := str "domain"
          line := none
          column := some 1
          suggestion := some (str "Use *.example.com format") }
    else .ok (str "*" :: rest.splitOn '.')
  | none => .ok (domain.splitOn '.')

def validate (input : Str) : Except ValidationError Unit :=
  let s := trim input
  if s.isEmpty then
    .error
      { code := str "E001"
        message := str "Domain cannot be empty"
        field := str "domain"
        line := none
        column := none
        suggestion := some (str "Provide a valid domain like example.com") }
  else if 253 < len s then
    .error
      { code := str "E002"
        message := str "Domain exceeds 253 characters (got " ++ str (toString (len s)) ++ str ")"
        field := str "domain"
        line := none
        column := none
        suggestion := some (str "Use a shorter domain name") }
  else do
    let domain := trimEndMatches '.' s
    let labels ← labelsOf domain
    checkLabels domain 0 labels
    if labels.length < 2 then
      .error
        { code := str "E004"
          message := str "Domain must have at least 2 labels (e.g., example.com)"
          field := str "domain"
          line := none
          column := none
          suggestion := some (str "Use a fully qualified domain name") }
    else .ok ()

/-! ### What passes -/

def undotted (s : Str) : Str := trimEndMatches '.' (trim s)

/-- A name that passes: at most 253 bytes with its final dots, and at least two
labels, each of which is valid or a star. -/
structure CheckedName (s : Str) : Prop where
  short : len (trim s) ≤ 253
  dotted : '.' ∈ undotted s
  labels : ∀ label ∈ (undotted s).splitOn '.', label = str "*" ∨ isValidLabel label = true

instance (s : Str) : Decidable (CheckedName s) :=
  decidable_of_iff
    (len (trim s) ≤ 253 ∧ '.' ∈ undotted s ∧
      ∀ label ∈ (undotted s).splitOn '.', label = str "*" ∨ isValidLabel label = true)
    ⟨fun h => ⟨h.1, h.2.1, h.2.2⟩, fun h => ⟨h.short, h.dotted, h.labels⟩⟩

theorem isOk_checkLabel (domain : Str) (i : ℕ) (label : Str) :
    (checkLabel domain i label).isOk = true ↔ label = str "*" ∨ isValidLabel label = true := by
  by_cases hstar : label = str "*"
  · subst hstar
    exact iff_of_true rfl (Or.inl rfl)
  · have hne : (label == str "*") = false := by simpa using hstar
    have hvalid : isValidLabel label = (!label.isEmpty && decide (len label ≤ 63) &&
        label.all isValidLabelChar && !startsWith (str "-") label && !endsWith (str "-") label) :=
      rfl
    simp only [checkLabel, hvalid, hne, hstar, Bool.false_eq_true, if_false, false_or,
      Bool.and_eq_true, Bool.not_eq_true', decide_eq_true_eq]
    split_ifs with hempty hlong hchars hhyphen
    · simp [hempty]
    · simp [hlong]
    · simp only [isOk_error, hchars, Bool.false_eq_true, and_false, false_and]
    · rw [Bool.or_eq_true] at hhyphen
      rcases hhyphen with hfirst | hlast
      · simp [hfirst]
      · simp [hlast]
    · rw [Bool.not_eq_true] at hempty hhyphen
      rw [Bool.or_eq_false_iff] at hhyphen
      rw [Bool.not_eq_false] at hchars
      exact iff_of_true isOk_ok ⟨⟨⟨⟨hempty, not_lt.mp hlong⟩, hchars⟩, hhyphen.1⟩, hhyphen.2⟩

theorem isOk_checkLabels (domain : Str) (i : ℕ) (labels : List Str) :
    (checkLabels domain i labels).isOk = true ↔
      ∀ label ∈ labels, label = str "*" ∨ isValidLabel label = true := by
  induction labels generalizing i with
  | nil => simp [checkLabels]
  | cons label labels ih =>
    rw [checkLabels, isOk_bind, Bool.and_eq_true, isOk_checkLabel, ih, List.forall_mem_cons]

omit [Unicode] in
theorem labelsOf_trimEndMatches (s : Str) :
    labelsOf (trimEndMatches '.' s) = .ok ((trimEndMatches '.' s).splitOn '.') := by
  unfold labelsOf
  split
  · next rest hstrip =>
    rw [stripPrefix_eq_some.mp hstrip]
    have hrest : rest ≠ [] := by
      -- otherwise the domain would end in a dot
      rintro rfl
      apply getLast_trimEndMatches '.' s
      rw [stripPrefix_eq_some.mp hstrip]
      rfl
    rw [if_neg (by simpa using hrest)]
    simp [str, List.splitOn, List.splitOnP_cons_eq_if_modifyHead]
  · rfl

theorem validate_isOk_iff (input : Str) : (validate input).isOk = true ↔ CheckedName input := by
  have hbody : ∀ e : ValidationError,
      ((do
        let labels ← labelsOf (undotted input)
        checkLabels (undotted input) 0 labels
        if labels.length < 2 then .error e else .ok () :
          Except ValidationError Unit)).isOk = true ↔
        '.' ∈ undotted input ∧
          ∀ label ∈ (undotted input).splitOn '.', label = str "*" ∨ isValidLabel label = true := by
    intro e
    rw [undotted, labelsOf_trimEndMatches]
    change (checkLabels _ 0 _ >>= _).isOk = true ↔ _
    rw [isOk_bind, Bool.and_eq_true, isOk_checkLabels, and_comm, ← two_le_length_splitOn]
    refine and_congr_left' ?_
    split_ifs with hfew
    · simp [hfew]
    · simp [not_lt.mp hfew]
  unfold validate
  dsimp only
  split_ifs with hempty hlong
  · refine iff_of_false (by simp) fun hname => ?_
    have hdot := hname.dotted
    rw [undotted, List.isEmpty_iff.mp hempty] at hdot
    cases hdot
  · exact iff_of_false (by simp) fun hname =>
      absurd hname.short (not_le.mpr hlong)
  · refine (hbody _).trans ⟨fun h => ⟨not_lt.mp hlong, h.1, h.2⟩, fun h => ⟨h.dotted, h.labels⟩⟩

/-! ### The position of an empty label

The column that is reported for an empty label is the length of the domain in bytes less the number
of the label.  Lengths are of type `usize`, so the code would panic if the number were larger. -/

/-- The loop over the labels comes to an empty one whose number is larger than the length. -/
def underflows (domain : Str) (i : ℕ) : List Str → Bool
  | [] => false
  | label :: labels =>
    label.isEmpty && len domain < i ||
      (checkLabel domain i label).isOk && underflows domain (i + 1) labels

/-- `DomainValidator::validate` panics: it gets to the loop, and the subtraction underflows. -/
def panics (input : Str) : Bool :=
  let s := trim input
  if s.isEmpty || 253 < len s then false
  else
    match labelsOf (trimEndMatches '.' s) with
    | .error _ => false
    | .ok labels => underflows (trimEndMatches '.' s) 0 labels

variable {labels : List Str} {i : ℕ}

omit [Unicode] in
theorem le_len_of_lt_labels {s : Str} (hlabels : labelsOf (trimEndMatches '.' s) = .ok labels)
    (hi : i < labels.length) : i ≤ len (trimEndMatches '.' s) := by
  rw [labelsOf_trimEndMatches] at hlabels
  rw [← Except.ok.inj hlabels, length_splitOn] at hi
  calc i ≤ (trimEndMatches '.' s).count '.' := by omega
    _ ≤ (trimEndMatches '.' s).length := List.count_le_length
    _ ≤ len (trimEndMatches '.' s) := length_le_len _

theorem underflows_eq_false {domain : Str} (hlength : i + labels.length ≤ len domain + 1) :
    underflows domain i labels = false := by
  induction labels generalizing i with
  | nil => rfl
  | cons label labels ih =>
    rw [List.length_cons] at hlength
    have hle : ¬ len domain < i := by omega
    rw [underflows, ih (by omega)]
    simp [hle]

/-- The number of an empty label is never larger than the length of the domain, so `validate`
never panics. -/
theorem panics_eq_false (input : Str) :
    (∀ labels, labelsOf (undotted input) = .ok labels →
      ∀ i, labels[i]? = some [] → i ≤ len (undotted input)) ∧ panics input = false := by
  constructor
  · intro labels hlabels i hi
    exact le_len_of_lt_labels hlabels (List.getElem?_eq_some_iff.mp hi).1
  · unfold panics
    dsimp only
    split_ifs
    · rfl
    cases hlabels : labelsOf (trimEndMatches '.' (trim input)) with
    | error e => rfl
    | ok labels =>
      apply underflows_eq_false
      rcases Nat.eq_zero_or_pos labels.length with hzero | hpos
      · omega
      · have hlast := le_len_of_lt_labels hlabels (Nat.sub_lt hpos Nat.one_pos)
        omega

end DomainValidator

/-! ## Addresses -/

def IpValidator.validate (input : Str) : Except ValidationError Unit :=
  let s := trim input
  if s.isEmpty then
    .error
      { code := str "E006"
        message := str "IP address cannot be empty"
        field := str "ip"
        line := none
        column := none
        suggestion := some (str "Provide a valid IPv4 or IPv6 address") }
  else if (IpAddr.parseIpv4 s).isSome then .ok ()
  else if (IpAddr.parseIpv6 s).isSome then .ok ()
  else
    .error
      { code := str "E007"
        message := str "Invalid IP address format: " ++ s
        field := str "ip"
        line := none
        column := none
        suggestion := some (str "Use IPv4 (e.g., 192.168.1.1) or IPv6 (e.g., 2001:db8::1)") }

theorem IpValidator.validate_isOk_iff (input : Str) :
    (IpValidator.validate input).isOk = true ↔ (IpAddr.parse (trim input)).isSome = true := by
  rw [IpAddr.isSome_parse_iff]
  unfold IpValidator.validate
  dsimp only
  split_ifs with hempty hv4 hv6
  · rw [List.isEmpty_iff.mp hempty]
    decide +kernel
  · simp [hv4]
  · simp [hv6]
  · simp [hv4, hv6]

/-! ## Rules -/

namespace RuleValidator

/-- `rule.split("->")`. -/
def splitArrow : Str → List Str
  | [] => [[]]
  | '-' :: '>' :: rest => [] :: splitArrow rest
  | c :: rest => (splitArrow rest).modifyHead (c :: ·)

/-- `rule.find("->")`: what stands before the first arrow, if there is one. -/
def findArrow (rule : Str) : Option ℕ :=
  match splitArrow rule with
  | first :: _ :: _ => some (len first)
  | _ => none

variable [Unicode]

/-- `RuleValidator::validate_filter_rule`.  The error about the address of a hosts
line keeps its field. -/
def validateFilterRule (rule : Str) : Except ValidationError Unit :=
  if startsWith (str "||") rule then
    inRule (DomainValidator.validate (trimEndMatches '^' (trimStartMatches (str "||") rule)))
  else if startsWith (str "@@||") rule then
    inRule (DomainValidator.validate (trimEndMatches '^' (trimStartMatches (str "@@||") rule)))
  else
    match rule.any isWhitespace, splitWhitespace rule with
    | true, ip :: domain :: _ => do
      IpValidator.validate ip
      inRule (DomainValidator.validate domain)
    | _, _ => inRule (DomainValidator.validate rule)

def validateRewriteRule (rule : Str) : Except ValidationError Unit :=
  match splitArrow rule with
  | [domain, ip] =>
    let domain := trim domain
    let ip := trim ip
    if domain.isEmpty || ip.isEmpty then
      .error
        { code := str "E010"
          message := str "Domain and IP cannot be empty in rewrite rule"
          field := str "rule"
          line := none
          column := some (((findArrow rule).map (· + 2)).getD 0)
          suggestion := some (str "Example: myapp.local -> 192.168.1.100") }
    else do
      inRule (DomainValidator.validate domain)
      inRule (IpValidator.validate ip)
  | _ =>
    .error
      { code := str "E009"
        message := str "Rewrite rule must be in format: domain -> IP"
        field := str "rule"
        line := none
        column := some ((findArrow rule).getD (len rule))
        suggestion := some (str "Example: myapp.local -> 192.168.1.100") }

def validateRule (ruleType rule : Str) : Except ValidationError Unit :=
  let rule := trim rule
  if rule.isEmpty then
    .error
      { code := str "E008"
        message := str "Rule cannot be empty"
        field := str "rule"
        line := none
        column := none
        suggestion := some (str "Provide a valid rule") }
  else if ruleType = str "filter" then validateFilterRule rule
  else if ruleType = str "rewrite" then validateRewriteRule rule
  else
    .error
      { code := str "E011"
        message := str "Unknown rule type: " ++ ruleType
        field := str "type"
        line := none
        column := none
        suggestion := some (str "Use 'filter' or 'rewrite' as rule type") }

end RuleValidator

end RustDns.Api.Validators
