import RustDns.Memo
import RustDns.Dns.Cache
import RustDns.Api.Validators

/-!
# The cache of the rule validation

`api/handlers/rule_validation.rs`: the endpoint that tells whether a rule is well formed keeps its
responses in a cache, under the type and the rule with a colon between them.  Neither text is
restricted, so a colon in a type moves the boundary: the type `filter:a` with the rule `b` has the
key of the type `filter` with the rule `a:b`.

Two different requests with one key are such a pair (`cacheKey_eq_iff`), and they never have the
same response.  So all responses are right if no two requests collide
(`transparent_of_noCollisions`).
-/

namespace RustDns.Api.RuleValidation

open Text Validators

/-! ## The handler -/

structure RuleValidationRequest where
  ruleType : Str
  rule : Str
deriving DecidableEq

structure RuleValidationResponse where
  valid : Bool
  error : Option ValidationError
deriving DecidableEq

def cacheKey (request : RuleValidationRequest) : Str := request.ruleType ++ str ":" ++ request.rule

section Handler

variable [Unicode]

def respond (request : RuleValidationRequest) : RuleValidationResponse :=
  match RuleValidator.validateRule request.ruleType request.rule with
  | .ok _ => ⟨true, none⟩
  | .error error => ⟨false, some error⟩

def validateRule (cache : MokaCache RuleValidationResponse) (request : RuleValidationRequest) :
    MokaCache RuleValidationResponse × RuleValidationResponse :=
  match cache.get (cacheKey request) with
  | some cached => (cache, cached)
  | none =>
    let response := respond request
    (cache.insert (cacheKey request) response, response)

abbrev Event := Memo.Event RuleValidationRequest Str

def step (cache : MokaCache RuleValidationResponse) :
    Event → MokaCache RuleValidationResponse × Option RuleValidationResponse
  | .call request => ((validateRule cache request).1, some (validateRule cache request).2)
  | .discard gone => (cache.discard gone, none)

def Transparent (events : List Event) : Prop :=
  ∀ cache request, (cache, Memo.Event.call request) ∈ Machine.trace step .empty events →
    (validateRule cache request).2 = respond request

theorem validateRule_eq_fetch (cache : MokaCache RuleValidationResponse)
    (request : RuleValidationRequest) :
    (validateRule cache request).1.entries = (Memo.fetch cacheKey respond cache.entries request).1 ∧
      (validateRule cache request).2 = (Memo.fetch cacheKey respond cache.entries request).2 := by
  unfold validateRule Memo.fetch MokaCache.get
  cases cache.entries (cacheKey request) with
  | none => exact ⟨MokaCache.entries_insert _ _ _, rfl⟩
  | some cached => exact ⟨rfl, rfl⟩

theorem entries_step (cache : MokaCache RuleValidationResponse) (event : Event) :
    (step cache event).1.entries = (Memo.step cacheKey respond cache.entries event).1 := by
  cases event with
  | call request => exact (validateRule_eq_fetch cache request).1
  | discard gone => rfl

end Handler

/-! ## Collisions -/

/-- The second type is the first one, a colon and a text that stands before a colon at the start of
the first rule; the second rule is the rest. -/
def Collides (first second : RuleValidationRequest) : Prop :=
  ∃ middle, second.ruleType = first.ruleType ++ ':' :: middle ∧
    first.rule = middle ++ ':' :: second.rule

/-- Two requests have one key if and only if they are equal or collide. -/
theorem cacheKey_eq_iff (first second : RuleValidationRequest) :
    cacheKey first = cacheKey second ↔
      first = second ∨ Collides first second ∨ Collides second first := by
  obtain ⟨type, rule⟩ := first
  obtain ⟨type', rule'⟩ := second
  have hkey : ∀ type rule, cacheKey ⟨type, rule⟩ = type ++ ':' :: rule := by simp [cacheKey, str]
  rw [hkey, hkey]
  constructor
  · intro heq
    rcases List.append_eq_append_iff.mp heq with ⟨middle, htype, hrule⟩ | ⟨middle, htype, hrule⟩
    · cases middle with
      | nil => simp_all
      | cons c middle =>
        obtain ⟨rfl, hrest⟩ := List.cons.inj hrule
        exact Or.inr (Or.inl ⟨middle, htype, hrest⟩)
    · cases middle with
      | nil => simp_all
      | cons c middle =>
        obtain ⟨rfl, hrest⟩ := List.cons.inj hrule
        exact Or.inr (Or.inr ⟨middle, htype, hrest⟩)
  · rintro (heq | ⟨middle, htype, hrule⟩ | ⟨middle, htype, hrule⟩)
    · simp_all
    · simp_all
    · simp_all

/-! ### The codes of the errors -/

/-- The error is not one of those that `validate_rule` itself returns. -/
def InnerErrors (result : Except ValidationError Unit) : Prop :=
  ∀ e, result = .error e → e.code ≠ str "E008" ∧ e.code ≠ str "E011"

theorem innerErrors_ok : InnerErrors (.ok ()) := nofun

theorem innerErrors_error {code message field : Str} {line column : Option ℕ}
    {suggestion : Option Str} (hcode : code ≠ str "E008" ∧ code ≠ str "E011") :
    InnerErrors (.error ⟨code, message, field, line, column, suggestion⟩) := by
  intro other hother
  cases hother
  exact hcode

theorem InnerErrors.inRule {result : Except ValidationError Unit} (hresult : InnerErrors result) :
    InnerErrors (inRule result) := by
  cases result with
  | ok _ => exact innerErrors_ok
  | error e => exact innerErrors_error (hresult e rfl)

theorem InnerErrors.bind {first : Except ValidationError Unit}
    {second : Unit → Except ValidationError Unit} (hfirst : InnerErrors first)
    (hsecond : InnerErrors (second ())) : InnerErrors (first >>= second) := by
  cases first with
  | ok _ => exact hsecond
  | error e => exact innerErrors_error (hfirst e rfl)

section Responses

variable [Unicode]

variable (domain input rule : Str)

theorem innerErrors_checkLabel (i : ℕ) (label : Str) :
    InnerErrors (DomainValidator.checkLabel domain i label) := by
  unfold DomainValidator.checkLabel
  split_ifs <;> first | exact innerErrors_ok | exact innerErrors_error (by decide)

theorem innerErrors_checkLabels (i : ℕ) (labels : List Str) :
    InnerErrors (DomainValidator.checkLabels domain i labels) := by
  induction labels generalizing i with
  | nil => exact innerErrors_ok
  | cons label labels ih => exact (innerErrors_checkLabel domain i label).bind (ih (i + 1))

theorem innerErrors_domain : InnerErrors (DomainValidator.validate input) := by
  unfold DomainValidator.validate
  dsimp only
  split_ifs
  · exact innerErrors_error (by decide)
  · exact innerErrors_error (by decide)
  · rw [DomainValidator.labelsOf_trimEndMatches]
    refine (innerErrors_checkLabels _ _ _).bind ?_
    split_ifs
    · exact innerErrors_error (by decide)
    · exact innerErrors_ok

omit [Unicode] in
theorem innerErrors_ip : InnerErrors (IpValidator.validate input) := by
  unfold IpValidator.validate
  dsimp only
  split_ifs <;> first | exact innerErrors_ok | exact innerErrors_error (by decide)

theorem innerErrors_filterRule : InnerErrors (RuleValidator.validateFilterRule rule) := by
  unfold RuleValidator.validateFilterRule
  split_ifs
  · exact (innerErrors_domain _).inRule
  · exact (innerErrors_domain _).inRule
  · split
    · exact (innerErrors_ip _).bind (innerErrors_domain _).inRule
    · exact (innerErrors_domain _).inRule

theorem innerErrors_rewriteRule : InnerErrors (RuleValidator.validateRewriteRule rule) := by
  unfold RuleValidator.validateRewriteRule
  split
  · dsimp only
    split_ifs
    · exact innerErrors_error (by decide)
    · exact (innerErrors_domain _).inRule.bind (innerErrors_ip _).inRule
  · exact innerErrors_error (by decide)

variable {first second : RuleValidationRequest} {ruleType : Str}

theorem result_eq_of_respond_eq (heq : respond first = respond second) :
    RuleValidator.validateRule first.ruleType first.rule =
      RuleValidator.validateRule second.ruleType second.rule := by
  unfold respond at heq
  cases hfirst : RuleValidator.validateRule first.ruleType first.rule <;>
    cases hsecond : RuleValidator.validateRule second.ruleType second.rule <;>
      simp_all

/-- The errors for a rule that is not blank.  The one that the type is unknown names the type. -/
theorem error_of_not_blank {rule : Str} (hrule : (trim rule).isEmpty = false)
    {e : ValidationError} (he : RuleValidator.validateRule ruleType rule = .error e) :
    e.code ≠ str "E008" ∧
      (e.code = str "E011" → e.message = str "Unknown rule type: " ++ ruleType) := by
  have hinner : ∀ {result}, InnerErrors result → result = .error e → e.code ≠ str "E008" ∧
      (e.code = str "E011" → e.message = str "Unknown rule type: " ++ ruleType) :=
    fun hresult he => ⟨(hresult e he).1, fun hcode => absurd hcode (hresult e he).2⟩
  unfold RuleValidator.validateRule at he
  simp only [hrule, Bool.false_eq_true, if_false] at he
  split_ifs at he
  · exact hinner (innerErrors_filterRule _) he
  · exact hinner (innerErrors_rewriteRule _) he
  · cases he
    exact ⟨show str "E011" ≠ str "E008" by decide, fun _ => rfl⟩

theorem error_of_colon (hcolon : ':' ∈ ruleType) (rule : Str) :
    ∃ e, RuleValidator.validateRule ruleType rule = .error e ∧ (e.code = str "E008" ∨
        e.code = str "E011" ∧ e.message = str "Unknown rule type: " ++ ruleType) := by
  have hfilter : ruleType ≠ str "filter" := by
    rintro rfl
    exact absurd hcolon (by decide)
  have hrewrite : ruleType ≠ str "rewrite" := by
    rintro rfl
    exact absurd hcolon (by decide)
  unfold RuleValidator.validateRule
  simp only [if_neg hfilter, if_neg hrewrite]
  split_ifs
  · exact ⟨_, rfl, Or.inl rfl⟩
  · exact ⟨_, rfl, Or.inr ⟨rfl, rfl⟩⟩

/-- **Requests that collide have different responses.**  The first rule has a colon, so it is not
blank; the second type has one, so it is unknown. -/
theorem respond_ne_of_collides (hcollides : Collides first second) :
    respond first ≠ respond second := by
  obtain ⟨middle, htype, hrule⟩ := hcollides
  intro heq
  have hcolon : ':' ∈ second.ruleType := by simp [htype]
  obtain ⟨e, he, herror⟩ := error_of_colon hcolon second.rule
  rw [← result_eq_of_respond_eq heq] at he
  have hblank : (trim first.rule).isEmpty = false := by
    have hcolon : ':' ∈ trim first.rule := (mem_trim (by decide)).mpr (by simp [hrule])
    rw [List.isEmpty_eq_false_iff]
    exact List.ne_nil_of_mem hcolon
  obtain ⟨hempty, hunknown⟩ := error_of_not_blank hblank he
  rcases herror with hcode | ⟨hcode, hmessage⟩
  · exact hempty hcode
  · have hsame := List.append_cancel_left ((hunknown hcode).symm.trans hmessage)
    rw [htype] at hsame
    exact absurd (congrArg List.length hsame) (by simp)

/-! ## Runs -/

def NoCollisions (events : List Event) : Prop :=
  ∀ first second, Memo.Event.call first ∈ events → Memo.Event.call second ∈ events →
    ¬ Collides first second

/-- If nothing is evicted, a later request with the key of an earlier one gets its response. -/
theorem respond_eq_of_transparent {before between after : List Event}
    (hcalls : ∀ gone, Memo.Event.discard gone ∉ between)
    (htransparent : Transparent (before ++ .call first :: (between ++ .call second :: after)))
    (hkey : cacheKey first = cacheKey second) : respond first = respond second := by
  have hfirst := htransparent _ _ (Machine.mem_trace_append step .empty before (.call first)
    (between ++ .call second :: after))
  have hpoint := Machine.mem_trace_append step .empty (before ++ .call first :: between)
    (.call second) after
  rw [List.append_assoc, List.cons_append] at hpoint
  have hsecond := htransparent _ _ hpoint
  rw [(validateRule_eq_fetch _ _).2, Machine.image_run MokaCache.entries entries_step]
    at hfirst hsecond
  rw [← hfirst, ← hsecond]
  exact (Memo.output_eq_of_key_eq before between hkey hcalls).symm

/-- **The cache is transparent if no two requests collide**, and if nothing is evicted only if. -/
theorem transparent_of_noCollisions (events : List Event) :
    (NoCollisions events → Transparent events) ∧
      ((∀ gone, Memo.Event.discard gone ∉ events) → Transparent events → NoCollisions events) := by
  constructor
  · intro hno cache request hpoint
    obtain ⟨origin, horigin, hkey, hvalue⟩ :=
      Memo.exists_call_of_mem_trace (Machine.image_mem_trace MokaCache.entries entries_step hpoint)
    rw [(validateRule_eq_fetch cache request).2, ← hvalue]
    have hrequest := Machine.mem_of_mem_trace _ hpoint
    rcases (cacheKey_eq_iff origin request).mp hkey with rfl | hcollides | hcollides
    · rfl
    · exact absurd hcollides (hno origin request horigin hrequest)
    · exact absurd hcollides (hno request origin hrequest horigin)
  · intro hcalls htransparent first second hfirst hsecond hcollides
    have hne := respond_ne_of_collides hcollides
    have hkey := (cacheKey_eq_iff first second).mpr (Or.inr (Or.inl hcollides))
    -- one of the two comes before the other
    obtain ⟨before, after, rfl⟩ := List.append_of_mem hfirst
    rcases List.mem_append.mp hsecond with hbefore | hafter
    · obtain ⟨start, between, rfl⟩ := List.append_of_mem hbefore
      rw [List.append_assoc, List.cons_append] at htransparent
      have hbetween : ∀ gone, Memo.Event.discard gone ∉ between :=
        fun gone hgone => hcalls gone (by simp [hgone])
      exact hne (respond_eq_of_transparent hbetween htransparent hkey.symm).symm
    · rcases List.mem_cons.mp hafter with hsame | hafter
      · cases hsame
        exact hne rfl
      · obtain ⟨between, rest, rfl⟩ := List.append_of_mem hafter
        have hbetween : ∀ gone, Memo.Event.discard gone ∉ between :=
          fun gone hgone => hcalls gone (by simp [hgone])
        exact hne (respond_eq_of_transparent hbetween htransparent hkey)

end Responses

section HostsLine

attribute [local instance] Unicode.ascii

/-- A request with the type `filter:`, and the valid hosts line whose key it has. -/
def hostsLine : List Event :=
  [.call ⟨str "filter:", str ":1 example.com"⟩, .call ⟨str "filter", str "::1 example.com"⟩]

/-- The line is valid, and reported as invalid. -/
theorem not_transparent_hostsLine :
    (respond ⟨str "filter", str "::1 example.com"⟩).valid = true ∧ ¬ Transparent hostsLine := by
  refine ⟨by decide +kernel, ?_⟩
  intro htransparent
  have hsecond := htransparent _ _ (List.mem_cons_of_mem _ List.mem_cons_self)
  revert hsecond
  decide +kernel

end HostsLine

end RustDns.Api.RuleValidation
