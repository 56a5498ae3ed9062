import RustDns.TextPieces
import RustDns.Dns.RuleForms

/-!
# The domains of a rule set

`is_valid_domain` wants two labels at least, or `localhost`, so that no rule names a top-level
domain.  Every format that `add_rule` reads a domain from asks for it, except for one: of a line
`*.rest` the rest is taken if it is not empty.  So `*.com` blocks everything below `com`.

`properDomains_iff` says that the domains of a rule set are proper ones if and only if there is no
such line among those that were added.
-/

namespace RustDns

open Text RuleSet

section Domains

variable [Unicode]

/-! ## Proper domains -/

/-- At least two labels, which are not empty and have the characters of a name only. -/
structure HasTwoLabels (domain : Str) : Prop where
  two : 2 ≤ (domain.splitOn '.').length
  labels : ∀ label ∈ domain.splitOn '.',
    label ≠ [] ∧ ∀ c ∈ label, isAlphanumeric c = true ∨ c = '-'

omit [Unicode] in
/-- As the only entry of a set, the domain matches all names right below a label that stands
alone. -/
def MatchesTopLevel (domain : Str) : Prop :=
  ∃ top : Str, '.' ∉ top ∧ top ≠ str "localhost" ∧
    ∀ label : Str, label ≠ [] → '.' ∉ label → matchesSet (label ++ '.' :: top) {domain} = true

structure ProperDomain (domain : Str) : Prop where
  valid : isValidDomain domain = true
  localhost_or_twoLabels : domain = str "localhost" ∨ HasTwoLabels domain
  not_matchesTopLevel : ¬ MatchesTopLevel domain

variable {domain : Str}

theorem labels_of_isValidDomain (hvalid : isValidDomain domain = true) :
    (domain = str "localhost" ∨ '.' ∈ domain) ∧
      ∀ label ∈ domain.splitOn '.', isValidLabel label = true := by
  unfold isValidDomain at hvalid
  split_ifs at hvalid with hlength hdot
  refine ⟨?_, List.all_eq_true.mp hvalid⟩
  by_contra hnone
  rw [not_or] at hnone
  exact hdot (by simpa [hnone.2] using hnone.1)

theorem hasTwoLabels_of_isValidDomain (hvalid : isValidDomain domain = true)
    (hne : domain ≠ str "localhost") : HasTwoLabels domain := by
  obtain ⟨hdot, hlabels⟩ := labels_of_isValidDomain hvalid
  refine ⟨two_le_length_splitOn.mpr (hdot.resolve_left hne), fun label hlabel => ?_⟩
  have hlabel := hlabels label hlabel
  simp only [isValidLabel, Bool.and_eq_true, Bool.not_eq_true'] at hlabel
  obtain ⟨⟨⟨⟨hempty, -⟩, hchars⟩, -⟩, -⟩ := hlabel
  refine ⟨by simpa using hempty, fun c hc => ?_⟩
  simpa using List.all_eq_true.mp hchars c hc

omit [Unicode] in
theorem matchesSet_singleton {name : Str} :
    matchesSet name {domain} = true ↔ Within name domain := by
  simp [matchesSet_iff]

omit [Unicode] in
theorem eq_of_within {label top : Str} (hlabel : '.' ∉ label) (htop : '.' ∉ top)
    (hwithin : Within (label ++ '.' :: top) domain) :
    domain = label ++ '.' :: top ∨ domain = top := by
  rcases hwithin with heq | ⟨front, hfront⟩
  · exact Or.inl heq.symm
  · right
    -- there is one dot only, so what stands before it is the same
    rcases List.append_eq_append_iff.mp hfront with ⟨rest, hrest, htail⟩ | ⟨rest, hrest, htail⟩
    · cases rest with
      | nil => exact (List.cons.inj htail).2
      | cons c rest =>
        obtain ⟨rfl, -⟩ := List.cons_eq_cons.mp htail
        exact absurd (hrest ▸ by simp) hlabel
    · cases rest with
      | nil => exact ((List.cons.inj htail).2).symm
      | cons c rest =>
        obtain ⟨rfl, rfl⟩ := List.cons_eq_cons.mp htail
        exact absurd (by simp) htop

theorem not_matchesTopLevel_of_isValidDomain (hvalid : isValidDomain domain = true) :
    ¬ MatchesTopLevel domain := by
  rintro ⟨top, htop, hlocal, hall⟩
  have hname : ∀ label : Str, label ≠ [] → '.' ∉ label →
      domain = label ++ '.' :: top ∨ domain = top := fun label hne hdot =>
    eq_of_within hdot htop (matchesSet_singleton.mp (hall label hne hdot))
  have hne : domain ≠ top := by
    rintro rfl
    exact (labels_of_isValidDomain hvalid).1.elim hlocal htop
  have hfirst := (hname ['a'] (by decide) (by decide)).resolve_right hne
  have hsecond := (hname ['b'] (by decide) (by decide)).resolve_right hne
  rw [hfirst] at hsecond
  simp at hsecond

theorem properDomain_of_isValidDomain (hvalid : isValidDomain domain = true) :
    ProperDomain domain where
  valid := hvalid
  localhost_or_twoLabels :=
    or_iff_not_imp_left.mpr (hasTwoLabels_of_isValidDomain hvalid)
  not_matchesTopLevel := not_matchesTopLevel_of_isValidDomain hvalid

end Domains

/-! ## The domains that lines add -/

section Lines

variable [UnicodeAscii] [RegexCrate]

/-- The line is `*.rest`, and the rest is not a valid domain. -/
def NamesAnything (line : Str) : Prop :=
  ∃ rest, trim line = str "*." ++ rest ∧ normalizeDomain rest ≠ [] ∧
    isValidDomain (normalizeDomain rest) = false

/-- The domains of a rule set are proper if and only if no line is `*.rest` with something else than
a valid domain. -/
theorem properDomains_iff (lines : List Str) :
    (∀ domain, domain ∈ (ofLines lines).blocked ∨ domain ∈ (ofLines lines).allowed →
        ProperDomain domain) ↔
      ∀ line ∈ lines, ¬ NamesAnything line := by
  have hmem : ∀ domain, domain ∈ (ofLines lines).blocked ∨ domain ∈ (ofLines lines).allowed ↔
      ∃ line ∈ lines, ∃ action, parseLine line = some (.domain action domain) := by
    intro domain
    simp only [ofLines_eq, List.mem_toFinset, mem_domains]
    constructor
    · rintro (⟨line, hline, hparse⟩ | ⟨line, hline, hparse⟩)
      · exact ⟨line, hline, .block, hparse⟩
      · exact ⟨line, hline, .allow, hparse⟩
    · rintro ⟨line, hline, _ | _, hparse⟩
      · exact Or.inr ⟨line, hline, hparse⟩
      · exact Or.inl ⟨line, hline, hparse⟩
  simp only [hmem]
  constructor
  · rintro hproper line hline ⟨rest, htrim, hne, hinvalid⟩
    have hparse : parseLine line = some (.domain .block (normalizeDomain rest)) := by
      have htrim' : trim (str "*." ++ rest) = str "*." ++ rest := by rw [← htrim, trim_trim]
      rw [← parseLine_trim, htrim]
      refine (parseLine_starred_eq htrim').trans ?_
      simp [hne]
    have hvalid := (hproper _ ⟨line, hline, .block, hparse⟩).valid
    rw [hvalid] at hinvalid
    cases hinvalid
  · rintro hlines domain ⟨line, hline, action, hparse⟩
    apply properDomain_of_isValidDomain
    obtain ⟨-, -, hvalid⟩ | ⟨rest, htrim, rfl, hne⟩ := readsDomain_of_parseLine hparse
    · exact hvalid
    · by_contra hinvalid
      exact hlines line hline ⟨rest, htrim, hne, by simpa using hinvalid⟩

end Lines

section Example

attribute [local instance] UnicodeAscii.ascii RegexCrate.fragment

/-- The line `*.com` blocks all names below `com`. -/
theorem not_properDomains_starCom :
    ¬ ∀ domain,
      domain ∈ (ofLines [str "*.com"]).blocked ∨ domain ∈ (ofLines [str "*.com"]).allowed →
        ProperDomain domain := by
  intro hproper
  have hmem : str "com" ∈ (ofLines [str "*.com"]).blocked := by decide +kernel
  have hvalid := (hproper (str "com") (Or.inl hmem)).valid
  revert hvalid
  decide +kernel

end Example

end RustDns
