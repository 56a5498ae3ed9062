import RustDns.Dns.Message
import RustDns.Dns.RuleMeaning

/-!
# The app of a query

`AppCatalogCache` maps domains to apps.  For the query log the handler asks it for the app of a
name: `match_domain` looks up the name and then, label by label, what is left of it.

What it finds is the longest domain of the catalog that the name is within
(`attributes_matchDomain`).  But the handler passes the name as the client has sent it, without
the final dot, and names are looked up letter by letter.  So a name in upper case is not found in a
catalog in lower case.
`attributes_appOf_iff` says when letter case makes no difference.
-/

namespace RustDns

open Text

/-! ## The cache -/

/-- `AppCatalogCache`: the hash map, as a list with one entry for a domain. -/
structure AppCatalogCache where
  domainsToAppId : List (Str × ℤ)

namespace AppCatalogCache

def new : AppCatalogCache := ⟨[]⟩

/-- `cache.get(domain)`. -/
def get (cache : AppCatalogCache) (domain : Str) : Option ℤ := cache.domainsToAppId.lookup domain

/-- `cache.insert(domain, app_id)`. -/
def insert (cache : AppCatalogCache) (domain : Str) (appId : ℤ) : AppCatalogCache :=
  ⟨(domain, appId) :: cache.domainsToAppId.filter (·.1 ≠ domain)⟩

/-- `AppCatalogCache::load_from_db`, for the rows of `app_domains`; if the query fails the cache
stays as it is. -/
def loadFromDb (cache : AppCatalogCache) : Option (List (ℤ × Str)) → AppCatalogCache
  | some rows => rows.foldl (fun cache row => cache.insert row.2 row.1) new
  | none => cache

/-- The loop of `match_domain` over the labels: the first is taken off, and what is left is looked
up. -/
def matchParents (cache : AppCatalogCache) : List Str → Option ℤ
  | [] => none
  | [_] => none
  | _ :: part :: parts =>
    match cache.get (join (str ".") (part :: parts)) with
    | some appId => some appId
    | none => cache.matchParents (part :: parts)

def matchDomain (cache : AppCatalogCache) (domain : Str) : Option ℤ :=
  if cache.domainsToAppId.isEmpty then none
  else
    let cleanDomain := trimEndMatches '.' domain
    match cache.get cleanDomain with
    | some appId => some appId
    | none => cache.matchParents (cleanDomain.splitOn '.')

/-- The app that `handle_internal` logs for a query. -/
def appOf (cache : AppCatalogCache) (query : Query) : Option ℤ :=
  cache.matchDomain (trimEndMatches '.' query.name)

/-! ## What it is for -/

def Covers (cache : AppCatalogCache) (name domain : Str) : Prop :=
  Within name domain ∧ (cache.get domain).isSome = true

def IsLongest (property : Str → Prop) (text : Str) : Prop :=
  property text ∧ ∀ other, property other → other.length ≤ text.length

/-- The app is that of the longest domain of the catalog that the name is within, and there is none
if there is no such domain. -/
def Attributes (cache : AppCatalogCache) (name : Str) : Option ℤ → Prop
  | some appId => ∃ domain, IsLongest (cache.Covers name) domain ∧ cache.get domain = some appId
  | none => ∀ domain, ¬ cache.Covers name domain

def lower (text : Str) : Str := text.map Char.toLower

/-! ## The parents of a name -/

def parents : Str → List Str
  | [] => []
  | c :: rest => if c = '.' then rest :: parents rest else parents rest

variable {name domain : Str}

theorem mem_parents : domain ∈ parents name ↔ '.' :: domain <:+ name := by
  induction name with
  | nil => simp [parents]
  | cons c rest ih =>
    rw [parents, List.suffix_cons_iff]
    split_ifs with hc
    · rw [List.mem_cons, ih, hc, List.cons_eq_cons]
      simp
    · rw [ih]
      simp [Ne.symm hc]

theorem length_lt_of_mem_parents (hdomain : domain ∈ parents name) : domain.length < name.length :=
  (mem_parents.mp hdomain).length_le

theorem pairwise_parents (name : Str) :
    (parents name).Pairwise fun domain other => other.length < domain.length := by
  induction name with
  | nil => exact .nil
  | cons c rest ih =>
    rw [parents]
    split_ifs
    · exact .cons (fun _ => length_lt_of_mem_parents) ih
    · exact ih

theorem within_iff_mem : Within name domain ↔ domain ∈ name :: parents name := by
  rw [List.mem_cons, mem_parents, Within, eq_comm]

theorem pairwise_cons_parents (name : Str) :
    (name :: parents name).Pairwise fun domain other => other.length < domain.length :=
  .cons (fun _ => length_lt_of_mem_parents) (pairwise_parents name)

theorem eq_of_within_of_length {other : Str} (hdomain : Within name domain)
    (hother : Within name other) (hlength : domain.length = other.length) : domain = other := by
  have hsuffix : ∀ {text}, Within name text → text <:+ name := by
    rintro text (rfl | hdot)
    · exact List.suffix_rfl
    · exact (List.suffix_cons '.' text).trans hdot
  exact (List.suffix_of_suffix_length_le (hsuffix hdomain) (hsuffix hother)
    hlength.le).eq_of_length hlength

variable {cache : AppCatalogCache}

/-! ## What is found -/

theorem attributes_findSome (cache : AppCatalogCache) (name : Str) :
    cache.Attributes name ((name :: parents name).findSome? cache.get) := by
  cases hfind : (name :: parents name).findSome? cache.get with
  | none =>
    rw [List.findSome?_eq_none_iff] at hfind
    rintro domain ⟨hwithin, hget⟩
    rw [hfind domain (within_iff_mem.mp hwithin)] at hget
    cases hget
  | some appId =>
    obtain ⟨longer, domain, shorter, hlist, hget, hlonger⟩ := List.findSome?_eq_some_iff.mp hfind
    have hpairwise := pairwise_cons_parents name
    rw [hlist] at hpairwise
    obtain ⟨-, hdomain, -⟩ := List.pairwise_append.mp hpairwise
    have hshorter := (List.pairwise_cons.mp hdomain).1
    refine ⟨domain, ⟨⟨within_iff_mem.mpr (by simp [hlist]), by simp [hget]⟩, ?_⟩, hget⟩
    rintro other ⟨hwithin, hother⟩
    have hmem := within_iff_mem.mp hwithin
    rw [hlist, List.mem_append, List.mem_cons] at hmem
    rcases hmem with hmem | rfl | hmem
    · rw [hlonger other hmem] at hother
      cases hother
    · exact le_rfl
    · exact (hshorter other hmem).le

theorem matchParents_cons (first second : Str) (parts : List Str) :
    cache.matchParents (first :: parts) = cache.matchParents (second :: parts) := by
  cases parts <;> rfl

theorem matchParents_splitOn (name : Str) :
    cache.matchParents (name.splitOn '.') = (parents name).findSome? cache.get := by
  induction name with
  | nil => rfl
  | cons c rest ih =>
    obtain ⟨first, others, hsplit⟩ :=
      List.exists_cons_of_ne_nil (List.splitOnP_ne_nil (· == '.') rest)
    have hrest : rest.splitOn '.' = first :: others := hsplit
    have hjoin : join (str ".") (first :: others) = rest := by
      rw [← hrest]
      exact List.intercalate_splitOn '.'
    have hcons : (c :: rest).splitOn '.' =
        if c = '.' then [] :: first :: others else (c :: first) :: others := by
      unfold List.splitOn
      rw [List.splitOnP_cons_eq_if_modifyHead, hsplit]
      by_cases hc : c = '.' <;> simp [hc]
    rw [hcons, parents]
    rw [hrest] at ih
    split_ifs with hc
    · rw [matchParents, hjoin, ih, List.findSome?_cons]
      cases cache.get rest <;> rfl
    · rw [matchParents_cons (c :: first) first, ih]

theorem matchDomain_eq (domain : Str) :
    cache.matchDomain domain =
      (trimEndMatches '.' domain :: parents (trimEndMatches '.' domain)).findSome? cache.get := by
  unfold matchDomain
  split_ifs with hempty
  · have hget : ∀ text, cache.get text = none := by
      intro text
      rw [get, List.isEmpty_iff.mp hempty]
      rfl
    rw [List.findSome?_eq_none_iff.mpr fun text _ => hget text]
  · dsimp only
    rw [matchParents_splitOn, List.findSome?_cons]
    cases cache.get (trimEndMatches '.' domain) <;> rfl

theorem attributes_matchDomain (cache : AppCatalogCache) (domain : Str) :
    cache.Attributes (trimEndMatches '.' domain) (cache.matchDomain domain) := by
  rw [matchDomain_eq]
  exact attributes_findSome cache _

/-! ## Letter case -/

theorem Covers.eq_of_isLongest {other : Str} (hdomain : IsLongest (cache.Covers name) domain)
    (hother : IsLongest (cache.Covers name) other) : domain = other :=
  eq_of_within_of_length hdomain.1.1 hother.1.1
    (le_antisymm (hother.2 _ hdomain.1) (hdomain.2 _ hother.1))

theorem within_lower (hwithin : Within name domain) : Within (lower name) (lower domain) := by
  rcases hwithin with rfl | ⟨front, rfl⟩
  · exact Or.inl rfl
  · right
    refine ⟨lower front, ?_⟩
    rw [lower, lower, lower, List.map_append, List.map_cons]
    rfl

def IsLower (cache : AppCatalogCache) : Prop :=
  ∀ domain, (cache.get domain).isSome = true → lower domain = domain

theorem Covers.lower (hlower : cache.IsLower) (hcovers : cache.Covers name domain) :
    cache.Covers (lower name) domain := by
  have hwithin := within_lower hcovers.1
  rw [hlower domain hcovers.2] at hwithin
  exact ⟨hwithin, hcovers.2⟩

/-- No domain of the catalog fits the name, or the longest one that fits it as it is spelled belongs
to the app of the longest one that fits it in lower case. -/
def SpelledAlike (cache : AppCatalogCache) (name : Str) : Prop :=
  (∀ domain, ¬ cache.Covers (lower name) domain) ∨
    ∃ spelled domain, IsLongest (cache.Covers name) spelled ∧
      IsLongest (cache.Covers (lower name)) domain ∧ cache.get spelled = cache.get domain

/-- The app of a query is that of the longest domain up to letter case exactly if this makes no
difference. -/
theorem attributes_appOf_iff (cache : AppCatalogCache) (hlower : cache.IsLower) (query : Query) :
    cache.Attributes (lower (trimEndMatches '.' query.name)) (cache.appOf query) ↔
      cache.SpelledAlike (trimEndMatches '.' query.name) := by
  have hfound := attributes_matchDomain cache (trimEndMatches '.' query.name)
  rw [trimEndMatches_of_getLast (getLast_trimEndMatches '.' query.name)] at hfound
  change cache.Attributes _ (cache.appOf query) at hfound
  generalize trimEndMatches '.' query.name = name at hfound ⊢
  cases happ : cache.appOf query with
  | none =>
    rw [happ] at hfound
    constructor
    · exact Or.inl
    · rintro (hnone | ⟨spelled, domain, hspelled, -, -⟩)
      · exact hnone
      · exact absurd hspelled.1 (hfound spelled)
  | some appId =>
    rw [happ] at hfound
    obtain ⟨spelled, hspelled, hget⟩ := hfound
    constructor
    · rintro ⟨domain, hdomain, happId⟩
      exact Or.inr ⟨spelled, domain, hspelled, hdomain, hget.trans happId.symm⟩
    · rintro (hnone | ⟨other, domain, hother, hdomain, hsame⟩)
      · exact absurd (hspelled.1.lower hlower) (hnone spelled)
      · refine ⟨domain, hdomain, ?_⟩
        rw [← hsame, Covers.eq_of_isLongest hother hspelled, hget]

/-! ## Two queries -/

def exampleCatalog : AppCatalogCache := new.loadFromDb (some [(7, str "youtube.com")])

def queryFor (name : String) : Query := ⟨str name, .a, 1⟩

theorem isLower_exampleCatalog : exampleCatalog.IsLower := by
  intro domain hdomain
  by_cases heq : domain = str "youtube.com"
  · rw [heq]
    decide +kernel
  · have hne : (domain == str "youtube.com") = false := by simpa using heq
    have hnone : exampleCatalog.get domain = none := by
      simp [exampleCatalog, loadFromDb, insert, new, get, List.lookup, hne]
    rw [hnone] at hdomain
    cases hdomain

/-- A name in lower case is found. -/
theorem spelledAlike_exampleCatalog :
    exampleCatalog.appOf (queryFor "www.youtube.com.") = some 7 ∧
      exampleCatalog.SpelledAlike (str "www.youtube.com") := by
  refine ⟨by decide +kernel, ?_⟩
  have hname : trimEndMatches '.' (queryFor "www.youtube.com.").name = str "www.youtube.com" := by
    decide +kernel
  have hlower : lower (str "www.youtube.com") = str "www.youtube.com" := by decide +kernel
  have hfound := attributes_matchDomain exampleCatalog (str "www.youtube.com")
  have hiff := attributes_appOf_iff exampleCatalog isLower_exampleCatalog
    (queryFor "www.youtube.com.")
  rw [appOf, hname, hlower] at hiff
  exact hiff.mp hfound

/-- A name with capital letters is not. -/
theorem not_attributes_exampleCatalog :
    exampleCatalog.IsLower ∧
      ¬ exampleCatalog.Attributes (lower (trimEndMatches '.' (queryFor "WWW.YouTube.COM.").name))
        (exampleCatalog.appOf (queryFor "WWW.YouTube.COM.")) := by
  refine ⟨isLower_exampleCatalog, ?_⟩
  have happ : exampleCatalog.appOf (queryFor "WWW.YouTube.COM.") = none := by decide +kernel
  rw [happ]
  intro hnone
  exact hnone (str "youtube.com") ⟨by decide +kernel, by decide +kernel⟩

end AppCatalogCache

end RustDns
