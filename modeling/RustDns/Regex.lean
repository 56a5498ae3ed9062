import RustDns.Text

/-!
# Regular expressions

The `regex` crate is a parameter: `RegexCrate` has the operations of `RegexSet`
with what its documentation says of them.  Compiling a list of patterns may
fail; when it succeeds, the set matches a text exactly when one of its patterns
does.

`RegexCrate.fragment` is an instance for the patterns of the form
`(?i)^…$` whose body is made of letters, digits, `-`, `_`, escaped punctuation
and negated single-character classes with `+`, on ASCII texts.
-/

namespace RustDns

/-- The part of the `regex` crate that the rule engine uses. -/
class RegexCrate where
  /-- `regex::RegexSet`. -/
  RegexSet : Type
  /-- `RegexSet::new(patterns).ok()`. -/
  new : List Str → Option RegexSet
  /-- `RegexSet::is_empty`. -/
  isEmpty : RegexSet → Bool
  /-- `RegexSet::is_match`. -/
  isMatch : RegexSet → Str → Bool
  /-- `Regex::is_match` of a single pattern. -/
  patternMatch : Str → Str → Bool
  /-- Fewer patterns compile if more do. -/
  isSome_new_of_sublist : ∀ {few patterns}, List.Sublist few patterns →
    (new patterns).isSome = true → (new few).isSome = true
  /-- A set is empty when it has no patterns. -/
  isEmpty_new : ∀ {patterns set}, new patterns = some set → isEmpty set = patterns.isEmpty
  /-- A set matches when one of its patterns does. -/
  isMatch_new : ∀ {patterns set}, new patterns = some set →
    ∀ text, isMatch set text = patterns.any (patternMatch · text)

namespace Regex

/-- One piece of a pattern: a character, or a non-empty run of characters other
than the given one. -/
inductive Item where
  | literal (c : Char)
  | runWithout (stop : Char)
deriving DecidableEq

/-- The characters that a backslash turns into literals.  Before a letter, a
digit or an angle bracket it means something else, and before a character
outside ASCII the pattern does not parse. -/
def isEscapable (c : Char) : Bool :=
  c.toNat < 128 && !c.isAlphanum && c != '<' && c != '>'

def parseItems : Str → Option (List Item)
  | [] => some []
  | '[' :: '^' :: c :: ']' :: '+' :: rest => (Item.runWithout c :: ·) <$> parseItems rest
  | '\\' :: c :: rest => if isEscapable c then (Item.literal c :: ·) <$> parseItems rest else none
  | c :: rest =>
    if c.isAlphanum || c == '-' || c == '_' then (Item.literal c :: ·) <$> parseItems rest
    else none

def parse (pattern : Str) : Option (List Item) := do
  let body ← Text.stripPrefix (str "(?i)^") pattern
  if body.getLast? = some '$' then parseItems body.dropLast else none

def matchItems : Str → List Item → Bool
  | [], items => items.isEmpty
  | _ :: _, [] => false
  | d :: text, .literal c :: items => c.toLower == d.toLower && matchItems text items
  | d :: text, .runWithout stop :: items =>
    d != stop && (matchItems text items || matchItems text (.runWithout stop :: items))

def patternMatch (pattern text : Str) : Bool :=
  ((parse pattern).map (matchItems text)).getD false

variable {set : List (List Item)} {patterns : List Str}

theorem mapM_parse_cons {pattern : Str} {rest : List Str} :
    (pattern :: rest).mapM parse = some set ↔
      ∃ items others, parse pattern = some items ∧ rest.mapM parse = some others ∧
        items :: others = set := by
  rw [List.mapM_cons]
  simp only [Option.bind_eq_bind, Option.bind_eq_some_iff, Option.pure_def, Option.some.injEq,
    exists_and_left]

theorem any_matchItems_of_mapM (text : Str) (hparse : patterns.mapM parse = some set) :
    set.any (matchItems text) = patterns.any (patternMatch · text) := by
  induction patterns generalizing set with
  | nil =>
    obtain rfl : set = [] := by simpa using hparse.symm
    rfl
  | cons pattern rest ih =>
    obtain ⟨items, others, hitems, hothers, rfl⟩ := mapM_parse_cons.mp hparse
    simp [ih hothers, patternMatch, hitems]

theorem isSome_mapM_parse :
    (patterns.mapM parse).isSome = true ↔ ∀ pattern ∈ patterns, (parse pattern).isSome = true := by
  induction patterns with
  | nil => simp
  | cons pattern rest ih =>
    rw [List.forall_mem_cons, ← ih]
    simp only [Option.isSome_iff_exists, mapM_parse_cons]
    constructor
    · rintro ⟨_, items, others, hitems, hothers, -⟩
      exact ⟨⟨items, hitems⟩, others, hothers⟩
    · rintro ⟨⟨items, hitems⟩, others, hothers⟩
      exact ⟨_, items, others, hitems, hothers, rfl⟩

end Regex

@[reducible] def RegexCrate.fragment : RegexCrate where
  RegexSet := List (List Regex.Item)
  new := List.mapM Regex.parse
  isEmpty := List.isEmpty
  isMatch := fun set text => set.any (Regex.matchItems text)
  patternMatch := Regex.patternMatch
  isSome_new_of_sublist := by
    intro few patterns hsub hsome
    rw [Regex.isSome_mapM_parse] at hsome ⊢
    exact fun pattern hpattern => hsome pattern (hsub.mem hpattern)
  isEmpty_new := by
    intro patterns set hparse
    cases patterns with
    | nil =>
      obtain rfl : set = [] := by simpa using hparse.symm
      rfl
    | cons pattern rest =>
      obtain ⟨items, others, -, -, rfl⟩ := Regex.mapM_parse_cons.mp hparse
      rfl
  isMatch_new := fun hparse text => Regex.any_matchItems_of_mapM text hparse

end RustDns
