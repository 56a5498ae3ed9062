import RustDns.RegexMeaning
import RustDns.Dns.Rules

/-!
# The meaning of a wildcard

`wildcard_to_regex` writes a wildcard pattern as a regular expression.  A star becomes `[^.]+`, a
full stop is escaped, and a letter, a digit, a hyphen or an underscore stays as it is.

The expression is read back as one piece for each character of the pattern
(`parse_wildcardToRegex`).  So it matches exactly the texts that one gets from the pattern by
putting something that is not empty and has no full stop in the place of each star
(`patternMatch_wildcardToRegex_iff`).
-/

namespace RustDns

open Text Regex

/-! ## Putting texts in the place of stars -/

def substitute : Str → List Str → Str
  | [], _ => []
  | c :: rest, fills =>
    if c = '*' then fills.headD [] ++ substitute rest fills.tail else c :: substitute rest fills

/-- The text is the pattern with each star replaced by a text that is not empty and has no full
stop. -/
def FillsStars (pattern text : Str) : Prop :=
  ∃ fills : List Str, fills.length = pattern.count '*' ∧
    (∀ fill ∈ fills, fill ≠ [] ∧ '.' ∉ fill) ∧ text = substitute pattern fills

/-- A character of a wildcard pattern: a small letter, a digit, or one of `-`, `_`, `.` and `*`. -/
def isWildcardChar (c : Char) : Bool :=
  c.isLower || c.isDigit || c == '-' || c == '_' || c == '.' || c == '*'

variable {text pattern : Str} {c : Char}

theorem fillsStars_nil : FillsStars [] text ↔ text = [] := by
  constructor
  · rintro ⟨fills, -, -, rfl⟩
    rfl
  · rintro rfl
    exact ⟨[], rfl, by simp, rfl⟩

theorem fillsStars_star :
    FillsStars ('*' :: pattern) text ↔ ∃ front back,
        text = front ++ back ∧ (front ≠ [] ∧ '.' ∉ front) ∧ FillsStars pattern back := by
  constructor
  · rintro ⟨fills, hlength, hfills, rfl⟩
    rw [List.count_cons_self] at hlength
    cases fills with
    | nil => cases hlength
    | cons fill fills =>
      obtain ⟨hfill, hrest⟩ := List.forall_mem_cons.mp hfills
      exact ⟨fill, substitute pattern fills, rfl, hfill, fills, Nat.succ.inj hlength, hrest, rfl⟩
  · rintro ⟨front, back, rfl, hfront, fills, hlength, hfills, rfl⟩
    refine ⟨front :: fills, ?_, List.forall_mem_cons.mpr ⟨hfront, hfills⟩, rfl⟩
    rw [List.length_cons, hlength, List.count_cons_self]

theorem fillsStars_cons (hc : c ≠ '*') :
    FillsStars (c :: pattern) text ↔ ∃ back, text = c :: back ∧ FillsStars pattern back := by
  constructor
  · rintro ⟨fills, hlength, hfills, rfl⟩
    rw [List.count_cons_of_ne hc] at hlength
    exact ⟨substitute pattern fills, by rw [substitute, if_neg hc], fills, hlength, hfills, rfl⟩
  · rintro ⟨back, rfl, fills, hlength, hfills, rfl⟩
    exact ⟨fills, by rw [List.count_cons_of_ne hc, hlength], hfills, by rw [substitute, if_neg hc]⟩

/-! ## Reading the expression back -/

def wildcardItem (c : Char) : Item := if c = '*' then .runWithout '.' else .literal c

theorem isWildcardChar_other (hc : isWildcardChar c = true) (hstar : c ≠ '*') (hdot : c ≠ '.') :
    c.isAlphanum = true ∨ c = '-' ∨ c = '_' := by
  simp only [isWildcardChar, Bool.or_eq_true, beq_iff_eq] at hc
  rcases hc with ((((hc | hc) | hc) | hc) | hc) | hc
  · exact Or.inl (by simp [Char.isAlphanum, Char.isAlpha, hc])
  · exact Or.inl (by simp [Char.isAlphanum, hc])
  · exact Or.inr (Or.inl hc)
  · exact Or.inr (Or.inr hc)
  · exact absurd hc hdot
  · exact absurd hc hstar

theorem parseItems_star (rest : Str) :
    parseItems (str "[^.]+" ++ rest) = (Item.runWithout '.' :: ·) <$> parseItems rest := rfl

theorem parseItems_dot (rest : Str) :
    parseItems (str "\\." ++ rest) = (Item.literal '.' :: ·) <$> parseItems rest := rfl

theorem parseItems_cons (hc : c.isAlphanum = true ∨ c = '-' ∨ c = '_') (rest : Str) :
    parseItems (c :: rest) = (Item.literal c :: ·) <$> parseItems rest := by
  have hplain : (c.isAlphanum || c == '-' || c == '_') = true := by
    simpa [or_assoc] using hc
  rw [parseItems, if_pos hplain]
  · rintro _ _ rfl
    exact absurd hc (by decide)
  · rintro _ _ rfl
    exact absurd hc (by decide)

section Translation

variable [UnicodeAscii]

/-- What `wildcard_to_regex` writes for a character. -/
def wildcardPiece (c : Char) : Str :=
  if c = '*' then str "[^.]+"
  else if c = '.' then str "\\."
  else if isAlphanumeric c || c == '-' || c == '_' then [c]
  else ['\\', c]

theorem wildcardPiece_other {c : Char} (hc : c.isAlphanum = true ∨ c = '-' ∨ c = '_')
    (hstar : c ≠ '*') (hdot : c ≠ '.') : wildcardPiece c = [c] := by
  have hplain : (isAlphanumeric c || c == '-' || c == '_') = true := by
    rcases hc with hc | rfl | rfl
    · have hascii : c.toNat < 128 := by
        have hrange := isAlphanum_iff_toNat.mp hc
        omega
      rw [UnicodeAscii.isAlphanumeric_ascii c hascii, hc]
      rfl
    · simp
    · simp
  rw [wildcardPiece, if_neg hstar, if_neg hdot, if_pos hplain]

theorem parseItems_flatMap_wildcardPiece {pattern : Str}
    (hpattern : ∀ c ∈ pattern, isWildcardChar c = true) :
    parseItems (pattern.flatMap wildcardPiece) = some (pattern.map wildcardItem) := by
  induction pattern with
  | nil => rfl
  | cons c rest ih =>
    obtain ⟨hc, hrest⟩ := List.forall_mem_cons.mp hpattern
    rw [List.flatMap_cons, List.map_cons]
    by_cases hstar : c = '*'
    · rw [wildcardPiece, if_pos hstar, parseItems_star, ih hrest, wildcardItem, if_pos hstar]
      rfl
    rw [wildcardItem, if_neg hstar]
    by_cases hdot : c = '.'
    · rw [wildcardPiece, if_neg hstar, if_pos hdot, parseItems_dot, ih hrest, hdot]
      rfl
    · have hother := isWildcardChar_other hc hstar hdot
      rw [wildcardPiece_other hother hstar hdot, List.singleton_append, parseItems_cons hother,
        ih hrest]
      rfl

theorem parse_wildcardToRegex {pattern : Str} (hpattern : ∀ c ∈ pattern, isWildcardChar c = true) :
    parse (wildcardToRegex pattern) = some (pattern.map wildcardItem) := by
  have htext : wildcardToRegex pattern =
      str "(?i)^" ++ (pattern.flatMap wildcardPiece ++ ['$']) := List.append_assoc _ _ _
  have hstrip : stripPrefix (str "(?i)^") (wildcardToRegex pattern) =
      some (pattern.flatMap wildcardPiece ++ ['$']) := stripPrefix_eq_some.mpr htext
  rw [parse, hstrip]
  change (if (pattern.flatMap wildcardPiece ++ ['$']).getLast? = some '$' then _ else none) = _
  rw [if_pos List.getLast?_concat, List.dropLast_concat, parseItems_flatMap_wildcardPiece hpattern]

end Translation

/-! ## The texts that match -/

theorem toLower_eq_toLower_iff {d : Char} (hc : isWildcardChar c = true) (hd : d.isUpper = false) :
    c.toLower = d.toLower ↔ c = d := by
  have hupper : c.isUpper = false := by
    rw [Bool.eq_false_iff]
    intro hupper
    simp only [isWildcardChar, Bool.or_eq_true, beq_iff_eq] at hc
    rcases hc with ((((hc | hc) | rfl) | rfl) | rfl) | rfl
    · simp only [Char.isLower, Char.isUpper, Bool.and_eq_true, decide_eq_true_eq,
        UInt32.le_iff_toNat_le, ge_iff_le] at hc hupper
      exact absurd (hc.1.trans hupper.2) (by decide)
    · simp only [Char.isDigit, Char.isUpper, Bool.and_eq_true, decide_eq_true_eq,
        UInt32.le_iff_toNat_le, ge_iff_le] at hc hupper
      exact absurd (hupper.1.trans hc.2) (by decide)
    all_goals exact absurd hupper (by decide)
  rw [Char.toLower_eq_of_not_isUpper (by simp [hupper]),
    Char.toLower_eq_of_not_isUpper (by simp [hd])]

theorem denotes_wildcardItem_iff (hpattern : ∀ c ∈ pattern, isWildcardChar c = true)
    (htext : ∀ c ∈ text, c.isUpper = false) :
    Denotes (pattern.map wildcardItem) text ↔ FillsStars pattern text := by
  induction pattern generalizing text with
  | nil => rw [List.map_nil, denotes_nil, fillsStars_nil]
  | cons c rest ih =>
    obtain ⟨hc, hrest⟩ := List.forall_mem_cons.mp hpattern
    rw [List.map_cons, denotes_cons]
    by_cases hstar : c = '*'
    · subst hstar
      rw [fillsStars_star]
      constructor
      · rintro ⟨front, back, rfl, hfront, hback⟩
        have hupper := fun d hd => htext d (List.mem_append_right front hd)
        exact ⟨front, back, rfl, hfront, (ih hrest hupper).mp hback⟩
      · rintro ⟨front, back, rfl, hfront, hback⟩
        have hupper := fun d hd => htext d (List.mem_append_right front hd)
        exact ⟨front, back, rfl, hfront, (ih hrest hupper).mpr hback⟩
    · rw [wildcardItem, if_neg hstar, fillsStars_cons hstar]
      constructor
      · rintro ⟨_, back, rfl, ⟨d, rfl, hcase⟩, hback⟩
        obtain ⟨hd, hupper⟩ := List.forall_mem_cons.mp htext
        obtain rfl := (toLower_eq_toLower_iff hc hd).mp hcase
        exact ⟨back, rfl, (ih hrest hupper).mp hback⟩
      · rintro ⟨back, rfl, hback⟩
        obtain ⟨-, hupper⟩ := List.forall_mem_cons.mp htext
        exact ⟨[c], back, rfl, ⟨c, rfl, rfl⟩, (ih hrest hupper).mpr hback⟩

/-- **Wildcards.**  The expression of a pattern matches a text without capital letters exactly if
the text is the pattern with each star replaced by a text that is not empty and has no full stop. -/
theorem patternMatch_wildcardToRegex_iff [UnicodeAscii] [RegexCrate] [DocumentedRegex]
    (pattern : Str) (hpattern : ∀ c ∈ pattern, isWildcardChar c = true) (text : Str)
    (htext : ∀ c ∈ text, c.toNat < 128 ∧ c.isUpper = false) :
    RegexCrate.patternMatch (wildcardToRegex pattern) text = true ↔ FillsStars pattern text := by
  have hclasses : ∀ stop, Item.runWithout stop ∈ pattern.map wildcardItem → stop = '.' := by
    intro stop hmem
    obtain ⟨c, -, hitem⟩ := List.mem_map.mp hmem
    unfold wildcardItem at hitem
    split_ifs at hitem
    exact (Item.runWithout.inj hitem).symm
  rw [DocumentedRegex.patternMatch_iff (parse_wildcardToRegex hpattern) hclasses text
    fun c hc => (htext c hc).1]
  exact denotes_wildcardItem_iff hpattern fun c hc => (htext c hc).2

/-- The star of a rule stands for one character or more. -/
theorem patternMatch_wildcardToRegex_ad :
    FillsStars (str "ad-*.example.com") (str "ad-foo.example.com") ∧
      ¬ FillsStars (str "ad-*.example.com") (str "ad-.example.com") := by
  let _ := UnicodeAscii.ascii
  let _ := RegexCrate.fragment
  have _ := RegexCrate.documented_fragment
  have hpattern : ∀ c ∈ str "ad-*.example.com", isWildcardChar c = true :=
    List.all_eq_true.mp (by decide +kernel)
  have htext : ∀ text : Str, (text.all fun c => decide (c.toNat < 128) && !c.isUpper) = true →
      ∀ c ∈ text, c.toNat < 128 ∧ c.isUpper = false := by
    intro text hall c hc
    simpa using List.all_eq_true.mp hall c hc
  have hiff := fun text hall =>
    patternMatch_wildcardToRegex_iff (str "ad-*.example.com") hpattern text (htext text hall)
  constructor
  · exact (hiff (str "ad-foo.example.com") (by decide +kernel)).mp (by decide +kernel)
  · exact (hiff (str "ad-.example.com") (by decide +kernel)).not.mp (by decide +kernel)

end RustDns
