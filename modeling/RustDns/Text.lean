import Mathlib

/-!
# Rust strings

A `str` is a sequence of Unicode scalar values, so it is modelled as a list of
characters.  The operations below are those of the standard library that the
rule parser and the request path use; each keeps the name of its original.

Two tables of the standard library are too large to write out: the case mapping
behind `str::to_lowercase` and the character classes behind
`char::is_alphanumeric`.  They are the parameter `Unicode`, whose fields state
what is used of them.  `Unicode.ascii` is the table cut down to ASCII; it agrees
with the standard library on every ASCII string.
-/

namespace RustDns

/-- A Rust `str`. -/
abbrev Str := List Char

/-- The comparison of texts is lawful; the definitions below share this one proof. -/
instance Str.lawfulBEq : LawfulBEq Str := inferInstance

def str (literal : String) : Str := literal.toList

namespace Text

/-- `str::len`: the number of bytes of the UTF-8 encoding. -/
def len (s : Str) : ℕ := (s.map Char.utf8Size).sum

/-- `char::is_whitespace`: the Unicode property `White_Space`. -/
def isWhitespace (c : Char) : Bool :=
  let n := c.toNat
  (0x09 ≤ n && n ≤ 0x0D) || n == 0x20 || n == 0x85 || n == 0xA0 || n == 0x1680 ||
    (0x2000 ≤ n && n ≤ 0x200A) || n == 0x2028 || n == 0x2029 || n == 0x202F ||
    n == 0x205F || n == 0x3000

def trim (s : Str) : Str := (s.dropWhile isWhitespace).rdropWhile isWhitespace

/-- `str::trim_end_matches` with a character. -/
def trimEndMatches (c : Char) (s : Str) : Str := s.rdropWhile (· == c)

def startsWith (start s : Str) : Bool := start.isPrefixOf s

def endsWith (tail s : Str) : Bool := tail.isSuffixOf s

def stripPrefix (start s : Str) : Option Str := s.dropPrefix? start

/-- `s.split(c).next().unwrap_or(s)`: the part before the first `c`, or all of
`s`.  Splitting always yields a first piece, so the default is never used. -/
def splitNext (c : Char) (s : Str) : Str := s.takeWhile (· != c)

def splitWhitespace (s : Str) : List Str := (s.splitOnP isWhitespace).filter (! ·.isEmpty)

/-- `str::lines`.  Only a line that ends in a line feed loses a carriage return
before it. -/
def lines (s : Str) : List Str :=
  let parts := s.splitOn '\n'
  let last := parts.getLastD []
  (parts.dropLast.map fun line => if line.getLast? = some '\r' then line.dropLast else line) ++
    if last = [] then [] else [last]

/-- `str::contains` with a string. -/
def contains (needle s : Str) : Bool := decide (needle <:+: s)

def join (separator : Str) (parts : List Str) : Str := separator.intercalate parts

/-- `a` and `b` differ at most in the case of ASCII letters. -/
def EqIgnoreAsciiCase (a b : Str) : Prop := a.map Char.toLower = b.map Char.toLower

instance (a b : Str) : Decidable (EqIgnoreAsciiCase a b) :=
  inferInstanceAs (Decidable (a.map Char.toLower = b.map Char.toLower))

/-! ## Bytes -/

theorem len_append (s t : Str) : len (s ++ t) = len s + len t := by simp [len]

theorem length_le_len (s : Str) : s.length ≤ len s := by
  induction s with
  | nil => rfl
  | cons c rest ih =>
    have hc := Char.utf8Size_pos c
    simp only [len, List.map_cons, List.sum_cons, List.length_cons] at ih ⊢
    omega

/-! ## Trailing characters -/

variable {c : Char} {s : Str} {p : Char → Bool}

variable {d a : Char}

theorem trimEndMatches_concat_ne (hne : d ≠ c) (s : Str) :
    trimEndMatches c (s ++ [d]) = s ++ [d] := by
  simp [trimEndMatches, hne]

theorem trimEndMatches_of_getLast (hlast : s.getLast? ≠ some c) : trimEndMatches c s = s := by
  rcases List.eq_nil_or_concat s with rfl | ⟨front, d, rfl⟩
  · rfl
  · have hne : d ≠ c := by simpa using hlast
    simpa using trimEndMatches_concat_ne hne front

theorem getLast_trimEndMatches (c : Char) (s : Str) : (trimEndMatches c s).getLast? ≠ some c := by
  induction s using List.reverseRecOn with
  | nil => simp [trimEndMatches]
  | append_singleton front d ih =>
    by_cases hd : d = c
    · subst hd
      simpa [trimEndMatches, List.rdropWhile_concat] using ih
    · rw [trimEndMatches_concat_ne hd]
      simpa using hd

/-! ## Characters that trimming keeps -/

theorem mem_rdropWhile (hc : p c = false) : c ∈ s.rdropWhile p ↔ c ∈ s := by
  induction s using List.reverseRecOn with
  | nil => simp
  | append_singleton front d ih =>
    by_cases hd : p d = true
    · have hne : c ≠ d := by
        rintro rfl
        simp [hc] at hd
      rw [List.rdropWhile_concat_pos _ _ _ hd, ih]
      simp [hne]
    · rw [List.rdropWhile_concat_neg _ _ _ hd]

theorem mem_dropWhile (hc : p c = false) : c ∈ s.dropWhile p ↔ c ∈ s := by
  induction s with
  | nil => simp
  | cons d rest ih =>
    by_cases hd : p d = true
    · have hne : c ≠ d := by
        rintro rfl
        simp [hc] at hd
      rw [List.dropWhile_cons_of_pos hd, ih]
      simp [hne]
    · rw [List.dropWhile_cons_of_neg hd]

theorem mem_trim (hc : isWhitespace c = false) : c ∈ trim s ↔ c ∈ s := by
  rw [trim, mem_rdropWhile hc, mem_dropWhile hc]

theorem exists_trim_cons (hc : isWhitespace c = false) (s : Str) :
    ∃ tail, trim (c :: s) = c :: tail := by
  have hmem : c ∈ trim (c :: s) := (mem_trim hc).mpr List.mem_cons_self
  have hstart : trim (c :: s) <+: c :: s := by
    have hdrop : (c :: s).dropWhile isWhitespace = c :: s := by simp [hc]
    unfold trim
    rw [hdrop]
    exact ( List.rdropWhile_prefix _ _)
  cases htrim : trim (c :: s) with
  | nil => simp [htrim] at hmem
  | cons d tail =>
    rw [htrim, List.cons_prefix_cons] at hstart
    exact ⟨tail, by rw [hstart.1]⟩

theorem mem_trimEndMatches (hne : c ≠ d) : c ∈ trimEndMatches d s ↔ c ∈ s :=
  mem_rdropWhile (by simpa using hne)

theorem trim_eq_self (hhead : ∀ c ∈ s.head?, isWhitespace c = false)
    (hlast : ∀ c ∈ s.getLast?, isWhitespace c = false) : trim s = s := by
  have hfront : s.dropWhile isWhitespace = s := by
    cases s with
    | nil => rfl
    | cons c rest => exact List.dropWhile_cons_of_neg (by simp [hhead c rfl])
  rw [trim, hfront]
  rcases List.eq_nil_or_concat s with rfl | ⟨front, c, rfl⟩
  · rfl
  · rw [List.concat_eq_append] at hlast ⊢
    exact List.rdropWhile_concat_neg _ _ _ (by simp [hlast c (by simp)])

theorem isWhitespace_head_trim (hc : c ∈ (trim s).head?) : isWhitespace c = false := by
  obtain ⟨rest, hrest⟩ := List.head?_eq_some_iff.mp hc
  have hstart : trim s <+: s.dropWhile isWhitespace := List.rdropWhile_prefix _ _
  obtain ⟨tail, htail⟩ := hstart
  rw [hrest, List.cons_append] at htail
  have hhead := List.head?_dropWhile_not isWhitespace s
  simpa [← htail] using hhead

theorem isWhitespace_getLast_trim (hc : c ∈ (trim s).getLast?) : isWhitespace c = false := by
  obtain ⟨front, hfront⟩ := List.getLast?_eq_some_iff.mp hc
  have hne : trim s ≠ [] := by simp [hfront]
  have hlast : ¬ isWhitespace ((trim s).getLast hne) = true :=
    List.rdropWhile_last_not isWhitespace (s.dropWhile isWhitespace) hne
  have hget : (trim s).getLast hne = c := by simp [hfront]
  rw [hget] at hlast
  simpa using hlast

theorem trim_trim (s : Str) : trim (trim s) = trim s :=
  trim_eq_self (fun _ hc => isWhitespace_head_trim hc) fun _ hc => isWhitespace_getLast_trim hc

theorem stripPrefix_eq_some {start rest : Str} :
    stripPrefix start s = some rest ↔ s = start ++ rest := by
  simp [stripPrefix, List.dropPrefix?_eq_some_iff]

theorem stripPrefix_cons_eq_none (hne : c ≠ a) (start rest : Str) :
    stripPrefix (a :: start) (c :: rest) = none := by
  simp [stripPrefix, List.dropPrefix?, hne]

theorem startsWith_cons_eq_false (hne : c ≠ a) (start rest : Str) :
    startsWith (a :: start) (c :: rest) = false := by
  simp [startsWith, List.isPrefixOf, Ne.symm hne]

theorem getLast_ne_of_endsWith (hend : endsWith [c] s = false) : s.getLast? ≠ some c := by
  intro hlast
  obtain ⟨front, rfl⟩ := List.getLast?_eq_some_iff.mp hlast
  have hsuffix : endsWith [c] (front ++ [c]) = true :=
    List.isSuffixOf_iff_suffix.mpr (List.suffix_append front [c])
  rw [hsuffix] at hend
  cases hend

/-! ## Pieces -/

theorem exists_mem_splitOnP (hc : p c = false) (hs : c ∈ s) : ∃ part ∈ s.splitOnP p, c ∈ part := by
  induction s with
  | nil => cases hs
  | cons d rest ih =>
    rw [List.splitOnP_cons_eq_if_modifyHead]
    obtain ⟨first, others, hsplit⟩ := List.exists_cons_of_ne_nil (List.splitOnP_ne_nil p rest)
    rw [hsplit] at ih ⊢
    rcases List.mem_cons.mp hs with rfl | hrest
    · exact ⟨c :: first, by simp [hc], List.mem_cons_self⟩
    · obtain ⟨part, hpart, hmem⟩ := ih hrest
      split_ifs with hd
      · exact ⟨part, List.mem_cons_of_mem [] hpart, hmem⟩
      · rcases List.mem_cons.mp hpart with rfl | hpart
        · exact ⟨d :: part, by simp, List.mem_cons_of_mem d hmem⟩
        · exact ⟨part, by simp [hpart], hmem⟩

theorem splitOnP_eq_singleton (hs : ∀ c ∈ s, p c = false) : s.splitOnP p = [s] := by
  induction s with
  | nil => rfl
  | cons d rest ih =>
    rw [List.splitOnP_cons_eq_if_modifyHead, ih fun c hc => hs c (List.mem_cons_of_mem d hc)]
    simp [hs d List.mem_cons_self]

theorem splitWhitespace_cons (hc : isWhitespace c = false) (rest : Str) :
    ∃ word words, splitWhitespace (c :: rest) = (c :: word) :: words := by
  obtain ⟨first, others, hsplit⟩ :=
    List.exists_cons_of_ne_nil (List.splitOnP_ne_nil isWhitespace rest)
  refine ⟨first, others.filter (! ·.isEmpty), ?_⟩
  rw [splitWhitespace, List.splitOnP_cons_eq_if_modifyHead, hsplit]
  simp [hc]

theorem exists_whitespace_of_two_words {first second : Str} {words : List Str}
    (hsplit : splitWhitespace s = first :: second :: words) : ∃ c ∈ s, isWhitespace c = true := by
  by_contra hnone
  have hall : ∀ c ∈ s, isWhitespace c = false := by simpa using hnone
  have hone : (splitWhitespace s).length ≤ 1 :=
    (List.length_filter_le _ _).trans_eq (by rw [splitOnP_eq_singleton hall, List.length_singleton])
  rw [hsplit] at hone
  simp at hone

theorem toLower_eq_dot : c.toLower = '.' ↔ c = '.' := by
  constructor
  · intro hlower
    have halpha : c.isAlpha = false := by
      rw [← Char.isAlpha_toLower_eq_isAlpha, hlower]
      rfl
    have hupper : ¬ c.isUpper := by
      intro hupper
      simp [Char.isAlpha, hupper] at halpha
    rwa [Char.toLower_eq_of_not_isUpper hupper] at hlower
  · rintro rfl
    rfl

/-- Trimming trailing dots does not look at letters, so it commutes with a
change of ASCII case. -/
theorem EqIgnoreAsciiCase.trimEndMatches {t : Str} (h : EqIgnoreAsciiCase s t) :
    EqIgnoreAsciiCase (trimEndMatches '.' s) (trimEndMatches '.' t) := by
  have hmap : ∀ u : Str, (Text.trimEndMatches '.' u).map Char.toLower =
      Text.trimEndMatches '.' (u.map Char.toLower) := by
    intro u
    induction u using List.reverseRecOn with
    | nil => rfl
    | append_singleton front d ih =>
      rw [List.map_append, List.map_singleton]
      by_cases hd : d = '.'
      · subst hd
        simpa [Text.trimEndMatches, List.rdropWhile_concat] using ih
      · rw [trimEndMatches_concat_ne hd, trimEndMatches_concat_ne (toLower_eq_dot.not.mpr hd),
          List.map_append, List.map_singleton]
  unfold EqIgnoreAsciiCase at h ⊢
  rw [hmap, hmap, h]

end Text

/-- The tables of the standard library behind `str::to_lowercase` and
`char::is_alphanumeric`. -/
class Unicode where
  /-- `str::to_lowercase`. -/
  toLowercase : Str → Str
  /-- `char::is_alphanumeric`. -/
  isAlphanumeric : Char → Bool
  /-- Lower case stays as it is. -/
  toLowercase_idem : ∀ s, toLowercase (toLowercase s) = toLowercase s
  /-- The mapping of a string does not depend on the case of its ASCII letters. -/
  toLowercase_congr : ∀ s t, Text.EqIgnoreAsciiCase s t → toLowercase s = toLowercase t
  /-- No character but the full stop is mapped to one. -/
  toLowercase_getLast : ∀ s, (toLowercase s).getLast? = some '.' → s.getLast? = some '.'

export Unicode (toLowercase isAlphanumeric)

@[reducible] def Unicode.ascii : Unicode where
  toLowercase := List.map Char.toLower
  isAlphanumeric := Char.isAlphanum
  toLowercase_idem := by simp
  toLowercase_congr := fun _ _ h => h
  toLowercase_getLast := by
    intro s hlast
    rw [List.getLast?_map] at hlast
    obtain ⟨c, hc, hdot⟩ := Option.map_eq_some_iff.mp hlast
    rw [hc, Text.toLower_eq_dot.mp hdot]

/-- What the case mapping leaves alone. -/
class LawfulLowercase [Unicode] : Prop where
  /-- ASCII texts are mapped character by character. -/
  toLowercase_ascii : ∀ s : Str, (∀ c ∈ s, c.toNat < 128) → toLowercase s = s.map Char.toLower
  /-- A full stop at the end stays, and does not change how the rest is mapped. -/
  toLowercase_dot : ∀ s : Str, toLowercase (s ++ ['.']) = toLowercase s ++ ['.']

theorem Unicode.lawfulLowercase_ascii : @LawfulLowercase Unicode.ascii :=
  @LawfulLowercase.mk Unicode.ascii (fun _ _ => rfl) fun _ => List.map_append

/-- The tables with what they say of ASCII and of white space. -/
class UnicodeAscii extends Unicode where
  /-- Among the ASCII characters the letters and digits are alphanumeric. -/
  isAlphanumeric_ascii : ∀ c, c.toNat < 128 → isAlphanumeric c = c.isAlphanum
  /-- White space is not alphanumeric. -/
  isAlphanumeric_whitespace : ∀ c, Text.isWhitespace c = true → isAlphanumeric c = false
  /-- Only letters are mapped: other ASCII characters and white space stay, and
  nothing is mapped to one of them. -/
  mem_toLowercase : ∀ s c, c.isAlphanum = false → (c.toNat < 128 ∨ Text.isWhitespace c = true) →
    (c ∈ toLowercase s ↔ c ∈ s)

theorem Text.mem_map_toLower {c : Char} (hc : c.isAlphanum = false) {s : Str} :
    c ∈ s.map Char.toLower ↔ c ∈ s := by
  have hlower : ∀ d : Char, d.toLower = c ↔ d = c := by
    intro d
    constructor
    · intro heq
      have halpha : d.isAlpha = false := by
        rw [← Char.isAlpha_toLower_eq_isAlpha, heq]
        simp_all [Char.isAlphanum]
      have hupper : ¬ d.isUpper := by
        intro hupper
        simp [Char.isAlpha, hupper] at halpha
      rwa [Char.toLower_eq_of_not_isUpper hupper] at heq
    · rintro rfl
      refine Char.toLower_eq_of_not_isUpper fun hupper => ?_
      simp [Char.isAlphanum, Char.isAlpha, hupper] at hc
  simp [hlower]

theorem Text.isAlphanum_iff_toNat {c : Char} :
    c.isAlphanum = true ↔ (65 ≤ c.toNat ∧ c.toNat ≤ 90 ∨ 97 ≤ c.toNat ∧ c.toNat ≤ 122) ∨
      48 ≤ c.toNat ∧ c.toNat ≤ 57 := by
  simp only [Char.isAlphanum, Char.isAlpha, Char.isUpper, Char.isLower, Char.isDigit,
    Bool.or_eq_true, Bool.and_eq_true, decide_eq_true_eq, UInt32.le_iff_toNat_le, ge_iff_le]
  exact Iff.rfl

theorem Text.isAlphanum_of_isWhitespace {c : Char} (hc : isWhitespace c = true) :
    c.isAlphanum = false := by
  rw [← Bool.not_eq_true, isAlphanum_iff_toNat]
  simp only [isWhitespace, Bool.or_eq_true, Bool.and_eq_true, decide_eq_true_eq, beq_iff_eq] at hc
  omega

@[reducible] def UnicodeAscii.ascii : UnicodeAscii where
  toUnicode := Unicode.ascii
  isAlphanumeric_ascii := fun _ _ => rfl
  isAlphanumeric_whitespace := fun _ => Text.isAlphanum_of_isWhitespace
  mem_toLowercase := fun _ _ hc _ => Text.mem_map_toLower hc

end RustDns
