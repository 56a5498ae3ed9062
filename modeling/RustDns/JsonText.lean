import RustDns.Json

/-!
# JSON texts

A printer and a parser for JSON, as an instance of what the code uses of `serde_json`.  The
printer takes the blanks that it puts between the tokens from a `Style`: none for a compact
text, line breaks and indentation for a pretty one.  The parser gives back what was printed,
in any style (`parse_print`), and the size of a pretty text is the sum of what its parts take
(`len_print_array`, `len_print_object`).

A number is a text of digits and the few other characters that numbers have; the parser does
not look into it.
-/

namespace RustDns

namespace Json

/-! ## Characters -/

def isBlank (c : Char) : Bool := c = ' ' || c = '\n' || c = '\t' || c = '\r'

def skipBlank (text : Str) : Str := text.dropWhile isBlank

def isNumberChar (c : Char) : Bool :=
  c.isDigit || c = '-' || c = '+' || c = '.' || c = 'e' || c = 'E'

def hexValue (c : Char) : Option ℕ :=
  if c.isDigit then some (c.toNat - '0'.toNat)
  else if 'a' ≤ c ∧ c ≤ 'f' then some (c.toNat - 'a'.toNat + 10)
  else if 'A' ≤ c ∧ c ≤ 'F' then some (c.toNat - 'A'.toNat + 10)
  else none

def unescape (c : Char) : Option Char :=
  if c = '"' ∨ c = '\\' ∨ c = '/' then some c
  else if c = 'b' then some (Char.ofNat 8)
  else if c = 'f' then some (Char.ofNat 12)
  else if c = 'n' then some '\n'
  else if c = 'r' then some '\r'
  else if c = 't' then some '\t'
  else none

def escape (c : Char) : Str :=
  if c = '"' then ['\\', '"']
  else if c = '\\' then ['\\', '\\']
  else if c = '\n' then ['\\', 'n']
  else if c = '\r' then ['\\', 'r']
  else if c = '\t' then ['\\', 't']
  else if c = Char.ofNat 8 then ['\\', 'b']
  else if c = Char.ofNat 12 then ['\\', 'f']
  else if c.toNat < 32 then
    ['\\', 'u', '0', '0', Nat.digitChar (c.toNat / 16), Nat.digitChar (c.toNat % 16)]
  else [c]

def parseString : Str → Option (Str × Str)
  | [] => none
  | '"' :: rest => some ([], rest)
  | '\\' :: 'u' :: a :: b :: c :: d :: rest => do
    let a ← hexValue a
    let b ← hexValue b
    let c ← hexValue c
    let d ← hexValue d
    let (text, rest) ← parseString rest
    return (Char.ofNat (((a * 16 + b) * 16 + c) * 16 + d) :: text, rest)
  | '\\' :: c :: rest => do
    let c ← unescape c
    let (text, rest) ← parseString rest
    return (c :: text, rest)
  | c :: rest => do
    if c.toNat < 32 ∨ c = '\\' then none
    else
      let (text, rest) ← parseString rest
      return (c :: text, rest)

theorem hexValue_digitChar {n : ℕ} (hn : n < 16) : hexValue (Nat.digitChar n) = some n := by
  have hall : ∀ n < 16, hexValue (Nat.digitChar n) = some n := by decide
  exact hall n hn

theorem parseString_escape (c : Char) (rest : Str) :
    parseString (escape c ++ rest) =
      (parseString rest).map fun parsed => (c :: parsed.1, parsed.2) := by
  unfold escape
  split_ifs with hquote hbackslash hn hr ht hb hf hcontrol
  · subst hquote
    simp [parseString, unescape, Option.map_eq_bind]
  · subst hbackslash
    simp [parseString, unescape, Option.map_eq_bind]
  · subst hn
    simp [parseString, unescape, Option.map_eq_bind]
  · subst hr
    simp [parseString, unescape, Option.map_eq_bind]
  · subst ht
    simp [parseString, unescape, Option.map_eq_bind]
  · subst hb
    simp [parseString, unescape, Option.map_eq_bind]
  · subst hf
    simp [parseString, unescape, Option.map_eq_bind]
  · have hhigh := hexValue_digitChar (show c.toNat / 16 < 16 by omega)
    have hlow := hexValue_digitChar (show c.toNat % 16 < 16 by omega)
    have hzero : hexValue '0' = some 0 := rfl
    have hvalue : Char.ofNat (((0 * 16 + 0) * 16 + c.toNat / 16) * 16 + c.toNat % 16) = c := by
      rw [show ((0 * 16 + 0) * 16 + c.toNat / 16) * 16 + c.toNat % 16 = c.toNat by omega]
      exact Char.ofNat_toNat c
    simp only [List.cons_append, List.nil_append, parseString, hzero, hhigh, hlow]
    simp only [Option.bind_eq_bind, Option.bind_some, hvalue, Option.map_eq_bind]
    rfl
  · have hplain : parseString (c :: rest) = (do
        if c.toNat < 32 ∨ c = '\\' then none
        else
          let (text, rest) ← parseString rest
          return (c :: text, rest)) := by
      rw [parseString.eq_def]
      split <;> simp_all
    rw [List.singleton_append, hplain, if_neg (by simp [hcontrol, hbackslash])]
    simp [Option.map_eq_bind]

def quote (text : Str) : Str := '"' :: text.flatMap escape ++ ['"']

theorem parseString_quote (text rest : Str) :
    parseString (text.flatMap escape ++ '"' :: rest) = some (text, rest) := by
  induction text with
  | nil => rfl
  | cons c text ih =>
    rw [List.flatMap_cons, List.append_assoc, parseString_escape, ih]
    rfl

/-! ## The printer -/

structure Style where
  newline : ℕ → Str
  gap : Str
  newline_blank : ∀ depth, ∀ c ∈ newline depth, isBlank c = true
  gap_blank : ∀ c ∈ gap, isBlank c = true

def Style.compact : Style where
  newline _ := []
  gap := []
  newline_blank _ := by simp
  gap_blank := by simp

def Style.pretty : Style where
  newline depth := '\n' :: List.replicate (2 * depth) ' '
  gap := [' ']
  newline_blank depth := by
    rintro c (_ | ⟨_, hc⟩)
    · rfl
    · rw [List.eq_of_mem_replicate hc]
      rfl
  gap_blank := by
    rintro c (_ | ⟨_, ⟨⟩⟩)
    rfl

section Print

variable (style : Style)

mutual

def print (depth : ℕ) : Value → Str
  | .null => str "null"
  | .bool true => str "true"
  | .bool false => str "false"
  | .number text => text
  | .string text => quote text
  | .array [] => str "[]"
  | .array (item :: items) =>
    '[' :: (style.newline (depth + 1) ++ (print (depth + 1) item ++
      (printItems (depth + 1) items ++ (style.newline depth ++ [']']))))
  | .object [] => ['\x7b', '\x7d']
  | .object ((key, value) :: fields) =>
    '\x7b' :: (style.newline (depth + 1) ++ (quote key ++ (':' :: (style.gap ++
      (print (depth + 1) value ++ (printFields (depth + 1) fields ++
        (style.newline depth ++ ['\x7d'])))))))

def printItems (depth : ℕ) : List Value → Str
  | [] => []
  | item :: items =>
    ',' :: (style.newline depth ++ (print depth item ++ printItems depth items))

def printFields (depth : ℕ) : List (Str × Value) → Str
  | [] => []
  | (key, value) :: fields =>
    ',' :: (style.newline depth ++ (quote key ++ (':' :: (style.gap ++ (print depth value ++
      printFields depth fields)))))

end

end Print

/-! ## The parser -/

mutual

def parseValue : ℕ → Str → Option (Value × Str)
  | 0, _ => none
  | fuel + 1, text =>
    match skipBlank text with
    | [] => none
    | c :: rest =>
      if c = '"' then (parseString rest).map fun parsed => (.string parsed.1, parsed.2)
      else if c = '[' then
        if (skipBlank rest).head? = some ']' then some (.array [], (skipBlank rest).tail)
        else do
          let (item, rest) ← parseValue fuel rest
          let (items, rest) ← parseItems fuel rest
          return (.array (item :: items), rest)
      else if c = '\x7b' then
        if (skipBlank rest).head? = some '\x7d' then some (.object [], (skipBlank rest).tail)
        else do
          let (field, rest) ← parseField fuel rest
          let (fields, rest) ← parseFields fuel rest
          return (.object (field :: fields), rest)
      else if c.isDigit ∨ c = '-' then
        some (.number ((c :: rest).takeWhile isNumberChar),
          (c :: rest).dropWhile isNumberChar)
      else if str "null" <+: c :: rest then some (.null, rest.drop 3)
      else if str "true" <+: c :: rest then some (.bool true, rest.drop 3)
      else if str "false" <+: c :: rest then some (.bool false, rest.drop 4)
      else none

def parseItems : ℕ → Str → Option (List Value × Str)
  | 0, _ => none
  | fuel + 1, text =>
    match skipBlank text with
    | ']' :: rest => some ([], rest)
    | ',' :: rest => do
      let (item, rest) ← parseValue fuel rest
      let (items, rest) ← parseItems fuel rest
      return (item :: items, rest)
    | _ => none

def parseField : ℕ → Str → Option ((Str × Value) × Str)
  | 0, _ => none
  | fuel + 1, text =>
    match skipBlank text with
    | '"' :: rest => do
      let (key, rest) ← parseString rest
      match skipBlank rest with
      | ':' :: rest => do
        let (value, rest) ← parseValue fuel rest
        return ((key, value), rest)
      | _ => none
    | _ => none

def parseFields : ℕ → Str → Option (List (Str × Value) × Str)
  | 0, _ => none
  | fuel + 1, text =>
    match skipBlank text with
    | '\x7d' :: rest => some ([], rest)
    | ',' :: rest => do
      let (field, rest) ← parseField fuel rest
      let (fields, rest) ← parseFields fuel rest
      return (field :: fields, rest)
    | _ => none

end

def parse (text : Str) : Option Value :=
  match parseValue (text.length + 1) text with
  | some (value, rest) => if skipBlank rest = [] then some value else none
  | none => none

/-! ## The parser reads what was printed -/

/-- A value whose numbers are texts of numbers. -/
inductive Proper : Value → Prop
  | null : Proper .null
  | bool (value : Bool) : Proper (.bool value)
  | number {c : Char} {text : Str} (hfirst : c.isDigit ∨ c = '-')
      (hnumber : ∀ d ∈ c :: text, isNumberChar d = true) : Proper (.number (c :: text))
  | string (text : Str) : Proper (.string text)
  | array {items : List Value} (hitems : ∀ item ∈ items, Proper item) : Proper (.array items)
  | object {fields : List (Str × Value)} (hfields : ∀ field ∈ fields, Proper field.2) :
      Proper (.object fields)

def Ends (text : Str) : Prop := ∀ c ∈ text.head?, isNumberChar c = false

theorem skipBlank_append {blanks : Str} (hblanks : ∀ c ∈ blanks, isBlank c = true) (text : Str) :
    skipBlank (blanks ++ text) = skipBlank text :=
  List.dropWhile_append_of_pos hblanks

theorem skipBlank_cons {c : Char} (hc : isBlank c = false) (text : Str) :
    skipBlank (c :: text) = c :: text :=
  List.dropWhile_cons_of_neg (by simp [hc])

theorem isNumberChar_of_isBlank {c : Char} (hc : isBlank c = true) : isNumberChar c = false := by
  simp only [isBlank, Bool.or_eq_true, decide_eq_true_eq] at hc
  rcases hc with ((rfl | rfl) | rfl) | rfl <;> rfl

theorem Ends.append {blanks text : Str} (hblanks : ∀ c ∈ blanks, isBlank c = true)
    (htext : Ends text) : Ends (blanks ++ text) := by
  cases blanks with
  | nil => exact htext
  | cons c blanks =>
    rintro d ⟨⟩
    exact isNumberChar_of_isBlank (hblanks _ List.mem_cons_self)

theorem isBlank_of_number {c : Char} (hc : c.isDigit ∨ c = '-') : isBlank c = false := by
  by_contra hblank
  rw [Bool.not_eq_false] at hblank
  simp only [isBlank, Bool.or_eq_true, decide_eq_true_eq] at hblank
  rcases hblank with ((rfl | rfl) | rfl) | rfl <;> simp at hc

section RoundTrip

variable {rest blanks : Str} {value : Value}

theorem parseValue_bracket (fuel : ℕ) (hrest : (skipBlank rest).head? ≠ some ']') :
    parseValue (fuel + 1) ('[' :: rest) = (do
      let (item, rest) ← parseValue fuel rest
      let (items, rest) ← parseItems fuel rest
      return (.array (item :: items), rest)) := by
  rw [parseValue, skipBlank_cons rfl]
  simp only [if_neg (show '[' ≠ '"' by decide), if_true, if_neg hrest]

theorem parseValue_brace (fuel : ℕ) (hrest : (skipBlank rest).head? ≠ some '\x7d') :
    parseValue (fuel + 1) ('\x7b' :: rest) = (do
      let (field, rest) ← parseField fuel rest
      let (fields, rest) ← parseFields fuel rest
      return (.object (field :: fields), rest)) := by
  rw [parseValue, skipBlank_cons rfl]
  simp only [if_neg (show '\x7b' ≠ '"' by decide), if_neg (show '\x7b' ≠ '[' by decide), if_true,
    if_neg hrest]

theorem parseItems_comma (fuel : ℕ) (rest : Str) :
    parseItems (fuel + 1) (',' :: rest) = (do
      let (item, rest) ← parseValue fuel rest
      let (items, rest) ← parseItems fuel rest
      return (item :: items, rest)) := by
  rw [parseItems, skipBlank_cons rfl]
  rfl

theorem parseFields_comma (fuel : ℕ) (rest : Str) :
    parseFields (fuel + 1) (',' :: rest) = (do
      let (field, rest) ← parseField fuel rest
      let (fields, rest) ← parseFields fuel rest
      return (field :: fields, rest)) := by
  rw [parseFields, skipBlank_cons rfl]
  rfl

variable (style : Style)

theorem exists_print_eq_cons (hvalue : Proper value) (depth : ℕ) :
    ∃ c text, print style depth value = c :: text ∧ isBlank c = false ∧ c ≠ ']' := by
  cases hvalue with
  | null => exact ⟨_, _, by rw [print]; rfl, rfl, by decide⟩
  | bool value => cases value <;> exact ⟨_, _, by rw [print]; rfl, rfl, by decide⟩
  | number hfirst _ =>
    refine ⟨_, _, by rw [print], isBlank_of_number hfirst, ?_⟩
    rintro rfl
    simp at hfirst
  | string text => exact ⟨_, _, by rw [print]; rfl, rfl, by decide⟩
  | @array items _ => cases items <;> exact ⟨'[', _, by simp only [print]; rfl, rfl, by decide⟩
  | @object fields _ =>
    cases fields <;> exact ⟨'\x7b', _, by simp only [print]; rfl, rfl, by decide⟩

/-- The value is read back wherever it is printed, with as much fuel as its text is long. -/
def ReadBack (value : Value) : Prop :=
  ∀ (depth fuel : ℕ) (rest : Str), (print style depth value).length ≤ fuel → Ends rest →
    parseValue (fuel + 1) (print style depth value ++ rest) = some (value, rest)

theorem parseValue_append (hblanks : ∀ c ∈ blanks, isBlank c = true) (fuel : ℕ) (text : Str) :
    parseValue fuel (blanks ++ text) = parseValue fuel text := by
  cases fuel with
  | zero => simp only [parseValue]
  | succ fuel => simp only [parseValue, skipBlank_append hblanks]

theorem parseItems_append (hblanks : ∀ c ∈ blanks, isBlank c = true) (fuel : ℕ) (text : Str) :
    parseItems fuel (blanks ++ text) = parseItems fuel text := by
  cases fuel with
  | zero => simp only [parseItems]
  | succ fuel => simp only [parseItems, skipBlank_append hblanks]

theorem parseField_append (hblanks : ∀ c ∈ blanks, isBlank c = true) (fuel : ℕ) (text : Str) :
    parseField fuel (blanks ++ text) = parseField fuel text := by
  cases fuel with
  | zero => simp only [parseField]
  | succ fuel => simp only [parseField, skipBlank_append hblanks]

theorem parseFields_append (hblanks : ∀ c ∈ blanks, isBlank c = true) (fuel : ℕ) (text : Str) :
    parseFields fuel (blanks ++ text) = parseFields fuel text := by
  cases fuel with
  | zero => simp only [parseFields]
  | succ fuel => simp only [parseFields, skipBlank_append hblanks]

theorem ends_printItems (depth : ℕ) (items : List Value) (hrest : Ends rest) :
    Ends (printItems style depth items ++ rest) := by
  cases items with
  | nil => rwa [printItems]
  | cons item items =>
    rw [printItems]
    rintro c ⟨⟩
    rfl

theorem ends_printFields (depth : ℕ) (fields : List (Str × Value)) (hrest : Ends rest) :
    Ends (printFields style depth fields ++ rest) := by
  cases fields with
  | nil => rwa [printFields]
  | cons field fields =>
    rw [printFields]
    rintro c ⟨⟩
    rfl

variable {style}

variable {items : List Value} {fuel : ℕ} {fields : List (Str × Value)}

theorem parseItems_print (hitems : ∀ item ∈ items, ReadBack style item) (depth outer : ℕ)
    (hfuel : (printItems style depth items).length ≤ fuel) (rest : Str) :
    parseItems (fuel + 1) (printItems style depth items ++ (style.newline outer ++ ']' :: rest)) =
      some (items, rest) := by
  induction items generalizing fuel with
  | nil =>
    rw [printItems, List.nil_append, parseItems_append (style.newline_blank outer), parseItems,
      skipBlank_cons rfl]
    rfl
  | cons item items ih =>
    rw [printItems, List.length_cons, List.length_append, List.length_append] at hfuel
    obtain ⟨fuel, rfl⟩ : ∃ k, fuel = k + 1 := ⟨fuel - 1, by omega⟩
    have hrest : Ends (style.newline outer ++ ']' :: rest) :=
      Ends.append (style.newline_blank outer) (by rintro c ⟨⟩; rfl)
    have hitem := hitems item List.mem_cons_self depth fuel _ (by omega)
      (ends_printItems style depth items hrest)
    have htail := ih (fun item hitem => hitems item (List.mem_cons_of_mem _ hitem))
      (show _ ≤ fuel by omega)
    rw [printItems, List.cons_append, parseItems_comma, List.append_assoc, List.append_assoc,
      parseValue_append (style.newline_blank depth), hitem]
    simp only [Option.bind_eq_bind, Option.bind_some, htail]
    rfl

theorem parseField_print (key : Str) (hvalue : ReadBack style value) (depth : ℕ)
    (hfuel : (print style depth value).length < fuel) (hrest : Ends rest) :
    parseField (fuel + 1) (quote key ++ (':' :: (style.gap ++ (print style depth value ++ rest)))) =
      some ((key, value), rest) := by
  obtain ⟨fuel, rfl⟩ : ∃ k, fuel = k + 1 := ⟨fuel - 1, by omega⟩
  have hread := hvalue depth fuel rest (by omega) hrest
  rw [parseField, quote, List.cons_append, List.cons_append, skipBlank_cons rfl,
    List.append_assoc, List.singleton_append]
  simp only [parseString_quote, Option.bind_eq_bind, Option.bind_some,
    skipBlank_cons (show isBlank ':' = false from rfl), parseValue_append style.gap_blank, hread]
  rfl

theorem parseFields_print (hfields : ∀ field ∈ fields, ReadBack style field.2) (depth outer : ℕ)
    (hfuel : (printFields style depth fields).length ≤ fuel) (rest : Str) :
    parseFields (fuel + 1)
        (printFields style depth fields ++ (style.newline outer ++ '\x7d' :: rest)) =
      some (fields, rest) := by
  induction fields generalizing fuel with
  | nil =>
    rw [printFields, List.nil_append, parseFields_append (style.newline_blank outer),
      parseFields, skipBlank_cons rfl]
    rfl
  | cons field fields ih =>
    obtain ⟨key, value⟩ := field
    simp only [printFields, List.length_cons, List.length_append, quote] at hfuel
    obtain ⟨fuel, rfl⟩ : ∃ k, fuel = k + 1 := ⟨fuel - 1, by omega⟩
    have hrest : Ends (style.newline outer ++ '\x7d' :: rest) :=
      Ends.append (style.newline_blank outer) (by rintro c ⟨⟩; rfl)
    have hvalue : ReadBack style value := hfields _ List.mem_cons_self
    have hfield := parseField_print key hvalue depth (show _ < fuel by omega)
      (ends_printFields style depth fields hrest)
    have htail := ih (fun field hfield => hfields field (List.mem_cons_of_mem _ hfield))
      (show _ ≤ fuel by omega)
    rw [printFields, List.cons_append, parseFields_comma]
    simp only [List.append_assoc, List.cons_append,
      parseField_append (style.newline_blank depth), hfield, Option.bind_eq_bind,
      Option.bind_some, htail]
    rfl

theorem readBack_number {c : Char} {text : Str} (hfirst : c.isDigit ∨ c = '-')
    (hnumber : ∀ d ∈ c :: text, isNumberChar d = true) : ReadBack style (.number (c :: text)) := by
  intro depth fuel rest _ hrest
  have hquote : c ≠ '"' := by
    rintro rfl
    simp at hfirst
  have hbracket : c ≠ '[' := by
    rintro rfl
    simp at hfirst
  have hbrace : c ≠ '\x7b' := by
    rintro rfl
    simp at hfirst
  have hnone : rest.takeWhile isNumberChar = [] ∧ rest.dropWhile isNumberChar = rest := by
    cases rest with
    | nil => exact ⟨rfl, rfl⟩
    | cons d rest =>
      have hd : isNumberChar d = false := hrest d rfl
      simp [hd]
  rw [print, parseValue, List.cons_append, skipBlank_cons (isBlank_of_number hfirst)]
  simp only [if_neg hquote, if_neg hbracket, if_neg hbrace, if_pos hfirst]
  rw [← List.cons_append, List.takeWhile_append_of_pos hnumber,
    List.dropWhile_append_of_pos hnumber, hnone.1, hnone.2, List.append_nil]

theorem readBack_array (hproper : ∀ item ∈ items, Proper item)
    (hitems : ∀ item ∈ items, ReadBack style item) : ReadBack style (.array items) := by
  intro depth fuel rest hfuel hrest
  cases items with
  | nil => rfl
  | cons item items =>
    simp only [print, List.length_cons, List.length_append, List.length_nil] at hfuel
    obtain ⟨fuel, rfl⟩ : ∃ k, fuel = k + 1 := ⟨fuel - 1, by omega⟩
    have hclose : Ends (style.newline depth ++ ']' :: rest) :=
      Ends.append (style.newline_blank depth) (by rintro c ⟨⟩; rfl)
    have hitem := hitems item List.mem_cons_self (depth + 1) fuel _ (by omega)
      (ends_printItems style (depth + 1) items hclose)
    have htail := parseItems_print (fun item hitem => hitems item (List.mem_cons_of_mem _ hitem))
      (depth + 1) depth (show _ ≤ fuel by omega) rest
    -- The first item does not begin with the closing bracket.
    obtain ⟨c, text, hprint, hblank, hc⟩ :=
      exists_print_eq_cons style (hproper item List.mem_cons_self) (depth + 1)
    have hhead : (skipBlank (style.newline (depth + 1) ++ (print style (depth + 1) item ++
        (printItems style (depth + 1) items ++ (style.newline depth ++ ']' :: rest))))).head? ≠
        some ']' := by
      rw [skipBlank_append (style.newline_blank (depth + 1)), hprint, List.cons_append,
        skipBlank_cons hblank]
      simpa using hc
    rw [print]
    simp only [List.cons_append, List.append_assoc, List.nil_append]
    rw [parseValue_bracket _ hhead, parseValue_append (style.newline_blank (depth + 1)), hitem]
    simp only [Option.bind_eq_bind, Option.bind_some, htail]
    rfl

theorem readBack_object (hfields : ∀ field ∈ fields, ReadBack style field.2) :
    ReadBack style (.object fields) := by
  intro depth fuel rest hfuel hrest
  cases fields with
  | nil => rfl
  | cons field fields =>
    obtain ⟨key, value⟩ := field
    simp only [print, List.length_cons, List.length_append, List.length_nil, quote] at hfuel
    obtain ⟨fuel, rfl⟩ : ∃ k, fuel = k + 1 := ⟨fuel - 1, by omega⟩
    have hclose : Ends (style.newline depth ++ '\x7d' :: rest) :=
      Ends.append (style.newline_blank depth) (by rintro c ⟨⟩; rfl)
    have hvalue : ReadBack style value := hfields _ List.mem_cons_self
    have hfield := parseField_print key hvalue (depth + 1) (show _ < fuel by omega)
      (ends_printFields style (depth + 1) fields hclose)
    have htail := parseFields_print
      (fun field hfield => hfields field (List.mem_cons_of_mem _ hfield))
      (depth + 1) depth (show _ ≤ fuel by omega) rest
    have hhead : (skipBlank (style.newline (depth + 1) ++ (quote key ++ (':' :: (style.gap ++
        (print style (depth + 1) value ++ (printFields style (depth + 1) fields ++
          (style.newline depth ++ '\x7d' :: rest)))))))).head? ≠ some '\x7d' := by
      rw [skipBlank_append (style.newline_blank (depth + 1)), quote, List.cons_append,
        List.cons_append, skipBlank_cons rfl, List.head?_cons]
      decide
    rw [print]
    simp only [List.cons_append, List.append_assoc, List.nil_append]
    rw [parseValue_brace _ hhead, parseField_append (style.newline_blank (depth + 1)), hfield]
    simp only [Option.bind_eq_bind, Option.bind_some, htail]
    rfl

theorem readBack_of_proper (hvalue : Proper value) : ReadBack style value := by
  induction hvalue with
  | null =>
    intro depth fuel rest _ _
    rfl
  | bool value => cases value <;> exact fun _ _ _ _ _ => rfl
  | number hfirst hnumber => exact readBack_number hfirst hnumber
  | string text =>
    intro depth fuel rest _ _
    rw [print, quote, parseValue, List.cons_append, List.cons_append, skipBlank_cons rfl,
      List.append_assoc, List.singleton_append]
    simp only [if_true, parseString_quote, Option.map_some]
  | array hproper ih => exact readBack_array hproper ih
  | object _ ih => exact readBack_object ih

theorem parse_print (hvalue : Proper value) (depth : ℕ) :
    parse (print style depth value) = some value := by
  have hread := (readBack_of_proper hvalue : ReadBack style value) depth
    (print style depth value).length [] le_rfl (by rintro c ⟨⟩)
  rw [List.append_nil] at hread
  simp only [parse, hread]
  rfl

end RoundTrip

/-! ## The size of a pretty text -/

section Size

open Text

theorem len_cons {c : Char} (hc : c.utf8Size = 1) (s : Str) : len (c :: s) = 1 + len s := by
  simp [len, hc]

theorem len_newline (depth : ℕ) : len (Style.pretty.newline depth) = 2 * depth + 1 := by
  have hblanks : len (List.replicate (2 * depth) ' ') = 2 * depth := by
    rw [len, List.map_replicate, List.sum_replicate]
    exact Nat.mul_one _
  rw [Style.pretty, len_cons rfl, hblanks, Nat.add_comm]

theorem len_printItems (depth : ℕ) (items : List Value) :
    len (printItems .pretty depth items) =
      (items.map fun item => 2 * depth + 2 + len (print .pretty depth item)).sum := by
  induction items with
  | nil =>
    rw [printItems]
    rfl
  | cons item items ih =>
    rw [printItems, len_cons rfl, len_append, len_append, len_newline, ih, List.map_cons,
      List.sum_cons]
    omega

theorem len_printFields (depth : ℕ) (fields : List (Str × Value)) :
    len (printFields .pretty depth fields) =
      (fields.map fun field =>
        2 * depth + 4 + len (quote field.1) + len (print .pretty depth field.2)).sum := by
  induction fields with
  | nil =>
    rw [printFields]
    rfl
  | cons field fields ih =>
    have hgap : len Style.pretty.gap = 1 := rfl
    rw [printFields, len_cons rfl, len_append, len_append, len_cons rfl, len_append, len_append,
      len_newline, hgap, ih, List.map_cons, List.sum_cons]
    omega

theorem len_print_array {items : List Value} (hitems : items ≠ []) (depth : ℕ) :
    len (print .pretty depth (.array items)) = 2 * depth + 2 +
      (items.map fun item => 2 * depth + 4 + len (print .pretty (depth + 1) item)).sum := by
  obtain ⟨item, items, rfl⟩ := List.exists_cons_of_ne_nil hitems
  have hclose : len [']'] = 1 := rfl
  have hdepth : 2 * (depth + 1) + 2 = 2 * depth + 4 := by omega
  rw [print, len_cons rfl, len_append, len_append, len_append, len_append, len_newline,
    len_newline, len_printItems, hdepth, hclose, List.map_cons, List.sum_cons]
  omega

theorem len_print_object {fields : List (Str × Value)} (hfields : fields ≠ []) (depth : ℕ) :
    len (print .pretty depth (.object fields)) = 2 * depth + 2 +
      (fields.map fun field =>
        2 * depth + 6 + len (quote field.1) + len (print .pretty (depth + 1) field.2)).sum := by
  obtain ⟨field, fields, rfl⟩ := List.exists_cons_of_ne_nil hfields
  have hgap : len Style.pretty.gap = 1 := rfl
  have hclose : len ['\x7d'] = 1 := rfl
  have hdepth : 2 * (depth + 1) + 4 = 2 * depth + 6 := by omega
  rw [print, len_cons rfl, len_append, len_append, len_cons rfl, len_append, len_append,
    len_append, len_append, len_newline, len_newline, len_printFields, hdepth, hgap, hclose,
    List.map_cons, List.sum_cons]
  omega

end Size

/-! ## Arrays of strings, and arrays of records -/

def Value.asStrings : Value → Option (List Str)
  | .array items => items.mapM Value.asStr
  | _ => none

def Value.asStrItems : Value → Option (List (Option Str))
  | .array items => some (items.map Value.asStr)
  | _ => none

theorem asStrings_strings (entries : List Str) :
    (Value.array (entries.map .string)).asStrings = some entries := by
  rw [Value.asStrings, List.mapM_map]
  induction entries with
  | nil => rfl
  | cons entry entries ih =>
    rw [List.mapM_cons, ih]
    rfl

theorem proper_strings (entries : List Str) : Proper (.array (entries.map .string)) := by
  refine .array fun item hitem => ?_
  obtain ⟨entry, _, rfl⟩ := List.mem_map.mp hitem
  exact .string entry

/-- A value without parts that is not a number. -/
def Value.isScalar : Value → Bool
  | .null | .bool _ | .string _ => true
  | .number _ | .array _ | .object _ => false

/-- The fields of a flat object, in the order of a `serde_json::Map`. -/
structure IsRecord (fields : List (Str × Value)) : Prop where
  sorted : (fields.map Prod.fst).Pairwise (· < ·)
  scalars : ∀ field ∈ fields, field.2.isScalar = true

theorem Proper.of_isScalar {value : Value} (hscalar : value.isScalar = true) : Proper value := by
  cases value with
  | null => exact .null
  | bool value => exact .bool value
  | string text => exact .string text
  | number _ => cases hscalar
  | array _ => cases hscalar
  | object _ => cases hscalar

theorem proper_records {records : List (List (Str × Value))}
    (hrecords : ∀ record ∈ records, IsRecord record) : Proper (.array (records.map .object)) := by
  refine .array fun item hitem => ?_
  obtain ⟨record, hrecord, rfl⟩ := List.mem_map.mp hitem
  exact .object fun field hfield => .of_isScalar ((hrecords record hrecord).scalars field hfield)

theorem print_array (style : Style) (depth : ℕ) (items : List Value) :
    ∃ body, print style depth (.array items) = '[' :: (body ++ [']']) := by
  cases items with
  | nil => exact ⟨[], by rw [print]; rfl⟩
  | cons item items =>
    refine ⟨style.newline (depth + 1) ++ (print style (depth + 1) item ++
      (printItems style (depth + 1) items ++ style.newline depth)), ?_⟩
    rw [print]
    simp only [List.append_assoc]

end Json

/-- The pretty printer: `serde_json::to_string_pretty` on a value, which does not fail. -/
class SerdeJsonPretty where
  toStringPretty : Json.Value → Str

open SerdeJson SerdeJsonPretty

/-- What is relied on about `serde_json`: an array of strings is read back from its text. -/
class LawfulSerdeJson [SerdeJson] : Prop where
  stringVec_toStr : ∀ entries : List Str,
    stringVec (toStr (.array (entries.map .string))) = some entries

/-- What is relied on about the pretty printer: an array of records is printed in the pretty
style, and read back from that text. -/
class LawfulSerdeJsonPretty [SerdeJson] [SerdeJsonPretty] : Prop where
  toStringPretty_records : ∀ {records : List (List (Str × Json.Value))},
    (∀ record ∈ records, Json.IsRecord record) →
      toStringPretty (.array (records.map .object)) =
        Json.print .pretty 0 (.array (records.map .object))
  fromStr_records : ∀ {records : List (List (Str × Json.Value))},
    (∀ record ∈ records, Json.IsRecord record) →
      fromStr (Json.print .pretty 0 (.array (records.map .object))) =
        .ok (.array (records.map .object))

@[reducible] def SerdeJson.standard : SerdeJson where
  fromStr := fun text =>
    match Json.parse text with
    | some value => .ok value
    | none => .error (str "expected value")
  toStr := Json.print .compact 0
  stringVec := fun text => (Json.parse text).bind Json.Value.asStrings
  valueVec := fun text => (Json.parse text).bind Json.Value.asStrItems

@[reducible] def SerdeJsonPretty.standard : SerdeJsonPretty where
  toStringPretty := Json.print .pretty 0

theorem LawfulSerdeJson.standard : @LawfulSerdeJson SerdeJson.standard := by
  refine @LawfulSerdeJson.mk SerdeJson.standard fun entries => ?_
  change (Json.parse (Json.print .compact 0 _)).bind Json.Value.asStrings = _
  rw [Json.parse_print (Json.proper_strings entries), Option.bind_some, Json.asStrings_strings]

theorem LawfulSerdeJsonPretty.standard :
    @LawfulSerdeJsonPretty SerdeJson.standard SerdeJsonPretty.standard := by
  refine @LawfulSerdeJsonPretty.mk SerdeJson.standard SerdeJsonPretty.standard (fun _ => rfl)
    fun hrecords => ?_
  change (match Json.parse (Json.print .pretty 0 _) with
    | some value => Except.ok value
    | none => Except.error (str "expected value")) = _
  rw [Json.parse_print (Json.proper_records hrecords)]

end RustDns
