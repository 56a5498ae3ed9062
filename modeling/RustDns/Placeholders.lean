import RustDns.Decimal

/-!
# Placeholders in SQL texts

A statement is often put together with question marks where its values go, which are then
numbered as `$1`, `$2` and so on.  A text is well formed for `k` values if outside of string
literals no question mark is left and the placeholders are `$1` to `$k`, in this order.

`isFragment` is what can be seen of each part of a text by itself.  Fragments can be put together,
and numbering makes the whole well formed (`wellFormed_number`), also row by row
(`RowTemplate.wellFormed_sql`).
-/

namespace Placeholders

def outsideLiterals (inside : Bool) : List Char → List Char
  | [] => []
  | c :: rest =>
    if c = '\'' then outsideLiterals (!inside) rest
    else if inside then outsideLiterals inside rest
    else c :: outsideLiterals inside rest

def placeholders : List Char → List (List Char)
  | [] => []
  | c :: rest =>
    if c = '$' then rest.takeWhile Char.isDigit :: placeholders rest else placeholders rest

/-- The question marks are numbered, beginning after `n`. -/
def number (n : ℕ) : List Char → List Char
  | [] => []
  | c :: rest =>
    if c = '?' then '$' :: (Decimal.showNat (n + 1) ++ number (n + 1) rest)
    else c :: number n rest

/-- No question mark is left, and the placeholders are those of `count` values. -/
structure WellFormed (sql : List Char) (count : ℕ) : Prop where
  no_mark : '?' ∉ outsideLiterals false sql
  numbered : placeholders (outsideLiterals false sql) =
    (List.range' 1 count).map Decimal.showNat

/-! ## Fragments -/

def beginsPlain (text : List Char) : Bool := text.head?.all (! ·.isDigit)

/-- The text has no placeholder and no literal, and no digit follows a question mark. -/
def isTemplate : List Char → Bool
  | [] => true
  | c :: rest => c ≠ '$' && c ≠ '\'' && (c ≠ '?' || beginsPlain rest) && isTemplate rest

def isFragment (text : List Char) : Bool := beginsPlain text && isTemplate text

def IsPlain (text : List Char) : Prop := isFragment text = true ∧ '?' ∉ text

instance decidableIsPlain (text : List Char) : Decidable (IsPlain text) :=
  inferInstanceAs (Decidable (isFragment text = true ∧ '?' ∉ text))

section Fragments

variable {first second text : List Char}

variable {c : Char} {parts : List (List Char)}

theorem isTemplate_cons {rest : List Char} :
    isTemplate (c :: rest) = true ↔
      c ≠ '$' ∧ c ≠ '\'' ∧ (c = '?' → beginsPlain rest = true) ∧ isTemplate rest = true := by
  simp [isTemplate, and_assoc, imp_iff_not_or]

theorem beginsPlain_append (hfirst : beginsPlain first = true)
    (hsecond : beginsPlain second = true) : beginsPlain (first ++ second) = true := by
  cases first with
  | nil => exact hsecond
  | cons c rest => exact hfirst

theorem isTemplate_append (hfirst : isTemplate first = true) (hsecond : isFragment second = true) :
    isTemplate (first ++ second) = true := by
  obtain ⟨hplain, htemplate⟩ := (Bool.and_eq_true _ _).mp hsecond
  induction first with
  | nil => exact htemplate
  | cons c rest ih =>
    obtain ⟨hdollar, hquote, hmark, hrest⟩ := isTemplate_cons.mp hfirst
    exact isTemplate_cons.mpr
      ⟨hdollar, hquote, fun hc => beginsPlain_append (hmark hc) hplain, ih hrest⟩

theorem isFragment_append (hfirst : isFragment first = true) (hsecond : isFragment second = true) :
    isFragment (first ++ second) = true := by
  obtain ⟨hplain, htemplate⟩ := (Bool.and_eq_true _ _).mp hfirst
  obtain ⟨hplain', -⟩ := (Bool.and_eq_true _ _).mp hsecond
  exact (Bool.and_eq_true _ _).mpr
    ⟨beginsPlain_append hplain hplain', isTemplate_append htemplate hsecond⟩

theorem isFragment_intercalate (hfirst : isFragment first = true)
    (hparts : ∀ part ∈ parts, isFragment part = true) :
    isFragment (first.intercalate parts) = true := by
  induction parts with
  | nil => rfl
  | cons part rest ih =>
    obtain ⟨hpart, hrest⟩ := List.forall_mem_cons.mp hparts
    cases rest with
    | nil => simpa [List.intercalate] using hpart
    | cons next rest =>
      rw [List.intercalate_cons_cons]
      exact isFragment_append (isFragment_append hpart hfirst) (ih hrest)

theorem IsPlain.append (hfirst : IsPlain first) (hsecond : IsPlain second) :
    IsPlain (first ++ second) :=
  ⟨isFragment_append hfirst.1 hsecond.1, List.mem_append.not.mpr (not_or.mpr ⟨hfirst.2, hsecond.2⟩)⟩

theorem IsPlain.count (hfirst : IsPlain first) : first.count '?' = 0 :=
  List.count_eq_zero_of_not_mem hfirst.2

theorem count_intercalate (hfirst : c ∉ first) :
    (first.intercalate parts).count c = (parts.map (List.count c)).sum := by
  induction parts with
  | nil => rfl
  | cons part rest ih =>
    cases rest with
    | nil => simp [List.intercalate]
    | cons next rest =>
      rw [List.intercalate_cons_cons, List.count_append, List.count_append,
        List.count_eq_zero_of_not_mem hfirst, ih]
      simp

theorem isPlain_intercalate (hfirst : IsPlain first) (hparts : ∀ part ∈ parts, IsPlain part) :
    IsPlain (first.intercalate parts) := by
  refine ⟨isFragment_intercalate hfirst.1 fun part hpart => (hparts part hpart).1, ?_⟩
  rw [← List.count_eq_zero, count_intercalate hfirst.2, List.sum_eq_zero_iff]
  intro count hcount
  obtain ⟨part, hpart, rfl⟩ := List.mem_map.mp hcount
  exact (hparts part hpart).count

end Fragments

/-! ## Numbering -/

section Numbering

variable {text : List Char}

theorem not_mem_of_isTemplate (htext : isTemplate text = true) : '$' ∉ text ∧ '\'' ∉ text := by
  induction text with
  | nil => exact ⟨List.not_mem_nil, List.not_mem_nil⟩
  | cons c rest ih =>
    obtain ⟨hdollar, hquote, -, hrest⟩ := isTemplate_cons.mp htext
    obtain ⟨hdollars, hquotes⟩ := ih hrest
    exact ⟨List.mem_cons.not.mpr (not_or.mpr ⟨hdollar.symm, hdollars⟩),
      List.mem_cons.not.mpr (not_or.mpr ⟨hquote.symm, hquotes⟩)⟩

theorem outsideLiterals_eq_self (hquote : '\'' ∉ text) : outsideLiterals false text = text := by
  induction text with
  | nil => rfl
  | cons c rest ih =>
    obtain ⟨hc, hrest⟩ := not_or.mp (List.mem_cons.not.mp hquote)
    rw [outsideLiterals, if_neg (Ne.symm hc), if_neg (by decide), ih hrest]

theorem placeholders_eq_nil (hdollar : '$' ∉ text) : placeholders text = [] := by
  induction text with
  | nil => rfl
  | cons c rest ih =>
    obtain ⟨hc, hrest⟩ := not_or.mp (List.mem_cons.not.mp hdollar)
    rw [placeholders, if_neg (Ne.symm hc), ih hrest]

theorem placeholders_append {digits : List Char} (hdigits : '$' ∉ digits) (rest : List Char) :
    placeholders (digits ++ rest) = placeholders rest := by
  induction digits with
  | nil => rfl
  | cons c digits ih =>
    obtain ⟨hc, hdigits⟩ := not_or.mp (List.mem_cons.not.mp hdigits)
    rw [List.cons_append, placeholders, if_neg (Ne.symm hc), ih hdigits]

theorem mem_number {n : ℕ} {c : Char} (hc : c ∈ number n text) :
    c ∈ text ∧ c ≠ '?' ∨ c = '$' ∨ c.isDigit = true := by
  induction text generalizing n with
  | nil => cases hc
  | cons d rest ih =>
    rw [number] at hc
    split_ifs at hc with hd
    · rcases List.mem_cons.mp hc with hc | hc
      · exact Or.inr (Or.inl hc)
      rcases List.mem_append.mp hc with hc | hc
      · exact Or.inr (Or.inr (Decimal.isDigit_of_mem_showNat hc))
      · exact (ih hc).imp_left fun h => ⟨List.mem_cons_of_mem _ h.1, h.2⟩
    · rcases List.mem_cons.mp hc with rfl | hc
      · exact Or.inl ⟨List.mem_cons_self, hd⟩
      · exact (ih hc).imp_left fun h => ⟨List.mem_cons_of_mem _ h.1, h.2⟩

theorem number_append {first : List Char} (hfirst : '?' ∉ first) (n : ℕ) (second : List Char) :
    number n (first ++ second) = first ++ number n second := by
  induction first with
  | nil => rfl
  | cons c rest ih =>
    obtain ⟨hc, hrest⟩ := not_or.mp (List.mem_cons.not.mp hfirst)
    rw [List.cons_append, number, if_neg (Ne.symm hc), ih hrest, List.cons_append]

theorem number_eq_self {first : List Char} (hfirst : '?' ∉ first) (n : ℕ) :
    number n first = first := by
  have happend := number_append hfirst n []
  rwa [List.append_nil, number, List.append_nil] at happend

theorem notMem_showNat (n : ℕ) : '?' ∉ Decimal.showNat n := fun hmem =>
  absurd (Decimal.isDigit_of_mem_showNat hmem) (by decide)

theorem number_first {before : List Char} (hbefore : '?' ∉ before) (n : ℕ) (after : List Char) :
    number (n + 1) (before ++ '$' :: Decimal.showNat (n + 1) ++ after) =
      number n (before ++ '?' :: after) := by
  have hnew : '?' ∉ before ++ '$' :: Decimal.showNat (n + 1) := by
    rw [List.mem_append, List.mem_cons, not_or, not_or]
    exact ⟨hbefore, by decide, notMem_showNat _⟩
  rw [number_append hnew, number_append hbefore, number, if_pos rfl, List.append_assoc,
    List.cons_append]

theorem count_first (before : List Char) (n : ℕ) (after : List Char) :
    (before ++ '$' :: Decimal.showNat n ++ after).count '?' + 1 =
      (before ++ '?' :: after).count '?' := by
  simp [List.count_eq_zero_of_not_mem (notMem_showNat n), Nat.add_assoc]

/-- Every question mark is replaced by its number, which is how many there are up to it. -/
theorem number_eq_flatten (n : ℕ) (text : List Char) :
    number n text =
      (text.mapIdx fun i c =>
        if c = '?' then '$' :: Decimal.showNat (n + (text.take (i + 1)).count '?')
        else [c]).flatten := by
  induction text generalizing n with
  | nil => rfl
  | cons c rest ih =>
    rw [number, List.mapIdx_cons, List.flatten_cons]
    split_ifs with hc
    · have hshift : ∀ i, n + ((c :: rest).take (i + 1 + 1)).count '?' =
          n + 1 + (rest.take (i + 1)).count '?' := by
        intro i
        rw [List.take_succ_cons, hc, List.count_cons_self]
        omega
      simp only [hshift, ih (n + 1)]
      simp [hc]
    · rw [ih n]
      simp [hc]

theorem takeWhile_number (n m : ℕ) (hplain : beginsPlain text = true) :
    (Decimal.showNat m ++ number n text).takeWhile Char.isDigit = Decimal.showNat m := by
  rw [List.takeWhile_append_of_pos fun _ => Decimal.isDigit_of_mem_showNat]
  refine List.append_right_eq_self.mpr ?_
  cases text with
  | nil => rfl
  | cons c rest =>
    rw [number]
    split_ifs
    · rfl
    · have hc : c.isDigit = false := by simpa [beginsPlain] using hplain
      simp [hc]

theorem placeholders_number (n : ℕ) (htext : isTemplate text = true) :
    placeholders (number n text) = (List.range' (n + 1) (text.count '?')).map Decimal.showNat := by
  induction text generalizing n with
  | nil => rfl
  | cons c rest ih =>
    obtain ⟨hdollar, -, hmark, hrest⟩ := isTemplate_cons.mp htext
    rw [number]
    split_ifs with hc
    · have hdigits : '$' ∉ Decimal.showNat (n + 1) := fun hmem =>
        absurd (Decimal.isDigit_of_mem_showNat hmem) (by decide)
      rw [placeholders, if_pos rfl, takeWhile_number _ _ (hmark hc),
        placeholders_append hdigits, ih _ hrest, hc, List.count_cons_self,
        List.range'_succ, List.map_cons]
    · rw [placeholders, if_neg hdollar, ih _ hrest, List.count_cons_of_ne hc]

theorem wellFormed_number (htext : isTemplate text = true) :
    WellFormed (number 0 text) (text.count '?') := by
  obtain ⟨-, hquote⟩ := not_mem_of_isTemplate htext
  have hquote' : '\'' ∉ number 0 text := by
    intro hmem
    rcases mem_number hmem with ⟨hmem, -⟩ | hmem | hmem
    · exact hquote hmem
    · exact absurd hmem (by decide)
    · exact absurd hmem (by decide)
  refine ⟨?_, ?_⟩
  · rw [outsideLiterals_eq_self hquote']
    intro hmem
    rcases mem_number hmem with ⟨-, hne⟩ | hmem | hmem
    · exact hne rfl
    · exact absurd hmem (by decide)
    · exact absurd hmem (by decide)
  · rw [outsideLiterals_eq_self hquote', placeholders_number 0 htext]

theorem number_append_count (n : ℕ) (first second : List Char) :
    number n (first ++ second) = number n first ++ number (n + first.count '?') second := by
  induction first generalizing n with
  | nil => rfl
  | cons c rest ih =>
    rw [List.cons_append, number, number]
    split_ifs with hc
    · rw [ih, hc, List.count_cons_self, List.cons_append, List.append_assoc, Nat.add_assoc,
        Nat.add_comm 1]
    · rw [ih, List.count_cons_of_ne hc, List.cons_append]

theorem number_intercalate_replicate {separator : List Char} (hseparator : '?' ∉ separator)
    (template : List Char) (n times : ℕ) :
    number n (separator.intercalate (List.replicate times template)) = separator.intercalate
        ((List.range times).map fun i => number (n + i * template.count '?') template) := by
  induction times generalizing n with
  | zero => rfl
  | succ times ih =>
    have hshift : ∀ i, n + (i + 1) * template.count '?' =
        n + template.count '?' + i * template.count '?' := by
      intro i
      rw [Nat.add_mul, Nat.one_mul]
      omega
    rw [List.range_succ_eq_map, List.map_cons, List.map_map, List.replicate_succ]
    cases times with
    | zero => simp
    | succ times =>
      rw [List.replicate_succ, List.intercalate_cons_cons, ← List.replicate_succ,
        number_append_count, number_append_count, number_eq_self hseparator, List.count_append,
        List.count_eq_zero_of_not_mem hseparator, Nat.add_zero, ih]
      simp only [Function.comp_def, hshift, Nat.succ_eq_add_one, Nat.zero_mul, Nat.add_zero]
      rw [List.range_succ_eq_map, List.map_cons, List.intercalate_cons_cons]
theorem wellFormed_iff_not_mem (htext : isTemplate text = true) :
    WellFormed text (text.count '?') ↔ '?' ∉ text := by
  obtain ⟨hdollar, hquote⟩ := not_mem_of_isTemplate htext
  constructor
  · intro hwell
    have hmark := hwell.no_mark
    rwa [outsideLiterals_eq_self hquote] at hmark
  · intro hmark
    refine ⟨by rwa [outsideLiterals_eq_self hquote], ?_⟩
    rw [outsideLiterals_eq_self hquote, placeholders_eq_nil hdollar,
      List.count_eq_zero_of_not_mem hmark]
    rfl

end Numbering

/-! ## Rows -/

/-- A text with rows of placeholders: a template for one row with so many question marks, and what
stands before, between and behind the rows. -/
structure RowTemplate (fields : ℕ) where
  header : List Char
  row : List Char
  separator : List Char
  footer : List Char
  plain_header : IsPlain header
  isFragment_row : isFragment row = true
  plain_separator : IsPlain separator
  plain_footer : IsPlain footer
  count_row : row.count '?' = fields

/-- The text for so many rows, each numbered after those before it. -/
def RowTemplate.sql {fields : ℕ} (template : RowTemplate fields) (rows : ℕ) : List Char :=
  template.header ++
    template.separator.intercalate
      ((List.range rows).map fun i => number (i * fields) template.row) ++
    template.footer

theorem RowTemplate.wellFormed_sql {fields : ℕ} (template : RowTemplate fields) (rows : ℕ) :
    WellFormed (template.sql rows) (rows * fields) := by
  obtain ⟨header, row, separator, footer, hheader, hrow, hseparator, hfooter, rfl⟩ := template
  have hrows : isFragment (separator.intercalate (List.replicate rows row)) = true :=
    isFragment_intercalate hseparator.1 fun part hpart => (List.eq_of_mem_replicate hpart) ▸ hrow
  have hcount : (separator.intercalate (List.replicate rows row)).count '?' =
      rows * row.count '?' := by
    rw [count_intercalate hseparator.2, List.map_replicate, List.sum_replicate, smul_eq_mul]
  have htext := isFragment_append (isFragment_append hheader.1 hrows) hfooter.1
  have hwell := wellFormed_number ((Bool.and_eq_true _ _).mp htext).2
  rw [number_append_count, number_append_count, number_eq_self hheader.2,
    number_eq_self hfooter.2, hheader.count, Nat.add_zero,
    number_intercalate_replicate hseparator.2, List.count_append, List.count_append, hheader.count,
    hfooter.count, hcount] at hwell
  simpa [RowTemplate.sql] using hwell

end Placeholders
