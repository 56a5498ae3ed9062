import Mathlib

/-!
# Comma-separated values

A reader for records with quoted fields, with a line feed alone or after a carriage return as the
end of a record.  The grammar has no carriage return in a field without quotes; readers that follow
it differ in what they do with one that no line feed comes after, so there are two dialects.

A writer chooses which fields it puts into quotes, and must do so for those with a comma, a quote
or a line feed.  `read_file_iff` says which records are read back from the file of such a writer:
those whose fields without quotes have no carriage return where it is refused or taken as part of
the end of the record.
-/

namespace Csv

/-! ## The reader -/

/-- What a carriage return is, in a field without quotes and without a line feed after it: an
error, or a character like others. -/
inductive Dialect where
  | strict
  | lenient
deriving DecidableEq

inductive Place where
  | start
  | plain
  | quoted
  /-- After a quote that ends the field, if no other quote comes after it. -/
  | closed
  /-- After a carriage return behind a field, which had quotes or not. -/
  | returned (quotes : Bool)
deriving DecidableEq

/-- What has been read: the records that are complete, and of the next one the complete fields and
the characters of the field at which the reader is. -/
structure Reading where
  records : List (List (List Char))
  fields : List (List Char)
  field : List Char
  place : Place

namespace Reading

def push (reading : Reading) (c : Char) (place : Place) : Reading :=
  { reading with field := reading.field ++ [c], place := place }

def atField (records : List (List (List Char))) (fields : List (List Char)) : Reading :=
  ⟨records, fields, [], .start⟩

def endField (reading : Reading) : Reading :=
  atField reading.records (reading.fields ++ [reading.field])

def endRecord (reading : Reading) : Reading :=
  atField (reading.records ++ [reading.fields ++ [reading.field]]) []

def plainStep (reading : Reading) (c : Char) : Reading :=
  if c = ',' then reading.endField
  else if c = '\n' then reading.endRecord
  else if c = '\r' then { reading with place := .returned false }
  else reading.push c .plain

def step (dialect : Dialect) (reading : Reading) (c : Char) : Option Reading :=
  match reading.place with
  | .start => if c = '"' then some { reading with place := .quoted } else some (reading.plainStep c)
  | .plain => if c = '"' then none else some (reading.plainStep c)
  | .quoted =>
    if c = '"' then some { reading with place := .closed } else some (reading.push c .quoted)
  | .closed =>
    if c = '"' then some (reading.push '"' .quoted)
    else if c = ',' then some reading.endField
    else if c = '\n' then some reading.endRecord
    else if c = '\r' then some { reading with place := .returned true }
    else none
  | .returned quotes =>
    if c = '\n' then some reading.endRecord
    else if dialect = .lenient ∧ quotes = false ∧ c ≠ '"' then
      some ((reading.push '\r' .plain).plainStep c)
    else none

def run (dialect : Dialect) (text : List Char) (reading : Reading) : Option Reading :=
  text.foldlM (step dialect) reading

/-- The records at the end of the text; the last one need not have an end of its own. -/
def finish (dialect : Dialect) (reading : Reading) : Option (List (List (List Char))) :=
  match reading.place with
  | .start => some (if reading.fields = [] then reading.records else reading.endRecord.records)
  | .plain | .closed => some reading.endRecord.records
  | .quoted => none
  | .returned quotes =>
    if dialect = .lenient ∧ quotes = false then
      some (reading.push '\r' .plain).endRecord.records
    else none

end Reading

open Reading

def read (dialect : Dialect) (text : List Char) : Option (List (List (List Char))) :=
  (run dialect text (atField [] [])).bind (finish dialect)

/-! ## Runs of the reader -/

variable {dialect : Dialect} {reading next : Reading} {records : List (List (List Char))}
  {fields : List (List Char)} {c : Char} {s : List Char}

theorem run_nil : run dialect [] reading = some reading := rfl

theorem run_cons (text : List Char) :
    run dialect (c :: text) reading = (step dialect reading c).bind (run dialect text) :=
  List.foldlM_cons

theorem run_append (front back : List Char) :
    run dialect (front ++ back) reading = (run dialect front reading).bind (run dialect back) :=
  List.foldlM_append

theorem run_singleton : run dialect [c] reading = step dialect reading c := by
  rw [run_cons]
  cases step dialect reading c <;> rfl

theorem records_prefix_plainStep (reading : Reading) (c : Char) :
    reading.records <+: (reading.plainStep c).records := by
  unfold plainStep
  split_ifs
  · exact List.prefix_rfl
  · exact List.prefix_append _ _
  · exact List.prefix_rfl
  · exact List.prefix_rfl

theorem records_prefix_of_step (hstep : step dialect reading c = some next) :
    reading.records <+: next.records := by
  unfold step at hstep
  split at hstep <;> split_ifs at hstep <;> cases hstep
  all_goals first
    | exact List.prefix_rfl
    | exact List.prefix_append _ _
    | exact records_prefix_plainStep reading c
    | exact records_prefix_plainStep (reading.push '\r' .plain) c

theorem records_prefix_of_run {text : List Char} (hrun : run dialect text reading = some next) :
    reading.records <+: next.records := by
  induction text generalizing reading with
  | nil =>
    obtain rfl : reading = next := Option.some.inj hrun
    exact List.prefix_rfl
  | cons c text ih =>
    rw [run_cons, Option.bind_eq_some_iff] at hrun
    obtain ⟨middle, hstep, hrun⟩ := hrun
    exact (records_prefix_of_step hstep).trans (ih hrun)

theorem records_prefix_of_finish (hfinish : finish dialect reading = some records) :
    reading.records <+: records := by
  unfold finish at hfinish
  split at hfinish
  all_goals try split_ifs at hfinish
  all_goals cases hfinish
  all_goals first
    | exact List.prefix_rfl
    | exact List.prefix_append _ _

/-! ## The writer -/

structure Writer where
  quotes : List Char → Bool
  not_special : ∀ {s c}, quotes s = false → c ∈ s → c ≠ ',' ∧ c ≠ '"' ∧ c ≠ '\n'

def doubled (s : List Char) : List Char := s.flatMap fun c => if c = '"' then ['"', '"'] else [c]

namespace Writer

variable (writer : Writer)

def field (s : List Char) : List Char :=
  if writer.quotes s then '"' :: (doubled s ++ ['"']) else s

def line (row : List (List Char)) : List Char :=
  [','].intercalate (row.map writer.field) ++ ['\n']

def file (rows : List (List (List Char))) : List Char := rows.flatMap writer.line

def Legible : Dialect → List (List Char) → Prop
  | .strict, row => ∀ s ∈ row, writer.quotes s = true ∨ '\r' ∉ s
  | .lenient, row => ∀ s, row.getLast? = some s → writer.quotes s = true ∨ s.getLast? ≠ some '\r'

instance (dialect : Dialect) (row : List (List Char)) : Decidable (writer.Legible dialect row) :=
  match dialect with
  | .strict => inferInstanceAs (Decidable (∀ s ∈ row, writer.quotes s = true ∨ '\r' ∉ s))
  | .lenient =>
    inferInstanceAs (Decidable (∀ s, s ∈ row.getLast? →
      writer.quotes s = true ∨ s.getLast? ≠ some '\r'))

end Writer

/-! ## Reading a field -/

theorem run_doubled (field : List Char) :
    run dialect (doubled s) ⟨records, fields, field, .quoted⟩ =
      some ⟨records, fields, field ++ s, .quoted⟩ := by
  induction s generalizing field with
  | nil =>
    rw [List.append_nil]
    exact run_nil
  | cons c s ih =>
    have hnext : run dialect (if c = '"' then ['"', '"'] else [c])
        ⟨records, fields, field, .quoted⟩ = some ⟨records, fields, field ++ [c], .quoted⟩ := by
      split_ifs with hc
      · subst hc
        rfl
      · rw [run_singleton]
        exact if_neg hc
    rw [doubled, List.flatMap_cons, run_append, hnext, Option.bind_some, ← doubled, ih,
      List.append_assoc, List.singleton_append]

/-- The reader after a text without quotes, which may go on. -/
def Reading.afterPlain (records : List (List (List Char))) (fields : List (List Char))
    (s : List Char) : Reading :=
  if s = [] then atField records fields
  else if s.getLast? = some '\r' then ⟨records, fields, s.dropLast, .returned false⟩
  else ⟨records, fields, s, .plain⟩

theorem afterPlain_concat_return :
    afterPlain records fields (s ++ ['\r']) = ⟨records, fields, s, .returned false⟩ := by
  rw [afterPlain, if_neg (by simp), List.getLast?_concat, if_pos rfl, List.dropLast_concat]

theorem afterPlain_concat (hc : c ≠ '\r') :
    afterPlain records fields (s ++ [c]) = ⟨records, fields, s ++ [c], .plain⟩ := by
  rw [afterPlain, if_neg (by simp), List.getLast?_concat, if_neg (by simpa using hc)]

theorem plainStep_eq_afterPlain (place : Place) (hspecial : c ≠ ',' ∧ c ≠ '"' ∧ c ≠ '\n') :
    plainStep ⟨records, fields, s, place⟩ c = afterPlain records fields (s ++ [c]) := by
  rw [plainStep, if_neg hspecial.1, if_neg hspecial.2.2]
  split_ifs with hc
  · rw [hc, afterPlain_concat_return]
  · rw [afterPlain_concat hc, push]

theorem step_afterPlain (hspecial : c ≠ ',' ∧ c ≠ '"' ∧ c ≠ '\n') :
    step dialect (afterPlain records fields s) c =
      if dialect = .lenient ∨ s.getLast? ≠ some '\r' then
        some (afterPlain records fields (s ++ [c]))
      else none := by
  obtain rfl | ⟨s, d, rfl⟩ := s.eq_nil_or_concat
  · rw [if_pos (.inr (by simp))]
    exact (if_neg hspecial.2.1).trans (congrArg some (plainStep_eq_afterPlain .start hspecial))
  · rw [List.concat_eq_append, List.getLast?_concat]
    by_cases hd : d = '\r'
    · subst hd
      have hstep : step dialect ⟨records, fields, s, .returned false⟩ c =
          if dialect = .lenient then some (plainStep ⟨records, fields, s ++ ['\r'], .plain⟩ c)
          else none := by
        simp [step, push, hspecial]
      rw [afterPlain_concat_return, hstep, plainStep_eq_afterPlain _ hspecial]
      simp
    · have hstep : step dialect ⟨records, fields, s ++ [d], .plain⟩ c =
          some (plainStep ⟨records, fields, s ++ [d], .plain⟩ c) := if_neg hspecial.2.1
      rw [afterPlain_concat hd, hstep, plainStep_eq_afterPlain _ hspecial,
        if_pos (.inr (by simpa using hd))]

theorem return_notMem_iff : '\r' ∉ s ↔ '\r' ∉ s.dropLast ∧ s.getLast? ≠ some '\r' := by
  obtain rfl | ⟨s, d, rfl⟩ := s.eq_nil_or_concat
  · simp
  · simp [eq_comm]

theorem accepts_iff (hfront : dialect = .lenient ∨ '\r' ∉ s.dropLast) :
    (dialect = .lenient ∨ '\r' ∉ s) ↔ dialect = .lenient ∨ s.getLast? ≠ some '\r' := by
  rw [return_notMem_iff, or_and_left, and_iff_right hfront]

theorem run_plain (hs : ∀ c ∈ s, c ≠ ',' ∧ c ≠ '"' ∧ c ≠ '\n') :
    run dialect s (atField records fields) =
      if dialect = .lenient ∨ '\r' ∉ s.dropLast then some (afterPlain records fields s)
      else none := by
  induction s using List.reverseRecOn with
  | nil => simp [run_nil, afterPlain]
  | append_singleton s c ih =>
    have hrest := ih fun d hd => hs d (List.mem_append_left _ hd)
    rw [run_append, hrest, List.dropLast_concat]
    by_cases hfront : dialect = .lenient ∨ '\r' ∉ s.dropLast
    · rw [if_pos hfront, Option.bind_some, run_singleton, step_afterPlain (hs c (by simp))]
      simp only [accepts_iff hfront]
    · rw [if_neg hfront, if_neg, Option.bind_none]
      exact fun hboth => hfront (hboth.imp_right fun hs => (return_notMem_iff.mp hs).1)

theorem run_quoted :
    run dialect ('"' :: (doubled s ++ ['"'])) (atField records fields) =
      some ⟨records, fields, s, .closed⟩ := by
  have hopen : step dialect (atField records fields) '"' =
      some ⟨records, fields, [], .quoted⟩ := rfl
  rw [run_cons, hopen, Option.bind_some, run_append, run_doubled, Option.bind_some, run_singleton,
    List.nil_append]
  rfl

theorem step_afterPlain_comma :
    step dialect (afterPlain records fields s) ',' =
      if dialect = .lenient ∨ s.getLast? ≠ some '\r' then some (atField records (fields ++ [s]))
      else none := by
  obtain rfl | ⟨s, d, rfl⟩ := s.eq_nil_or_concat
  · rw [if_pos (.inr (by simp))]
    rfl
  · rw [List.concat_eq_append, List.getLast?_concat]
    by_cases hd : d = '\r'
    · subst hd
      rw [afterPlain_concat_return]
      cases dialect <;> rfl
    · rw [afterPlain_concat hd, if_pos (.inr (by simpa using hd))]
      rfl

theorem step_afterPlain_feed :
    step dialect (afterPlain records fields s) '\n' = some (atField
        (records ++ [fields ++ [if s.getLast? = some '\r' then s.dropLast else s]]) []) := by
  obtain rfl | ⟨s, d, rfl⟩ := s.eq_nil_or_concat
  · rfl
  · rw [List.concat_eq_append, List.getLast?_concat, List.dropLast_concat]
    by_cases hd : d = '\r'
    · subst hd
      rw [afterPlain_concat_return, if_pos rfl]
      rfl
    · rw [afterPlain_concat hd, if_neg (by simpa using hd)]
      rfl

/-! ## Reading a row -/

section Rows

variable (writer : Writer)

theorem run_field_comma :
    run dialect (writer.field s ++ [',']) (atField records fields) =
      if writer.quotes s = true ∨ dialect = .lenient ∨ '\r' ∉ s then
        some (atField records (fields ++ [s]))
      else none := by
  rw [run_append, Writer.field]
  by_cases hquotes : writer.quotes s = true
  · rw [if_pos hquotes, run_quoted, if_pos (.inl hquotes)]
    rfl
  · rw [if_neg hquotes, run_plain fun c => writer.not_special (Bool.eq_false_iff.mpr hquotes)]
    by_cases hfront : dialect = .lenient ∨ '\r' ∉ s.dropLast
    · rw [if_pos hfront, Option.bind_some, run_singleton, step_afterPlain_comma]
      simp only [accepts_iff hfront, hquotes, false_or, Bool.false_eq_true]
    · rw [if_neg hfront, if_neg, Option.bind_none]
      rintro (hs | hs | hs)
      · exact hquotes hs
      · exact hfront (.inl hs)
      · exact hfront (.inr (return_notMem_iff.mp hs).1)

/-- The last field of a row: a carriage return at its end is taken for one of the end of the
record. -/
theorem run_field_feed :
    run dialect (writer.field s ++ ['\n']) (atField records fields) =
      if writer.quotes s = true ∨ dialect = .lenient ∨ '\r' ∉ s.dropLast then
        some (atField (records ++ [fields ++
          [if writer.quotes s = false ∧ s.getLast? = some '\r' then s.dropLast else s]]) [])
      else none := by
  rw [run_append, Writer.field]
  by_cases hquotes : writer.quotes s = true
  · rw [if_pos hquotes, run_quoted, if_pos (.inl hquotes),
      if_neg fun hboth => Bool.false_ne_true (hboth.1.symm.trans hquotes)]
    rfl
  · rw [if_neg hquotes, run_plain fun c => writer.not_special (Bool.eq_false_iff.mpr hquotes)]
    by_cases hfront : dialect = .lenient ∨ '\r' ∉ s.dropLast
    · rw [if_pos hfront, Option.bind_some, run_singleton, step_afterPlain_feed]
      simp only [hquotes, hfront, true_and, or_true, if_true]
    · rw [if_neg hfront, if_neg fun hs => hs.elim hquotes hfront, Option.bind_none]

theorem line_singleton : writer.line [s] = writer.field s ++ ['\n'] := by
  simp [Writer.line]

theorem line_cons_cons (t : List Char) (rest : List (List Char)) :
    writer.line (s :: t :: rest) = (writer.field s ++ [',']) ++ writer.line (t :: rest) := by
  simp [Writer.line, List.intercalate_cons_cons]

theorem legible_singleton_iff :
    writer.Legible dialect [s] ↔ writer.quotes s = true ∨
      (dialect = .lenient ∨ '\r' ∉ s.dropLast) ∧ s.getLast? ≠ some '\r' := by
  cases dialect with
  | strict => simp [Writer.Legible, return_notMem_iff (s := s)]
  | lenient => simp [Writer.Legible]

theorem legible_cons_cons_iff (t : List Char) (rest : List (List Char)) :
    writer.Legible dialect (s :: t :: rest) ↔
      (writer.quotes s = true ∨ dialect = .lenient ∨ '\r' ∉ s) ∧
        writer.Legible dialect (t :: rest) := by
  cases dialect <;> simp [Writer.Legible]

theorem legible_of_notMem {row : List (List Char)} (hrow : ∀ s ∈ row, '\r' ∉ s) :
    writer.Legible dialect row := by
  cases dialect with
  | strict => exact fun s hs => .inr (hrow s hs)
  | lenient =>
    exact fun s hs => .inr (return_notMem_iff.mp (hrow s (List.mem_of_getLast? hs))).2

variable {writer} {row : List (List Char)} {rows : List (List (List Char))}

theorem run_line_of_legible (hrow : row ≠ []) (hlegible : writer.Legible dialect row) :
    run dialect (writer.line row) (atField records fields) =
      some (atField (records ++ [fields ++ row]) []) := by
  induction row generalizing fields with
  | nil => exact absurd rfl hrow
  | cons s rest ih =>
    cases rest with
    | nil =>
      rw [legible_singleton_iff] at hlegible
      rw [line_singleton, run_field_feed, if_pos (hlegible.imp_right And.left), if_neg]
      rintro ⟨hquotes, hreturn⟩
      rcases hlegible with hs | hs
      · exact Bool.false_ne_true (hquotes.symm.trans hs)
      · exact hs.2 hreturn
    | cons t rest =>
      rw [legible_cons_cons_iff] at hlegible
      rw [line_cons_cons, run_append, run_field_comma, if_pos hlegible.1, Option.bind_some,
        ih (List.cons_ne_nil t rest) hlegible.2, List.append_assoc, List.singleton_append]

theorem exists_of_run_line (hrow : row ≠ [])
    (hrun : run dialect (writer.line row) (atField records fields) = some next) :
    ∃ other, next = atField (records ++ [fields ++ other]) [] ∧
      (other = row → writer.Legible dialect row) := by
  induction row generalizing fields with
  | nil => exact absurd rfl hrow
  | cons s rest ih =>
    cases rest with
    | nil =>
      rw [line_singleton, run_field_feed] at hrun
      split_ifs at hrun with haccepted hreturn
      · refine ⟨_, (Option.some.inj hrun).symm, fun hsame => ?_⟩
        -- without its last character the text is another one
        have hlength := congrArg List.length (List.singleton_inj.mp hsame)
        rw [List.length_dropLast] at hlength
        have hnil : s = [] := List.eq_nil_of_length_eq_zero (by omega)
        rw [hnil] at hreturn
        exact absurd hreturn.2 (by simp)
      · refine ⟨_, (Option.some.inj hrun).symm, fun _ => ?_⟩
        rw [not_and_or, Bool.not_eq_false] at hreturn
        rw [legible_singleton_iff]
        exact haccepted.elim .inl fun hfront => hreturn.imp_right fun hlast => ⟨hfront, hlast⟩
    | cons t rest =>
      rw [line_cons_cons, run_append, run_field_comma] at hrun
      split_ifs at hrun with haccepted
      · rw [Option.bind_some] at hrun
        obtain ⟨other, hnext, hother⟩ := ih (List.cons_ne_nil t rest) hrun
        refine ⟨s :: other, ?_, fun hsame => ?_⟩
        · rw [hnext, List.append_assoc, List.singleton_append]
        · rw [legible_cons_cons_iff]
          exact ⟨haccepted, hother (List.cons_inj_right s |>.mp hsame)⟩
      · exact absurd hrun (by simp)

/-! ## Reading a file -/

theorem run_file_of_legible (hrows : ∀ row ∈ rows, row ≠ [])
    (hlegible : ∀ row ∈ rows, writer.Legible dialect row) :
    run dialect (writer.file rows) (atField records []) = some (atField (records ++ rows) []) := by
  induction rows generalizing records with
  | nil =>
    rw [List.append_nil]
    exact run_nil
  | cons row rows ih =>
    rw [List.forall_mem_cons] at hrows hlegible
    rw [Writer.file, List.flatMap_cons, run_append, run_line_of_legible hrows.1 hlegible.1,
      Option.bind_some, ← Writer.file, ih hrows.2 hlegible.2, List.append_assoc,
      List.nil_append, List.singleton_append]

theorem legible_of_run_file (hrows : ∀ row ∈ rows, row ≠ [])
    (hrun : run dialect (writer.file rows) (atField records []) = some next)
    (hrecords : next.records <+: records ++ rows) : ∀ row ∈ rows, writer.Legible dialect row := by
  induction rows generalizing records with
  | nil => simp
  | cons row rows ih =>
    rw [List.forall_mem_cons] at hrows ⊢
    rw [Writer.file, List.flatMap_cons, run_append, Option.bind_eq_some_iff] at hrun
    obtain ⟨middle, hline, hrun⟩ := hrun
    obtain ⟨other, rfl, hother⟩ := exists_of_run_line hrows.1 hline
    rw [List.nil_append] at hrun
    -- the record stays as it was read
    have hsame : other = row := by
      have hkept := (records_prefix_of_run hrun).trans hrecords
      simpa [atField] using hkept
    subst hsame
    rw [List.append_cons] at hrecords
    exact ⟨hother rfl, ih hrows.2 hrun hrecords⟩

theorem read_file_iff (hrows : ∀ row ∈ rows, row ≠ []) :
    read dialect (writer.file rows) = some rows ↔ ∀ row ∈ rows, writer.Legible dialect row := by
  constructor
  · intro hread
    obtain ⟨reading, hrun, hfinish⟩ := Option.bind_eq_some_iff.mp hread
    exact legible_of_run_file hrows hrun (records_prefix_of_finish hfinish)
  · intro hlegible
    rw [read, run_file_of_legible hrows hlegible]
    rfl

end Rows

end Csv
