import RustDns.Text

/-!
# The lines of a text

`str::lines` cuts a text at its line feeds.  It leaves out a carriage return before a line
feed and an empty last line, which a reader that trims its lines and skips the empty ones
does not notice (`exists_trim_lines_iff`).
-/

namespace RustDns.Text

/-! ## Pieces -/

theorem splitOn_append_cons (c : Char) (front back : Str) :
    (front ++ c :: back).splitOn c = front.splitOn c ++ back.splitOn c :=
  List.splitOnP_append_cons front back (by simp)

variable {c : Char} {s : Str}

theorem splitOn_of_notMem (hs : c ∉ s) : s.splitOn c = [s] := by
  refine splitOnP_eq_singleton fun d hd => ?_
  rw [beq_eq_false_iff_ne]
  rintro rfl
  exact hs hd

theorem splitOn_append_of_notMem {front : Str} (hfront : c ∉ front) (s : Str) :
    ∃ first, (front ++ s).splitOn c = (front ++ first) :: (s.splitOn c).tail := by
  induction front with
  | nil =>
    obtain ⟨first, others, hsplit⟩ := List.exists_cons_of_ne_nil (List.splitOnP_ne_nil (· == c) s)
    refine ⟨first, ?_⟩
    change s.splitOnP (· == c) = first :: (s.splitOnP (· == c)).tail
    rw [hsplit, List.tail_cons]
  | cons d rest ih =>
    rw [List.mem_cons, not_or] at hfront
    obtain ⟨hd, hrest⟩ := hfront
    obtain ⟨first, hsplit⟩ := ih hrest
    refine ⟨first, ?_⟩
    unfold List.splitOn at hsplit ⊢
    rw [List.cons_append, List.splitOnP_cons_eq_if_modifyHead, if_neg (by simpa using Ne.symm hd),
      hsplit]
    rfl

theorem notMem_of_mem_splitOn {part : Str} (hpart : part ∈ s.splitOn c) : c ∉ part := by
  induction s generalizing part with
  | nil =>
    obtain rfl : part = [] := by simpa using hpart
    exact List.not_mem_nil
  | cons d rest ih =>
    obtain ⟨first, others, hsplit⟩ :=
      List.exists_cons_of_ne_nil (List.splitOnP_ne_nil (· == c) rest)
    unfold List.splitOn at hpart ih
    rw [List.splitOnP_cons_eq_if_modifyHead, hsplit] at hpart
    rw [hsplit] at ih
    split_ifs at hpart with hd
    · rcases List.mem_cons.mp hpart with rfl | hpart
      · exact List.not_mem_nil
      · exact ih hpart
    · rcases List.mem_cons.mp hpart with rfl | hpart
      · rw [List.mem_cons, not_or]
        refine ⟨?_, ih List.mem_cons_self⟩
        rintro rfl
        exact hd (by simp)
      · exact ih (List.mem_cons_of_mem first hpart)

/-! ## Lines that are trimmed -/

theorem trim_concat (hc : isWhitespace c = true) (s : Str) : trim (s ++ [c]) = trim s := by
  unfold trim
  by_cases hall : ∀ d ∈ s, isWhitespace d = true
  · have hs : s.dropWhile isWhitespace = [] := List.dropWhile_eq_nil_iff.mpr hall
    have hsc : (s ++ [c]).dropWhile isWhitespace = [] := by
      refine List.dropWhile_eq_nil_iff.mpr fun d hd => ?_
      rcases List.mem_append.mp hd with hd | hd
      · exact hall d hd
      · obtain rfl := List.mem_singleton.mp hd
        exact hc
    rw [hs, hsc]
  · have hsc : (s ++ [c]).dropWhile isWhitespace = s.dropWhile isWhitespace ++ [c] := by
      rw [List.dropWhile_append, if_neg]
      rw [List.isEmpty_iff, List.dropWhile_eq_nil_iff]
      exact hall
    rw [hsc, List.rdropWhile_concat_pos _ _ _ hc]

theorem subset_of_trim (s : Str) : trim s ⊆ s :=
  List.Subset.trans (( List.rdropWhile_prefix _ _).subset) (List.dropWhile_subset _)

theorem exists_trim_lines_iff {line : Str} (hline : line ≠ []) :
    (∃ other ∈ lines s, trim other = line) ↔ ∃ part ∈ s.splitOn '\n', trim part = line := by
  have hreturn : ∀ part : Str,
      trim (if part.getLast? = some '\r' then part.dropLast else part) = trim part := by
    intro part
    split_ifs with hlast
    · obtain ⟨front, rfl⟩ := List.getLast?_eq_some_iff.mp hlast
      rw [List.dropLast_concat, trim_concat (by decide)]
    · rfl
  obtain ⟨parts, hparts⟩ : ∃ parts, parts = s.splitOn '\n' := ⟨_, rfl⟩
  have hne : parts ≠ [] := hparts ▸ List.splitOnP_ne_nil _ s
  have hlines : lines s =
      (parts.dropLast.map fun part =>
        if part.getLast? = some '\r' then part.dropLast else part) ++
      if parts.getLast hne = [] then [] else [parts.getLast hne] := by
    unfold lines
    rw [← hparts]
    simp [List.getLastD_eq_getLast?, List.getLast?_eq_some_getLast hne]
  rw [hlines, ← hparts]
  constructor
  · rintro ⟨other, hother, rfl⟩
    rcases List.mem_append.mp hother with hother | hother
    · obtain ⟨part, hpart, rfl⟩ := List.mem_map.mp hother
      exact ⟨part, List.mem_of_mem_dropLast hpart, (hreturn part).symm⟩
    · split_ifs at hother
      · cases hother
      · obtain rfl := List.mem_singleton.mp hother
        exact ⟨_, List.getLast_mem hne, rfl⟩
  · rintro ⟨part, hpart, rfl⟩
    rw [← List.dropLast_append_getLast hne] at hpart
    rcases List.mem_append.mp hpart with hpart | hpart
    · exact ⟨_, List.mem_append_left _ (List.mem_map_of_mem hpart), hreturn part⟩
    · obtain rfl := List.mem_singleton.mp hpart
      refine ⟨_, List.mem_append_right _ ?_, rfl⟩
      rw [if_neg]
      · exact List.mem_singleton_self _
      · intro hempty
        rw [hempty] at hline
        exact hline rfl

end RustDns.Text
