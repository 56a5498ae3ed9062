import RustDns.Regex

/-!
# What a pattern matches

The documentation of the `regex` crate gives the meaning of a pattern piece by piece: a character
matches itself, with the flag `i` also in the other case; `[^c]+` matches one character or more that
are not `c`; and `^…$` is anchored at both ends, so the texts of the pieces one after the other are
the whole text.  `Denotes` says this for the patterns that `Regex.parse` reads, and
`DocumentedRegex` that the crate matches accordingly.

`matchItems`, by which the fragment of the crate is modelled, decides `Denotes`
(`matchItems_iff_denotes`).
-/

namespace RustDns

namespace Regex

def Item.Matches : Item → Str → Prop
  | .literal c, text => ∃ d, text = [d] ∧ c.toLower = d.toLower
  | .runWithout stop, text => text ≠ [] ∧ stop ∉ text

def Denotes (items : List Item) (text : Str) : Prop :=
  ∃ parts, List.Forall₂ Item.Matches items parts ∧ parts.flatten = text

variable {item : Item} {text : Str} {items : List Item} {d : Char}

theorem Item.Matches.ne_nil (hmatches : item.Matches text) : text ≠ [] := by
  cases item with
  | literal c =>
    obtain ⟨d, rfl, -⟩ := hmatches
    exact List.cons_ne_nil d []
  | runWithout stop => exact hmatches.1

theorem denotes_nil : Denotes [] text ↔ text = [] := by
  constructor
  · rintro ⟨parts, hparts, rfl⟩
    cases hparts
    rfl
  · rintro rfl
    exact ⟨[], .nil, rfl⟩

theorem denotes_cons :
    Denotes (item :: items) text ↔
      ∃ front back, text = front ++ back ∧ item.Matches front ∧ Denotes items back := by
  constructor
  · rintro ⟨parts, hparts, rfl⟩
    cases hparts with
    | cons hmatches hrest => exact ⟨_, _, rfl, hmatches, _, hrest, rfl⟩
  · rintro ⟨front, back, rfl, hmatches, parts, hparts, rfl⟩
    exact ⟨front :: parts, .cons hmatches hparts, rfl⟩

theorem denotes_literal_cons {c : Char} :
    Denotes (.literal c :: items) (d :: text) ↔ c.toLower = d.toLower ∧ Denotes items text := by
  rw [denotes_cons]
  constructor
  · rintro ⟨front, back, htext, ⟨e, rfl, hcase⟩, hrest⟩
    obtain ⟨rfl, rfl⟩ := List.cons_eq_cons.mp htext
    exact ⟨hcase, hrest⟩
  · rintro ⟨hcase, hrest⟩
    exact ⟨[d], text, rfl, ⟨d, rfl, hcase⟩, hrest⟩

theorem denotes_runWithout_cons {stop : Char} :
    Denotes (.runWithout stop :: items) (d :: text) ↔
      d ≠ stop ∧ (Denotes items text ∨ Denotes (.runWithout stop :: items) text) := by
  simp only [@denotes_cons (.runWithout stop)]
  constructor
  · rintro ⟨front, back, htext, ⟨hne, hstop⟩, hrest⟩
    cases front with
    | nil => exact absurd rfl hne
    | cons e front =>
      obtain ⟨rfl, rfl⟩ := List.cons_eq_cons.mp htext
      rw [List.mem_cons, not_or] at hstop
      refine ⟨Ne.symm hstop.1, ?_⟩
      cases front with
      | nil => exact Or.inl hrest
      | cons e front =>
        exact Or.inr ⟨e :: front, back, rfl, ⟨List.cons_ne_nil _ _, hstop.2⟩, hrest⟩
  · rintro ⟨hd, hrest | ⟨front, back, rfl, ⟨-, hstop⟩, hrest⟩⟩
    · exact ⟨[d], text, rfl, ⟨List.cons_ne_nil _ _, by simpa using Ne.symm hd⟩, hrest⟩
    · refine ⟨d :: front, back, rfl, ⟨List.cons_ne_nil _ _, ?_⟩, hrest⟩
      rw [List.mem_cons, not_or]
      exact ⟨Ne.symm hd, hstop⟩

theorem matchItems_iff_denotes (text : Str) (items : List Item) :
    matchItems text items = true ↔ Denotes items text := by
  induction text, items using matchItems.induct with
  | case1 items =>
    cases items with
    | nil => exact iff_of_true rfl (denotes_nil.mpr rfl)
    | cons item items =>
      refine iff_of_false (by simp [matchItems]) fun hdenotes => ?_
      obtain ⟨front, back, htext, hmatches, -⟩ := denotes_cons.mp hdenotes
      exact hmatches.ne_nil (List.append_eq_nil_iff.mp htext.symm).1
  | case2 d text => exact iff_of_false (by simp [matchItems]) fun h => by simp [denotes_nil] at h
  | case3 d text c items ih =>
    rw [denotes_literal_cons, ← ih]
    simp [matchItems]
  | case4 d text stop items ih ihrun =>
    rw [denotes_runWithout_cons, ← ih, ← ihrun]
    simp [matchItems]

end Regex

open Regex

/-- The crate matches a text of ASCII as its documentation says, for patterns whose only class is
that of the full stop, `[^.]+`. -/
class DocumentedRegex [RegexCrate] : Prop where
  patternMatch_iff : ∀ {pattern items}, parse pattern = some items →
    (∀ stop, Item.runWithout stop ∈ items → stop = '.') →
    ∀ text : Str, (∀ c ∈ text, c.toNat < 128) →
      (RegexCrate.patternMatch pattern text = true ↔ Denotes items text)

theorem RegexCrate.documented_fragment : @DocumentedRegex RegexCrate.fragment :=
  @DocumentedRegex.mk RegexCrate.fragment fun hparse _ text _ => by
    change Regex.patternMatch _ text = true ↔ _
    rw [Regex.patternMatch, hparse]
    exact matchItems_iff_denotes text _

end RustDns
