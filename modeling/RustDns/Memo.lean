import RustDns.Machine

/-!
# Memoised functions

A function is memoised in a table: a call looks up the key of its input, and computes and stores the
value only if there is none.  Entries may be forgotten at any time.

The output of a call is the value of some call with the same key (`exists_call_of_mem_trace`).
Whether that is the value of the call itself is a matter of the keys.  As long as nothing is
forgotten, the first call with a key decides for all later ones (`output_eq_of_key_eq`).
-/

namespace Memo

variable {ι κ ω : Type*} [DecidableEq κ] (key : ι → κ) (value : ι → ω)

inductive Event (ι κ : Type*) where
  | call (input : ι)
  | discard (gone : κ → Bool)

def fetch (table : κ → Option ω) (input : ι) : (κ → Option ω) × ω :=
  match table (key input) with
  | some found => (table, found)
  | none => (Function.update table (key input) (some (value input)), value input)

def step (table : κ → Option ω) : Event ι κ → (κ → Option ω) × Option ω
  | .call input => ((fetch key value table input).1, some (fetch key value table input).2)
  | .discard gone => (fun k => if gone k then none else table k, none)

def empty : κ → Option ω := fun _ => none

def Sound (inputs : ι → Prop) (table : κ → Option ω) : Prop :=
  ∀ k found, table k = some found → ∃ origin, inputs origin ∧ key origin = k ∧ value origin = found

variable {key value}

theorem fetch_stored (table : κ → Option ω) (input : ι) :
    (fetch key value table input).1 (key input) = some (fetch key value table input).2 := by
  unfold fetch
  split
  · next found hfound => exact hfound
  · exact Function.update_self _ _ _

variable {input : ι} {table : κ → Option ω}

variable {k : κ} {found : ω} {inputs : ι → Prop} {events : List (Event ι κ)}

theorem fetch_of_ne (table : κ → Option ω) (hk : k ≠ key input) :
    (fetch key value table input).1 k = table k := by
  unfold fetch
  split
  · rfl
  · exact Function.update_of_ne hk _ _

theorem fetch_of_eq_some (hfound : table (key input) = some found) :
    fetch key value table input = (table, found) := by
  rw [fetch, hfound]

theorem Sound.fetch (hsound : Sound key value inputs table) (hinput : inputs input) :
    ∃ origin, inputs origin ∧ key origin = key input ∧
      value origin = (fetch key value table input).2 := by
  unfold Memo.fetch
  split
  · next found hfound => exact hsound _ _ hfound
  · exact ⟨input, hinput, rfl, rfl⟩

omit [DecidableEq κ] in
theorem sound_empty (inputs : ι → Prop) : Sound key value inputs empty := by
  intro k found hfound
  cases hfound

theorem Sound.step (hsound : Sound key value inputs table) {event : Event ι κ}
    (hevent : ∀ input, event = .call input → inputs input) :
    Sound key value inputs (step key value table event).1 := by
  intro k found hfound
  cases event with
  | call input =>
    have horigin := hsound.fetch (hevent input rfl)
    change (Memo.fetch key value table input).1 k = some found at hfound
    by_cases hk : k = key input
    · rw [hk, fetch_stored] at hfound
      rw [hk, ← Option.some.inj hfound]
      exact horigin
    · rw [fetch_of_ne table hk] at hfound
      exact hsound k found hfound
  | discard gone =>
    change (if gone k then none else table k) = some found at hfound
    split_ifs at hfound
    exact hsound k found hfound

theorem exists_call_of_mem_trace
    (hpoint : (table, Event.call input) ∈ Machine.trace (step key value) empty events) :
    ∃ origin, Event.call origin ∈ events ∧ key origin = key input ∧
      value origin = (fetch key value table input).2 := by
  have hsound := (Machine.forall_trace (step key value)
    (Sound key value fun origin => Event.call origin ∈ events) (fun _ event => event ∈ events)
    (fun _ event hsound hevent => hsound.step fun input hinput => hinput ▸ hevent)
    (sound_empty _) events
    fun point hpoint => Machine.mem_of_mem_trace _ hpoint).2 _ hpoint
  exact hsound.fetch (Machine.mem_of_mem_trace _ hpoint)

theorem run_of_eq_some (hfound : table k = some found)
    (hcalls : ∀ gone, Event.discard gone ∉ events) :
    Machine.run (step key value) table events k = some found := by
  induction events generalizing table with
  | nil => exact hfound
  | cons event rest ih =>
    have hrest : ∀ gone, Event.discard gone ∉ rest :=
      fun gone hgone => hcalls gone (List.mem_cons_of_mem _ hgone)
    cases event with
    | call input =>
      refine ih ?_ hrest
      change (fetch key value table input).1 k = some found
      by_cases hk : k = key input
      · subst hk
        rw [fetch_of_eq_some hfound]
        exact hfound
      · rw [fetch_of_ne table hk, hfound]
    | discard gone => exact absurd List.mem_cons_self (hcalls gone)

/-- **If nothing is forgotten, a call has the output of every earlier one with its key.** -/
theorem output_eq_of_key_eq (before between : List (Event ι κ)) {first second : ι}
    (hkey : key first = key second) (hcalls : ∀ gone, Event.discard gone ∉ between) :
    let atFirst := Machine.run (step key value) empty before
    let atSecond := Machine.run (step key value) empty (before ++ Event.call first :: between)
    (fetch key value atSecond second).2 = (fetch key value atFirst first).2 := by
  intro atFirst atSecond
  have hstored : (fetch key value atFirst first).1 (key first) =
      some (fetch key value atFirst first).2 := fetch_stored atFirst first
  have hlater : atSecond (key second) = some (fetch key value atFirst first).2 := by
    have hrun : atSecond = Machine.run (step key value) (fetch key value atFirst first).1 between :=
      List.foldl_append
    rw [hrun, ← hkey]
    exact run_of_eq_some hstored hcalls
  rw [fetch_of_eq_some hlater]

end Memo
