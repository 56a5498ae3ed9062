import RustDns.Program

/-!
# Batches

A batch runs the same statements for one item after the other and stops at the first one
that fails.  Without a transaction, what it has written until then stays.

`Ends program state returned stopped` says what holds when the program returns and what
holds when it stops, both of the state after it.  The rules below compute such a
statement backwards through a program.  The one for a batch (`ends_forEach`) takes an
invariant that knows the items done so far, and a description of the state that a turn
leaves when it stops.
-/

namespace Program

variable {State Error α β : Type}

def attempt (fails : Bool) (error : Error) : Program State Error Unit :=
  if fails then throw error else pure ()

def atomically (program : Program State Error α) : Program State Error α := do
  let before ← get
  try program
  catch error =>
    set before
    throw error

def forEach : (ℕ → α → Program State Error β) → List α → Program State Error (List β)
  | _, [] => pure []
  | turn, item :: rest => do
    let value ← turn 0 item
    let values ← forEach (fun i => turn (i + 1)) rest
    return value :: values

@[simp] theorem attempt_false (error : Error) :
    (attempt false error : Program State Error Unit) = pure () := rfl

theorem eval_atomically (program : Program State Error α) (state : State) :
    (atomically program).eval state =
      match program.eval state with
      | (.ok value, after) => (.ok value, after)
      | (.error error, _) => (.error error, state) := by
  have hcatch : (atomically program).eval state =
      (tryCatch program fun error => do set state; throw error).eval state := rfl
  rw [hcatch]
  simp only [eval, tryCatch, tryCatchThe, MonadExceptOf.tryCatch, ExceptT.tryCatch,
    ExceptT.run_mk, StateT.run_bind]
  unfold ExceptT.run
  rcases StateT.run program state with ⟨_ | value, after⟩ <;> rfl

theorem eval_get_bind (next : State → Program State Error α) (state : State) :
    (get >>= next).eval state = (next state).eval state := rfl

/-! ## Outcomes -/

def Ends (program : Program State Error α) (state : State) (returned : α → State → Prop)
    (stopped : Error → State → Prop) : Prop :=
  match program.eval state with
  | (.ok value, after) => returned value after
  | (.error error, after) => stopped error after

section Ends

variable {state after : State} {returned : α → State → Prop} {stopped : Error → State → Prop}
  {program : Program State Error α}

variable {value : α} {error : Error}

theorem Ends.of_ok (hends : Ends program state returned stopped)
    (heval : program.eval state = (.ok value, after)) : returned value after := by
  unfold Ends at hends
  rwa [heval] at hends

theorem Ends.of_error (hends : Ends program state returned stopped)
    (heval : program.eval state = (.error error, after)) : stopped error after := by
  unfold Ends at hends
  rwa [heval] at hends

theorem Ends.exec {property : State → Prop} (hends : Ends program state returned stopped)
    (hreturned : ∀ value after, returned value after → property after)
    (hstopped : ∀ error after, stopped error after → property after) :
    property (program.exec state) := by
  unfold Ends at hends
  unfold Program.exec
  generalize program.eval state = outcome at hends
  obtain ⟨error | value, after⟩ := outcome
  · exact hstopped error after hends
  · exact hreturned value after hends

theorem Ends.mono {returned' : α → State → Prop} {stopped' : Error → State → Prop}
    (hends : Ends program state returned stopped)
    (hreturned : ∀ value after, returned value after → returned' value after)
    (hstopped : ∀ error after, stopped error after → stopped' error after) :
    Ends program state returned' stopped' := by
  unfold Ends at hends ⊢
  generalize program.eval state = outcome at hends
  rcases outcome with ⟨error | value, after⟩
  · exact hstopped error after hends
  · exact hreturned value after hends

theorem ends_pure (hvalue : returned value state) :
    Ends (pure value : Program State Error α) state returned stopped := hvalue

theorem ends_throw (herror : stopped error state) :
    Ends (throw error : Program State Error α) state returned stopped := herror

theorem ends_bind {next : α → Program State Error β} {finished : β → State → Prop}
    (hprogram : Ends program state (fun value after => Ends (next value) after finished stopped)
      stopped) : Ends (program >>= next) state finished stopped := by
  unfold Ends at hprogram ⊢
  rw [eval_bind]
  rcases heval : program.eval state with ⟨error | value, after⟩
  · rw [heval] at hprogram
    exact hprogram
  · rw [heval] at hprogram
    exact hprogram

theorem ends_get_bind {next : State → Program State Error α}
    (hnext : Ends (next state) state returned stopped) :
    Ends (get >>= next) state returned stopped := hnext

theorem ends_modify_bind {change : State → State} {next : PUnit → Program State Error α}
    (hnext : Ends (next ⟨⟩) (change state) returned stopped) :
    Ends (modify change >>= next) state returned stopped := hnext

theorem ends_attempt_bind {fails : Bool} {next : Unit → Program State Error α}
    (hfails : fails = true → stopped error state)
    (hnext : fails = false → Ends (next ()) state returned stopped) :
    Ends (attempt fails error >>= next) state returned stopped := by
  cases fails with
  | false => exact hnext rfl
  | true => exact hfails rfl

theorem ends_ite {condition : Prop} [Decidable condition] {other : Program State Error α}
    (hprogram : condition → Ends program state returned stopped)
    (hother : ¬ condition → Ends other state returned stopped) :
    Ends (if condition then program else other) state returned stopped := by
  split_ifs with hcondition
  · exact hprogram hcondition
  · exact hother hcondition

theorem ends_atomically
    (hprogram : Ends program state returned fun error _ => stopped error state) :
    Ends (atomically program) state returned stopped := by
  unfold Ends at hprogram ⊢
  rw [eval_atomically]
  generalize program.eval state = outcome at hprogram
  rcases outcome with ⟨error | value, after⟩ <;> exact hprogram

end Ends

/-! ## Loops -/

variable {invariant : List α → List β → State → Prop} {turn : ℕ → α → Program State Error β}
  {items earlier rest later : List α} {state : State} {item other : α}

/-- A loop whose turns keep an invariant of the items done and of what they returned. -/
theorem ends_forEach {stopped : List α → α → Error → State → Prop}
    (hturn : ∀ done values item state, invariant done values state →
      Ends (turn done.length item) state
        (fun value => invariant (done ++ [item]) (values ++ [value])) (stopped done item))
    (hstart : invariant [] [] state) :
    Ends (forEach turn items) state (invariant items) fun error after =>
      ∃ done item rest, items = done ++ item :: rest ∧ stopped done item error after := by
  -- the loop that is left after some items, with their number added to the turns
  suffices hloop : ∀ rest done values state, invariant done values state →
      Ends (forEach (fun i => turn (done.length + i)) rest) state
        (fun others => invariant (done ++ rest) (values ++ others)) fun error after =>
          ∃ more item others, rest = more ++ item :: others ∧
            stopped (done ++ more) item error after by
    have hall := hloop items [] [] state hstart
    simpa only [List.nil_append, List.length_nil, Nat.zero_add] using hall
  intro rest
  induction rest with
  | nil =>
    intro done values state hdone
    refine ends_pure ?_
    simpa only [List.append_nil] using hdone
  | cons item rest ih =>
    intro done values state hdone
    unfold forEach
    refine ends_bind ((hturn done values item state hdone).mono ?_ ?_)
    · intro value middle hmiddle
      have hrest := ih (done ++ [item]) (values ++ [value]) middle hmiddle
      simp only [List.length_append, List.length_singleton, List.append_assoc,
        List.singleton_append, Nat.add_assoc, Nat.add_comm 1] at hrest
      refine ends_bind (hrest.mono ?_ ?_)
      · intro others after hafter
        exact ends_pure hafter
      · rintro error after ⟨more, other, others, rfl, hstopped⟩
        exact ⟨item :: more, other, others, rfl, hstopped⟩
    · intro error after hstopped
      exact ⟨[], item, rest, rfl, by simpa only [List.append_nil] using hstopped⟩

def NoneStops (stops : List α → α → Prop) (items : List α) : Prop :=
  ∀ done item rest, items = done ++ item :: rest → ¬ stops done item

variable {stops : List α → α → Prop} {done : List α}

theorem NoneStops.concat (hdone : NoneStops stops done) (hitem : ¬ stops done item) :
    NoneStops stops (done ++ [item]) := by
  intro before other rest heq
  rcases List.eq_nil_or_concat' rest with rfl | ⟨others, last, rfl⟩
  · obtain ⟨rfl, hother⟩ := List.append_inj' heq rfl
    obtain rfl : item = other := by simpa using hother
    exact hitem
  · have hsplit : done ++ [item] = (before ++ other :: others) ++ [last] := by
      rw [heq]
      simp
    exact hdone before other others (List.append_inj' hsplit rfl).1

theorem NoneStops.not_after (hdone : NoneStops stops done)
    (hsplit : done ++ item :: rest = earlier ++ other :: later) (hstops : stops earlier other) :
    done <+: earlier := by
  rcases List.append_eq_append_iff.mp hsplit with ⟨between, rfl, -⟩ | ⟨between, rfl, hrest⟩
  · exact List.prefix_append done between
  · cases between with
    | nil => simp
    | cons first between =>
      obtain ⟨rfl, -⟩ := List.cons.inj hrest
      exact absurd hstops (hdone earlier other between rfl)

theorem NoneStops.eq_of_stops (hdone : NoneStops stops done) (hitem : stops done item)
    (hearlier : NoneStops stops earlier) (hother : stops earlier other)
    (hsplit : done ++ item :: rest = earlier ++ other :: later) :
    done = earlier ∧ item = other := by
  have hle := (hdone.not_after hsplit hother).length_le
  have hge := (hearlier.not_after hsplit.symm hitem).length_le
  obtain ⟨hsame, hrest⟩ := List.append_inj hsplit (hle.antisymm hge)
  exact ⟨hsame, (List.cons.inj hrest).1⟩

theorem NoneStops.of_append (hall : NoneStops stops (done ++ rest)) : NoneStops stops done := by
  rintro before item others rfl
  exact hall before item (others ++ rest) (by simp)

theorem ends_forEach_of_stops {left : List α → α → Error → State → Prop}
    (hturn : ∀ done values item state, invariant done values state →
      Ends (turn done.length item) state
        (fun value after =>
          ¬ stops done item ∧ invariant (done ++ [item]) (values ++ [value]) after)
        fun error after => stops done item ∧ left done item error after)
    (hstart : invariant [] [] state) :
    Ends (forEach turn items) state
      (fun values after => NoneStops stops items ∧ invariant items values after)
      fun error after => ∃ done item rest, items = done ++ item :: rest ∧ NoneStops stops done ∧
        stops done item ∧ left done item error after := by
  have hkeeps : ∀ done values item state, NoneStops stops done ∧ invariant done values state →
      Ends (turn done.length item) state
        (fun value after => NoneStops stops (done ++ [item]) ∧
          invariant (done ++ [item]) (values ++ [value]) after)
        fun error after => NoneStops stops done ∧ stops done item ∧ left done item error after := by
    rintro done values item state ⟨hnone, hdone⟩
    refine (hturn done values item state hdone).mono ?_ ?_
    · rintro value after ⟨hpasses, hafter⟩
      exact ⟨hnone.concat hpasses, hafter⟩
    · rintro error after ⟨hstops, hleft⟩
      exact ⟨hnone, hstops, hleft⟩
  have hnil : NoneStops stops [] := by
    intro done item rest heq
    simp at heq
  exact ends_forEach hkeeps ⟨hnil, hstart⟩

end Program
