import RustDns.JsonText
import RustDns.Api.Settings

/-!
# Two updates of the access lists

A request to `settings::update_dns` may carry one of the two access lists.  The handler then
reads both lists, replaces the one it was given, writes both back and puts them in force.
Each of these is a statement of its own, so another request may come in between.

Here one request carries the list of allowed networks and one the list of denied networks.
If both read before either writes, the one that writes last restores the list that the other
has replaced; else no update is lost (`listsInForce_of_admissible`).
-/

namespace RustDns.Api.Settings

open Text Checked

inductive Side where
  | allowed
  | denied
deriving DecidableEq

def Side.other : Side → Side
  | .allowed => .denied
  | .denied => .allowed

def Side.key : Side → Str
  | .allowed => str "acl_allowed_networks"
  | .denied => str "acl_denied_networks"

/-- A request that carries this list only. -/
def Side.body (entries : List Str) : Side → UpdateDnsSettingsRequest
  | .allowed => { aclAllowedNetworks := some entries }
  | .denied => { aclDeniedNetworks := some entries }

theorem Side.key_injective : Function.Injective Side.key := by
  have hne : Side.key .allowed ≠ Side.key .denied := by decide +kernel
  rintro (_ | _) (_ | _) hkey
  · rfl
  · exact absurd hkey hne
  · exact absurd hkey.symm hne
  · rfl

theorem Side.eq_other {own side : Side} (hne : side ≠ own) : side = own.other := by
  cases own <;> cases side <;> first | rfl | exact absurd rfl hne

section Requests

variable [SerdeJson]

def stored (db : Database) (side : Side) : List Str := storedList db side.key

def store (db : Database) (side : Side) (entries : List Str) : Database :=
  { db with settings := writeSetting db.settings ⟨side.key, listText entries⟩ }

theorem stored_store_self [LawfulSerdeJson] (db : Database) (side : Side) (entries : List Str) :
    stored (store db side entries) side = entries := by
  have hfind : (writeSetting db.settings ⟨side.key, listText entries⟩).find? side.key =
      some ⟨side.key, listText entries⟩ :=
    Table.find?_eq_some_iff.mpr ⟨mem_writeSetting_self _ _, rfl⟩
  unfold stored storedList store
  rw [setting_eq, hfind, Option.map_some, Option.bind_some, listText,
    LawfulSerdeJson.stringVec_toStr, Option.getD_some]

theorem stored_store_of_ne {db : Database} {side other : Side} (hne : other ≠ side)
    (entries : List Str) : stored (store db side entries) other = stored db other := by
  have hfind : (writeSetting db.settings ⟨side.key, listText entries⟩).find? other.key =
      db.settings.find? other.key :=
    Table.find?_upsert_of_ne (Side.key_injective.ne hne)
  unfold stored storedList store
  rw [setting_eq, setting_eq, hfind]

theorem stored_store_eq_self [LawfulSerdeJson] {db : Database} {side : Side} {entries : List Str}
    (hentries : stored db side = entries) (other : Side) :
    stored (store db side entries) other = stored db other := by
  by_cases hother : other = side
  · rw [hother, stored_store_self, hentries]
  · exact stored_store_of_ne hother entries

variable [IpNetCrate]

/-- `Acl::from_cidrs` of the two lists. -/
def aclOf (lists : Side → List Str) : Acl := Acl.fromCidrs (lists .allowed) (lists .denied)

/-! ## The statements as steps -/

structure AclShared where
  db : Database
  acl : Acl

/-- How far a request has come: before it reads one list and the other, before it writes the
list of a side, and before it puts the lists in force. -/
inductive Phase where
  | readAllowed
  | readDenied (allowed : List Str)
  | write (side : Side) (lists : Side → List Str)
  | reload (lists : Side → List Str)
  | returned (outcome : Except AppError Unit)

def current (allowed denied : List Str) : Side → List Str
  | .allowed => allowed
  | .denied => denied

def act (own : Side) (entries : List Str) (shared : AclShared) : Phase → AclShared × Phase
  | .readAllowed => (shared, .readDenied (stored shared.db .allowed))
  | .readDenied allowed =>
    let lists := Function.update (current allowed (stored shared.db .denied)) own entries
    let bad := Acl.validateCidrs (lists .allowed) ++ Acl.validateCidrs (lists .denied)
    if bad.isEmpty then (shared, .write .allowed lists)
    else (shared, .returned (.error
      (.validation (str "Invalid CIDR entries: " ++ join (str ", ") bad))))
  | .write .allowed lists =>
    ({ shared with db := store shared.db .allowed (lists .allowed) }, .write .denied lists)
  | .write .denied lists =>
    ({ shared with db := store shared.db .denied (lists .denied) }, .reload lists)
  | .reload lists => ({ shared with acl := aclOf lists }, .returned (.ok ()))
  | .returned outcome => (shared, .returned outcome)

structure AclState where
  shared : AclShared
  phases : Side → Phase

def aclStep (entries : Side → List Str) (state : AclState) (own : Side) : AclState × Unit :=
  let next := act own (entries own) state.shared (state.phases own)
  (⟨next.1, Function.update state.phases own next.2⟩, ())

def AclState.init (db : Database) (acl : Acl) : AclState := ⟨⟨db, acl⟩, fun _ => .readAllowed⟩

/-- A request that runs alone ends as `updateDns` does. -/
theorem run_own [Unicode] [RegexCrate] (env : SettingsEnv) (entries : Side → List Str)
    (own : Side) (state : DnsState) :
    let final := Machine.run (aclStep entries) (.init state.db state.acl) (List.replicate 5 own)
    let outcome := (updateDns env (own.body (entries own))).eval state
    final.phases own = .returned outcome.1 ∧ final.shared = ⟨outcome.2.db, outcome.2.acl⟩ := by
  obtain ⟨db, filter, acl, pool⟩ := state
  have hlists : (own.body (entries own)).newLists db =
      (Function.update (current (stored db .allowed) (stored db .denied)) own (entries own)
          .allowed,
        Function.update (current (stored db .allowed) (stored db .denied)) own (entries own)
          .denied) := by
    cases own <;> rfl
  have hcarries : ((own.body (entries own)).aclAllowedNetworks.isSome ||
      (own.body (entries own)).aclDeniedNetworks.isSome) = true := by
    cases own <;> rfl
  -- the request has nothing for the other parts
  have houtcome : (updateDns env (own.body (entries own))).eval ⟨db, filter, acl, pool⟩ =
      (run (execute env) [aclPart (own.body (entries own))]).eval ⟨db, filter, acl, pool⟩ := by
    cases own <;> rfl
  generalize hnew : Function.update (current (stored db .allowed) (stored db .denied)) own
    (entries own) = lists at hlists
  have hstatements : (aclPart (own.body (entries own))).statements ⟨db, filter, acl, pool⟩ =
      [.set ⟨Side.key .allowed, listText (lists .allowed)⟩,
        .set ⟨Side.key .denied, listText (lists .denied)⟩,
        .reloadAcl (lists .allowed) (lists .denied)] := by
    simp only [aclPart, hcarries, hlists, if_true]
    rfl
  rw [houtcome, eval_run _ (List.pairwise_singleton _ _)]
  simp only [List.replicate, Machine.run, List.foldl_cons, List.foldl_nil]
  cases hbad : (Acl.validateCidrs (lists .allowed) ++ Acl.validateCidrs (lists .denied)).isEmpty
  · have hcheck : (aclPart (own.body (entries own))).check ⟨db, filter, acl, pool⟩ =
        some (.validation (str "Invalid CIDR entries: " ++ join (str ", ")
          (Acl.validateCidrs (lists .allowed) ++ Acl.validateCidrs (lists .denied)))) := by
      simp only [aclPart, hcarries, hlists, hbad, if_true]
      rfl
    simp [aclStep, act, AclState.init, hnew, hbad, firstError, handled, hcheck, executeAll]
  · have hcheck : (aclPart (own.body (entries own))).check ⟨db, filter, acl, pool⟩ = none := by
      simp only [aclPart, hcarries, hlists, hbad, if_true]
    simp [aclStep, act, AclState.init, hnew, hbad, firstError, handled, hcheck, hstatements,
      executeAll, execute, store, aclOf]

/-! ## No update is lost -/

variable {entries : Side → List Str}

/-- What the next statement writes or puts in force besides the list of the request is stored
as it was read. -/
def Phase.UpToDate (db : Database) (own : Side) : Phase → Prop
  | .write side lists => side ≠ own → stored db side = lists side
  | .reload lists => stored db own.other = lists own.other
  | .readAllowed | .readDenied _ | .returned _ => True

instance decidableUpToDate (db : Database) (own : Side) :
    (phase : Phase) → Decidable (phase.UpToDate db own)
  | .write side lists => inferInstanceAs (Decidable (side ≠ own → stored db side = lists side))
  | .reload lists => inferInstanceAs (Decidable (stored db own.other = lists own.other))
  | .readAllowed | .readDenied _ | .returned _ => .isTrue trivial

/-- A list that the request does not carry is written, and the lists are put in force, only
while that list is as it was read. -/
def AclAdmissible (state : AclState) (own : Side) : Prop :=
  (state.phases own).UpToDate state.shared.db own

instance decidableAclAdmissible (state : AclState) (own : Side) :
    Decidable (AclAdmissible state own) :=
  inferInstanceAs (Decidable ((state.phases own).UpToDate state.shared.db own))

def OwesReload (own : Side) : Phase → Prop
  | .write .denied _ => own = .allowed
  | .reload _ => True
  | _ => False

def HasWritten (own : Side) (phase : Phase) : Prop :=
  OwesReload own phase ∨ phase = .returned (.ok ())

def Carries (own : Side) (entries : List Str) : Phase → Prop
  | .write _ lists | .reload lists => lists own = entries
  | _ => True

def InForce (shared : AclShared) : Prop := shared.acl = aclOf (stored shared.db)

structure AclInvariant (entries : Side → List Str) (shared : AclShared) (phases : Side → Phase) :
    Prop where
  carries : ∀ own, Carries own (entries own) (phases own)
  written : ∀ own, HasWritten own (phases own) → stored shared.db own = entries own
  settled : (∃ own, phases own = .returned (.ok ())) →
    InForce shared ∨ ∃ own, OwesReload own (phases own)

theorem aclInvariant_init (entries : Side → List Str) (shared : AclShared) :
    AclInvariant entries shared fun _ => .readAllowed where
  carries _ := trivial
  written := by
    rintro own (howes | hreturned)
    · exact howes.elim
    · cases hreturned
  settled := by
    rintro ⟨own, hreturned⟩
    cases hreturned

section Step

variable {shared after : AclShared} {phases : Side → Phase} {own : Side} {phase : Phase}

omit [IpNetCrate] [SerdeJson] in
theorem forall_update (property : Side → Phase → Prop) (hphase : property own phase)
    (hother : ∀ side, side ≠ own → property side (phases side)) (side : Side) :
    property side (Function.update phases own phase side) := by
  by_cases hside : side = own
  · rw [hside, Function.update_self]
    exact hphase
  · rw [Function.update_of_ne hside]
    exact hother side hside

/-- One request goes on and leaves the list of the other as it is.  After that the lists are
in force, or it owes that itself, or it has nothing to do with it. -/
theorem AclInvariant.advance (hinvariant : AclInvariant entries shared phases)
    (hcarries : Carries own (entries own) phase)
    (hwritten : HasWritten own phase → stored after.db own = entries own)
    (hothers : ∀ side, side ≠ own → stored after.db side = stored shared.db side)
    (hsettled : InForce after ∨ OwesReload own phase ∨
      phase ≠ .returned (.ok ()) ∧ ¬ OwesReload own (phases own) ∧
        (InForce shared → InForce after)) :
    AclInvariant entries after (Function.update phases own phase) where
  carries := forall_update (fun side => Carries side (entries side)) hcarries
    fun side _ => hinvariant.carries side
  written := by
    refine forall_update (fun side phase => HasWritten side phase →
      stored after.db side = entries side) hwritten fun side hside hother => ?_
    rw [hothers side hside]
    exact hinvariant.written side hother
  settled := by
    rintro ⟨side, hreturned⟩
    rcases hsettled with hforce | howes | ⟨hphase, hbefore, hkeeps⟩
    · exact Or.inl hforce
    · exact Or.inr ⟨own, by rwa [Function.update_self]⟩
    · have hside : side ≠ own := by
        rintro rfl
        rw [Function.update_self] at hreturned
        exact hphase hreturned
      rw [Function.update_of_ne hside] at hreturned
      rcases hinvariant.settled ⟨side, hreturned⟩ with hforce | ⟨other, howes⟩
      · exact Or.inl (hkeeps hforce)
      · refine Or.inr ⟨other, ?_⟩
        rwa [Function.update_of_ne]
        rintro rfl
        exact hbefore howes

theorem aclInvariant_step [LawfulSerdeJson] (state : AclState) (own : Side)
    (hinvariant : AclInvariant entries state.shared state.phases)
    (hadmissible : AclAdmissible state own) :
    AclInvariant entries (aclStep entries state own).1.shared
      (aclStep entries state own).1.phases := by
  obtain ⟨shared, phases⟩ := state
  have hcarries : Carries own (entries own) (phases own) := hinvariant.carries own
  have hwritten : HasWritten own (phases own) → stored shared.db own = entries own :=
    hinvariant.written own
  have hadmissible : (phases own).UpToDate shared.db own := hadmissible
  simp only [aclStep] at hinvariant ⊢
  cases hphase : phases own with
  | readAllowed =>
    change AclInvariant entries shared (Function.update phases own (.readDenied _))
    refine hinvariant.advance trivial (fun hwritten => Or.elim hwritten False.elim nofun)
      (fun _ _ => rfl) ?_
    exact Or.inr (Or.inr ⟨nofun, hphase ▸ id, id⟩)
  | readDenied allowed =>
    simp only [act]
    split_ifs
    · change AclInvariant entries shared (Function.update phases own (.write .allowed _))
      refine hinvariant.advance (Function.update_self _ _ _)
        (fun hwritten => Or.elim hwritten False.elim nofun)
        (fun _ _ => rfl) ?_
      exact Or.inr (Or.inr ⟨nofun, hphase ▸ id, id⟩)
    · change AclInvariant entries shared (Function.update phases own (.returned (.error _)))
      refine hinvariant.advance trivial (fun hwritten => Or.elim hwritten False.elim nofun)
        (fun _ _ => rfl) ?_
      exact Or.inr (Or.inr ⟨nofun, hphase ▸ id, id⟩)
  | write side lists =>
    rw [hphase] at hcarries hwritten hadmissible
    -- a request that has written its list, or does so now, owes the reload
    cases side with
    | allowed =>
      simp only [act]
      cases own with
      | allowed =>
        refine hinvariant.advance hcarries (fun _ => ?_)
          (fun side hside => stored_store_of_ne hside _) (Or.inr (Or.inl rfl))
        exact (stored_store_self _ _ _).trans hcarries
      | denied =>
        have hsame := stored_store_eq_self (hadmissible nofun)
        refine hinvariant.advance hcarries (fun hwritten => Or.elim hwritten nofun nofun)
          (fun side _ => hsame side) ?_
        refine Or.inr (Or.inr ⟨nofun, hphase ▸ id, fun hforce => ?_⟩)
        exact hforce.trans (congrArg aclOf (funext hsame).symm)
    | denied =>
      simp only [act]
      cases own with
      | allowed =>
        have hsame := stored_store_eq_self (hadmissible nofun)
        refine hinvariant.advance hcarries (fun _ => ?_) (fun side _ => hsame side)
          (Or.inr (Or.inl trivial))
        exact (hsame _).trans (hwritten (Or.inl rfl))
      | denied =>
        refine hinvariant.advance hcarries (fun _ => ?_)
          (fun side hside => stored_store_of_ne hside _) (Or.inr (Or.inl trivial))
        exact (stored_store_self _ _ _).trans hcarries
  | reload lists =>
    rw [hphase] at hcarries hwritten hadmissible
    have hown : stored shared.db own = lists own :=
      (hwritten (Or.inl trivial)).trans hcarries.symm
    have hlists : stored shared.db = lists := by
      funext side
      by_cases hside : side = own
      · rw [hside, hown]
      · rw [Side.eq_other hside]
        exact hadmissible
    refine hinvariant.advance trivial (fun _ => hwritten (Or.inl trivial)) (fun _ _ => rfl) ?_
    exact Or.inl (congrArg aclOf hlists.symm)
  | returned outcome =>
    have hsame : Function.update phases own (.returned outcome) = phases := by
      rw [← hphase, Function.update_eq_self]
    simp only [act, hsame]
    exact hinvariant

end Step

def ListsInForce (entries : Side → List Str) (shared : AclShared) : Prop :=
  (∀ side, stored shared.db side = entries side) ∧
    shared.acl = Acl.fromCidrs (stored shared.db .allowed) (stored shared.db .denied)

/-- **When no update of the access lists is lost.**  If a request writes the list that it does
not carry, and puts the lists in force, only while that list is as it was read, then after both
requests have returned the settings hold both lists and the access list is made of them. -/
theorem listsInForce_of_admissible [LawfulSerdeJson] (entries : Side → List Str) (db : Database)
    (acl : Acl) (events : List Side)
    (hadmissible : ∀ point ∈ Machine.trace (aclStep entries) (.init db acl) events,
      AclAdmissible point.1 point.2)
    (hreturned : ∀ side, (Machine.run (aclStep entries) (.init db acl) events).phases side =
      .returned (.ok ())) :
    ListsInForce entries (Machine.run (aclStep entries) (.init db acl) events).shared := by
  obtain ⟨hinvariant, -⟩ := Machine.forall_trace (aclStep entries)
    (fun state => AclInvariant entries state.shared state.phases) AclAdmissible aclInvariant_step
    (aclInvariant_init entries ⟨db, acl⟩) events hadmissible
  refine ⟨fun side => hinvariant.written side (Or.inr (hreturned side)), ?_⟩
  rcases hinvariant.settled ⟨.allowed, hreturned .allowed⟩ with hforce | ⟨own, howes⟩
  · exact hforce
  · rw [hreturned own] at howes
    exact howes.elim

end Requests

/-! ### Two requests that overlap -/

section Overlap

attribute [local instance] IpNetCrate.cidr SerdeJson.standard LawfulSerdeJson.standard

def newEntries : Side → List Str
  | .allowed => [str "10.0.0.0/8"]
  | .denied => [str "10.6.6.6"]

def openServer : AclState := .init .empty ⟨[], []⟩

/-- Both requests read, and then one after the other writes and puts its lists in force. -/
def overlappingUpdates : List Side :=
  [.allowed, .allowed, .denied, .denied, .allowed, .allowed, .allowed, .denied, .denied, .denied]

/-- Both requests have returned, and the list of allowed networks is empty as before. -/
theorem not_listsInForce_overlappingUpdates :
    (∀ side, (Machine.run (aclStep newEntries) openServer overlappingUpdates).phases side =
        .returned (.ok ())) ∧
      ¬ ListsInForce newEntries
        (Machine.run (aclStep newEntries) openServer overlappingUpdates).shared := by
  refine ⟨by rintro (_ | _) <;> rfl, ?_⟩
  rintro ⟨hstored, -⟩
  exact absurd (hstored .allowed) (by decide +kernel)

/-- The second request reads the list of allowed networks when it was written; it reads the
other one before the first request puts its lists in force. -/
def closeUpdates : List Side :=
  [.allowed, .allowed, .allowed, .denied, .allowed, .denied, .allowed, .denied, .denied, .denied]

theorem listsInForce_closeUpdates :
    ListsInForce newEntries (Machine.run (aclStep newEntries) openServer closeUpdates).shared := by
  refine listsInForce_of_admissible newEntries .empty ⟨[], []⟩ closeUpdates ?_ ?_
  · decide +kernel
  · rintro (_ | _) <;> rfl

end Overlap

end RustDns.Api.Settings
