import Synclog.Client.Convergence
import Synclog.Client.Fleet
import Synclog.Memory.Coverage

/-!
# Recovery from snapshots, for a fleet of clients

A client that is too far behind recovers from a snapshot. Where those who run the server are careful
with what they remove (`SnapshotKind.Careful`), a snapshot that goes far enough is there for every
client at any time: whatever has happened before, a client that the hooks do not refuse catches up
with its stream (`fleet_catches_up`).
-/

namespace Synclog.Client

open Synclog.Lib Synclog.Core Synclog.Memory Synclog.Gateway

section Recovery

variable {R V TSnapshot TEvent Actor : Type} {hooks : Hooks Actor} {actor : Actor}
  {opts : SyncClientOptions} {binding : SyncBinding TSnapshot TEvent} {b : StreamBinding}
  {canonical : SubscriberID} {store : ProjectionStore R V TSnapshot TEvent} {σ : SoleClient R}
  {L : TrimmedLog Event}

/-- The snapshots that a client asks for. -/
def snapshotKind (binding : SyncBinding TSnapshot TEvent) (b : StreamBinding) : SnapshotKind where
  streamID := b.streamID
  payloadType := binding.projection.snapshotType
  maxPayloadVersion := binding.projection.maxSnapshotVersion.getD 0

variable (hooks actor binding b canonical) in
/-- The hooks let the client have the snapshots that it asks for. -/
structure ObligingSnapshots : Prop where
  authorized : hooks.authorize
    { actor, operation := .getSnapshot, target := binding.target,
      payloadType := binding.projection.snapshotType, subscriberID := canonical } = .ok ()
  listed : requireAllowedType b.snapshotTypes binding.projection.snapshotType "snapshot" = .ok ()
  allowed : hooks.allowSnapshot actor binding.target binding.projection.snapshotType = .ok ()
  decodable : ∀ version, (snapshotKind binding b).maxPayloadVersion = 0 ∨
      version ≤ (snapshotKind binding b).maxPayloadVersion →
    hooks.canDecode binding.projection.snapshotType version = true

/-- Where snapshots cover what is forgotten, a client without a budget can catch up. -/
theorem Consistent.canCatchUp (hfixed : FixedBinding hooks actor opts binding b canonical)
    (hbudget : binding.totalLimitPerTarget.getD 0 = 0)
    (hobliging : Obliging hooks actor binding b canonical L.all)
    (hsnapshots : ObligingSnapshots hooks actor binding b canonical)
    (h : Consistent opts binding b canonical store L σ)
    (hcovers : (snapshotKind binding b).Covers σ.server) :
    CanCatchUp hooks actor opts binding b canonical σ := by
  have hunlimited : (((catchUpRequest opts binding).totalLimitPerTarget : Nat) : Int) = 0 :=
    congrArg Nat.cast hbudget
  intro hlong
  unfold ReplayTooLong at hlong
  rw [hunlimited] at hlong
  rcases hlong with hneeds | ⟨hpos, -⟩
  · obtain ⟨snapshot, hlatest, hstored, hfar, hkept⟩ := hcovers.latest h.reachable hneeds
    obtain ⟨-, htyped⟩ := valid_of_eligible h.reachable hstored
    obtain ⟨⟨key, hkey⟩, hid, htype, hversion⟩ := hstored
    have hright := h.snapshots key snapshot hkey
      ((congrArg SnapshotKey.streamID (h.reachable.snapshots_named hkey)).trans hid)
    have hhead : snapshot.ref.seq ≤ (σ.server.ensureStream b.streamID).head :=
      hright.1.trans h.holds.head.ge
    refine ⟨snapshot, ⟨⟨hfixed.subscriber, rfl, htyped, hfixed.resolves, hsnapshots.authorized,
      hfixed.selects, hsnapshots.listed, hsnapshots.allowed, hlatest, ?_⟩,
      ⟨hfixed.subscriber, rfl, hfixed.resolves, hobliging.ack, ?_, hhead⟩⟩, ?_⟩
    · rw [htype]
      exact hsnapshots.decodable _ hversion
    · exact hfixed.selects_recordKey
    · rw [hunlimited, max_eq_right hfar.le]
      rintro (hgone | ⟨hpos, -⟩)
      · exact hkept hgone
      · exact absurd hpos (lt_irrefl 0)
  · exact absurd hpos (lt_irrefl 0)

/-- Where snapshots cover what is forgotten, a client alone with its server catches up. -/
theorem Consistent.catchesUp (hfixed : FixedBinding hooks actor opts binding b canonical)
    (hbudget : binding.totalLimitPerTarget.getD 0 = 0)
    (hobliging : Obliging hooks actor binding b canonical L.all)
    (hsnapshots : ObligingSnapshots hooks actor binding b canonical)
    (h : Consistent opts binding b canonical store L σ)
    (hcovers : (snapshotKind binding b).Covers σ.server) :
    ∃ rounds summary τ, Prog.run (undisturbed hooks actor store)
        (catchUp opts binding rounds).run σ = (.ok summary, τ) ∧
      CaughtUp opts binding b canonical store L τ := by
  obtain ⟨rounds, summary, τ, hcatchUp⟩ := exists_catchUp (h.returns_of_canCatchUp hfixed hobliging
    (h.canCatchUp hfixed hbudget hobliging hsnapshots hcovers) {})
  exact ⟨rounds, summary, τ, hcatchUp, h.loop hfixed hcatchUp⟩

end Recovery

/-! ## Fleets -/

section Fleet

variable {ι V Actor : Type} [DecidableEq ι] {R TSnapshot TEvent : ι → Type} {hooks : Hooks Actor}
  {members : ∀ i, Member (R i) V (TSnapshot i) (TEvent i) Actor}

/-- The snapshots that a client of the fleet asks for. -/
def Member.snapshots {R V TSnapshot TEvent Actor : Type} (m : Member R V TSnapshot TEvent Actor) :
    SnapshotKind := snapshotKind m.binding m.b

/-- The step is permitted, and careful with what any of the clients needs. -/
def FleetCareful (members : ∀ i, Member (R i) V (TSnapshot i) (TEvent i) Actor)
    (l : FleetLabel ι) (σ : Fleet TSnapshot TEvent R) : Prop :=
  FleetPermitted members l σ ∧
    ∀ op, l = .env op → ∀ i, (members i).snapshots.Careful op σ.server

/-- A careful step leaves what is forgotten covered; what the clients do removes nothing. -/
theorem covers_step (l : FleetLabel ι) (σ τ : Fleet TSnapshot TEvent R)
    (hl : FleetCareful members l σ) (hstep : (fleet hooks members).step l σ = some τ)
    (h : FleetInv members σ) {i : ι} (hcovers : (members i).snapshots.Covers σ.server) :
    (members i).snapshots.Covers τ.server := by
  obtain ⟨hpermitted, hcareful⟩ := hl
  have hs : Reachable σ.server := (h i).server.reachable
  cases l with
  | env op =>
      cases hstep
      refine hcovers.apply hs (hcareful op rfl i) ?_
      rintro rfl
      exact (hpermitted i).1.1
  | client j l =>
      obtain ⟨hnot, ρ, hρ, rfl⟩ := fleet_client hstep
      rcases (h j).server_step hnot hρ with hsame | ⟨req, -, -, hack⟩
      · rw [hsame]
        exact hcovers
      · rw [hack]
        exact hcovers.apply hs (.ack req) (by rintro ⟨⟩)

/-- **Every client can recover: in every run of a fleet whose operators are careful, a client that
the hooks do not refuse and that has no budget for its replays catches up with its stream, once
nothing else happens on the server, however far it is behind and whatever was trimmed.** -/
theorem fleet_catches_up
    (hfixed : ∀ i, FixedBinding hooks (members i).actor (members i).opts (members i).binding
      (members i).b (members i).canonical)
    (hapart : Apart members) {s : Store} {logs : StreamID → List Event} (hreachable : Reachable s)
    (hholds : ∀ i, ∃ L, s.Holds (members i).b.streamID L ∧ L.all = logs (members i).b.streamID)
    (hcursor : ∀ i, s.committed (members i).canonical (members i).b.streamID = 0)
    (hsnapshots : ∀ i key snapshot, s.snapshots.lookup key = some snapshot →
      key.streamID = (members i).b.streamID →
        (snapshotRule (members i).store (members i).binding (members i).b).Right
          (logs (members i).b.streamID) snapshot)
    (hcovers : ∀ i, (members i).snapshots.Covers s) {ls : List (FleetLabel ι)}
    (hcareful : (fleet hooks members).Always (FleetCareful members) ls
      (Fleet.start members s logs)) {σ : Fleet TSnapshot TEvent R}
    (hrun : (fleet hooks members).run ls (Fleet.start members s logs) = some σ) (i : ι)
    (hbudget : (members i).binding.totalLimitPerTarget.getD 0 = 0)
    (hobliging : Obliging hooks (members i).actor (members i).binding (members i).b
      (members i).canonical (σ.logs (members i).b.streamID))
    (hloads : ObligingSnapshots hooks (members i).actor (members i).binding (members i).b
      (members i).canonical) :
    ∃ rounds summary τ, Prog.run (undisturbed hooks (members i).actor (members i).store)
        (catchUp (members i).opts (members i).binding rounds).run
        ⟨σ.server, (σ.clients i).records⟩ = (.ok summary, τ) ∧
      (members i).store.appliedSeq
          (τ.records (recordKey (members i).opts (members i).binding (members i).b)) =
        (σ.logs (members i).b.streamID).length ∧
      (members i).store.value
          (τ.records (recordKey (members i).opts (members i).binding (members i).b)) =
        foldEvents (members i).store (members i).binding (members i).b
          (σ.logs (members i).b.streamID) := by
  have hinv : FleetInv members σ ∧ ∀ i, (members i).snapshots.Covers σ.server := by
    refine Machine.run_invariant_of
      (I := fun σ => FleetInv members σ ∧ ∀ i, (members i).snapshots.Covers σ.server)
      (fun l σ τ hl hstep h => ?_) hcareful hrun
      ⟨fleetInv_start hreachable hholds hcursor hsnapshots, hcovers⟩
    exact ⟨fleetInv_step hfixed hapart l σ τ hl.1 hstep h.1,
      fun i => covers_step l σ τ hl hstep h.1 (h.2 i)⟩
  obtain ⟨L, hall, hconsistent⟩ := (hinv.1 i).consistent
  change L.all = σ.logs (members i).b.streamID at hall
  rw [← hall] at hobliging
  obtain ⟨rounds, summary, τ, hcatchUp, hcaughtUp⟩ :=
    hconsistent.catchesUp (hfixed i) hbudget hobliging hloads (hinv.2 i)
  refine ⟨rounds, summary, τ, hcatchUp, ?_, ?_⟩
  · rw [hcaughtUp.applied, ← hall]
    rfl
  · rw [hcaughtUp.value, hall]

end Fleet

/-! ## Two devices behind a truncation -/

/-- Two devices of one user, which ask for snapshots. -/
def listDevices (phone : Bool) : Member (Nat × List Nat) (List Nat) (List Nat) Nat String :=
  { devices phone with binding := listBinding }

/-- The snapshot of the first two events. -/
def firstTwo : PutSnapshotRequest where
  streamID := "a"
  seq := 2
  payload := [1, 2]
  payloadType := "list"

/-- Two events, the snapshot, a truncation of all that it covers, and one more event. A device has
begun to catch up. -/
def snapshotThenTruncate : List (FleetLabel Bool) :=
  let append : FleetLabel Bool := .env (.append 0 { streamID := "a" })
  [append, append, .env (.putSnapshot firstTwo), .env (.truncateBefore "a" 3), append,
    .client false (.start (.catchUp 1)), .client false (.perform false)]

/-- An operation that is careful for the one stream that both devices follow. -/
theorem fleetCareful_env {op : Op}
    {σ : Fleet (fun _ : Bool => List Nat) (fun _ => Nat) fun _ => Nat × List Nat}
    (hkeeps : op.KeepsCursors) (hack : ∀ req, op ≠ .ack req)
    (hput : ∀ req, op = .putSnapshot req →
      (snapshotRule seqStore listBinding (devices true).b).Right (σ.logs "a")
        (Store.newSnapshot req))
    (hcareful : (snapshotKind listBinding (devices true).b).Careful op σ.server) :
    FleetCareful listDevices (.env op) σ := by
  refine ⟨fun phone => ⟨⟨hkeeps, fun req hreq _ => hput req hreq⟩, ?_⟩, ?_⟩
  · rintro req rfl
    exact absurd rfl (hack req)
  · rintro _ ⟨⟩ phone
    exact hcareful

/-- Every truncation of the run is behind a snapshot. -/
theorem careful_snapshotThenTruncate :
    Machine.Always (fleet perActorHooks listDevices) (FleetCareful listDevices)
      snapshotThenTruncate (Fleet.start listDevices newStore fun _ => []) := by
  let append : Op := .append 0 { streamID := "a" }
  refine ⟨fleetCareful_env trivial nofun nofun (.of_same rfl rfl), ?_⟩
  rintro _ ⟨⟩
  refine ⟨fleetCareful_env trivial nofun nofun (.of_same rfl rfl), ?_⟩
  rintro _ ⟨⟩
  refine ⟨fleetCareful_env trivial nofun ?_ (.putSnapshot ⟨[append, append], rfl⟩ _), ?_⟩
  · rintro _ ⟨⟩
    exact ⟨by decide, rfl⟩
  rintro _ ⟨⟩
  refine ⟨fleetCareful_env trivial nofun nofun
    (.truncateBefore ⟨[append, append, .putSnapshot firstTwo], rfl⟩ ?_), ?_⟩
  · rintro -
    exact ⟨Store.newSnapshot firstTwo,
      ⟨⟨Store.snapshotKeyOf firstTwo, rfl⟩, rfl, rfl, .inl rfl⟩, by decide⟩
  rintro _ ⟨⟩
  refine ⟨fleetCareful_env trivial nofun nofun (.of_same rfl rfl), ?_⟩
  rintro _ ⟨⟩
  have hclient : ∀ i l (σ : Fleet (fun _ : Bool => List Nat) (fun _ => Nat) fun _ =>
      Nat × List Nat), FleetCareful listDevices (.client i l) σ :=
    fun _ _ _ => ⟨trivial, by rintro _ ⟨⟩⟩
  exact Machine.always_of_forall _ (by simp [hclient]) _

/-- The phone has no record yet, and the events of the snapshot are gone. -/
theorem fleet_catches_up_devices :
    ∃ rounds summary τ σ, (fleet perActorHooks listDevices).run snapshotThenTruncate
        (Fleet.start listDevices newStore fun _ => []) = some σ ∧
      (σ.server.ensureStream "a").events.map (·.seq) = [3] ∧
      Prog.run (undisturbed perActorHooks "alice" seqStore)
        (catchUp (listDevices true).opts listBinding rounds).run
        ⟨σ.server, (σ.clients true).records⟩ = (.ok summary, τ) ∧
      (τ.records ⟨"phone", listBinding.target, "default"⟩).2 = [1, 2, 3] := by
  have hfixed : ∀ phone, FixedBinding perActorHooks (listDevices phone).actor
      (listDevices phone).opts (listDevices phone).binding (listDevices phone).b
      (listDevices phone).canonical := by
    rintro (_ | _) <;> exact ⟨rfl, rfl, rfl⟩
  have hapart : Apart listDevices := devices_apart
  obtain ⟨σ, hrun, hretained, hfold⟩ : ∃ σ,
      (fleet perActorHooks listDevices).run snapshotThenTruncate
        (Fleet.start listDevices newStore fun _ => []) = some σ ∧
      (σ.server.ensureStream "a").events.map (·.seq) = [3] ∧
      foldEvents seqStore listBinding (devices true).b (σ.logs "a") = [1, 2, 3] :=
    ⟨_, rfl, rfl, rfl⟩
  obtain ⟨rounds, summary, τ, hcatchUp, -, hvalue⟩ := fleet_catches_up hfixed hapart ⟨[], rfl⟩
    (fun _ => ⟨.empty, .fresh, rfl⟩) (fun _ => rfl) (by rintro _ _ _ ⟨⟩)
    (by rintro _ n hpos hn; exact absurd hn (by change ¬ n ≤ 0; omega))
    careful_snapshotThenTruncate hrun true rfl ⟨rfl, rfl, fun _ _ => ⟨.inl rfl, rfl, rfl, rfl⟩⟩
    ⟨rfl, rfl, rfl, fun _ _ => rfl⟩
  exact ⟨rounds, summary, τ, σ, hrun, hretained, hcatchUp, hvalue.trans hfold⟩

end Synclog.Client
