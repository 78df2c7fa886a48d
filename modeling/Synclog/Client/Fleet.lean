import Synclog.Client.ExactlyOnce

/-!
# A fleet of clients

Any number of clients, each with its own binding and its own projection store, in front of one
gateway and one memory store. `fleet` is their machine: a step is one of another party, or one of a
client or of its tasks, as `system` has it for a client alone.

What is the others' doing for one client is the doing of the rest of the fleet and of everybody
else. A client's tasks change nothing but its own cursor (`SystemInv.server_step`); clients whose
cursors are apart therefore keep each other's invariant, and each of them projects exactly once
(`fleet_projects_exactly_once`).
-/

namespace Synclog.Client

open Synclog.Lib Synclog.Core Synclog.Memory Synclog.Gateway

/-! ## The machine -/

/-- A client of a fleet: who it is, what it follows, and how it keeps it. -/
structure Member (R V TSnapshot TEvent Actor : Type) where
  actor : Actor
  opts : SyncClientOptions
  binding : SyncBinding TSnapshot TEvent
  /-- The binding that its target resolves to. -/
  b : StreamBinding
  canonical : SubscriberID
  store : ProjectionStore R V TSnapshot TEvent

/-- A client with its requests, tasks and replies, without the store of the server. -/
structure Endpoint (TSnapshot TEvent R : Type) where
  records : TargetBindingKey → R
  sent : List Request := []
  tasks : List (Nat × ServerTask) := []
  replies : List (Nat × Reply) := []
  stream : Option Nat := none
  pc : ClientPc TSnapshot TEvent := .idle

/-- The client in front of a server. -/
def Endpoint.within {TSnapshot TEvent R : Type} (e : Endpoint TSnapshot TEvent R)
    (server : Recorded) : System TSnapshot TEvent R where
  server := server
  records := e.records
  sent := e.sent
  tasks := e.tasks
  replies := e.replies
  stream := e.stream
  pc := e.pc

/-- The client's part of a state. -/
def System.endpoint {TSnapshot TEvent R : Type} (σ : System TSnapshot TEvent R) :
    Endpoint TSnapshot TEvent R where
  records := σ.records
  sent := σ.sent
  tasks := σ.tasks
  replies := σ.replies
  stream := σ.stream
  pc := σ.pc

/-- The endpoint of a system within the server is the system. -/
@[simp] theorem System.endpoint_within {TSnapshot TEvent R : Type}
    (σ : System TSnapshot TEvent R) (server : Recorded) :
    σ.endpoint.within server = { σ with server } := rfl

/-- The store of the server, the events that were appended to each of its streams, and the
clients. -/
structure Fleet {ι : Type} (TSnapshot TEvent R : ι → Type) where
  server : Store
  logs : StreamID → List Event
  clients : ∀ i, Endpoint (TSnapshot i) (TEvent i) (R i)

/-- What happens next: another party performs an operation, or something happens with a client. -/
inductive FleetLabel (ι : Type)
  | env (op : Op)
  | client (i : ι) (l : Label)

section Fleet

variable {ι V Actor : Type} [DecidableEq ι] {R TSnapshot TEvent : ι → Type} (hooks : Hooks Actor)
  (members : ∀ i, Member (R i) V (TSnapshot i) (TEvent i) Actor)

/-- What one client has to do with. -/
def Fleet.view (σ : Fleet TSnapshot TEvent R) (i : ι) : System (TSnapshot i) (TEvent i) (R i) :=
  (σ.clients i).within ⟨σ.server, σ.logs (members i).b.streamID⟩

/-- The client alone with its server. -/
abbrev Member.system {R V TSnapshot TEvent : Type} (m : Member R V TSnapshot TEvent Actor) :
    Machine (System TSnapshot TEvent R) Label :=
  Client.system hooks m.actor m.opts m.binding m.b.streamID m.store

/-- The clients with their server. -/
def fleet : Machine (Fleet TSnapshot TEvent R) (FleetLabel ι) where
  step
    | .env op, σ => some { σ with
        server := op.apply σ.server
        logs := fun id => σ.logs id ++ op.appended id σ.server }
    | .client _ (.env _), _ => none
    | .client i l, σ =>
      (((members i).system hooks).step l (σ.view members i)).map fun τ => { σ with
        server := τ.server.store
        clients := Function.update σ.clients i τ.endpoint }

/-- The state in which everything begins. -/
def Fleet.start (s : Store) (logs : StreamID → List Event) : Fleet TSnapshot TEvent R where
  server := s
  logs := logs
  clients i := { records := fun _ => (members i).store.empty }

/-- The step is none of those that are excluded for a client. -/
def FleetPermitted : FleetLabel ι → Fleet TSnapshot TEvent R → Prop
  | .env op, σ => ∀ i, Permitted (members i).binding (members i).b (members i).canonical
      (members i).store (.env op) (σ.view members i)
  | .client _ _, _ => True

/-- No two clients use one cursor. -/
def Apart : Prop :=
  ∀ i j, i ≠ j → ¬ ((members i).canonical = (members j).canonical ∧
    (members i).b.streamID = (members j).b.streamID)

end Fleet

/-! ## What a client does to the server -/

section Step

variable {R V TSnapshot TEvent Actor : Type} {hooks : Hooks Actor} {actor : Actor}
  {opts : SyncClientOptions} {binding : SyncBinding TSnapshot TEvent} {b : StreamBinding}
  {canonical : SubscriberID} {store : ProjectionStore R V TSnapshot TEvent}
  {σ τ : System TSnapshot TEvent R}

/-- The client's own steps leave the server alone. -/
theorem System.perform_server {aborted : Bool} {p : Running TSnapshot TEvent}
    (h : σ.perform store aborted p = some τ) : τ.server = σ.server := by
  cases p with
  | ret r =>
      cases h
      rfl
  | call c k =>
      cases c with
      | next =>
          obtain ⟨id, -, rfl⟩ := Option.map_eq_some_iff.mp h
          rfl
      | catchUp | ack | getLatestSnapshot | subscribe | aborted | getAppliedSeq | applySnapshot |
        applyEvents =>
          cases h
          rfl

/-- A task of the client changes at most the client's cursor. -/
theorem SystemInv.server_serveTask (h : SystemInv opts binding b canonical store σ) {i id : Nat}
    {p : ServerTask} (hmem : (id, p) ∈ σ.tasks) (hstep : σ.serveTask i id p = some τ) :
    τ.server = σ.server ∨ ∃ req : AckRequest, req.subscriberID = canonical ∧
      req.streamID = b.streamID ∧ τ.server = σ.server.apply b.streamID (.ack req) := by
  cases p with
  | ret r =>
      cases r with
      | error err => cases hstep
      | ok replies =>
          cases hstep
          exact .inl rfl
  | call c k =>
      cases hstep
      cases (h.tasks _ hmem).only.1 with
      | read hread => exact .inl (handler_isRead 0 Recorded.cell _ c σ.server hread)
      | @ack req hsub hstream hle =>
          refine .inr ⟨req, hsub, hstream, ?_⟩
          unfold Recorded.apply
          simp only [Op.appended, List.append_nil]
          rfl

/-- What happens with a client changes at most its cursor on the server. -/
theorem SystemInv.server_step (h : SystemInv opts binding b canonical store σ) {l : Label}
    (hl : ∀ op, l ≠ .env op)
    (hstep : (system hooks actor opts binding b.streamID store).step l σ = some τ) :
    τ.server = σ.server ∨ ∃ req : AckRequest, req.subscriberID = canonical ∧
      req.streamID = b.streamID ∧ τ.server = σ.server.apply b.streamID (.ack req) := by
  unfold system at hstep
  cases l with
  | env op => exact absurd rfl (hl op)
  | serve i =>
      obtain ⟨⟨id, p⟩, htask, hserve⟩ := Option.bind_eq_some_iff.mp hstep
      exact h.server_serveTask (List.mem_of_getElem? htask) hserve
  | perform aborted =>
      simp only at hstep
      split at hstep
      · exact .inl (System.perform_server hstep)
      · cases hstep
  | accept id =>
      obtain ⟨req, -, rfl⟩ := Option.map_eq_some_iff.mp hstep
      exact .inl rfl
  | crash =>
      cases hstep
      exact .inl rfl
  | answer i =>
      simp only at hstep
      split at hstep
      · split_ifs at hstep
        obtain ⟨p, -, rfl⟩ := Option.map_eq_some_iff.mp hstep
        exact .inl rfl
      · cases hstep
  | reject message late =>
      simp only at hstep
      split at hstep
      · obtain ⟨p, -, rfl⟩ := Option.map_eq_some_iff.mp hstep
        exact .inl rfl
      · obtain ⟨p, -, rfl⟩ := Option.map_eq_some_iff.mp hstep
        exact .inl rfl
      · cases hstep
  | start flow | ends =>
      simp only at hstep
      split at hstep
      · cases hstep
        exact .inl rfl
      · cases hstep

end Step

/-! ## Runs of a fleet -/

section Runs

variable {ι V Actor : Type} [DecidableEq ι] {R TSnapshot TEvent : ι → Type} {hooks : Hooks Actor}
  {members : ∀ i, Member (R i) V (TSnapshot i) (TEvent i) Actor}
  {σ τ : Fleet TSnapshot TEvent R}

/-- A step of one client is a step of its own system, with the server put back. -/
theorem fleet_step_client {i : ι} {l : Label} (hl : ∀ op, l ≠ .env op) :
    (fleet hooks members).step (.client i l) σ =
      (((members i).system hooks).step l (σ.view members i)).map fun ρ => { σ with
        server := ρ.server.store
        clients := Function.update σ.clients i ρ.endpoint } := by
  cases l with
  | env op => exact absurd rfl (hl op)
  | start | crash | perform | answer | ends | reject | accept | serve => rfl

/-- What a step of a client is. -/
theorem fleet_client {i : ι} {l : Label}
    (hstep : (fleet hooks members).step (.client i l) σ = some τ) :
    (∀ op, l ≠ .env op) ∧ ∃ ρ, ((members i).system hooks).step l (σ.view members i) = some ρ ∧
      τ = { σ with
        server := ρ.server.store
        clients := Function.update σ.clients i ρ.endpoint } := by
  have hl : ∀ op, l ≠ .env op := by
    rintro op rfl
    cases hstep
  rw [fleet_step_client hl] at hstep
  obtain ⟨ρ, hρ, rfl⟩ := Option.map_eq_some_iff.mp hstep
  exact ⟨hl, ρ, hρ, rfl⟩

/-- The invariant of every client. -/
def FleetInv (members : ∀ i, Member (R i) V (TSnapshot i) (TEvent i) Actor)
    (σ : Fleet TSnapshot TEvent R) : Prop :=
  ∀ i, SystemInv (members i).opts (members i).binding (members i).b (members i).canonical
    (members i).store (σ.view members i)

/-- Every step keeps every client's invariant. -/
theorem fleetInv_step
    (hfixed : ∀ i, FixedBinding hooks (members i).actor (members i).opts (members i).binding
      (members i).b (members i).canonical)
    (hapart : Apart members) (l : FleetLabel ι) (σ τ : Fleet TSnapshot TEvent R)
    (hl : FleetPermitted members l σ) (hstep : (fleet hooks members).step l σ = some τ)
    (h : FleetInv members σ) : FleetInv members τ := by
  cases l with
  | env op =>
      cases hstep
      intro i
      exact systemInv_step (hfixed i) (.env op) _ _ (hl i) rfl (h i)
  | client i l =>
      obtain ⟨hnot, ρ, hρ, rfl⟩ := fleet_client hstep
      have hserver := (h i).server_step hnot hρ
      have hpermitted : Permitted (members i).binding (members i).b (members i).canonical
          (members i).store l (σ.view members i) := by
        cases l with
        | env op => exact absurd rfl (hnot op)
        | start | crash | perform | answer | ends | reject | accept | serve => trivial
      intro j
      by_cases hj : j = i
      · subst hj
        have hlog : ρ.server.log = σ.logs (members j).b.streamID := by
          rcases hserver with hsame | ⟨req, -, -, hack⟩
          · rw [hsame]
            rfl
          · rw [hack]
            exact List.append_nil _
        have hview : Fleet.view members { σ with
            server := ρ.server.store
            clients := Function.update σ.clients j ρ.endpoint } j = ρ := by
          unfold Fleet.view
          simp only [Function.update_self, System.endpoint_within, ← hlog]
        rw [hview]
        exact systemInv_step (hfixed j) l _ _ hpermitted hρ (h j)
      · have hview : Fleet.view members { σ with
            server := ρ.server.store
            clients := Function.update σ.clients i ρ.endpoint } j =
            { σ.view members j with
              server := ⟨ρ.server.store, σ.logs (members j).b.streamID⟩ } := by
          unfold Fleet.view
          simp only [Function.update_of_ne hj]
          rfl
        rw [hview]
        -- for the other clients it is an operation of another party, or nothing at all
        rcases hserver with hsame | ⟨req, hsub, hstream, hack⟩
        · rw [hsame]
          exact h j
        · have hstep : (⟨ρ.server.store, σ.logs (members j).b.streamID⟩ : Recorded) =
              (σ.view members j).server.apply (members j).b.streamID (.ack req) := by
            rw [hack]
            unfold Recorded.apply
            simp only [Op.appended, List.append_nil]
            rfl
          rw [hstep]
          refine (h j).advance ⟨trivial, by rintro _ ⟨⟩⟩ ?_
          rintro _ ⟨⟩ hsub' hstream'
          exact absurd ⟨hsub.symm.trans hsub', hstream.symm.trans hstream'⟩
            (hapart i j (Ne.symm hj))

omit [DecidableEq ι] in
/-- The invariants hold at the start. -/
theorem fleetInv_start {s : Store} {logs : StreamID → List Event} (hreachable : Reachable s)
    (hholds : ∀ i, ∃ L, s.Holds (members i).b.streamID L ∧ L.all = logs (members i).b.streamID)
    (hcursor : ∀ i, s.committed (members i).canonical (members i).b.streamID = 0)
    (hsnapshots : ∀ i key snapshot, s.snapshots.lookup key = some snapshot →
      key.streamID = (members i).b.streamID →
        (snapshotRule (members i).store (members i).binding (members i).b).Right
          (logs (members i).b.streamID) snapshot) :
    FleetInv members (Fleet.start members s logs) := by
  intro i
  obtain ⟨L, hL, hall⟩ := hholds i
  have hview : (Fleet.start members s logs).view members i =
      System.start (members i).store s L.all := by
    unfold Fleet.view
    rw [hall]
    rfl
  rw [hview]
  exact systemInv_start hreachable hL (hcursor i) fun key snapshot hkey hstream =>
    hall ▸ hsnapshots i key snapshot hkey hstream

/-- **A fleet projects exactly once: in every run of any number of clients with cursors of their
own, the record of each client is the fold of the first events of its stream, up to its applied seq;
and clients that fold one stream in one way and have come equally far hold the same value.** -/
theorem fleet_projects_exactly_once
    (hfixed : ∀ i, FixedBinding hooks (members i).actor (members i).opts (members i).binding
      (members i).b (members i).canonical)
    (hapart : Apart members) {s : Store} {logs : StreamID → List Event} (hreachable : Reachable s)
    (hholds : ∀ i, ∃ L, s.Holds (members i).b.streamID L ∧ L.all = logs (members i).b.streamID)
    (hcursor : ∀ i, s.committed (members i).canonical (members i).b.streamID = 0)
    (hsnapshots : ∀ i key snapshot, s.snapshots.lookup key = some snapshot →
      key.streamID = (members i).b.streamID →
        (snapshotRule (members i).store (members i).binding (members i).b).Right
          (logs (members i).b.streamID) snapshot)
    {ls : List (FleetLabel ι)}
    (hpermitted : (fleet hooks members).Always (FleetPermitted members) ls
      (Fleet.start members s logs))
    (hrun : (fleet hooks members).run ls (Fleet.start members s logs) = some σ) :
    (∀ i, ExactlyOnce (members i).opts (members i).binding (members i).b (members i).canonical
      (members i).store (σ.view members i)) ∧
    ∀ i j, (members i).b.streamID = (members j).b.streamID →
      foldEvents (members i).store (members i).binding (members i).b =
        foldEvents (members j).store (members j).binding (members j).b →
      (σ.view members i).applied (members i).opts (members i).binding (members i).b
          (members i).store =
        (σ.view members j).applied (members j).opts (members j).binding (members j).b
          (members j).store →
      (members i).store.value ((σ.clients i).records
          (recordKey (members i).opts (members i).binding (members i).b)) =
        (members j).store.value ((σ.clients j).records
          (recordKey (members j).opts (members j).binding (members j).b)) := by
  have hinv : FleetInv members σ := Machine.run_invariant_of (fleetInv_step hfixed hapart)
    hpermitted hrun (fleetInv_start hreachable hholds hcursor hsnapshots)
  refine ⟨fun i => (hinv i).exactlyOnce, fun i j hstream hfold happlied => ?_⟩
  have hi := (hinv i).exactlyOnce.value
  have hj := (hinv j).exactlyOnce.value
  have hlog : (σ.view members i).server.log = (σ.view members j).server.log :=
    congrArg σ.logs hstream
  rw [happlied, hfold, hlog, ← hj] at hi
  exact hi

end Runs

/-! ## Two devices -/

/-- Two devices of one user, which follow one stream. -/
def devices (phone : Bool) : Member (Nat × List Nat) (List Nat) (List Nat) Nat String where
  actor := "alice"
  opts := { subscriberId := if phone then "phone" else "laptop" }
  binding := seqBinding
  b := { bindingKey := "default", streamID := "a" }
  canonical := if phone then "alice/phone" else "alice/laptop"
  store := seqStore

/-- The two devices have cursors of their own. -/
theorem devices_apart : Apart devices := by
  rintro (_ | _) (_ | _) hne ⟨hsame, -⟩
  · exact hne rfl
  · exact absurd hsame (by decide)
  · exact absurd hsame (by decide)
  · exact hne rfl

/-- Two events are appended. Both devices ask for events, the phone before the second one; the
laptop's acknowledgement reaches the server, the phone's does not yet. -/
def bothCatchUp : List (FleetLabel Bool) :=
  let append : FleetLabel Bool := .env (.append 0 { streamID := "a" })
  let begin (phone : Bool) : List (FleetLabel Bool) :=
    [.client phone (.start (.catchUp 3)), .client phone (.perform false),
      .client phone (.accept 0)]
  let finish (phone : Bool) : List (FleetLabel Bool) :=
    .client phone (.answer 0) :: List.replicate 4 (.client phone (.perform false))
  append :: begin true ++ List.replicate 7 (.client true (.serve 0)) ++
    append :: begin false ++ List.replicate 7 (.client false (.serve 0)) ++
    finish false ++ finish true ++
    .client false (.accept 1) :: List.replicate 4 (.client false (.serve 1))

/-- The phone has folded the first event, the laptop both. -/
theorem fleet_projects_exactly_once_devices :
    ∃ σ, (fleet perActorHooks devices).run bothCatchUp
        (Fleet.start devices newStore fun _ => []) = some σ ∧
      (σ.clients true).records ⟨"phone", seqBinding.target, "default"⟩ = (1, [1]) ∧
      (σ.clients false).records ⟨"laptop", seqBinding.target, "default"⟩ = (2, [1, 2]) ∧
      σ.server.committed "alice/laptop" "a" = 2 ∧
      ∀ phone, ExactlyOnce (devices phone).opts (devices phone).binding (devices phone).b
        (devices phone).canonical (devices phone).store (σ.view devices phone) := by
  have hfixed : ∀ phone, FixedBinding perActorHooks (devices phone).actor (devices phone).opts
      (devices phone).binding (devices phone).b (devices phone).canonical := by
    rintro (_ | _) <;> exact ⟨rfl, rfl, rfl⟩
  obtain ⟨σ, hrun, hphone, hlaptop, hcommitted⟩ : ∃ σ,
      (fleet perActorHooks devices).run bothCatchUp
        (Fleet.start devices newStore fun _ => []) = some σ ∧
      (σ.clients true).records ⟨"phone", seqBinding.target, "default"⟩ = (1, [1]) ∧
      (σ.clients false).records ⟨"laptop", seqBinding.target, "default"⟩ = (2, [1, 2]) ∧
      σ.server.committed "alice/laptop" "a" = 2 := ⟨_, rfl, rfl, rfl, rfl⟩
  refine ⟨σ, hrun, hphone, hlaptop, hcommitted, ?_⟩
  refine (fleet_projects_exactly_once hfixed devices_apart ⟨[], rfl⟩
    (fun _ => ⟨.empty, .fresh, rfl⟩) ?_ ?_ ?_ hrun).1
  · exact fun _ => rfl
  · rintro _ _ _ ⟨⟩
  · refine Machine.always_of_forall _ ?_ _
    simp [bothCatchUp, FleetPermitted, Permitted, Recorded.Allows, Op.KeepsCursors, or_imp,
      forall_and]

end Synclog.Client
