import Synclog.Client.Serving
import Synclog.Gateway.Registry

/-!
# Exactly-once projection

What the record of a client holds in every run of the whole: the fold of the first events of the
stream, up to its applied seq, each of them applied once (`exactly_once_projection`).

The invariant `SystemInv` ties the parts together. The committed cursor, every acknowledgement that
was sent, and every acknowledgement that a task may still carry out are at or below the applied seq;
every batch on the network is a piece of the stream that begins at or below the applied seq, so that
what the client takes of it begins right behind the applied seq; and the client is before a call
that `projecting` permits. A crash forgets the client's place only, and an answer that is lost, late
or repeated is one more answer that the contract allows.
-/

namespace Synclog.Client

open Synclog.Lib Synclog.Core Synclog.Memory Synclog.Gateway
open Prog (Meets meets_call)

section ExactlyOnce

variable {R V TSnapshot TEvent Actor : Type} (hooks : Hooks Actor) (actor : Actor)
  (opts : SyncClientOptions) (binding : SyncBinding TSnapshot TEvent) (b : StreamBinding)
  (canonical : SubscriberID) (store : ProjectionStore R V TSnapshot TEvent)

/-! ## What holds in every state -/

/-- The events and the record of a state. -/
def System.view (σ : System TSnapshot TEvent R) : View R where
  log := σ.server.log
  record := σ.records (recordKey opts binding b)

/-- The applied seq of the client's record. -/
def System.applied (σ : System TSnapshot TEvent R) : Nat :=
  store.appliedSeq (σ.records (recordKey opts binding b))

/-- A task acknowledges at most `n`, and answers for the stream. -/
structure TaskOk (w : Recorded) (n : Nat) (p : ServerTask) : Prop where
  only : Prog.Only (AcksUpTo canonical b.streamID n) p
  sat : Prog.Sat taskHandler (TaskEnv store binding b) p
    (fun r t => ∀ replies, r = .ok replies → ∀ reply ∈ replies,
      ReplyOk store binding b t.log (t.store.committed canonical b.streamID) reply) w

/-- The client is before a call that `projecting` permits. -/
def ClientOk (v : View R) : ClientPc TSnapshot TEvent → Prop
  | .idle => True
  | .running p | .waiting _ p =>
    Meets (projecting store opts binding b) View.Grows (fun _ _ => True) p v

/-- The invariant of the whole. -/
structure SystemInv (σ : System TSnapshot TEvent R) : Prop where
  server : σ.server.Ok b.streamID (snapshotRule store binding b)
  record : RecordOk store binding b σ.server.log (σ.records (recordKey opts binding b))
  committed : σ.server.store.committed canonical b.streamID ≤ σ.applied opts binding b store
  sent : ∀ req ∈ σ.sent, RequestOk opts binding b (σ.applied opts binding b store) req
  tasks : ∀ task ∈ σ.tasks,
    TaskOk binding b canonical store σ.server (σ.applied opts binding b store) task.2
  replies : ∀ reply ∈ σ.replies,
    ReplyOk store binding b σ.server.log (σ.applied opts binding b store) reply.2
  client : ClientOk opts binding b store (σ.view opts binding b) σ.pc

/-- The step is not one of the excluded ones: another party's operation is allowed by the record of
the stream and does not acknowledge for the client's cursor. -/
def Permitted : Label → System TSnapshot TEvent R → Prop
  | .env op, σ => σ.server.Allows b.streamID (snapshotRule store binding b) op ∧
      ∀ req, op = .ack req → ¬ (req.subscriberID = canonical ∧ req.streamID = b.streamID)
  | _, _ => True

variable {hooks actor opts binding b canonical store}

/-- A task of the server stays right while the server goes on. -/
theorem TaskOk.step {w w' : Recorded} {n n' : Nat} {p : ServerTask}
    (h : TaskOk binding b canonical store w n p) (hstep : TaskEnv store binding b w w')
    (hn : n ≤ n') : TaskOk binding b canonical store w' n' p := by
  refine ⟨h.only.imp fun β c hc => hc.mono hn, h.sat.of_env ?_ hstep⟩
  rintro r t t' ⟨hok, op, hop, rfl⟩ hreplies replies hr reply hreply
  refine (hreplies replies hr reply hreply).mono (List.prefix_append _ _) ?_
  exact Op.committed_le hop.1 hok.reachable canonical b.streamID

/-- The client's view stays right while the log grows. -/
theorem ClientOk.grow {v v' : View R} {pc : ClientPc TSnapshot TEvent}
    (h : ClientOk opts binding b store v pc) (hgrows : v.Grows v') :
    ClientOk opts binding b store v' pc := by
  cases pc with
  | idle => trivial
  | running p | waiting id p => exact Meets.env (fun _ _ _ _ _ => trivial) hgrows h

namespace SystemInv

variable {σ : System TSnapshot TEvent R}

/-! ## The server moves -/

/-- An operation reaches the store, and the committed cursor stays at or below the applied seq. -/
theorem advance (h : SystemInv opts binding b canonical store σ) {op : Op}
    (hop : σ.server.Allows b.streamID (snapshotRule store binding b) op)
    (hack : ∀ req, op = .ack req → req.subscriberID = canonical → req.streamID = b.streamID →
      req.seq ≤ σ.applied opts binding b store) :
    SystemInv opts binding b canonical store { σ with server := σ.server.apply b.streamID op } := by
  have hlog : σ.server.log <+: (σ.server.apply b.streamID op).log := List.prefix_append _ _
  refine ⟨h.server.apply hop, ?_, ?_, h.sent, ?_, ?_, h.client.grow ⟨hlog, rfl⟩⟩
  · obtain ⟨hle, hvalue⟩ := h.record
    refine ⟨hle.trans hlog.length_le, ?_⟩
    obtain ⟨rest, hrest⟩ := hlog
    simp only
    rw [hvalue, ← hrest, List.take_append_of_le_length hle]
  · rcases op.committed_cases hop.1 h.server.reachable canonical b.streamID with
      hsame | ⟨req, heq, hsub, hstream, -, hseq⟩
    · exact hsame.le.trans h.committed
    · exact hseq.le.trans (hack req heq hsub hstream)
  · intro task htask
    exact (h.tasks task htask).step ⟨h.server, op, hop, rfl⟩ le_rfl
  · intro reply hreply
    exact (h.replies reply hreply).mono hlog le_rfl

/-- The server accepts a request. -/
theorem accept (h : SystemInv opts binding b canonical store σ)
    (hfixed : FixedBinding hooks actor opts binding b canonical) {id : Nat} {req : Request}
    (hreq : req ∈ σ.sent) :
    SystemInv opts binding b canonical store
      { σ with tasks := σ.tasks ++ [(id, (serve hooks actor req).run)] } := by
  refine { h with tasks := ?_ }
  intro task htask
  rcases List.mem_append.mp htask with hold | hnew
  · exact h.tasks task hold
  · obtain rfl := List.mem_singleton.mp hnew
    have hok := h.sent req hreq
    exact ⟨only_serve hfixed hok, sat_serve hfixed h.server hok⟩

/-- The server takes the next step of a task. -/
theorem serveTask (h : SystemInv opts binding b canonical store σ) {i id : Nat} {p : ServerTask}
    (hmem : (id, p) ∈ σ.tasks) {τ : System TSnapshot TEvent R}
    (hstep : σ.serveTask i id p = some τ) : SystemInv opts binding b canonical store τ := by
  have htask := h.tasks _ hmem
  cases p with
  | ret r =>
      cases r with
      | error err => cases hstep
      | ok replies =>
          cases hstep
          refine { h with replies := ?_ }
          intro reply hreply
          rcases List.mem_append.mp hreply with hold | hnew
          · exact h.replies reply hold
          · obtain ⟨reply, hmem, rfl⟩ := List.mem_map.mp hnew
            have hok := Prog.sat_ret.mp htask.sat replies rfl reply hmem
            exact hok.mono List.prefix_rfl h.committed
  | call c k =>
      cases hstep
      have hnext : ∀ {w : Recorded}, (taskHandler _ c σ.server).2 = w →
          SystemInv opts binding b canonical store { σ with server := w } →
          SystemInv opts binding b canonical store
            { σ with
              server := w
              tasks := σ.tasks.set i (id, k (taskHandler _ c σ.server).1) } := by
        rintro w rfl hinv
        refine { hinv with tasks := ?_ }
        intro task hmem
        rcases List.mem_or_eq_of_mem_set hmem with hold | rfl
        · exact hinv.tasks task hold
        · exact ⟨htask.only.2 _, htask.sat.of_call⟩
      cases htask.only.1 with
      | read hread =>
          have hsame := handler_isRead 0 Recorded.cell _ c σ.server hread
          rw [hsame]
          exact hnext hsame h
      | @ack req hsub hstream hle =>
          have happly : (taskHandler _ (.ack req) σ.server).2 =
              σ.server.apply b.streamID (.ack req) := by
            unfold Recorded.apply
            simp only [Op.appended, List.append_nil]
            rfl
          rw [happly]
          refine hnext happly (h.advance ⟨trivial, by rintro _ ⟨⟩⟩ ?_)
          rintro _ ⟨⟩ - -
          exact hle

/-! ## The client moves -/

/-- The client stands somewhere else. -/
theorem setPc (h : SystemInv opts binding b canonical store σ) {pc : ClientPc TSnapshot TEvent}
    (hpc : ClientOk opts binding b store (σ.view opts binding b) pc) :
    SystemInv opts binding b canonical store { σ with pc } := { h with client := hpc }

/-- The client sends a request. -/
theorem send (h : SystemInv opts binding b canonical store σ) {req : Request}
    (hreq : RequestOk opts binding b (σ.applied opts binding b store) req)
    {pc : ClientPc TSnapshot TEvent}
    (hpc : ClientOk opts binding b store (σ.view opts binding b) pc) :
    SystemInv opts binding b canonical store (σ.send req pc) := by
  refine { h with sent := ?_, client := hpc }
  intro req' hreq'
  rcases List.mem_append.mp hreq' with hold | hnew
  · exact h.sent req' hold
  · obtain rfl := List.mem_singleton.mp hnew
    exact hreq

/-- The record becomes another one that is right, and no older. -/
theorem setRecords (h : SystemInv opts binding b canonical store σ)
    {records : TargetBindingKey → R}
    (hrecord : RecordOk store binding b σ.server.log (records (recordKey opts binding b)))
    (hle : σ.applied opts binding b store ≤
      store.appliedSeq (records (recordKey opts binding b)))
    {pc : ClientPc TSnapshot TEvent}
    (hpc : ClientOk opts binding b store ⟨σ.server.log, records (recordKey opts binding b)⟩ pc) :
    SystemInv opts binding b canonical store { σ with records, pc } where
  server := h.server
  record := hrecord
  committed := h.committed.trans hle
  sent req hreq := (h.sent req hreq).mono hle
  tasks task htask := by
    obtain ⟨honly, hsat⟩ := h.tasks task htask
    exact ⟨honly.imp fun β c hc => hc.mono hle, hsat⟩
  replies reply hreply := (h.replies reply hreply).mono List.prefix_rfl hle
  client := hpc

/-- What a permitted call to the projection store does to the record: it stays right, and the
applied seq does not go back. -/
theorem recordsAfter_ok (h : SystemInv opts binding b canonical store σ) {β : Type}
    {c : ClientCall TSnapshot TEvent β}
    (hpre : (σ.view opts binding b).Permits store opts binding b β c) :
    RecordOk store binding b σ.server.log
        (recordsAfter store c σ.records (recordKey opts binding b)) ∧
      σ.applied opts binding b store ≤
        store.appliedSeq (recordsAfter store c σ.records (recordKey opts binding b)) :=
  recordOk_after h.record hpre

/-- The client makes its next call. -/
theorem perform (h : SystemInv opts binding b canonical store σ) {aborted : Bool}
    {p : Running TSnapshot TEvent}
    (hp : Meets (projecting store opts binding b) View.Grows (fun _ _ => True) p
      (σ.view opts binding b))
    {τ : System TSnapshot TEvent R} (hstep : σ.perform store aborted p = some τ) :
    SystemInv opts binding b canonical store τ := by
  cases p with
  | ret r =>
      cases hstep
      exact h.setPc trivial
  | @call β c k =>
      obtain ⟨hpre, hpost⟩ : (σ.view opts binding b).Permits store opts binding b β c ∧ _ :=
        hp _ .refl
      cases c with
      | catchUp req =>
          cases hstep
          exact h.send (show RequestOk opts binding b _ (.catchUp req) from hpre) hp
      | ack req =>
          cases hstep
          exact h.send (show RequestOk opts binding b _ (.ack req) from hpre) hp
      | getLatestSnapshot req =>
          cases hstep
          exact h.send (show RequestOk opts binding b _ (.getLatestSnapshot req) from hpre) hp
      | subscribe req =>
          cases hstep
          have hnext : ClientOk opts binding b store (σ.view opts binding b) (.running (k ())) :=
            hpost () _ (.refl _)
          exact { h.send (show RequestOk opts binding b _ (.subscribe req) from hpre) hnext with }
      | next =>
          obtain ⟨id, -, rfl⟩ := Option.map_eq_some_iff.mp hstep
          exact h.setPc hp
      | aborted =>
          cases hstep
          exact h.setPc (hpost aborted _ (.refl _))
      | getAppliedSeq key =>
          cases hstep
          obtain rfl : key = _ := hpre
          exact h.setPc (hpost (.ok _) _ ⟨.refl _, rfl⟩)
      | applySnapshot key snapshot =>
          cases hstep
          obtain ⟨hrecord, hle⟩ := h.recordsAfter_ok hpre
          refine h.setRecords hrecord hle (hpost (.ok ()) _ ⟨List.prefix_rfl, ?_⟩)
          obtain ⟨rfl, -⟩ := hpre
          exact recordsAfter_applySnapshot store (recordKey opts binding b) snapshot σ.records
      | applyEvents key events =>
          cases hstep
          obtain ⟨hrecord, hle⟩ := h.recordsAfter_ok hpre
          refine h.setRecords hrecord hle (hpost (.ok ()) _ ⟨List.prefix_rfl, ?_⟩)
          obtain ⟨rfl, -⟩ := hpre
          exact recordsAfter_applyEvents store (recordKey opts binding b) events σ.records

/-- The waiting client gets a reply. -/
theorem answer (h : SystemInv opts binding b canonical store σ) {p : Running TSnapshot TEvent}
    (hp : Meets (projecting store opts binding b) View.Grows (fun _ _ => True) p
      (σ.view opts binding b))
    {id : Nat} {reply : Reply} (hmem : (id, reply) ∈ σ.replies) {p' : Running TSnapshot TEvent}
    (hdeliver : deliver p reply = some p') :
    SystemInv opts binding b canonical store { σ with pc := .running p' } := by
  have hreply := h.replies _ hmem
  refine h.setPc ?_
  cases p with
  | ret r => cases hdeliver
  | call c k =>
      have hpost := (hp _ .refl).2
      cases c with
      | catchUp req =>
          cases reply with
          | results results =>
              cases hdeliver
              exact hpost (.ok results) _ ⟨.refl _, hreply⟩
          | acked | snapshot | frame => cases hdeliver
      | ack req =>
          cases reply with
          | acked =>
              cases hdeliver
              exact hpost (.ok ()) _ (.refl _)
          | results | snapshot | frame => cases hdeliver
      | getLatestSnapshot req =>
          cases reply with
          | snapshot snapshot =>
              cases hdeliver
              exact hpost (.ok (some snapshot)) _ ⟨.refl _, hreply⟩
          | results | acked | frame => cases hdeliver
      | next =>
          cases reply with
          | frame resp =>
              cases hdeliver
              exact hpost (.ok (some resp)) _ ⟨.refl _, hreply⟩
          | results | acked | snapshot => cases hdeliver
      | subscribe | aborted | getAppliedSeq | applySnapshot | applyEvents => cases hdeliver

/-- A promise rejects; a call to the projection store may have been carried out. -/
theorem reject (h : SystemInv opts binding b canonical store σ) {p : Running TSnapshot TEvent}
    (hp : Meets (projecting store opts binding b) View.Grows (fun _ _ => True) p
      (σ.view opts binding b))
    {err : JsError} (late : Bool) {p' : Running TSnapshot TEvent}
    (hreject : Client.reject err p = some p') :
    SystemInv opts binding b canonical store
      { σ with records := recordsOnReject store late σ.records p, pc := .running p' } := by
  cases p with
  | ret r => cases hreject
  | @call β c k =>
      obtain ⟨hpre, hpost⟩ : (σ.view opts binding b).Permits store opts binding b β c ∧ _ :=
        hp _ .refl
      have hkept : RecordOk store binding b σ.server.log
            (recordsOnReject store late σ.records (.call c k) (recordKey opts binding b)) ∧
          σ.applied opts binding b store ≤ store.appliedSeq
            (recordsOnReject store late σ.records (.call c k) (recordKey opts binding b)) := by
        cases late with
        | true => exact h.recordsAfter_ok hpre
        | false => exact ⟨h.record, le_rfl⟩
      refine h.setRecords hkept.1 hkept.2 ?_
      have hsame : (∀ records : TargetBindingKey → R, recordsAfter store c records = records) →
          recordsOnReject store late σ.records (.call c k) = σ.records := by
        intro hsame
        cases late with
        | true => exact hsame σ.records
        | false => rfl
      cases c with
      | catchUp | ack | getLatestSnapshot | next | getAppliedSeq =>
          cases hreject
          rw [hsame fun _ => rfl]
          exact hpost (.error err) _ (.refl _)
      | applySnapshot | applyEvents =>
          cases hreject
          exact hpost (.error err) _ trivial
      | subscribe | aborted => cases hreject

end SystemInv

/-! ## Runs -/

/-- What one step keeps. -/
theorem systemInv_step (hfixed : FixedBinding hooks actor opts binding b canonical) (l : Label)
    (σ τ : System TSnapshot TEvent R) (hpermitted : Permitted binding b canonical store l σ)
    (hstep : (system hooks actor opts binding b.streamID store).step l σ = some τ)
    (h : SystemInv opts binding b canonical store σ) :
    SystemInv opts binding b canonical store τ := by
  have hclient := h.client
  unfold system at hstep
  cases l with
  | env op =>
      cases hstep
      obtain ⟨hop, hack⟩ := hpermitted
      exact h.advance hop fun req heq hsub hstream => absurd ⟨hsub, hstream⟩ (hack req heq)
  | start flow =>
      simp only at hstep
      split at hstep
      · cases hstep
        exact h.setPc (projects_program flow _)
      · cases hstep
  | crash =>
      cases hstep
      exact h.setPc trivial
  | perform aborted =>
      simp only at hstep
      split at hstep
      · rename_i p hpc
        rw [hpc] at hclient
        exact h.perform hclient hstep
      · cases hstep
  | answer i =>
      simp only at hstep
      split at hstep
      · rename_i id p id' reply hpc hreply
        rw [hpc] at hclient
        split_ifs at hstep
        obtain ⟨p', hdeliver, rfl⟩ := Option.map_eq_some_iff.mp hstep
        exact h.answer hclient (List.mem_of_getElem? hreply) hdeliver
      · cases hstep
  | ends =>
      simp only at hstep
      split at hstep
      · rename_i hpc
        rw [hpc] at hclient
        cases hstep
        exact h.setPc ((hclient _ .refl).2 (.ok none) _ (.refl _))
      · cases hstep
  | reject message late =>
      simp only at hstep
      split at hstep
      · rename_i p hpc
        rw [hpc] at hclient
        obtain ⟨p', hreject, rfl⟩ := Option.map_eq_some_iff.mp hstep
        exact h.reject hclient late hreject
      · rename_i p hpc
        rw [hpc] at hclient
        obtain ⟨p', hreject, rfl⟩ := Option.map_eq_some_iff.mp hstep
        exact h.reject hclient late hreject
      · cases hstep
  | accept id =>
      obtain ⟨req, hreq, rfl⟩ := Option.map_eq_some_iff.mp hstep
      exact h.accept hfixed (List.mem_of_getElem? hreq)
  | serve i =>
      obtain ⟨⟨id, p⟩, htask, hserve⟩ := Option.bind_eq_some_iff.mp hstep
      exact h.serveTask (List.mem_of_getElem? htask) hserve

/-- In the beginning the record is empty, and the client has acknowledged nothing. -/
theorem systemInv_start {s : Store} {L : TrimmedLog Event} (hreachable : Reachable s)
    (hholds : s.Holds b.streamID L) (hcursor : s.committed canonical b.streamID = 0)
    (hsnapshots : ∀ key snapshot, s.snapshots.lookup key = some snapshot →
      key.streamID = b.streamID → (snapshotRule store binding b).Right L.all snapshot) :
    SystemInv opts binding b canonical store (System.start store s L.all) where
  server := ⟨hreachable, ⟨L, hholds, rfl⟩, hsnapshots⟩
  record := by
    have happlied : store.appliedSeq store.empty = 0 := store.appliedSeq_empty
    refine ⟨by simp [System.start, happlied], ?_⟩
    simp [System.start, happlied, foldEvents, foldFrom]
  committed := hcursor.le.trans (Nat.zero_le _)
  sent := by rintro req ⟨⟩
  tasks := by rintro task ⟨⟩
  replies := by rintro reply ⟨⟩
  client := trivial

variable (opts binding b canonical store) in
/-- What exactly-once projection says of a state. -/
structure ExactlyOnce (σ : System TSnapshot TEvent R) : Prop where
  /-- The events of the stream are numbered from 1 without a gap. -/
  numbered : Consecutive Event.seq 1 σ.server.log
  /-- The head of the stream is the number of its events. -/
  head : (σ.server.store.ensureStream b.streamID).head = σ.server.log.length
  applied_le : σ.applied opts binding b store ≤ (σ.server.store.ensureStream b.streamID).head
  /-- The value is the fold of the events up to the applied seq. -/
  value : store.value (σ.records (recordKey opts binding b)) =
    foldEvents store binding b (σ.server.log.take (σ.applied opts binding b store))
  committed_le : σ.server.store.committed canonical b.streamID ≤ σ.applied opts binding b store
  acks_le : ∀ req, .ack req ∈ σ.sent → req.seq ≤ σ.applied opts binding b store

/-- What the invariant means for the client. -/
theorem SystemInv.exactlyOnce {σ : System TSnapshot TEvent R}
    (h : SystemInv opts binding b canonical store σ) :
    ExactlyOnce opts binding b canonical store σ where
  numbered := h.server.numbered
  head := h.server.head
  applied_le := h.record.1.trans h.server.head.ge
  value := h.record.2
  committed_le := h.committed
  acks_le := by
    intro req hreq
    obtain ⟨seq, hle, rfl⟩ := h.sent _ hreq
    exact hle

/-- **Exactly-once projection: in every run, the record of the client is the fold of the first
events of the stream, up to its applied seq, and neither the committed cursor nor an acknowledgement
goes beyond it.** -/
theorem exactly_once_projection (hfixed : FixedBinding hooks actor opts binding b canonical)
    {s : Store} {L : TrimmedLog Event} (hreachable : Reachable s) (hholds : s.Holds b.streamID L)
    (hcursor : s.committed canonical b.streamID = 0)
    (hsnapshots : ∀ key snapshot, s.snapshots.lookup key = some snapshot →
      key.streamID = b.streamID → (snapshotRule store binding b).Right L.all snapshot)
    {ls : List Label}
    (hpermitted : (system hooks actor opts binding b.streamID store).Always
      (Permitted binding b canonical store) ls (System.start store s L.all))
    {σ : System TSnapshot TEvent R}
    (hrun : (system hooks actor opts binding b.streamID store).run ls
      (System.start store s L.all) = some σ) :
    ExactlyOnce opts binding b canonical store σ := by
  have hstart : SystemInv opts binding b canonical store (System.start store s L.all) :=
    systemInv_start hreachable hholds hcursor hsnapshots
  exact (Machine.run_invariant_of (systemInv_step hfixed) hpermitted hrun hstart).exactlyOnce

end ExactlyOnce

/-! ## A lost acknowledgement -/

/-- A store whose records are a pair of an applied seq and the seqs of the applied events. -/
def seqStore : ProjectionStore (Nat × List Nat) (List Nat) (List Nat) Nat where
  empty := (0, [])
  appliedSeq := Prod.fst
  value := Prod.snd
  step value event := value ++ [event]
  load := id
  applyEvents events r :=
    ((events.getLast?.map (·.seq)).getD r.1,
      (events.map (·.value)).foldl (fun value event => value ++ [event]) r.2)
  applySnapshot snapshot r := if r.1 ≤ snapshot.seq then (snapshot.seq, snapshot.value) else r
  appliedSeq_empty := rfl
  appliedSeq_applyEvents events r hne _ := by simp [List.getLast?_eq_some_getLast hne]
  value_applyEvents events r _ _ := rfl
  applySnapshot_cases snapshot r := by
    split_ifs with h
    · exact .inl ⟨h, rfl, rfl⟩
    · exact .inr ⟨by omega, rfl, rfl⟩

/-- A client that collects the seqs of events; a snapshot is a list of them. -/
def seqBinding : SyncBinding (List Nat) Nat where
  target := { ns := "n", id := "a" }
  projection :=
    { snapshotType := ""
      decodeSnapshot := fun payload _ => payload.map UInt8.toNat
      decodeEvent := fun event => event.seq }

/-- The options of a client on another device. -/
def laptopOpts : SyncClientOptions where
  subscriberId := "laptop"

/-- The client applies two events, and crashes before it has the answer to its acknowledgement. Its
next flow gets all events again: the task of it has read the cursor when the acknowledgement reaches
the server. -/
def lostAck : List Label :=
  let append : Label := .env (.append 0 { streamID := "a" })
  [append, append, .start (.catchUp 3), .perform false, .accept 0] ++
    List.replicate 6 (.serve 0) ++ .answer 0 :: List.replicate 4 (.perform false) ++
    [.crash, append, .start (.catchUp 3), .perform false, .accept 2] ++
    List.replicate 6 (.serve 1) ++ .accept 1 :: List.replicate 5 (.serve 2) ++
    .answer 1 :: List.replicate 4 (.perform false)

/-- An acknowledgement is lost, its events are served again, and none is folded twice. -/
theorem exactly_once_projection_lostAck :
    ∃ σ, (system perActorHooks "alice" laptopOpts seqBinding "a" seqStore).run lostAck
        (System.start seqStore newStore []) = some σ ∧
      σ.records ⟨"laptop", seqBinding.target, "default"⟩ = (3, [1, 2, 3]) ∧
      σ.server.store.committed "alice/laptop" "a" = 2 ∧
      ExactlyOnce laptopOpts seqBinding { bindingKey := "default", streamID := "a" } "alice/laptop"
        seqStore σ := by
  have hfixed : FixedBinding perActorHooks "alice" laptopOpts seqBinding
      { bindingKey := "default", streamID := "a" } "alice/laptop" := ⟨rfl, rfl, rfl⟩
  obtain ⟨σ, hrun, hrecord, hcommitted⟩ : ∃ σ,
      (system perActorHooks "alice" laptopOpts seqBinding "a" seqStore).run lostAck
        (System.start seqStore newStore []) = some σ ∧
      σ.records ⟨"laptop", seqBinding.target, "default"⟩ = (3, [1, 2, 3]) ∧
      σ.server.store.committed "alice/laptop" "a" = 2 := ⟨_, rfl, rfl, rfl⟩
  refine ⟨σ, hrun, hrecord, hcommitted, ?_⟩
  refine exactly_once_projection (L := .empty) hfixed ⟨[], rfl⟩ .fresh rfl ?_ ?_ hrun
  · rintro _ _ ⟨⟩
  · refine Machine.always_of_forall _ ?_ _
    simp [lostAck, Permitted, Recorded.Allows, Op.KeepsCursors, or_imp, forall_and]

end Synclog.Client
