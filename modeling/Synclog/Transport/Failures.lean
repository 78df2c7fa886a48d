import Synclog.Gateway.Ack
import Synclog.Lib.Atomic
import Synclog.Memory.Retries
import Synclog.Transport.Refused
import Synclog.Transport.Server

/-!
# Failed requests

A `Request` is one to the raw server or to the gateway, in front of the same store. However the
requests come between each other, one that has failed has done nothing: it can be deleted from the
run. Every other request is answered as before, and afterwards no client of the store can tell the
difference (`failed_requests_unnoticed`).

The reason is the order in which each method does its work: what may fail comes first, and nothing
fails after a call that has changed something (`answer_atomic`, `call_atomic`).
-/

namespace Synclog.Transport

open Synclog.Lib Synclog.Core Synclog.Memory Synclog.Gateway

/-! ## Sections that change nothing -/

/-- The answer says that the section has done nothing. -/
def SectionIdle : (β : Type) → StoreSection β → β → Prop
  | _, .inl c, r => c.Idle r
  | _, .inr (.minCursor _), _ => True
  | _, .inr (.truncateBefore id before), r => (StoreMethod.truncateBefore id before).Idle r

/-- The journal is left as it is then. -/
theorem journalSections_of_idle {β : Type} {c : StoreSection β} {J : Journal}
    (h : SectionIdle β c (journalSections β c J).1) : (journalSections β c J).2 = J := by
  rcases c with c | ⟨id⟩ | ⟨id, before⟩
  · exact journal_of_idle h
  · rfl
  · exact journal_of_idle (c := .truncateBefore id before) h

/-- A section that never does anything. -/
def Quiet (β : Type) (c : StoreSection β) : Prop := ∀ b, SectionIdle β c b

/-- A read has no effect. -/
theorem quiet_of_isRead (now : Int) (β : Type) (c : StoreCall β) (hc : StoreCall.IsRead β c) :
    Quiet β (sectionOf now β c) := by
  cases hc <;> exact fun _ => trivial

section Programs

variable {α β : Type}

/-- What only reads in front of the store has no effect on it. -/
theorem quiet_onStore (now : Int) {p : ServerProg α} (hp : p.run.Only StoreCall.IsRead) :
    (onStore now p).run.Only Quiet :=
  Prog.Only.embed (hp.imp (quiet_of_isRead now))

/-- A status in place of an error has no effect. -/
theorem quiet_withStatus {x : StoreProg α} (hx : x.run.Only Quiet) :
    (withStatus x).run.Only Quiet :=
  Prog.Only.bind hx fun _ => trivial

/-- The program fails only as long as it has done nothing. -/
abbrev Atomic (x : StoreProg α) : Prop := x.run.AllOrNothing SectionMayAnswer SectionIdle IsError

/-- Who has no effect does all or nothing. -/
theorem atomic_of_quiet {x : StoreProg α} (hx : x.run.Only Quiet) : Atomic x :=
  Prog.allOrNothing_of_only (fun _ _ b hc => hc b) hx

/-- A status in place of an error keeps all or nothing. -/
theorem atomic_withStatus {x : StoreProg α} (hx : Atomic x) : Atomic (withStatus x) := by
  refine Prog.AllOrNothing.map ?_ hx
  rintro (err | a) ⟨err', herr⟩
  · exact ⟨err, rfl⟩
  · cases herr

/-- A handler that is given its store does what the store does. -/
theorem atomic_delegate {given : Bool} {what : String} {x : StoreProg α} (hx : Atomic x) :
    Atomic (RawServer.delegate given what x) := by
  unfold RawServer.delegate
  split_ifs
  · exact atomic_withStatus hx
  · exact trivial

/-- A program whose answer is put into a response. -/
theorem atomic_response {x : StoreProg α} (hx : Atomic x) (f : α → β) :
    Atomic (x >>= fun a => pure (f a)) :=
  Prog.AllOrNothing.bindE hx fun a => not_isError_ok (f a)

/-- One method of the store, if the server was given it. -/
theorem atomic_delegated {given : Bool} {what : String} (c : StoreMethod (Except GoError α))
    (f : α → β) (hidle : ∀ err, c.Idle (.error err)) :
    Atomic (RawServer.delegate given what (storeMethod c >>= fun a => pure (f a))) := by
  have hmethod : Atomic (storeMethod c) := by
    rintro (err | a) -
    · exact .inl ⟨hidle err, trivial⟩
    · exact .inr (not_isError_ok a)
  exact atomic_delegate (atomic_response hmethod f)

end Programs

/-! ## Requests to the raw server -/

/-- The same of a program over the calls of an engine. -/
def CallIdle (now : Int) (β : Type) (c : StoreCall β) (b : β) : Prop :=
  SectionIdle β (sectionOf now β c) b

/-- An engine that does all or nothing does so in front of the store. -/
theorem atomic_onStore {α : Type} {now : Int} {p : ServerProg α}
    (hp : p.run.AllOrNothing (CallMayAnswer now) (CallIdle now) IsError) :
    Atomic (onStore now p) :=
  Prog.AllOrNothing.embed (f := sectionOf now) (fun _ _ _ h => h) (fun _ _ _ h => h) hp

/-- An append is one call. -/
theorem append_atomic (now clock : Int) (req : AppendRequest) :
    (Engine.append clock req).run.AllOrNothing (CallMayAnswer now) (CallIdle now) IsError := by
  have hcall : ∀ req : AppendRequest, (Prog.performE (.append req) : ServerProg AppendResult).run
      |>.AllOrNothing (CallMayAnswer now) (CallIdle now) IsError := by
    rintro req (err | result) -
    · exact .inl ⟨.inl ⟨err, rfl⟩, trivial⟩
    · exact .inr (not_isError_ok result)
  unfold Engine.append
  split_ifs
  · trivial
  · trivial
  · exact hcall _
  · exact hcall _

/-- An acknowledgement reads the head before it moves the cursor. -/
theorem ack_atomic (now : Int) (req : AckRequest) :
    (Engine.ack req).run.AllOrNothing (CallMayAnswer now) (CallIdle now) IsError := by
  unfold Engine.ack
  split_ifs
  · trivial
  · trivial
  refine Prog.AllOrNothing.idle_bindE (P := fun β c => ∀ b, CallIdle now β c b)
    (fun _ _ b h => h b) ⟨fun _ => trivial, fun _ => trivial⟩ fun head => ?_
  split_ifs
  · trivial
  · rintro (err | cursor) -
    · exact .inl ⟨⟨err, rfl⟩, trivial⟩
    · exact .inr (not_isError_ok _)

/-- A compaction finds the smallest cursor before it truncates. -/
theorem compactSections_atomic (id : StreamID) : Atomic (ExceptT.mk (compactSections id)) := by
  unfold compactSections Admin.compactStream
  split_ifs
  · trivial
  intro minSeq _
  refine .inl ⟨trivial, ?_⟩
  rcases minSeq with _ | minSeq
  · trivial
  change Prog.AllOrNothing _ _ _ (Prog.embed _ (Admin.truncateBehind id (some minSeq)).run)
  unfold Admin.truncateBehind
  simp only
  split_ifs
  · rintro (err | removed) -
    · exact .inl ⟨.inl ⟨err, rfl⟩, trivial⟩
    · exact .inr (not_isError_ok _)
  · trivial

/-- A request to the raw server fails only as long as it has done nothing. -/
theorem answer_atomic (srv : RawServer) (clocks : Clocks) (req : RawRequest) :
    Atomic (srv.answer clocks req) := by
  cases req with
  | append id payload payloadType payloadVersion key =>
      exact atomic_response (atomic_withStatus (atomic_onStore (append_atomic _ _ _))) _
  | getHead id =>
      exact atomic_of_quiet (Prog.Only.bindE
        (quiet_withStatus (quiet_onStore _ (getHead_only_reads id))) fun _ => trivial)
  | getCursor b id =>
      refine atomic_of_quiet (Prog.Only.bindE
        (quiet_withStatus (quiet_onStore _ (getCursor_only_reads b id))) fun cursor => ?_)
      exact Prog.Only.bindE (quiet_withStatus (quiet_onStore _ (getHead_only_reads id)))
        fun _ => trivial
  | catchUp b id limit totalLimit =>
      exact atomic_of_quiet (Prog.Only.bindE
        (quiet_withStatus (quiet_onStore _ (Engine.catchUp_only_reads _))) fun _ => trivial)
  | ack b id seq metadata =>
      exact atomic_response (atomic_withStatus (atomic_onStore (ack_atomic _ _))) _
  | putSnapshot | deleteSnapshot | truncateStream =>
      refine atomic_delegated _ _ ?_
      exact fun err => .inl ⟨err, rfl⟩
  | createStream | deleteStream | resetCursor =>
      refine atomic_delegated _ _ ?_
      exact fun err => ⟨err, rfl⟩
  | getLatestSnapshot | getSnapshot | listSnapshots | listCursors | getStreamStats =>
      refine atomic_delegated _ _ ?_
      exact fun _ => trivial
  | compactStream id =>
      exact atomic_delegate (atomic_response (compactSections_atomic id) _)
  | setStreamRetention retention =>
      rcases retention with _ | retention
      · exact atomic_delegate (x := throw _) trivial
      · refine atomic_delegated _ _ ?_
        exact fun err => ⟨err, rfl⟩
  | listStreams order pre limit =>
      exact atomic_delegate (atomic_of_quiet ⟨fun _ => trivial, fun _ => trivial⟩)

/-! ## Requests to the gateway -/

section Gateway

variable {Actor : Type} (hooks : Hooks Actor) (actor : Actor) (now : Int)

/-- The reads of a target's state do not fail where the ids are there. -/
theorem bindingStates_ends {subscriberID : SubscriberID} (hsub : subscriberID ≠ "")
    {bindings : List StreamBinding} (hall : ∀ b ∈ bindings, b.streamID ≠ "") :
    (bindingStates subscriberID bindings).run.Ends (CallMayAnswer now) fun r => ¬ IsError r := by
  have hdone : ∀ {α : Type} {r : Except GoError α}, Checked none Never r → ¬ IsError r := by
    rintro α r hr ⟨err, herr⟩
    exact hr err herr
  induction bindings with
  | nil => exact not_isError_ok _
  | cons b bindings ih =>
      have hb := hall b List.mem_cons_self
      have hcursor := checked_getCursor now subscriberID b.streamID
      have hhead := checked_getHead now b.streamID
      rw [needsCursor_eq_none.mpr ⟨hsub, hb⟩] at hcursor
      rw [needsStream_eq_none.mpr hb] at hhead
      refine Prog.Ends.bindE (hcursor.imp fun _ => hdone) (fun cursor _ => ?_)
        fun err herr => absurd ⟨err, rfl⟩ herr
      refine Prog.Ends.bindE (hhead.imp fun _ => hdone) (fun head _ => ?_)
        fun err herr => absurd ⟨err, rfl⟩ herr
      exact Prog.Ends.bindE (ih fun b' hb' => hall b' (List.mem_cons_of_mem _ hb'))
        (fun rest _ => not_isError_ok _) fun err herr => absurd ⟨err, rfl⟩ herr

/-- The state of a resolved target is always answered. -/
theorem targetState_ends {subscriberID : SubscriberID} (hsub : subscriberID ≠ "")
    (target : SyncTarget) {bindings : List StreamBinding}
    (hall : ∀ b ∈ bindings, b.streamID ≠ "") :
    (targetState subscriberID target bindings).run.Ends (CallMayAnswer now)
      fun r => ¬ IsError r :=
  Prog.Ends.bindE (bindingStates_ends now hsub hall) (fun _ _ => not_isError_ok _)
    fun err herr => absurd ⟨err, rfl⟩ herr

/-- `GatewayAck` moves the cursor when everything that may fail is done: the state that it reads
afterwards is there. -/
theorem gatewayAck_atomic (req : GatewayAckRequest) :
    (gatewayAck hooks actor req).run.AllOrNothing (CallMayAnswer now) (CallIdle now) IsError := by
  unfold gatewayAck
  refine .ofExcept_bindE fun subscriberID hsub => ?_
  refine .ofExcept_bindE fun target htarget => ?_
  refine .ofExcept_bindE fun bindings hresolve => ?_
  refine .ofExcept_bindE fun _ _ => ?_
  refine .ofExcept_bindE fun binding _ => ?_
  refine .bindE (ack_atomic now _) fun result => ?_
  exact targetState_ends now (resolveSubscriber_ne hsub) target
    fun b hb => ((resolveBindings_ok hresolve).1 b hb).1

/-- `Open` only reads. -/
theorem open_only_reads (subscriberId : SubscriberID) (targets : List SyncTarget) :
    (Gateway.open hooks actor subscriberId targets).run.Only StoreCall.IsRead := by
  refine Prog.Only.bindE (ofExcept_only_reads _) fun subscriberID => ?_
  refine Prog.Only.bindE (ofExcept_only_reads _) fun _ => ?_
  induction targets with
  | nil => trivial
  | cons target targets ih =>
      exact Prog.Only.bindE (resolveTargetState_only_reads hooks actor subscriberID .open target)
        fun _ => Prog.Only.bindE ih fun _ => trivial

/-- Resolving the added targets only reads. -/
theorem resolveSubscribeTargets_only_reads (subscriberId : SubscriberID)
    (targets : List SyncTarget) :
    (resolveSubscribeTargets hooks actor subscriberId targets).run.Only StoreCall.IsRead := by
  refine Prog.Only.bindE (ofExcept_only_reads _) fun subscriberID => ?_
  have heach : (resolveSubscribeEach hooks actor subscriberID targets).Only StoreCall.IsRead := by
    induction targets with
    | nil => trivial
    | cons target targets ih =>
        refine Prog.Only.bind (resolveTargetState_only_reads hooks actor subscriberID .subscribe
          target) fun state => Prog.Only.bind ih fun _ => ?_
        cases state <;> trivial
  exact Prog.Only.bind heach fun _ => trivial

/-- A call of the gateway fails only as long as it has done nothing. -/
theorem call_atomic (call : GatewayCall) :
    (call.prog hooks actor).run.AllOrNothing (CallMayAnswer now) (CallIdle now) IsError := by
  have hread : ∀ {α : Type} {p : ServerProg α} {f : α → GatewayAnswer},
      p.run.Only StoreCall.IsRead → (p >>= fun a => pure (f a)).run.AllOrNothing
        (CallMayAnswer now) (CallIdle now) IsError :=
    fun hp => Prog.allOrNothing_of_only (fun β c b hc => quiet_of_isRead now β c hc b)
      (Prog.Only.bindE hp fun _ => trivial)
  cases call with
  | «open» subscriberId targets => exact hread (open_only_reads hooks actor _ _)
  | resolveSubscribeTargets subscriberId targets =>
      exact hread (resolveSubscribeTargets_only_reads hooks actor _ _)
  | catchUp req => exact hread (catchUp_only_reads hooks actor _ _ _ _ _)
  | subscribePoll req => exact hread (gatewaySubscribePoll_only_reads hooks actor req)
  | ack req =>
      exact Prog.AllOrNothing.bindE (gatewayAck_atomic hooks actor now req)
        fun _ => not_isError_ok _
  | getLatestSnapshot req => exact hread (gatewayGetLatestSnapshot_only_reads hooks actor req)

end Gateway

/-! ## Both servers -/

/-- A request to one of the servers in front of the store: to the raw server, with what the clocks
read; or to the gateway, with the actor that is extracted. -/
inductive Request (Actor : Type)
  | raw (clocks : Clocks) (req : RawRequest)
  | gateway (actor : Except GoError Actor) (call : GatewayCall)

/-- What is answered to a request. -/
abbrev Answer := Except GoError (RawResponse ⊕ GatewayAnswer)

/-- The sections of the store that a request goes through. -/
def Request.program {Actor : Type} (srv : RawServer) (hooks : Hooks Actor) :
    Request Actor → Prog StoreSection Answer
  | .raw clocks req => (srv.answer clocks req).run.bind fun r => .ret (r.map .inl)
  | .gateway actor call =>
    ((unary actor fun actor => call.prog hooks actor).embed (sectionOf 0)).bind fun r =>
      .ret (r.map .inr)

/-- Every request does all or nothing. -/
theorem Request.program_atomic {Actor : Type} (srv : RawServer) (hooks : Hooks Actor)
    (request : Request Actor) :
    (request.program srv hooks).AllOrNothing SectionMayAnswer SectionIdle IsError := by
  have hmap : ∀ {α β : Type} (f : α → β) (r : Except GoError α), IsError (r.map f) → IsError r := by
    rintro α β f (err | a) ⟨err', herr⟩
    · exact ⟨err, rfl⟩
    · cases herr
  cases request with
  | raw clocks req => exact .map (hmap _) (answer_atomic srv clocks req)
  | gateway actor call =>
      have hunary : (unary actor fun actor => call.prog hooks actor).AllOrNothing
          (CallMayAnswer 0) (CallIdle 0) IsError := by
        rcases actor with err | actor
        · trivial
        · have hbind : unary (.ok actor) (fun actor => call.prog hooks actor) =
              (call.prog hooks actor).run.bind fun r => .ret (r.mapError toStatusError) := by
            change Prog.bind _ _ = _
            congr 1
            funext r
            cases r <;> rfl
          rw [hbind]
          refine .map ?_ (call_atomic hooks actor 0 call)
          rintro (err | a) ⟨err', herr⟩
          · exact ⟨err, rfl⟩
          · cases herr
      exact .map (hmap _) (.embed (f := sectionOf 0) (fun _ _ _ h => h) (fun _ _ _ h => h) hunary)

/-- **Failed requests leave no trace.** Requests to both servers come between each other in any
order. Those that have failed can be deleted from the run: each of the others goes as far as before
and is answered the same, and no clients can tell the two stores apart. -/
theorem failed_requests_unnoticed {ι Actor : Type} [DecidableEq ι] (srv : RawServer)
    (hooks : Hooks Actor) (requests : ι → Request Actor) {s : Store} (hs : Reachable s)
    {ls : List (PoolLabel ι Unit)} {P : Pool StoreSection Store Answer ι}
    (hrun : (Pool.machine (fun _ => sections) fun i => (requests i).program srv hooks).run ls
      { shared := s } = some P) :
    ∃ Q, (Pool.machine (fun _ => sections) fun i => (requests i).program srv hooks).run
        (ls.filter fun l => ¬ P.Failed IsError l.program) { shared := s } = some Q ∧
      Indistinguishable P.shared Q.shared ∧
      ∀ i, ¬ P.Failed IsError i → Q.running i = P.running i ∧ Q.answer i = P.answer i := by
  obtain ⟨J, hJ⟩ := hs.standsFor
  have hboth := pool_journal (fun i => (requests i).program srv hooks) ls ⟨hs, hJ⟩
  rw [hrun] at hboth
  generalize hrunJ : (Pool.machine (fun _ => journalSections) fun i =>
    (requests i).program srv hooks).run ls { shared := J } = o at hboth
  rcases hboth with ⟨⟨hsP, hP⟩, hsame⟩ | _
  rename_i PJ
  have hanswers : PJ.answer = P.answer := Pool.answer_congr hsame.symm
  have hfailed : ∀ i, ¬ ¬ P.Failed IsError i → PJ.Failed IsError i := by
    intro i hi
    obtain ⟨a, hanswer, hfails⟩ := not_not.mp hi
    exact ⟨a, hanswers ▸ hanswer, hfails⟩
  -- the run of the journal without the failed requests
  obtain ⟨QJ, hfilter, hkept⟩ := Pool.drop_failed
    (I := fun J => ∃ s, Reachable s ∧ StandsFor s J)
    (fun _ β c J ⟨s, hs⟩ => ⟨_, (sections_journal c hs).2⟩)
    (fun _ β c J ⟨s, hs⟩ => (sections_journal c hs).1 ▸ sections_mayAnswer c s)
    (fun _ β c J _ hidle => journalSections_of_idle hidle)
    (fun i => (requests i).program_atomic srv hooks) hfailed ⟨s, hs, hJ⟩ hrunJ
  have hagain := pool_journal (fun i => (requests i).program srv hooks)
    (ls.filter fun l => ¬ P.Failed IsError l.program) ⟨hs, hJ⟩
  rw [hfilter] at hagain
  generalize hrunQ : (Pool.machine (fun _ => sections) fun i =>
    (requests i).program srv hooks).run _ { shared := s } = o at hagain
  rcases hagain with ⟨⟨hsQ, hQ⟩, hsameQ⟩ | _
  rename_i Q
  refine ⟨Q, rfl, ?_, fun i hi => ?_⟩
  · rw [hkept.shared] at hQ
    exact hP.indistinguishable hsP hsQ hQ
  · have hrunning : Q.running i = P.running i :=
      (congrFun hsameQ i).trans ((hkept.running i hi).trans (congrFun hsame i).symm)
    refine ⟨hrunning, ?_⟩
    unfold Pool.answer
    rw [hrunning]

/-- An event is appended, and acknowledged through both servers. -/
def appendAndAcks : Nat → Request String
  | 0 => .raw ⟨0, 0⟩ (.append "b" [] "" 0 "")
  | 1 => .raw ⟨0, 0⟩ (.ack "device" "b" 1 "")
  | _ => .gateway (.ok "alice")
    (.ack { subscriberId := "device", target := some { ns := "n", id := "b" }, seq := 1 })

/-- The raw acknowledgement looks at the head too early. -/
def tooEarly : List (PoolLabel Nat Unit) :=
  [.start 0, .start 1, .start 2, .advance 1 (), .advance 0 (), .advance 2 (), .advance 2 (),
    .advance 2 (), .advance 2 ()]

/-- An acknowledgement that comes before its append fails, and can be left out. -/
theorem failed_requests_unnoticed_tooEarly :
    ∃ P, (Pool.machine (fun _ => sections) fun i =>
        (appendAndAcks i).program {} perActorHooks).run tooEarly { shared := newStore } = some P ∧
      P.Failed IsError 1 ∧
      ∃ Q, (Pool.machine (fun _ => sections) fun i =>
          (appendAndAcks i).program {} perActorHooks).run
            (tooEarly.filter fun l => ¬ P.Failed IsError l.program) { shared := newStore } =
              some Q ∧
        Indistinguishable P.shared Q.shared ∧ Q.answer 2 = P.answer 2 := by
  have hrun : (Pool.machine (fun _ => sections) fun i =>
      (appendAndAcks i).program {} perActorHooks).run tooEarly { shared := newStore } =
        some _ := rfl
  refine ⟨_, hrun, ⟨_, rfl, _, rfl⟩, ?_⟩
  obtain ⟨Q, hfilter, hsame, hkept⟩ :=
    failed_requests_unnoticed {} perActorHooks appendAndAcks ⟨[], rfl⟩ hrun
  refine ⟨Q, hfilter, hsame, (hkept 2 ?_).2⟩
  rintro ⟨a, hanswer, err, herr⟩
  cases hanswer
  cases herr

end Synclog.Transport
