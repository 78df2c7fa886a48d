import Synclog.Core.Types
import Synclog.Lib.TrimmedLog

/-!
# The marks of a subscribe loop

Both subscribe loops, the raw one per stream and the gateway's per target binding, keep two marks
for what they have sent: the seq up to which events were delivered, and whether `TOO_LONG` was
announced. They treat an answer of the engine in the same way; this is `Mark.step`, and the loops
are written with it.

`Mark.Clear` and `Mark.step_announced_iff` say when an answer that reports `TOO_LONG` is announced;
`Mark.Founded m frames`, that an announcement which the mark remembers was sent.

`Accounted m frames committed` is what the marks promise about the frames sent since they were
created, newest first: what lies at or below the delivered mark is committed or was sent, and the
batches move forward. `Remembered m frames committed` is what the flag promises, as long as it is
not forgotten before the cursor advances (`Mark.Forgets`): no announcement is repeated before that.
`Accounted.step` and `Remembered.step` are the step lemmas for both loops.
-/

namespace Synclog.Core

open Synclog.Lib

/-! ## The marks -/

/-- Source: `synclog/transport/grpc/server.go`, `Server.Subscribe`, and
`gateway/transport/grpc/server.go`, `Server.GatewaySubscribe`: the variables `delivered` and
`tooLongSent`, for one binding. -/
structure Mark where
  delivered : Nat := 0
  tooLongSent : Bool := false
  deriving DecidableEq, Repr

/-- What a loop does with one answer of the engine: hold it back because too much is in flight, send
nothing, announce `TOO_LONG`, or deliver the batch. -/
inductive Outcome
  | throttled
  | silent
  | announced
  | delivered
  deriving DecidableEq, Repr

namespace Mark

/-- The committed cursor takes over when it has reached the mark. -/
def observe (m : Mark) (cursorSeq : Nat) : Mark :=
  if cursorSeq ≥ m.delivered then { delivered := cursorSeq, tooLongSent := false } else m

/-- Too many delivered events are not acknowledged yet. -/
def throttles (m : Mark) (maxInFlight cursorSeq : Nat) : Bool :=
  maxInFlight > 0 && m.delivered > cursorSeq && m.delivered - cursorSeq ≥ maxInFlight

/-- What follows when the answer is not held back. -/
def settle (m : Mark) (status : CatchUpStatus) (hasEvents : Bool) (seq : Nat) : Outcome × Mark :=
  if status = .tooLong then
    if m.tooLongSent then (.silent, m) else (.announced, { m with tooLongSent := true })
  else if hasEvents && seq > m.delivered then (.delivered, { m with delivered := seq })
  else (.silent, m)

/-- One answer of the engine.
Source: `server.go`, the body of the loop behind the engine's call, in both files. -/
def step (m : Mark) (maxInFlight cursorSeq : Nat) (status : CatchUpStatus) (hasEvents : Bool)
    (seq : Nat) : Outcome × Mark :=
  let m := m.observe cursorSeq
  if m.throttles maxInFlight cursorSeq then (.throttled, m) else m.settle status hasEvents seq

/-- Observing a cursor does not lower the mark. -/
theorem delivered_le_observe (m : Mark) (cursorSeq : Nat) :
    m.delivered ≤ (m.observe cursorSeq).delivered := by
  unfold observe
  split_ifs with hle
  · exact hle
  · exact le_rfl

/-- An announcement is repeated: where the cursor has reached the mark, `TOO_LONG` is announced
whatever the flag says, and afterwards the cursor has still reached the mark. -/
theorem step_tooLong_of_reached {m : Mark} {cursorSeq : Nat} (h : m.delivered ≤ cursorSeq)
    (maxInFlight : Nat) (hasEvents : Bool) (seq : Nat) :
    m.step maxInFlight cursorSeq .tooLong hasEvents seq =
      (.announced, { delivered := cursorSeq, tooLongSent := true }) := by
  unfold step observe
  rw [if_pos h]
  simp [throttles, settle]

/-- Where the cursor has reached the mark, the answer is treated as if nothing had been recorded. -/
theorem step_of_reached {m : Mark} {cursorSeq : Nat} (h : m.delivered ≤ cursorSeq)
    (maxInFlight : Nat) (status : CatchUpStatus) (hasEvents : Bool) (seq : Nat) :
    m.step maxInFlight cursorSeq status hasEvents seq =
      ({} : Mark).step maxInFlight cursorSeq status hasEvents seq := by
  unfold step observe
  rw [if_pos h, if_pos (Nat.zero_le _)]

/-- Where the cursor has reached the mark, events that lead beyond it are delivered. -/
theorem step_delivered_of_reached {m : Mark} {cursorSeq seq : Nat} {status : CatchUpStatus}
    (h : m.delivered ≤ cursorSeq) (maxInFlight : Nat) (hstatus : status ≠ .tooLong)
    (hseq : cursorSeq < seq) :
    m.step maxInFlight cursorSeq status true seq =
      (.delivered, { delivered := seq, tooLongSent := false }) := by
  unfold step observe
  rw [if_pos h]
  simp [throttles, settle, hstatus, hseq]

/-! ### A stream that stands still -/

/-- What a loop makes of a binding when nothing else happens: `c` is the committed cursor, `limit`
the bound on a batch, `head` the head of the stream. -/
def follow (m : Mark) (maxInFlight c limit : Nat) (head : StreamHead) : Outcome × Mark :=
  m.step maxInFlight c (if replayTooOld c head.retainedSeqStart then .tooLong else .ok)
    (decide (c < head.cursor.seq)) (min (c + limit) head.cursor.seq)

/-- The binding is held back: as many events as may be in flight are not acknowledged. -/
def Held (m : Mark) (maxInFlight c : Nat) : Prop :=
  0 < maxInFlight ∧ c < m.delivered ∧ maxInFlight ≤ m.delivered - c

/-- There is nothing to send that was not sent: the replay is too long and was announced while
events were in flight, or the batch behind the cursor does not reach beyond the mark. -/
def Spent (m : Mark) (c limit : Nat) (head : StreamHead) : Prop :=
  if replayTooOld c head.retainedSeqStart then m.tooLongSent = true ∧ c < m.delivered
  else head.cursor.seq ≤ c ∨ min (c + limit) head.cursor.seq ≤ m.delivered

/-- `TOO_LONG` is announced at this cursor: the cursor has reached the delivered mark, or no
announcement is remembered and the binding is not held back. -/
def Clear (m : Mark) (maxInFlight c : Nat) : Prop :=
  m.delivered ≤ c ∨ (m.tooLongSent = false ∧ ¬ m.Held maxInFlight c)

instance (m : Mark) (maxInFlight c : Nat) : Decidable (m.Held maxInFlight c) :=
  inferInstanceAs (Decidable (_ ∧ _ ∧ _))

instance (m : Mark) (maxInFlight c : Nat) : Decidable (m.Clear maxInFlight c) :=
  inferInstanceAs (Decidable (_ ∨ _))

instance (m : Mark) (c limit : Nat) (head : StreamHead) : Decidable (m.Spent c limit head) :=
  inferInstanceAs (Decidable (ite _ _ _))

section Follow

variable {m : Mark} {maxInFlight c limit : Nat} {head : StreamHead}

/-- A cursor below the mark changes nothing. -/
theorem observe_of_lt (h : c < m.delivered) : m.observe c = m := by
  unfold observe
  rw [if_neg (Nat.not_le.mpr h)]

/-- A cursor that has reached the mark takes its place, and the flag is cleared. -/
theorem observe_of_le (h : m.delivered ≤ c) :
    m.observe c = { delivered := c, tooLongSent := false } := by
  unfold observe
  rw [if_pos h]

/-- A mark that is ahead of the observed cursor was so before. -/
theorem observe_eq_of_lt (h : c < (m.observe c).delivered) : m.observe c = m := by
  rcases Nat.lt_or_ge c m.delivered with hlt | hge
  · exact observe_of_lt hlt
  · rw [observe_of_le hge] at h
    exact absurd h (Nat.lt_irrefl c)

/-- An answer that says what there is: without events its seq is not looked at, and neither is the
batch when the replay is too long. -/
theorem step_eq_follow {status : CatchUpStatus} {hasEvents : Bool} {seq : Nat}
    (hstatus : status = if replayTooOld c head.retainedSeqStart then .tooLong else .ok)
    (hbatch : status = .ok →
      hasEvents = decide (c < head.cursor.seq) ∧
        (c < head.cursor.seq → seq = min (c + limit) head.cursor.seq)) :
    m.step maxInFlight c status hasEvents seq = m.follow maxInFlight c limit head := by
  unfold follow
  by_cases hold : replayTooOld c head.retainedSeqStart = true
  · rw [if_pos hold] at hstatus ⊢
    rw [hstatus]
    simp only [step, settle, if_true]
  · rw [if_neg hold] at hstatus ⊢
    obtain ⟨hevents, hseq⟩ := hbatch hstatus
    rw [hstatus, hevents]
    by_cases hhead : c < head.cursor.seq
    · rw [hseq hhead]
    · simp only [step, settle, hhead, decide_false, Bool.false_and, Bool.false_eq_true, if_false]

/-- Whether too much is in flight can be seen from the mark before the cursor is observed. -/
theorem throttles_observe :
    (m.observe c).throttles maxInFlight c = true ↔ m.Held maxInFlight c := by
  unfold Held throttles
  rcases Nat.lt_or_ge c m.delivered with hlt | hge
  · rw [observe_of_lt hlt]
    simp [and_assoc]
  · rw [observe_of_le hge]
    simp
    omega

/-- What a delivery says: there are events, the replay is not too long, the binding was not held
back, and the mark is now the seq of the batch. -/
theorem step_delivered {status : CatchUpStatus} {hasEvents : Bool} {seq : Nat} {m' : Mark}
    (h : m.step maxInFlight c status hasEvents seq = (.delivered, m')) :
    hasEvents = true ∧ status ≠ .tooLong ∧ ¬ m.Held maxInFlight c ∧ m'.delivered = seq := by
  unfold step at h
  simp only at h
  split_ifs at h with hheld
  · cases h
  · unfold settle at h
    split_ifs at h with hlong hsent hdue
    · cases h
    · cases h
    · cases h
      exact ⟨(Bool.and_eq_true _ _ ▸ hdue).1, hlong, mt throttles_observe.mpr hheld, rfl⟩
    · cases h

/-- Only `TOO_LONG` is announced. -/
theorem step_announced {status : CatchUpStatus} {hasEvents : Bool} {seq : Nat} {m' : Mark}
    (h : m.step maxInFlight c status hasEvents seq = (.announced, m')) : status = .tooLong := by
  unfold step at h
  simp only at h
  split_ifs at h
  · cases h
  · unfold settle at h
    split_ifs at h with hlong hsent hdue
    · cases h
    · exact hlong
    · cases h
    · cases h

/-- What a loop makes of an answer that reports `TOO_LONG`. -/
theorem step_announced_iff (hasEvents : Bool) (seq : Nat) :
    (m.step maxInFlight c .tooLong hasEvents seq).1 = .announced ↔ m.Clear maxInFlight c := by
  unfold Clear
  rcases Nat.lt_or_ge c m.delivered with hlt | hge
  · by_cases hheld : m.Held maxInFlight c
    · have hstep : (m.step maxInFlight c .tooLong hasEvents seq).1 = .throttled := by
        unfold step
        simp only
        rw [if_pos (throttles_observe.mpr hheld)]
      rw [hstep]
      simp [hheld, hlt]
    · have hstep : m.step maxInFlight c .tooLong hasEvents seq =
          m.settle .tooLong hasEvents seq := by
        unfold step
        simp only
        rw [if_neg (mt throttles_observe.mp hheld), observe_of_lt hlt]
      rw [hstep]
      unfold settle
      cases hflag : m.tooLongSent with
      | false => simp [hheld]
      | true => simp [hlt]
  · simp [step_tooLong_of_reached hge, hge]

/-- What is left when the binding is not held back. -/
theorem follow_of_not_held (h : ¬ m.Held maxInFlight c) :
    m.follow maxInFlight c limit head =
      (m.observe c).settle (if replayTooOld c head.retainedSeqStart then .tooLong else .ok)
        (decide (c < head.cursor.seq)) (min (c + limit) head.cursor.seq) := by
  unfold follow step
  simp only
  rw [if_neg (mt throttles_observe.mp h)]

/-- Where the in-flight limit holds the binding back, nothing is sent. -/
theorem follow_of_held (h : m.Held maxInFlight c) :
    m.follow maxInFlight c limit head = (.throttled, m) := by
  unfold follow step
  simp only
  rw [if_pos (throttles_observe.mpr h), observe_of_lt h.2.1]

/-- A spent binding is passed over. -/
theorem follow_of_spent (h : ¬ m.Held maxInFlight c)
    (hspent : m.Spent c limit head) :
    m.follow maxInFlight c limit head = (.silent, m.observe c) := by
  rw [follow_of_not_held h]
  unfold Spent at hspent
  split_ifs at hspent ⊢ with hold
  · unfold settle
    rw [if_pos rfl, observe_of_lt hspent.2, if_pos hspent.1]
  · have hmark := m.delivered_le_observe c
    unfold settle
    rw [if_neg (by simp), if_neg]
    simp only [Bool.and_eq_true, decide_eq_true_eq, not_and]
    omega

/-- A binding that is behind the boundary, and of which that was not announced, is announced. -/
theorem follow_of_tooLong (h : ¬ m.Held maxInFlight c) (hspent : ¬ m.Spent c limit head)
    (hold : replayTooOld c head.retainedSeqStart = true) :
    m.follow maxInFlight c limit head = (.announced, { m.observe c with tooLongSent := true }) := by
  rw [follow_of_not_held h, if_pos hold]
  unfold Spent at hspent
  rw [if_pos hold, not_and] at hspent
  have hflag : ¬ (m.observe c).tooLongSent = true := by
    rcases Nat.lt_or_ge c m.delivered with hlt | hge
    · rw [observe_of_lt hlt]
      exact fun hflag => hspent hflag hlt
    · simp [observe_of_le hge]
  unfold settle
  rw [if_pos rfl, if_neg hflag]

/-- Events behind the cursor that reach beyond the mark are delivered. -/
theorem follow_of_fresh (hlimit : 0 < limit) (h : ¬ m.Held maxInFlight c)
    (hspent : ¬ m.Spent c limit head) (hold : ¬ replayTooOld c head.retainedSeqStart = true) :
    c < head.cursor.seq ∧ m.delivered < min (c + limit) head.cursor.seq ∧
      m.follow maxInFlight c limit head =
        (.delivered, { m.observe c with delivered := min (c + limit) head.cursor.seq }) := by
  rw [follow_of_not_held h, if_neg hold]
  unfold Spent at hspent
  rw [if_neg hold, not_or, Nat.not_le, Nat.not_le] at hspent
  obtain ⟨hhead, hmark⟩ := hspent
  refine ⟨hhead, hmark, ?_⟩
  have hfresh : (m.observe c).delivered < min (c + limit) head.cursor.seq := by
    rcases Nat.lt_or_ge c m.delivered with hlt | hge
    · rwa [observe_of_lt hlt]
    · rw [observe_of_le hge]
      simp only
      omega
  unfold settle
  rw [if_neg (by simp), if_pos (by simp [hhead, hfresh])]

/-- A binding with events behind the cursor, neither held back nor behind the boundary: they are
delivered when they reach beyond the mark. -/
theorem follow_behind (hlimit : 0 < limit) (h : ¬ m.Held maxInFlight c)
    (hold : ¬ replayTooOld c head.retainedSeqStart = true) (hhead : c < head.cursor.seq) :
    (m.delivered < min (c + limit) head.cursor.seq ∧
      ∃ m', m.follow maxInFlight c limit head = (.delivered, m')) ∨
    (¬ m.delivered < min (c + limit) head.cursor.seq ∧
      ∃ m', m.follow maxInFlight c limit head = (.silent, m')) := by
  have hspent : m.Spent c limit head ↔ ¬ m.delivered < min (c + limit) head.cursor.seq := by
    unfold Spent
    rw [if_neg hold]
    omega
  by_cases hmark : m.delivered < min (c + limit) head.cursor.seq
  · exact .inl ⟨hmark, _, (follow_of_fresh hlimit h (mt hspent.mp (not_not.mpr hmark)) hold).2.2⟩
  · exact .inr ⟨hmark, _, follow_of_spent h (hspent.mpr hmark)⟩

/-- What a loop makes of a binding, in all cases. -/
theorem follow_cases (hlimit : 0 < limit) :
    (m.Held maxInFlight c ∧ m.follow maxInFlight c limit head = (.throttled, m)) ∨
    (¬ m.Held maxInFlight c ∧ m.Spent c limit head ∧
      m.follow maxInFlight c limit head = (.silent, m.observe c)) ∨
    (¬ m.Held maxInFlight c ∧ ¬ m.Spent c limit head ∧
      ∃ m', m.follow maxInFlight c limit head = (.announced, m')) ∨
    (¬ m.Held maxInFlight c ∧ ¬ m.Spent c limit head ∧
      ∃ m', m.follow maxInFlight c limit head = (.delivered, m')) := by
  by_cases hheld : m.Held maxInFlight c
  · exact .inl ⟨hheld, follow_of_held hheld⟩
  by_cases hspent : m.Spent c limit head
  · exact .inr (.inl ⟨hheld, hspent, follow_of_spent hheld hspent⟩)
  by_cases hold : replayTooOld c head.retainedSeqStart = true
  · exact .inr (.inr (.inl ⟨hheld, hspent, _, follow_of_tooLong hheld hspent hold⟩))
  · exact .inr (.inr (.inr ⟨hheld, hspent, _, (follow_of_fresh hlimit hheld hspent hold).2.2⟩))

end Follow

end Mark

/-! ## What was sent -/

/-- A frame that a loop has sent for one binding: its status, the seqs of its events and the last of
them, the committed cursor when it was sent, and the delivered mark before its answer was
treated. -/
structure Sent where
  status : CatchUpStatus
  seqs : List Nat := []
  seq : Nat := 0
  committed : Nat
  delivered : Nat
  deriving DecidableEq, Repr

namespace Sent

/-- The frame announces `TOO_LONG`. -/
def IsTooLong (f : Sent) : Prop := f.status = .tooLong

instance (f : Sent) : Decidable f.IsTooLong := inferInstanceAs (Decidable (f.status = .tooLong))

/-- Of two batches the later one ends further ahead. -/
def MovesOn (newer older : Sent) : Prop :=
  ¬ newer.IsTooLong → ¬ older.IsTooLong → older.seq < newer.seq

end Sent

/-- The frames after one more answer with this outcome. -/
def record (o : Outcome) (f : Sent) (frames : List Sent) : List Sent :=
  match o with
  | .announced | .delivered => f :: frames
  | .throttled | .silent => frames

/-! ### What is remembered -/

/-- An announcement that the mark remembers was sent. -/
def Mark.Founded (m : Mark) (frames : List Sent) : Prop :=
  m.tooLongSent = true → ∃ f ∈ frames, f.IsTooLong

namespace Mark.Founded

variable {m : Mark} {frames : List Sent} {f : Sent}

/-- A new mark remembers no announcement. -/
theorem fresh (frames : List Sent) : ({} : Mark).Founded frames := nofun

/-- Observing a cursor sets no flag. -/
theorem observe (h : m.Founded frames) (cursorSeq : Nat) :
    (m.observe cursorSeq).Founded frames := by
  unfold Mark.observe
  split_ifs
  · exact nofun
  · exact h

/-- A flag is set by an announcement only. -/
theorem settle (h : m.Founded frames) (hasEvents : Bool) (seq : Nat) :
    (m.settle f.status hasEvents seq).2.Founded
      (record (m.settle f.status hasEvents seq).1 f frames) := by
  unfold Mark.settle
  split_ifs with hlong hflag hsend
  · exact h
  · exact fun _ => ⟨f, List.mem_cons_self, hlong⟩
  · intro hflag
    obtain ⟨g, hg, hannounced⟩ := h hflag
    exact ⟨g, List.mem_cons_of_mem _ hg, hannounced⟩
  · exact h

/-- One answer of the engine. -/
theorem step (h : m.Founded frames) (maxInFlight cursorSeq : Nat) (hasEvents : Bool) (seq : Nat) :
    (m.step maxInFlight cursorSeq f.status hasEvents seq).2.Founded
      (record (m.step maxInFlight cursorSeq f.status hasEvents seq).1 f frames) := by
  unfold Mark.step
  simp only
  split_ifs
  · exact h.observe cursorSeq
  · exact (h.observe cursorSeq).settle hasEvents seq

end Mark.Founded

/-- What is known of an answer of the engine when the loop treats it: the cursor in it is not ahead
of the committed one, and the events in it are a contiguous run behind a cursor that is not ahead
of it either. -/
structure AnswerOk (committed cursorSeq : Nat) (seqs : List Nat) (seq : Nat) : Prop where
  cursor_le : cursorSeq ≤ committed
  batch : seqs ≠ [] → ∃ c ≤ committed, Consecutive id (c + 1) seqs ∧ seq = c + seqs.length

/-- What is right of an answer stays so when the committed cursor advances. -/
theorem AnswerOk.mono {committed committed' cursorSeq seq : Nat} {seqs : List Nat}
    (h : AnswerOk committed cursorSeq seqs seq) (hle : committed ≤ committed') :
    AnswerOk committed' cursorSeq seqs seq := by
  refine ⟨h.cursor_le.trans hle, ?_⟩
  intro hne
  obtain ⟨c, hc, hcons⟩ := h.batch hne
  exact ⟨c, hc.trans hle, hcons⟩

/-- What the marks say about the frames sent since they were created, newest first. -/
structure Accounted (m : Mark) (frames : List Sent) (committed : Nat) : Prop where
  covered : ∀ seq ≤ m.delivered, seq ≤ committed ∨ ∃ f ∈ frames, seq ∈ f.seqs
  movesOn : frames.Pairwise Sent.MovesOn
  below : ∀ f ∈ frames, ¬ f.IsTooLong → f.seq ≤ m.delivered

namespace Accounted

variable {m : Mark} {frames : List Sent} {committed : Nat}

/-- Fresh marks, nothing sent. -/
theorem fresh (committed : Nat) : Accounted {} [] committed where
  covered seq hseq := .inl (by simp only [Nat.le_zero] at hseq; omega)
  movesOn := .nil
  below f hf := by simp at hf

/-- The committed cursor advances. -/
theorem mono (h : Accounted m frames committed) {committed' : Nat} (hle : committed ≤ committed') :
    Accounted m frames committed' := by
  refine { h with covered := ?_ }
  intro seq hseq
  rcases h.covered seq hseq with hcommitted | hsent
  · exact .inl (hcommitted.trans hle)
  · exact .inr hsent

/-- The cursor takes over: what lies below it is committed. -/
theorem observe (h : Accounted m frames committed) {cursorSeq : Nat} (hle : cursorSeq ≤ committed) :
    Accounted (m.observe cursorSeq) frames committed := by
  unfold Mark.observe
  split_ifs with hreached
  · refine { h with covered := ?_, below := ?_ }
    · intro seq hseq
      exact .inl (hseq.trans hle)
    · intro f hf hbatch
      exact (h.below f hf hbatch).trans hreached
  · exact h

/-- The rest of the treatment of an answer. -/
theorem settle (h : Accounted m frames committed) {cursorSeq seq before : Nat} {seqs : List Nat}
    (hanswer : AnswerOk committed cursorSeq seqs seq) (status : CatchUpStatus) :
    Accounted (m.settle status (!seqs.isEmpty) seq).2
      (record (m.settle status (!seqs.isEmpty) seq).1
        { status, seqs, seq, committed, delivered := before } frames) committed := by
  unfold Mark.settle
  split_ifs with hstatus hflag hsend
  · exact h
  · refine ⟨?_, .cons ?_ h.movesOn, ?_⟩
    · intro s hs
      rcases h.covered s hs with hcommitted | ⟨f, hf, hmem⟩
      · exact .inl hcommitted
      · exact .inr ⟨f, List.mem_cons_of_mem _ hf, hmem⟩
    · intro f _ hnot
      exact absurd hstatus hnot
    · intro f hf hnot
      rcases List.mem_cons.mp hf with rfl | hf
      · exact absurd hstatus hnot
      · exact h.below f hf hnot
  · -- the batch: its events reach from behind the cursor to the new mark
    simp only [Bool.and_eq_true, Bool.not_eq_true', List.isEmpty_eq_false_iff,
      decide_eq_true_eq] at hsend
    obtain ⟨hne, hahead⟩ := hsend
    obtain ⟨c, hc, hcons, hseq⟩ := hanswer.batch hne
    refine ⟨?_, .cons ?_ h.movesOn, ?_⟩
    · intro s hs
      by_cases hbelow : s ≤ c
      · exact .inl (hbelow.trans hc)
      · have hs' : s ≤ seq := hs
        obtain ⟨x, hx, rfl⟩ := hcons.exists_mem (k := s) (by omega) (by omega)
        exact .inr ⟨_, List.mem_cons_self, hx⟩
    · intro f hf _ hbatch
      exact (h.below f hf hbatch).trans_lt hahead
    · intro f hf hbatch
      rcases List.mem_cons.mp hf with rfl | hf
      · exact le_rfl
      · exact (h.below f hf hbatch).trans hahead.le
  · exact h

/-- One answer of the engine, for either loop. -/
theorem step (h : Accounted m frames committed) {cursorSeq seq : Nat} {seqs : List Nat}
    (hanswer : AnswerOk committed cursorSeq seqs seq) (maxInFlight : Nat) (status : CatchUpStatus) :
    Accounted (m.step maxInFlight cursorSeq status (!seqs.isEmpty) seq).2
      (record (m.step maxInFlight cursorSeq status (!seqs.isEmpty) seq).1
        { status, seqs, seq, committed, delivered := m.delivered } frames) committed := by
  unfold Mark.step
  have hobserved := h.observe hanswer.cursor_le
  simp only
  split_ifs
  · exact hobserved
  · exact hobserved.settle hanswer status

end Accounted

/-! ### What is announced once -/

/-- Of two announcements the committed cursor has advanced in between. -/
def AnnouncesOnce (frames : List Sent) : Prop :=
  frames.Pairwise fun newer older =>
    newer.IsTooLong → older.IsTooLong → older.committed < newer.committed

instance (frames : List Sent) : Decidable (AnnouncesOnce frames) :=
  inferInstanceAs (Decidable (frames.Pairwise fun newer older =>
    newer.IsTooLong → older.IsTooLong → older.committed < newer.committed))

/-- The committed cursor has advanced since the announcements were sent. -/
def Overtaken (frames : List Sent) (committed : Nat) : Prop :=
  ∀ f ∈ frames, f.IsTooLong → f.committed < committed

instance (frames : List Sent) (committed : Nat) : Decidable (Overtaken frames committed) :=
  inferInstanceAs (Decidable (∀ f ∈ frames, f.IsTooLong → f.committed < committed))

/-- An answer with this cursor clears the flag: an announcement is remembered, and the cursor has
reached the delivered mark. -/
def Mark.Forgets (m : Mark) (cursorSeq : Nat) : Prop :=
  m.tooLongSent = true ∧ m.delivered ≤ cursorSeq

instance (m : Mark) (cursorSeq : Nat) : Decidable (m.Forgets cursorSeq) :=
  inferInstanceAs (Decidable (_ ∧ _))

/-- The committed cursor goes further. -/
theorem Overtaken.mono {frames : List Sent} {committed committed' : Nat}
    (h : Overtaken frames committed) (hle : committed ≤ committed') :
    Overtaken frames committed' := fun f hf hlong => (h f hf hlong).trans_le hle

/-- The frames were announced once each, and what the flag does not remember is overtaken. -/
structure Remembered (m : Mark) (frames : List Sent) (committed : Nat) : Prop where
  once : AnnouncesOnce frames
  overtaken : m.tooLongSent = false → Overtaken frames committed

namespace Remembered

variable {m : Mark} {frames : List Sent} {f : Sent} {committed cursorSeq : Nat}

/-- Nothing was sent. -/
theorem fresh (committed : Nat) : Remembered {} [] committed where
  once := .nil
  overtaken _ f hf := by simp at hf

/-- The committed cursor advances. -/
theorem mono (h : Remembered m frames committed) {committed' : Nat} (hle : committed ≤ committed') :
    Remembered m frames committed' where
  once := h.once
  overtaken hflag := (h.overtaken hflag).mono hle

/-- The cursor takes over: the flag is cleared only if the announcements are overtaken. -/
theorem observe (h : Remembered m frames committed)
    (hforget : m.Forgets cursorSeq → Overtaken frames committed) :
    Remembered (m.observe cursorSeq) frames committed := by
  unfold Mark.observe
  split_ifs with hreached
  · refine ⟨h.once, fun _ => ?_⟩
    cases hflag : m.tooLongSent with
    | false => exact h.overtaken hflag
    | true => exact hforget ⟨hflag, hreached⟩
  · exact h

/-- The rest of the treatment of an answer: what is announced was not remembered. -/
theorem settle (h : Remembered m frames committed) (hf : f.committed = committed) (hasEvents : Bool)
    (seq : Nat) :
    Remembered (m.settle f.status hasEvents seq).2
      (record (m.settle f.status hasEvents seq).1 f frames) committed := by
  unfold Mark.settle
  split_ifs with hlong hflag hsend
  · exact h
  · have hovertaken := h.overtaken (Bool.eq_false_iff.mpr hflag)
    exact ⟨.cons (fun g hg _ hglong => (hovertaken g hg hglong).trans_eq hf.symm) h.once, nofun⟩
  · refine ⟨.cons (fun g _ hflong => absurd hflong hlong) h.once, fun hflag => ?_⟩
    exact List.forall_mem_cons.mpr ⟨fun hflong => absurd hflong hlong, h.overtaken hflag⟩
  · exact h

/-- One answer of the engine, for either loop. -/
theorem step (h : Remembered m frames committed) (hf : f.committed = committed)
    (hforget : m.Forgets cursorSeq → Overtaken frames committed) (maxInFlight : Nat)
    (hasEvents : Bool) (seq : Nat) :
    Remembered (m.step maxInFlight cursorSeq f.status hasEvents seq).2
      (record (m.step maxInFlight cursorSeq f.status hasEvents seq).1 f frames) committed := by
  unfold Mark.step
  have hobserved := h.observe hforget
  simp only
  split_ifs
  · exact hobserved
  · exact hobserved.settle hf hasEvents seq

/-- A frame that is not counted. -/
theorem of_record {o : Outcome} (h : Remembered m (record o f frames) committed) :
    Remembered m frames committed := by
  cases o with
  | throttled | silent => exact h
  | announced | delivered =>
      exact ⟨(List.pairwise_cons.mp h.once).2, fun hflag => (List.forall_mem_cons.mp
        (h.overtaken hflag)).2⟩

end Remembered

end Synclog.Core
