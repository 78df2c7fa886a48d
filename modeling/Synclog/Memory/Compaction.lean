import Synclog.Lib.Prog
import Synclog.Memory.Reads

/-!
# Compaction

`CompactStream` takes the lock twice: it finds the smallest stored cursor, lets go of the lock, and
truncates the stream behind what it has found. `Admin.compactStream` is this program of two calls.
Between the two the smallest cursor may become a smaller one, so what compaction promises, that it
removes only what every stored cursor has consumed, holds exactly under a condition on the stores
the two sections see (`compaction_removes_consumed_iff`, `compactStream_interfered`); with nothing
between the sections the condition always holds (`compactStream_alone`).
-/

namespace Synclog.Memory

open Synclog.Lib Synclog.Core

/-! ## The two sections as a program -/

/-- The two critical sections of `CompactStream`, with the types of their answers. -/
inductive AdminCall : Type → Type
  | minCursor (streamID : StreamID) : AdminCall (Option Nat)
  | truncateBefore (streamID : StreamID) (before : Nat) : AdminCall (Except GoError Nat)

/-- What the two critical sections do. -/
def adminHandler : Handler AdminCall Store
  | _, .minCursor streamID, s => (s.minCursor streamID, s)
  | _, .truncateBefore streamID before, s => s.truncateBefore streamID before

namespace Admin

/-- The part of `CompactStream` behind its first critical section.
Source: `store.go`, `Store.CompactStream`, from `if found && minSeq > 0`. -/
def truncateBehind (streamID : StreamID) : Option Nat → ExceptT GoError (Prog AdminCall) Unit
  | none => pure ()
  | some minSeq =>
    if minSeq > 0 then do
      let _ ← Prog.performE (.truncateBefore streamID (Store.compactBound minSeq))
    else pure ()

/-- Source: `store.go`, `Store.CompactStream`. -/
def compactStream (streamID : StreamID) : ExceptT GoError (Prog AdminCall) Unit :=
  if streamID = "" then throw (errInvalidArgument "stream id is required")
  else do
    let minSeq ← ExceptT.lift (Prog.perform (.minCursor streamID))
    truncateBehind streamID minSeq

/-- The store after the second critical section, when the first has found `minSeq`. -/
def afterTruncation (streamID : StreamID) (minSeq : Option Nat) (s : Store) : Store :=
  (Prog.run adminHandler (truncateBehind streamID minSeq).run s).2

/-- With nothing between its sections the program is the operation `Op.compactStream`. -/
theorem run_compactStream (streamID : StreamID) (s : Store) :
    Prog.run adminHandler (compactStream streamID).run s = s.compactStream streamID := by
  unfold compactStream Store.compactStream
  split_ifs with hid
  · rfl
  · show Prog.run adminHandler (truncateBehind streamID (s.minCursor streamID)).run s = _
    cases s.minCursor streamID with
    | none => rfl
    | some minSeq =>
        unfold truncateBehind
        simp only
        split_ifs
        · rw [Prog.run_bindE, Prog.run_performE]
          have hcall : adminHandler _ (.truncateBefore streamID (Store.compactBound minSeq)) s =
              s.truncateBefore streamID (Store.compactBound minSeq) := rfl
          rw [hcall]
          rcases s.truncateBefore streamID (Store.compactBound minSeq) with ⟨answer, t⟩
          cases answer <;> rfl
        · rfl

/-- An interfered compaction: the first section sees some store `s₁`, the second a later store
`s₂`. -/
theorem exec_compactStream {R : Store → Store → Prop} {streamID : StreamID} (hid : streamID ≠ "")
    {s t : Store} {r : Except GoError Unit}
    (h : Prog.Exec adminHandler R (compactStream streamID).run s r t) :
    ∃ s₁ s₂, Relation.ReflTransGen R s s₁ ∧ Relation.ReflTransGen R s₁ s₂ ∧
      t = afterTruncation streamID (s₁.minCursor streamID) s₂ := by
  unfold compactStream at h
  rw [if_neg hid] at h
  obtain ⟨s₁, h₁, h⟩ := Prog.exec_call.mp h
  change Prog.Exec adminHandler R (truncateBehind streamID (s₁.minCursor streamID)).run s₁ r t at h
  unfold afterTruncation
  cases hmin : s₁.minCursor streamID with
  | none =>
      rw [hmin] at h
      obtain ⟨-, rfl⟩ := Prog.exec_pureE.mp h
      exact ⟨t, t, h₁, .refl, by rw [hmin]; rfl⟩
  | some minSeq =>
      rw [hmin] at h
      unfold truncateBehind at h
      simp only at h
      split_ifs at h with hpos
      · obtain ⟨s₂, h₂, h⟩ := Prog.exec_performE_bind.mp h
        refine ⟨s₁, s₂, h₁, h₂, ?_⟩
        rw [hmin]
        unfold truncateBehind
        simp only
        rw [if_pos hpos, Prog.run_bindE, Prog.run_performE]
        rcases hans : adminHandler _ (.truncateBefore streamID (Store.compactBound minSeq)) s₂ with
          ⟨answer, u⟩
        rw [hans] at h
        cases answer with
        | ok removed =>
            obtain ⟨-, rfl⟩ := Prog.exec_pureE.mp h
            rfl
        | error err =>
            obtain ⟨-, rfl⟩ := h
            rfl
      · obtain ⟨-, rfl⟩ := Prog.exec_pureE.mp h
        refine ⟨t, t, h₁, .refl, ?_⟩
        rw [hmin]
        unfold truncateBehind
        simp only
        rw [if_neg hpos]
        rfl

end Admin

/-! ## What compaction removes -/

/-- `c` is the seq of a cursor stored for the stream. -/
def StoredCursor (s : Store) (streamID : StreamID) (c : Nat) : Prop :=
  ∃ subscriberID cursor, s.cursors.lookup ⟨subscriberID, streamID⟩ = some cursor ∧
    cursor.cursor.seq = c

/-- Every event that goes away between `s` and `t` is at or below every cursor stored in `s`. -/
def RemovesConsumed (streamID : StreamID) (s t : Store) : Prop :=
  ∀ event ∈ (s.ensureStream streamID).events, event ∉ (t.ensureStream streamID).events →
    ∀ c, StoredCursor s streamID c → event.seq ≤ c

/-- No cursor stored in `s` that replay could serve in `s` is too old for it in `t`. -/
def KeepsReplay (streamID : StreamID) (s t : Store) : Prop :=
  ∀ c, StoredCursor s streamID c →
    replayTooOld c (s.ensureStream streamID).retainedSeqStart = false →
      replayTooOld c (t.ensureStream streamID).retainedSeqStart = false

/-- The newest seq that a truncation behind `minSeq` can reach in a stream with this head. -/
def newestRemovable (minSeq head : Nat) : Nat := min (Store.compactBound minSeq - 1) head

/-- The minimum found in `s₁` still bounds the cursors stored in `s₂`, as far as the truncation
reaches: whenever a retained event lies in its reach, no stored cursor is below the newest one in
reach. -/
def MinimumHolds (streamID : StreamID) (s₁ s₂ : Store) : Prop :=
  ∀ minSeq, s₁.minCursor streamID = some minSeq → 0 < minSeq →
    (s₂.ensureStream streamID).retainedSeqStart ≤
        newestRemovable minSeq (s₂.ensureStream streamID).head →
      ∀ c, StoredCursor s₂ streamID c →
        newestRemovable minSeq (s₂.ensureStream streamID).head ≤ c

namespace Store

variable {s : Store} {id : StreamID} {L : TrimmedLog Event}

/-- Truncation drops the leading events below its bound. -/
theorem ensureStream_truncateBefore (hid : id ≠ "") (before : Nat) :
    (s.truncateBefore id before).2.ensureStream id =
        (s.ensureStream id).dropFront ((s.ensureStream id).keepFrom before) := by
  unfold truncateBefore ensureStream
  rw [if_neg hid]
  cases hst : s.streams.lookup id with
  | none =>
      simp only [hst]
      rfl
  | some st => simp

/-- What truncation leaves of a log. -/
theorem Holds.truncateBefore (h : s.Holds id L) (hid : id ≠ "") (before : Nat) :
    (s.truncateBefore id before).2.Holds id
      (L.trim (min (before - (L.base + 1)) (L.head - L.base))) := by
  have hkeep : (s.ensureStream id).keepFrom before =
      min (before - (L.base + 1)) (L.head - L.base) := by
    unfold StreamState.keepFrom
    rw [h.numbered_retained.length_takeWhile, h.length_events]
  unfold Holds
  rw [ensureStream_truncateBefore hid, hkeep]
  exact h.dropFront _

/-- Truncation removes an event exactly when its seq is below the bound. -/
theorem Holds.removed_iff (h : s.Holds id L) (hid : id ≠ "") (before : Nat) {event : Event}
    (hmem : event ∈ (s.ensureStream id).events) :
    event ∉ ((s.truncateBefore id before).2.ensureStream id).events ↔ event.seq < before := by
  have hbounds := h.numbered_retained.bounds hmem
  have hlen := h.length_events
  rw [(h.truncateBefore hid before).events, L.retained_trim, ← h.events,
    h.numbered_retained.mem_drop_iff hmem]
  omega

/-- A truncation that removes only consumed events makes no stored cursor too old. -/
theorem Holds.keepsReplay (h : s.Holds id L) (hid : id ≠ "") {before : Nat}
    (hrem : RemovesConsumed id s (s.truncateBefore id before).2) :
    KeepsReplay id s (s.truncateBefore id before).2 := by
  intro c hc hfresh
  have hle : L.base ≤ L.head := L.base_le
  have hmono : ∀ st : StreamState, ∀ L' : TrimmedLog Event, Represents st L' →
      (replayTooOld c st.retainedSeqStart = false ↔ L'.base ≤ c) := by
    intro st L' hst
    rw [hst.start, ← Bool.not_eq_true, replayTooOld_start, Nat.not_lt]
  rw [hmono _ _ h] at hfresh
  rw [hmono _ _ (h.truncateBefore hid before)]
  show min (L.base + min (before - (L.base + 1)) (L.head - L.base)) L.head ≤ c
  by_contra hlt
  -- the newest removed event lies above `c`
  obtain ⟨event, hmem, hseq⟩ := h.numbered_retained.exists_mem
    (k := L.base + min (before - (L.base + 1)) (L.head - L.base)) (by omega)
    (by rw [h.length_events]; omega)
  have hgone := (h.removed_iff hid before hmem).mpr (by omega)
  have hconsumed := hrem event hmem hgone c hc
  omega

end Store

/-- A truncation behind `minSeq` removes only consumed events exactly when no stored cursor is
below the newest event in its reach. -/
theorem removesConsumed_iff {s : Store} {id : StreamID} {L : TrimmedLog Event} (h : s.Holds id L)
    (hid : id ≠ "") (minSeq : Nat) :
    RemovesConsumed id s (s.truncateBefore id (Store.compactBound minSeq)).2 ↔
      ((s.ensureStream id).retainedSeqStart ≤ newestRemovable minSeq (s.ensureStream id).head →
        ∀ c, StoredCursor s id c → newestRemovable minSeq (s.ensureStream id).head ≤ c) := by
  have hlen := h.length_events
  have hle : L.base ≤ L.head := L.base_le
  have hhead : (s.ensureStream id).head = L.head := h.head
  unfold newestRemovable
  rw [hhead]
  generalize Store.compactBound minSeq = before
  constructor
  · intro hrem hreach c hc
    by_cases hpos : 0 < L.head
    · rw [h.start_eq hpos] at hreach
      obtain ⟨event, hmem, hseq⟩ :=
        h.numbered_retained.exists_mem (k := min (before - 1) L.head) hreach (by omega)
      have hgone := (h.removed_iff hid before hmem).mpr (by omega)
      rw [← hseq]
      exact hrem event hmem hgone c hc
    · omega
  · intro hcond event hmem hgone c hc
    have hbounds := h.numbered_retained.bounds hmem
    have hbelow := (h.removed_iff hid before hmem).mp hgone
    have hpos : 0 < L.head := by omega
    rw [h.start_eq hpos] at hcond
    have hnewest := hcond (by omega) c hc
    omega

/-- `removesConsumed_iff` for the second section, whatever the first has found. -/
theorem afterTruncation_iff {s : Store} {id : StreamID} {L : TrimmedLog Event} (h : s.Holds id L)
    (hid : id ≠ "") (found : Option Nat) :
    (RemovesConsumed id s (Admin.afterTruncation id found s) ∧
        KeepsReplay id s (Admin.afterTruncation id found s)) ↔
      ∀ minSeq, found = some minSeq → 0 < minSeq →
        (s.ensureStream id).retainedSeqStart ≤ newestRemovable minSeq (s.ensureStream id).head →
          ∀ c, StoredCursor s id c → newestRemovable minSeq (s.ensureStream id).head ≤ c := by
  have hnothing : RemovesConsumed id s s ∧ KeepsReplay id s s :=
    ⟨fun event hmem hgone => absurd hmem hgone, fun c _ hfresh => hfresh⟩
  cases found with
  | none => exact iff_of_true hnothing (fun minSeq hmin => by cases hmin)
  | some minSeq =>
      by_cases hpos : 0 < minSeq
      · have hafter : Admin.afterTruncation id (some minSeq) s =
            (s.truncateBefore id (Store.compactBound minSeq)).2 := by
          unfold Admin.afterTruncation Admin.truncateBehind
          simp only
          rw [if_pos hpos, Prog.run_bindE, Prog.run_performE]
          unfold adminHandler
          simp only
          split <;> rfl
        rw [hafter, and_iff_left_of_imp (h.keepsReplay hid), removesConsumed_iff h hid]
        constructor
        · rintro hcond _ ⟨⟩ _
          exact hcond
        · intro hcond
          exact hcond minSeq rfl hpos
      · have hafter : Admin.afterTruncation id (some minSeq) s = s := by
          unfold Admin.afterTruncation Admin.truncateBehind
          simp only
          rw [if_neg hpos]
          rfl
        rw [hafter]
        refine iff_of_true hnothing ?_
        rintro _ ⟨⟩ hpos'
        exact absurd hpos' hpos

/-- **Compaction under interference.** The first section sees the store `s₁`, the second a later
store `s₂`. What the second removes was consumed by every stored cursor, and so no stored cursor
loses its replay, exactly when the minimum found in `s₁` still holds in `s₂`. -/
theorem compaction_removes_consumed_iff {id : StreamID} (hid : id ≠ "") {s₁ s₂ : Store}
    (h₁ : Reachable s₁) (h₂ : Relation.ReflTransGen (StepOf fun _ => True) s₁ s₂) :
    (RemovesConsumed id s₂ (Admin.afterTruncation id (s₁.minCursor id) s₂) ∧
        KeepsReplay id s₂ (Admin.afterTruncation id (s₁.minCursor id) s₂)) ↔
      MinimumHolds id s₁ s₂ := by
  obtain ⟨L, hL⟩ := (h₁.steps h₂).holds id
  exact afterTruncation_iff hL hid (s₁.minCursor id)

/-- No stored cursor is below the minimum that the first section finds. -/
theorem Store.minCursor_le {s : Store} {id : StreamID} {minSeq : Nat}
    (h : s.minCursor id = some minSeq) {c : Nat} (hc : StoredCursor s id c) : minSeq ≤ c := by
  obtain ⟨subscriberID, cursor, hlookup, rfl⟩ := hc
  exact (minCursor_eq_some_iff.mp h).2 _ (mem_storedSeqs.mpr ⟨_, cursor, hlookup, rfl, rfl⟩)

/-- With nothing between the two sections the minimum holds. -/
theorem minimumHolds_self (s : Store) (id : StreamID) : MinimumHolds id s s := by
  intro minSeq hmin _ _ c hc
  have hle := Store.minCursor_le hmin hc
  have hbound : Store.compactBound minSeq ≤ minSeq + 1 := Nat.mod_le _ _
  unfold newestRemovable
  omega

/-- With nothing between its sections `CompactStream` removes only what every stored cursor has
consumed. -/
theorem compactStream_alone {s : Store} (hs : Reachable s) {id : StreamID} (hid : id ≠ "") :
    RemovesConsumed id s (s.compactStream id).2 ∧ KeepsReplay id s (s.compactStream id).2 := by
  obtain ⟨L, hL⟩ := hs.holds id
  have hafter : (s.compactStream id).2 = Admin.afterTruncation id (s.minCursor id) s := by
    rw [← Admin.run_compactStream]
    unfold Admin.compactStream Admin.afterTruncation
    rw [if_neg hid]
    rfl
  rw [hafter]
  exact (afterTruncation_iff hL hid _).mpr (minimumHolds_self s id)

/-- With operations of others before and between its sections, `CompactStream` ends with a
truncation to which `afterTruncation_iff` applies. -/
theorem compactStream_interfered {s t : Store} (hs : Reachable s) {id : StreamID} (hid : id ≠ "")
    {r : Except GoError Unit}
    (h : Prog.Exec adminHandler (StepOf fun _ => True) (Admin.compactStream id).run s r t) :
    ∃ s₁ s₂, Reachable s₁ ∧ Relation.ReflTransGen (StepOf fun _ => True) s₁ s₂ ∧
      ((RemovesConsumed id s₂ t ∧ KeepsReplay id s₂ t) ↔ MinimumHolds id s₁ s₂) := by
  obtain ⟨s₁, s₂, h₁, h₂, rfl⟩ := Admin.exec_compactStream hid h
  obtain ⟨L, hL⟩ := ((hs.steps h₁).steps h₂).holds id
  exact ⟨s₁, s₂, hs.steps h₁, h₂, afterTruncation_iff hL hid (s₁.minCursor id)⟩

/-! ## A stale minimum -/

/-- Two events, both consumed by the subscriber `a`. -/
def consumedByA : Store :=
  runOps
    [.append 0 { streamID := "s" }, .append 0 { streamID := "s" },
      .ack { subscriberID := "a", streamID := "s", seq := 2 }] newStore

/-- The subscriber `b` acknowledges for the first time, at the first event. -/
def joinedByB : Store :=
  (Op.ack { subscriberID := "b", streamID := "s", seq := 1 }).apply consumedByA

/-- The first acknowledgement of `b` comes between the two sections: the truncation removes the
event that `b` still needs, and `b` has to recover from a snapshot. -/
theorem compaction_stale_minimum :
    Reachable consumedByA ∧ StepOf (fun _ => True) consumedByA joinedByB ∧
      ¬ RemovesConsumed "s" joinedByB
          (Admin.afterTruncation "s" (consumedByA.minCursor "s") joinedByB) ∧
      ¬ KeepsReplay "s" joinedByB
          (Admin.afterTruncation "s" (consumedByA.minCursor "s") joinedByB) := by
  have hstored : StoredCursor joinedByB "s" 1 := ⟨"b", _, rfl, rfl⟩
  refine ⟨⟨_, rfl⟩, ⟨_, trivial, rfl⟩, ?_, ?_⟩
  · intro hrem
    have hle : 2 ≤ 1 :=
      hrem { streamID := "s", seq := 2 } (by decide) (by decide) 1 hstored
    omega
  · intro hkeep
    have hfresh : replayTooOld 1 3 = false := hkeep 1 hstored rfl
    exact absurd hfresh (by decide)

/-- A subscriber joins between the two sections, and loses what it has not consumed. -/
theorem compaction_removes_consumed_iff_stale :
    (RemovesConsumed "s" joinedByB
          (Admin.afterTruncation "s" (consumedByA.minCursor "s") joinedByB) ∧
        KeepsReplay "s" joinedByB
          (Admin.afterTruncation "s" (consumedByA.minCursor "s") joinedByB)) ↔
      MinimumHolds "s" consumedByA joinedByB :=
  compaction_removes_consumed_iff (by decide) ⟨_, rfl⟩ (.single ⟨_, trivial, rfl⟩)

end Synclog.Memory
