import Synclog.Lib.Paging
import Synclog.Memory.Methods
import Synclog.Memory.Recorded

/-!
# Listings and their page tokens

`ListStreams` and `ListSnapshots` have a page token in the request and the token of the next page in
the answer, but the memory store neither reads the one nor sets the other: it cuts its answer at the
limit, in whatever order it iterates over its map.

* `listStreamsPage`, `listSnapshotsPage` — the answers with their tokens.
* `matchingStreams`, `matchingSnapshots` — what a request is about.
* `listing_iff` — following the tokens, one gets each match once exactly if no more match than the
  limit allows.
-/

namespace Synclog.Memory

open Synclog.Lib Synclog.Core

/-! ## Requests and answers -/

/-- Source: `admin.proto`, `ListStreamsRequest`. -/
structure ListStreamsRequest where
  pre : String := ""
  limit : Nat := 0
  pageToken : String := ""

/-- Source: `snapshot.proto`, `ListSnapshotsRequest`. -/
structure ListSnapshotsRequest where
  streamID : StreamID
  payloadType : String := ""
  limit : Nat := 0
  pageToken : String := ""

namespace Store

/-- Source: `store.go`, `Store.ListStreams`, the response: without a token for a next page. -/
def listStreamsPage (s : Store) (order : List StreamID) (req : ListStreamsRequest) :
    Option (Page StreamID) :=
  (s.listStreams order req.pre req.limit).map fun streams => { items := streams }

/-- Source: `store.go`, `Store.ListSnapshots`, the response: without a token for a next page. -/
def listSnapshotsPage (s : Store) (order : List SnapshotKey) (req : ListSnapshotsRequest) :
    Except GoError (Option (Page SnapshotRef)) :=
  (s.listSnapshots order req.streamID req.payloadType req.limit).map fun answer =>
    answer.map fun snapshots => { items := snapshots }

/-- The streams that a request is about. -/
def matchingStreams (s : Store) (pre : String) : List StreamID :=
  s.streams.keys.filter fun streamID => pre = "" || hasPrefix streamID pre

/-- The references of the snapshots that a request is about. -/
def matchingSnapshots (s : Store) (streamID : StreamID) (payloadType : String) :
    List SnapshotRef :=
  (s.snapshots.entries.filter fun e => e.1.streamID = streamID &&
    (payloadType = "" || e.1.payloadType = payloadType)).map (·.2.ref)

/-- A call of `ListStreams` with a page token, in some iteration order. -/
def StreamsPage (s : Store) (req : ListStreamsRequest) (token : String) (page : Page StreamID) :
    Prop :=
  ∃ order, s.listStreamsPage order { req with pageToken := token } = some page

/-- A call of `ListSnapshots` with a page token, in some iteration order. -/
def SnapshotsPage (s : Store) (req : ListSnapshotsRequest) (token : String)
    (page : Page SnapshotRef) : Prop :=
  ∃ order, s.listSnapshotsPage order { req with pageToken := token } = .ok (some page)

end Store

/-! ## What a call answers -/

section Calls

variable {s : Store}

/-- A page of streams has as many of the matching ones as the limit allows. -/
theorem streamsPage_cut {req : ListStreamsRequest} {token : String} {page : Page StreamID}
    (h : s.StreamsPage req token page) :
    CutAt (Store.listLimit req.limit) (s.matchingStreams req.pre) page := by
  obtain ⟨order, hpage⟩ := h
  obtain ⟨streams, hlist, rfl⟩ := Option.map_eq_some_iff.mp hpage
  obtain ⟨entries, hvisit, rfl⟩ := Option.map_eq_some_iff.mp hlist
  have hperm := (FinMap.visit_perm hvisit).map Prod.fst
  rw [List.map_map] at hperm
  exact ⟨_, hperm.filter _, rfl⟩

/-- A page of snapshots has as many of the matching ones as the limit allows. -/
theorem snapshotsPage_cut {req : ListSnapshotsRequest} {token : String} {page : Page SnapshotRef}
    (h : s.SnapshotsPage req token page) :
    CutAt (Store.listLimit req.limit) (s.matchingSnapshots req.streamID req.payloadType) page := by
  obtain ⟨order, hpage⟩ := h
  unfold Store.listSnapshotsPage Store.listSnapshots at hpage
  split_ifs at hpage
  · cases hpage
  · obtain ⟨refs, hlist, rfl⟩ := Option.map_eq_some_iff.mp (Except.ok.inj hpage)
    obtain ⟨entries, hvisit, rfl⟩ := Option.map_eq_some_iff.mp hlist
    have hperm := (FinMap.visit_perm hvisit).filter fun e => e.1.streamID = req.streamID &&
      (req.payloadType = "" || e.1.payloadType = req.payloadType)
    rw [List.filter_map] at hperm
    have hrefs := hperm.map fun e => e.2.ref
    rw [List.map_map] at hrefs
    exact ⟨_, hrefs, rfl⟩

/-- Some page is a listing of the streams. -/
theorem exists_streamsPage (s : Store) (req : ListStreamsRequest) (token : String) :
    ∃ page, s.StreamsPage req token page := by
  obtain ⟨entries, hvisit⟩ := s.streams.exists_visit
  obtain ⟨page, hpage⟩ : ∃ page,
      s.listStreamsPage s.streams.keys { req with pageToken := token } = some page := by
    unfold Store.listStreamsPage Store.listStreams
    simp only [hvisit]
    exact ⟨_, rfl⟩
  exact ⟨page, _, hpage⟩

/-- Some page is a listing of the snapshots. -/
theorem exists_snapshotsPage (s : Store) {req : ListSnapshotsRequest} (hid : req.streamID ≠ "")
    (token : String) : ∃ page, s.SnapshotsPage req token page := by
  obtain ⟨entries, hvisit⟩ := s.snapshots.exists_visit
  obtain ⟨page, hpage⟩ : ∃ page,
      s.listSnapshotsPage s.snapshots.keys { req with pageToken := token } = .ok (some page) := by
    unfold Store.listSnapshotsPage Store.listSnapshots
    simp only [hvisit, if_neg hid]
    exact ⟨_, rfl⟩
  exact ⟨page, _, hpage⟩

/-- Every stream is listed once. -/
theorem nodup_matchingStreams (s : Store) (pre : String) : (s.matchingStreams pre).Nodup :=
  s.streams.nodupKeys.filter _

/-- The references of two snapshots differ, because each says under which key it is stored. -/
theorem nodup_matchingSnapshots (hs : Reachable s) (streamID : StreamID) (payloadType : String) :
    (s.matchingSnapshots streamID payloadType).Nodup := by
  refine List.Nodup.map_on ?_ (s.snapshots.nodupKeys.nodup.filter _)
  rintro ⟨key, snapshot⟩ hmem ⟨key', snapshot'⟩ hmem' hsame
  have hlookup := FinMap.mem_entries_iff.mp (List.mem_filter.mp hmem).1
  have hlookup' := FinMap.mem_entries_iff.mp (List.mem_filter.mp hmem').1
  simp only at hsame
  have hkey : key = key' := by
    rw [hs.snapshots_named hlookup, hs.snapshots_named hlookup', hsame]
  subst hkey
  rw [Option.some.inj (hlookup.symm.trans hlookup')]

/-- In every reachable store, for every filter and limit and in every iteration order: following the
tokens of `ListStreams`, and those of `ListSnapshots` for a stream that is named, comes to an end;
and it lists each match once, and nothing else, exactly if there are no more matches than the limit
allows. -/
theorem listing_iff (hs : Reachable s) :
    (∀ req : ListStreamsRequest,
      (∃ items, Enumerates (s.StreamsPage req) "" items) ∧
      ∀ items, Enumerates (s.StreamsPage req) "" items →
        (EachOnce (· ∈ s.matchingStreams req.pre) items ↔
          (s.matchingStreams req.pre).length ≤ Store.listLimit req.limit)) ∧
    ∀ req : ListSnapshotsRequest, req.streamID ≠ "" →
      (∃ items, Enumerates (s.SnapshotsPage req) "" items) ∧
      ∀ items, Enumerates (s.SnapshotsPage req) "" items →
        (EachOnce (· ∈ s.matchingSnapshots req.streamID req.payloadType) items ↔
          (s.matchingSnapshots req.streamID req.payloadType).length ≤
            Store.listLimit req.limit) := by
  constructor
  · intro req
    obtain ⟨page, hpage⟩ := exists_streamsPage s req ""
    exact ⟨⟨_, (streamsPage_cut hpage).enumerates hpage⟩, fun items h =>
      h.eachOnce_iff (fun _ _ => streamsPage_cut) (nodup_matchingStreams s req.pre)⟩
  · intro req hid
    obtain ⟨page, hpage⟩ := exists_snapshotsPage s hid ""
    exact ⟨⟨_, (snapshotsPage_cut hpage).enumerates hpage⟩, fun items h =>
      h.eachOnce_iff (fun _ _ => snapshotsPage_cut) (nodup_matchingSnapshots hs _ _)⟩

end Calls

/-- Two streams, and two snapshots of the first. -/
def twoOfEach : Store :=
  runOps
    [.createStream "a", .createStream "b",
      .putSnapshot { streamID := "a", seq := 1, payloadType := "state" },
      .putSnapshot { streamID := "a", seq := 2, payloadType := "state" }]
    newStore

/-- With a limit of one, each listing ends with one of them, and nothing says that there is another.
-/
theorem listing_cut_short :
    (∃ items, Enumerates (twoOfEach.StreamsPage { limit := 1 }) "" items ∧
      ¬ EachOnce (· ∈ twoOfEach.matchingStreams "") items) ∧
    ∃ items, Enumerates (twoOfEach.SnapshotsPage { streamID := "a", limit := 1 }) "" items ∧
      ¬ EachOnce (· ∈ twoOfEach.matchingSnapshots "a" "") items := by
  constructor
  · have hpage : twoOfEach.StreamsPage { limit := 1 } "" { items := ["a"] } := ⟨["a", "b"], rfl⟩
    refine ⟨_, .last hpage rfl, fun h => ?_⟩
    exact absurd ((h.2 "b").mpr (by decide)) (by decide)
  · let first : SnapshotRef :=
      { streamID := "a", seq := 1, payloadType := "state", payloadVersion := 0 }
    let second : SnapshotRef :=
      { streamID := "a", seq := 2, payloadType := "state", payloadVersion := 0 }
    have hpage : twoOfEach.SnapshotsPage { streamID := "a", limit := 1 } "" { items := [first] } :=
      ⟨[⟨"a", 1, "state", 0⟩, ⟨"a", 2, "state", 0⟩], rfl⟩
    refine ⟨_, .last hpage rfl, fun h => ?_⟩
    exact absurd ((h.2 second).mpr (by decide)) (by decide)

/-- With a limit of two, each listing is complete. -/
theorem listing_iff_uncut :
    (∃ items, Enumerates (twoOfEach.StreamsPage { limit := 2 }) "" items ∧
      EachOnce (· ∈ twoOfEach.matchingStreams "") items) ∧
    ∃ items, Enumerates (twoOfEach.SnapshotsPage { streamID := "a", limit := 2 }) "" items ∧
      EachOnce (· ∈ twoOfEach.matchingSnapshots "a" "") items := by
  have hreach : Reachable twoOfEach := ⟨_, rfl⟩
  obtain ⟨hstreams, hsnapshots⟩ := listing_iff hreach
  constructor
  · obtain ⟨⟨items, hitems⟩, hiff⟩ := hstreams { limit := 2 }
    exact ⟨items, hitems, (hiff items hitems).mpr (by decide)⟩
  · obtain ⟨⟨items, hitems⟩, hiff⟩ := hsnapshots { streamID := "a", limit := 2 } (by decide)
    exact ⟨items, hitems, (hiff items hitems).mpr (by decide)⟩

end Synclog.Memory
