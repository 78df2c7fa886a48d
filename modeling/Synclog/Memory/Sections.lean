import Synclog.Lib.Pool
import Synclog.Memory.CatchUp
import Synclog.Memory.Compaction
import Synclog.Memory.Methods

/-!
# What the store does under one hold of its lock

Every method of the store takes its lock once, but for `CompactStream`, which takes it twice, and
`WaitForStream`, which lets go of it while it waits. `StoreSection` is what is done under one hold:
a method of `StoreMethod` (where `WaitForStream` is in two pieces already), or a section of
`CompactStream`. Clients that take turns are programs over sections, so that others come between the
two sections of a compaction. The method `StoreMethod.compactStream` is the compaction between whose
sections nobody comes (`run_compactSections`).
-/

namespace Synclog.Memory

open Synclog.Lib Synclog.Core

/-- What is done under one hold of the lock. -/
abbrev StoreSection (β : Type) : Type := StoreMethod β ⊕ AdminCall β

/-- The store as the handler of its sections. -/
def sections : Handler StoreSection Store
  | _, .inl c, s => methods _ c s
  | _, .inr c, s => adminHandler _ c s

/-- Source: `store.go`, `Store.CompactStream`. -/
def compactSections (streamID : StreamID) : Prog StoreSection (Except GoError Unit) :=
  (Admin.compactStream streamID).run.embed fun _ => .inr

/-- With nobody between its sections a compaction is the method. -/
theorem run_compactSections (streamID : StreamID) (s : Store) :
    (compactSections streamID).run sections s = methods _ (.compactStream streamID) s := by
  have hrun : (compactSections streamID).run sections s =
      Prog.run adminHandler (Admin.compactStream streamID).run s :=
    Prog.run_embed (fun _ _ _ => rfl) _ s
  exact hrun.trans (Admin.run_compactStream streamID s)

/-- A call of an engine in front of the store, when the store's clock reads `now`. -/
def sectionOf (now : Int) : (β : Type) → StoreCall β → StoreSection β
  | _, .append req => .inl (.append now req)
  | _, .getHead streamID => .inl (.getHead streamID)
  | _, .read streamID after limit => .inl (.read streamID after limit)
  | _, .getCursor subscriberID streamID => .inl (.getCursor subscriberID streamID)
  | _, .ack req => .inl (.ack req)
  | _, .getLatestSnapshot streamID payloadType maxPayloadVersion =>
    .inl (.getLatestSnapshot streamID payloadType maxPayloadVersion)

/-- It does what the storage interfaces do to the store. -/
theorem sections_sectionOf (now : Int) (β : Type) (c : StoreCall β) (s : Store) :
    sections β (sectionOf now β c) s = handler now β c s := by
  cases c <;> rfl

end Synclog.Memory
