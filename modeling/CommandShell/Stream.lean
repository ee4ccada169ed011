set_option autoImplicit false

/-!
# Streams

The interpreter refers to the streams it has opened by number.  A registry holds them, each with
the direction it was opened for and the handle that the system gave for it; a number is never given
out twice.
-/

namespace CommandShell

/-- The number of a stream. -/
structure StreamId where
  index : Nat
  deriving DecidableEq

/-- How messages show a stream. -/
def StreamId.display (id : StreamId) : String := "#" ++ toString id.index

/-- What a stream was opened for. -/
inductive StreamMode where
  | input
  | output
  deriving DecidableEq

/-- An open stream; `Handle` is what the system knows it by. -/
structure Stream (Handle : Type) where
  handle : Handle
  mode : StreamMode
  deriving DecidableEq

/-- The open streams. -/
structure Registry (Handle : Type) where
  /-- The open streams by increasing number. -/
  entries : List (StreamId × Stream Handle)
  /-- The number of the next stream. -/
  nextId : Nat
  deriving DecidableEq

namespace Registry

variable {Handle : Type}

/-- No stream is open and none has been. -/
def empty : Registry Handle := ⟨[], 0⟩

/-- Registers a stream under a number of its own. -/
def insert (registry : Registry Handle) (handle : Handle) (mode : StreamMode) :
    StreamId × Registry Handle :=
  let id : StreamId := ⟨registry.nextId⟩
  (id, ⟨registry.entries ++ [(id, ⟨handle, mode⟩)], registry.nextId + 1⟩)

/-- The open stream with a number. -/
def get? (registry : Registry Handle) (id : StreamId) : Option (Stream Handle) :=
  registry.entries.lookup id

/-- When no two open streams have one number, a number stands for the stream that is listed with
it. -/
theorem get?_eq_some_iff_mem {registry : Registry Handle}
    (hnodup : (registry.entries.map Prod.fst).Nodup) {id : StreamId} {stream : Stream Handle} :
    registry.get? id = some stream ↔ (id, stream) ∈ registry.entries := by
  refine List.lookup_eq_some_iff.trans ⟨?_, fun hmem => ?_⟩
  · rintro ⟨before, after, heq, -⟩
    exact heq ▸ List.mem_append_right _ (List.mem_cons_self ..)
  · obtain ⟨before, after, heq⟩ := List.append_of_mem hmem
    refine ⟨before, after, heq, fun entry hentry => ?_⟩
    rw [heq, List.map_append, List.nodup_append] at hnodup
    rw [bne_iff_ne]
    exact (hnodup.2.2 _ (List.mem_map_of_mem hentry) _ (List.mem_cons_self ..)).symm

/-- Closes a stream: its handle and the registry without it; none if it is not open. -/
def close? (registry : Registry Handle) (id : StreamId) : Option (Handle × Registry Handle) :=
  (registry.get? id).map fun stream =>
    (stream.handle, { registry with entries := registry.entries.filter (·.1 ≠ id) })

/-- Closes every stream; numbers are still not given out again. -/
def clear (registry : Registry Handle) : Registry Handle := { registry with entries := [] }

/-- The handles of the open streams, in the order in which they were opened. -/
def handles (registry : Registry Handle) : List Handle :=
  registry.entries.map fun entry => entry.2.handle

/-- How many streams are open. -/
def size (registry : Registry Handle) : Nat := registry.entries.length

end Registry

end CommandShell
