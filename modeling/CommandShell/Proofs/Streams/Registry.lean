import CommandShell.Proofs.Processes.Running
import Mathlib.Data.List.Nodup
set_option autoImplicit false

/-!
# What a registry knows

A registry keeps the open streams and a counter, and nothing about the past.  Still all that it
answers can be told from the history of its calls: a number is given out once, it stands for the
stream that was opened under it until that is closed or everything is, and for none afterwards.  So
a number that has been kept too long never reaches a stream that was opened later.
-/

namespace CommandShell

open Machine (Descriptor)

namespace Registry

variable {Handle : Type}

/-! ## Histories -/

/-- A call that may change a registry. -/
inductive Call (Handle : Type) where
  | insert (handle : Handle) (mode : StreamMode)
  | close (id : StreamId)
  | clear
  deriving DecidableEq

/-- What has come of a call. -/
inductive Event (Handle : Type) where
  | opened (id : StreamId) (stream : Stream Handle)
  | closed (id : StreamId)
  /-- Nothing was closed, as no stream was open under the number. -/
  | refused (id : StreamId)
  | cleared
  deriving DecidableEq

/-- Makes a call. -/
def perform (registry : Registry Handle) : Call Handle → Event Handle × Registry Handle
  | .insert handle mode =>
    let (id, registry) := registry.insert handle mode
    (.opened id ⟨handle, mode⟩, registry)
  | .close id =>
    match registry.close? id with
    | some (_, registry) => (.closed id, registry)
    | none => (.refused id, registry)
  | .clear => (.cleared, registry.clear)

/-- Makes calls, one after the other. -/
def performAll (registry : Registry Handle) :
    List (Call Handle) → List (Event Handle) × Registry Handle
  | [] => ([], registry)
  | call :: calls =>
    let (event, registry) := registry.perform call
    let (events, registry) := registry.performAll calls
    (event :: events, registry)

/-- What has come of calls on a new registry. -/
def history (calls : List (Call Handle)) : List (Event Handle) := (empty.performAll calls).1

/-- A registry that was new before the calls. -/
def after (calls : List (Call Handle)) : Registry Handle := (empty.performAll calls).2

/-- The number that an event gives out. -/
def Event.issued? : Event Handle → Option StreamId
  | opened id _ => some id
  | _ => none

/-- The numbers given out in a history, in order. -/
def issued (events : List (Event Handle)) : List StreamId := events.filterMap Event.issued?

/-- After this event no stream is open under the number, if one was. -/
def Event.ends (id : StreamId) : Event Handle → Bool
  | closed id' => id = id'
  | cleared => true
  | opened .. | refused _ => false

/-- The streams opened in a history that nothing later in it has closed, in the order in which they
were opened. -/
def live : List (Event Handle) → List (StreamId × Stream Handle)
  | [] => []
  | .opened id stream :: later =>
    if later.any (Event.ends id) then live later else (id, stream) :: live later
  | _ :: later => live later

/-! ## One more event -/

/-- What is live in a history is either of its beginning and has not been closed since, or of what
comes after that. -/
theorem live_append (events later : List (Event Handle)) :
    live (events ++ later)
      = (live events).filter (fun entry => !later.any (Event.ends entry.1)) ++ live later := by
  induction events with
  | nil => rfl
  | cons event events ih =>
    cases event with
    | opened id stream =>
      simp only [List.cons_append, live, List.any_append, ih]
      cases events.any (Event.ends id) with
      | true => rfl
      | false =>
        rw [Bool.false_or, if_neg Bool.false_ne_true, List.filter_cons]
        cases later.any (Event.ends id) <;> rfl
    | closed | refused | cleared => exact ih

/-- The live streams have numbers that were given out. -/
theorem live_sublist_issued (events : List (Event Handle)) :
    ((live events).map Prod.fst).Sublist (issued events) := by
  induction events with
  | nil => exact .slnil
  | cons event events ih =>
    cases event with
    | opened id stream =>
      rw [live]
      split
      · exact ih.cons id
      · exact ih.cons_cons id
    | closed | refused | cleared => exact ih

/-- The registry is what the history has left: the live streams, and a counter above all numbers
that were given out. -/
structure Recounts (events : List (Event Handle)) (registry : Registry Handle) : Prop where
  entries_eq : registry.entries = live events
  index_lt : ∀ id ∈ issued events, id.index < registry.nextId
  issued_nodup : (issued events).Nodup

namespace Recounts

variable {events : List (Event Handle)} {registry : Registry Handle}

theorem empty : Recounts [] (empty : Registry Handle) :=
  ⟨rfl, fun _ h => absurd h List.not_mem_nil, List.nodup_nil⟩

/-- The next number has not been given out. -/
theorem fresh (h : Recounts events registry) : ⟨registry.nextId⟩ ∉ issued events :=
  fun hmem => Nat.lt_irrefl _ (h.index_lt _ hmem)

/-- A number stands for the live stream that was opened under it. -/
theorem get?_eq_some_iff (h : Recounts events registry) {id : StreamId} {stream : Stream Handle} :
    registry.get? id = some stream ↔ (id, stream) ∈ live events := by
  rw [← h.entries_eq]
  refine get?_eq_some_iff_mem ?_
  rw [h.entries_eq]
  exact h.issued_nodup.sublist (live_sublist_issued events)

/-- Only what an event closes is taken out, when it gives out no number. -/
theorem filter (h : Recounts events registry) (event : Event Handle)
    (hissued : event.issued? = none) :
    Recounts (events ++ [event])
      { registry with entries := registry.entries.filter (fun entry => !event.ends entry.1) } := by
  have hsame : issued (events ++ [event]) = issued events := by
    rw [issued, List.filterMap_append, List.filterMap_cons_none hissued]
    exact List.append_nil _
  have hlive : live [event] = [] := by
    cases event with
    | opened => cases hissued
    | closed | refused | cleared => rfl
  refine ⟨?_, hsame ▸ h.index_lt, hsame ▸ h.issued_nodup⟩
  rw [live_append, hlive, h.entries_eq, List.append_nil]
  simp only [List.any_cons, List.any_nil, Bool.or_false]

/-- A new stream is the last of the live ones. -/
theorem insert (h : Recounts events registry) (handle : Handle) (mode : StreamMode) :
    Recounts (events ++ [.opened ⟨registry.nextId⟩ ⟨handle, mode⟩])
      (registry.insert handle mode).2 := by
  have hissued : issued (events ++ [.opened ⟨registry.nextId⟩ ⟨handle, mode⟩])
      = issued events ++ [⟨registry.nextId⟩] := List.filterMap_append
  refine ⟨?_, fun id hid => ?_, ?_⟩
  · rw [live_append]
    simp [live, Registry.insert, Event.ends, h.entries_eq]
  · rw [hissued, List.mem_append, List.mem_singleton] at hid
    obtain hid | rfl := hid
    · exact Nat.lt_succ_of_lt (h.index_lt id hid)
    · exact Nat.lt_succ_self _
  · rw [hissued, List.nodup_append]
    refine ⟨h.issued_nodup, List.nodup_singleton _, ?_⟩
    rintro id hid _ hnew rfl
    exact h.fresh (List.mem_singleton.1 hnew ▸ hid)

/-- A call leaves the registry as the longer history tells. -/
theorem perform (h : Recounts events registry) (call : Call Handle) :
    Recounts (events ++ [(registry.perform call).1]) (registry.perform call).2 := by
  cases call with
  | insert handle mode => exact h.insert handle mode
  | close id =>
    rw [Registry.perform, close?]
    cases registry.get? id with
    | some stream =>
      have hclosed := h.filter (.closed id) rfl
      simp only [Event.ends, ← decide_not] at hclosed
      exact hclosed
    | none =>
      have hrefused := h.filter (.refused id) rfl
      simp only [Event.ends, Bool.not_false, List.filter_true] at hrefused
      exact hrefused
  | clear =>
    have hcleared := h.filter .cleared rfl
    simp only [Event.ends, Bool.not_true, List.filter_false] at hcleared
    exact hcleared

theorem performAll (h : Recounts events registry) (calls : List (Call Handle)) :
    Recounts (events ++ (registry.performAll calls).1) (registry.performAll calls).2 := by
  induction calls generalizing events registry with
  | nil =>
    rw [Registry.performAll, List.append_nil]
    exact h
  | cons call calls ih =>
    have hrest := ih (h.perform call)
    rwa [List.append_assoc] at hrest

end Recounts

theorem recounts_history (calls : List (Call Handle)) : Recounts (history calls) (after calls) :=
  Recounts.empty.performAll calls

/-! ## What a registry answers -/

theorem performAll_concat (registry : Registry Handle) (calls : List (Call Handle))
    (call : Call Handle) :
    (registry.performAll (calls ++ [call])).2 = ((registry.performAll calls).2.perform call).2 := by
  induction calls generalizing registry with
  | nil => rfl
  | cons first calls ih => exact ih _

/-- A number can be closed just when a live stream was opened under it. -/
theorem Recounts.isSome_close?_iff {events : List (Event Handle)} {registry : Registry Handle}
    (h : Recounts events registry) (id : StreamId) :
    (registry.close? id).isSome = true ↔ id ∈ (live events).map Prod.fst := by
  rw [close?, Option.isSome_map, Option.isSome_iff_exists, List.mem_map]
  constructor
  · rintro ⟨stream, hget⟩
    exact ⟨(id, stream), h.get?_eq_some_iff.1 hget, rfl⟩
  · rintro ⟨⟨_, stream⟩, hmem, rfl⟩
    exact ⟨stream, h.get?_eq_some_iff.2 hmem⟩

/-- After any calls a registry answers as their history tells.  A number that is given out is a new
one.  A number can be looked up and closed just when a stream was opened under it that nothing has
closed since, and it stands for that stream; an interpreter that closes it gives back the descriptor
of that stream, and fails without a change for any other number.  What is counted and listed are the
live streams, in the order in which they were opened. -/
theorem answers_history (calls : List (Call Descriptor)) (s : Interpreter) :
    (∀ handle mode, ((after calls).insert handle mode).1 ∉ issued (history calls)) ∧
    (∀ id, ((after calls).close? id).isSome = true ↔
      id ∈ (live (history calls)).map Prod.fst) ∧
    (∀ id stream, (id, stream) ∈ live (history calls) →
      Interpreter.routine { s with streams := after calls } (Interpreter.closeStream id)
        = .call (.close stream.handle) fun _ =>
            .done (.ok (), { s with streams := after (calls ++ [.close id]) })) ∧
    (∀ id, id ∉ (live (history calls)).map Prod.fst →
      Interpreter.routine { s with streams := after calls } (Interpreter.closeStream id)
        = .done (.error (.unknownStream id), { s with streams := after calls })) ∧
    (∀ id stream, (after calls).get? id = some stream ↔ (id, stream) ∈ live (history calls)) ∧
    ((live (history calls)).map Prod.fst).Nodup ∧
    (after calls).size = (live (history calls)).length ∧
    (after calls).handles = (live (history calls)).map fun entry => entry.2.handle := by
  have hrecounts := recounts_history calls
  refine ⟨fun _ _ => hrecounts.fresh, hrecounts.isSome_close?_iff, fun id stream hmem => ?_,
    fun id hnone => ?_, fun _ _ => hrecounts.get?_eq_some_iff,
    hrecounts.issued_nodup.sublist (live_sublist_issued _), ?_, ?_⟩
  · have hclose : (after calls).close? id
        = some (stream.handle, after (calls ++ [.close id])) := by
      have hafter : after (calls ++ [.close id]) = ((after calls).perform (.close id)).2 :=
        performAll_concat empty calls (.close id)
      rw [hafter, perform, close?, hrecounts.get?_eq_some_iff.2 hmem]
      rfl
    rw [Interpreter.routine_closeStream_some hclose]
  · have hclose : (after calls).close? id = none := by
      rw [← Option.not_isSome_iff_eq_none, hrecounts.isSome_close?_iff]
      exact hnone
    exact Interpreter.routine_closeStream_none hclose
  · rw [size, hrecounts.entries_eq]
  · rw [handles, hrecounts.entries_eq]

/-- A number is not used again, so one that has been closed stays unknown. -/
example : history [.insert 5 .input, .insert 6 .output, .close ⟨0⟩, .insert 5 .input, .close ⟨0⟩]
    = [.opened ⟨0⟩ ⟨5, .input⟩, .opened ⟨1⟩ ⟨6, .output⟩, .closed ⟨0⟩, .opened ⟨2⟩ ⟨5, .input⟩,
      .refused ⟨0⟩] := by decide

end Registry

end CommandShell
