import CommandShell.Proofs.Processes.Serving
import Mathlib.Data.Fintype.EquivFin
import Mathlib.Data.Nat.Find
set_option autoImplicit false

/-!
# Processes and the recorder agree

A command comes to the same on an interpreter, whose subshells are processes, as on a recorder that
has been told what is the case.  Both do what the evaluator without streams says, which is why
neither the pipes and files of the one nor the story of the other matter here.  Two things may
differ: the code of an `exit`, which a process knows modulo 256 only, and why a file could not be
opened.
-/

namespace CommandShell

open Machine (standardInput standardOutput standardError)

/-! ## Interpreters between two commands -/

/-- An interpreter between two commands: nothing is open but the standard streams, and no subshell
is left to be collected. -/
structure Interpreter.Idle (s : Interpreter) (σ : System) : Prop where
  entries_eq : s.streams.entries = []
  input_eq : s.input = none
  output_eq : s.output = none
  subshells_eq : s.subshells = []
  isOpen : ∀ d ∈ [standardInput, standardOutput, standardError], (σ.slot? d).isSome
  bounded : ∀ d pipe, σ.slot? d = some (.readEnd pipe) ∨ σ.slot? d = some (.writeEnd pipe) →
    pipe < σ.pipes.length

namespace Interpreter

variable {s s' : Interpreter} {σ σ' : System}

theorem Idle.descriptors_eq (h : s.Idle σ) :
    s.descriptors = [standardInput, standardOutput, standardError] := by
  rw [descriptors, Registry.handles, h.entries_eq, h.subshells_eq]
  rfl

theorem Idle.ready (h : s.Idle σ) : s.Ready σ [] where
  index_lt := by rw [h.entries_eq]; nofun
  ids_nodup := by rw [h.entries_eq]; exact .nil
  nodup := by
    rw [h.descriptors_eq]
    decide
  isOpen := h.descriptors_eq ▸ h.isOpen
  bounded := h.bounded
  apart := by rw [h.subshells_eq]; exact .nil
  pids_nodup := by rw [h.subshells_eq]; exact .nil
  pending := by rw [h.subshells_eq]; exact .nil
  input := by rw [h.input_eq]; nofun
  output := by rw [h.output_eq]; nofun

theorem Idle.continues (h : s.Idle σ) (hcontinues : Continues s σ [] s' σ') : s'.Idle σ' where
  entries_eq := by
    have hentries := hcontinues.since.entries_eq
    rw [h.entries_eq] at hentries
    simpa using hentries
  input_eq := hcontinues.input_eq.trans h.input_eq
  output_eq := hcontinues.output_eq.trans h.output_eq
  subshells_eq := List.forall₂_nil_right_iff.1 hcontinues.sound.pending
  isOpen d hd := by
    rw [hcontinues.since.slot_eq d (h.isOpen d hd)]
    exact h.isOpen d hd
  bounded := hcontinues.sound.bounded

end Interpreter

/-! ## A small world -/

theorem exists_not_mem (used : List Nat) : ∃ n, n ∉ used := by
  obtain ⟨n, hn⟩ := Infinite.exists_notMem_finset used.toFinset
  exact ⟨n, fun hmem => hn (List.mem_toFinset.2 hmem)⟩

/-- A directory, a device that has no space left, and programs that succeed.  The least descriptor
that is free and the least number that is no child's are given out next. -/
def Conditions.small : Conditions where
  stat path _ := if path = "." then .ok ⟨0, .directory, 0o755, true, 4096⟩ else .error .noEntry
  refusal _ _ := none
  obstacle path := if path = "/dev/full" then some .noSpace else none
  program _ _ := .ok 0
  freeDescriptor used := Nat.find (exists_not_mem used)
  freeDescriptor_not_mem used := Nat.find_spec (exists_not_mem used)
  freePid used := Nat.find (exists_not_mem (0 :: used))
  freePid_not_mem used hmem :=
    Nat.find_spec (exists_not_mem (0 :: used)) (List.mem_cons_of_mem 0 hmem)

/-- The script that says what is the case there. -/
def Script.small : Script where
  exitCode _ := 0
  crashes _ := false
  isMissing _ := false
  fileKind := Conditions.small.fileKind

/-- What the system keeps for a process with standard streams. -/
def System.small : System :=
  (((⟨∅, [], ∅⟩ : System).addSlot standardInput (.file "/dev/null")).addSlot standardOutput
    (.file "/dev/null")).addSlot standardError (.file "/dev/null")

end CommandShell
