import WheeltecVcuSerial.Process.Calls
import WheeltecVcuSerial.Text.Lines
import WheeltecVcuSerial.Text.Strings

namespace WheeltecVcuSerial.Cli

open Errno Process Text Trace

/-- The flags that the standard input had before `enable`, and whether they are to come back. -/
structure NonblockingStdin where
  originalFlags : Nat := 0
  enabled : Bool := false
  deriving DecidableEq

namespace NonblockingStdin

def getFlags : Process SystemReply :=
  .retry (fun
    | .getStdinFlags reply => some reply
    | _ => none) SystemReply.interrupted

def setFlags (flags : Nat) : Process SystemReply :=
  .retry (fun
    | .setStdinFlags flags' reply => if flags' = flags then some reply else none
    | _ => none) SystemReply.interrupted

def enable : Process NonblockingStdin := do
  let flags ← getFlags
  if flags.value < 0 then return {}
  let status ← setFlags (flags.value.toNat ||| SerialPort.oNonblock)
  return { originalFlags := flags.value.toNat, enabled := status.value = 0 }

/-- The destructor. -/
def restore (mode : NonblockingStdin) : Process Unit := do
  if !mode.enabled then return ()
  let _ ← setFlags mode.originalFlags
  return ()

end NonblockingStdin

/-- The size of the buffer of `appendStdin`. -/
def stdinBufferSize : Nat := 512

def pendingLimit : Nat := 8192

def lineLimit : Nat := 512

def readStdin : Process StdinAnswer :=
  .call fun
    | .readStdin (.failed errorNumber) => some (.failed errorNumber)
    | .readStdin (.delivered data) =>
      if data.length ≤ stdinBufferSize then some (.delivered data) else none
    | _ => none

/-- What `appendStdin` returns, and what it leaves in `pending` and in `eof`. -/
structure Appended where
  ok : Bool
  pending : List Char
  eof : Bool
  deriving DecidableEq

/-- One round of the loop of `appendStdin`. -/
def appendRound (eof : Bool) (pending : List Char) : Process (List Char ⊕ Appended) := do
  match ← readStdin with
  | .delivered [] => return .inr { ok := true, pending := pending, eof := true }
  | .delivered data =>
    let pending := pending ++ data
    if pending.length > pendingLimit then
      return .inr { ok := false, pending := pending, eof := eof }
    return .inl pending
  | .failed errorNumber =>
    if errorNumber = eintr then return .inl pending
    if errorNumber = eagain || errorNumber = ewouldblock then
      return .inr { ok := true, pending := pending, eof := eof }
    return .inr { ok := false, pending := pending, eof := eof }

def appendStdin (pending : List Char) (eof : Bool) : Process Appended :=
  .loop (appendRound eof) pending

def dropCarriageReturn (line : List Char) : List Char :=
  if line.getLast? = some '\r' then line.dropLast else line

/-- The rounds of the loop of `takeCompleteLines`, each of which takes a character at least. -/
def takeLines : Nat → List Char → List (List Char) × List Char
  | 0, pending => ([], pending)
  | n + 1, pending =>
    match find '\n' 0 pending with
    | none => ([], pending)
    | some newline =>
      let (lines, rest) := takeLines n (pending.drop (newline + 1))
      (dropCarriageReturn (substr pending 0 newline) :: lines, rest)

def takeCompleteLines (pending : List Char) : List (List Char) × List Char :=
  takeLines (pending.length + 1) pending

theorem takeLines_eq (n : Nat) (pending : List Char) (h : pending.length < n) :
    takeLines n pending =
      ((cut '\n' pending).1.map dropCarriageReturn, (cut '\n' pending).2) := by
  induction n generalizing pending with
  | zero => omega
  | succ n ih =>
    by_cases hmem : '\n' ∈ pending
    · obtain ⟨line, rest, rfl, hline⟩ := List.eq_append_cons_of_mem hmem
      have hrest : rest.length < n := by
        rw [List.length_append, List.length_cons] at h
        omega
      have hfirst : (line ++ '\n' :: rest).drop 0 = line ++ '\n' :: rest := rfl
      rw [takeLines, find_eq_some hfirst hline, cut_append_cons hline]
      simp only [drop_after hfirst, ih rest hrest, List.map_cons]
      rw [Nat.zero_add, substr_eq hfirst]
    · rw [takeLines, find_eq_none.mpr hmem, cut_of_not_mem hmem]
      rfl

theorem takeCompleteLines_eq (pending : List Char) :
    takeCompleteLines pending =
      ((cut '\n' pending).1.map dropCarriageReturn, (cut '\n' pending).2) :=
  takeLines_eq _ pending (Nat.lt_succ_self _)

end WheeltecVcuSerial.Cli
