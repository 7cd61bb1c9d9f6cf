import CrashSimulator.Model.Python

/-!
# Reading the channel: `get_message`

`get_message` (rreplay.py:43-69) opens the pipe on its first call, keeps the open file in the
global `rrdump_pipe`, and then reads one byte at a time into a buffer until the buffer ends
in a newline. The pipe is modelled by the bytes rr writes into it before it closes its end;
`read(1)` returns the next one, or `''` once they are all read.

The loop is `while True`, so the model runs it with fuel: `none` means it has not returned
within that many reads. Three facts describe it: a complete line comes back whole once the
loop may read it (`readLoop_line`), a closed and empty pipe gives `''` (`readLoop_closed`),
and a buffer that is not empty and does not end in a newline is never returned once the pipe
is closed (`readLoop_stuck`), since every further `read(1)` adds nothing to it.
-/

set_option autoImplicit false

namespace CrashSimulator

/-- `rrdump_pipe.read(1)`: the next byte, or `''` once every byte written has been read. -/
def read1 : List Char → PyStr × List Char
  | [] => ([], [])
  | c :: rest => ([c], rest)

/-- The read loop of `get_message` from buffer `buf`, for at most `fuel` reads: the message
returned and the rest of the pipe, or `none` when it has not returned yet. -/
def readLoop : Nat → PyStr → List Char → Option (PyStr × List Char)
  | 0, _, _ => none
  | fuel + 1, buf, pipe =>
    let buf' := buf ++ (read1 pipe).1
    if buf' = [] then some ([], (read1 pipe).2)
    else if buf'.getLast? = some '\n' then some (buf', (read1 pipe).2)
    else readLoop fuel buf' (read1 pipe).2

/-- `get_message(pipe_name)` for at most `fuel` reads. `rrdumpPipe` is the global: `none`
before the first call, which waits for the pipe and opens it onto the bytes rr `written`;
afterwards the open pipe, which is read on and never opened again. The result is the message
and the new value of the global. -/
def getMessage (fuel : Nat) (rrdumpPipe : Option (List Char)) (written : List Char) :
    Option (PyStr × Option (List Char)) :=
  (readLoop fuel [] (rrdumpPipe.getD written)).map fun (msg, rest) => (msg, some rest)

/-- The bytes of a sequence of lines, each followed by its newline. -/
def linesBytes (lines : List PyStr) : List Char := (lines.map (· ++ ['\n'])).flatten

/-- A line without a newline, followed by one, is read back whole, together with whatever
the buffer held before, by a loop allowed more reads than the line is long. -/
theorem readLoop_line (l : PyStr) (hl : '\n' ∉ l) (buf rest : List Char) (fuel : Nat) :
    readLoop fuel buf (l ++ '\n' :: rest) =
      if l.length < fuel then some (buf ++ l ++ ['\n'], rest) else none := by
  induction l generalizing buf fuel with
  | nil => cases fuel <;> simp [readLoop, read1]
  | cons c l ih =>
    have hc : c ≠ '\n' := fun h => hl (h ▸ List.mem_cons_self c l)
    cases fuel with
    | zero => rfl
    | succ fuel =>
      simp [readLoop, read1, hc, ih (fun h => hl (List.mem_cons_of_mem c h))]

/-- On a closed pipe with nothing left, the loop returns `''` at its first read. -/
theorem readLoop_closed (k : Nat) : readLoop (k + 1) [] [] = some ([], []) := rfl

/-- On a closed pipe, a buffer that is not empty and does not end in a newline is never
returned: each `read(1)` gives `''` and leaves it as it is. -/
theorem readLoop_stuck (buf : PyStr) (hne : buf ≠ []) (hnl : buf.getLast? ≠ some '\n') :
    ∀ fuel, readLoop fuel buf [] = none
  | 0 => rfl
  | fuel + 1 => by simpa [readLoop, read1, hne, hnl] using readLoop_stuck buf hne hnl fuel

/-- Once the pipe is closed after a partial line, the loop never returns from the start of
that line. -/
theorem readLoop_partial (l : PyStr) (hl : '\n' ∉ l) (buf : PyStr) (hne : buf ++ l ≠ [])
    (hlast : (buf ++ l).getLast? ≠ some '\n') : ∀ fuel, readLoop fuel buf l = none := by
  induction l generalizing buf with
  | nil => simpa using readLoop_stuck buf (by simpa using hne) (by simpa using hlast)
  | cons c l ih =>
    have hc : c ≠ '\n' := fun h => hl (h ▸ List.mem_cons_self c l)
    rintro (_ | fuel)
    · rfl
    · have h1 : buf ++ [c] ≠ [] := by simp
      have h2 : (buf ++ [c]).getLast? ≠ some '\n' := by simp [hc]
      simp only [readLoop, read1, if_neg h1, if_neg h2]
      exact ih (fun h => hl (List.mem_cons_of_mem c h)) (buf ++ [c]) (by simp)
        (by simpa using hlast) fuel

end CrashSimulator
