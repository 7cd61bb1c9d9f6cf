import CrashSimulator.Model.Channel
import CrashSimulator.Interface.Notification

/-!
# Successive calls of `get_message`

On a pipe whose writer closed it after whole lines, successive calls of `get_message` return
the lines in order, each with its newline, and then `''` on every later call; the pipe is
opened by the first call only (`getMessages_lines`). When the writer stopped in the middle of
a line, the call that reaches that line never returns (`getMessages_pending`): the check
`buf == ''` looks at the buffer, not at the byte just read, so at the end of the pipe a
buffer holding part of a line is neither empty nor ended by a newline, and the loop reads
`''` for ever. `get_message_partial_line` is the smallest such pipe: one message without its
newline.

A line of the protocol is its text and a newline, and the text holds no newline, so the lines
rr writes are exactly the messages `process_messages` is given (`getMessages_notifications`).
-/

set_option autoImplicit false

namespace CrashSimulator

/-! ## The text of a notification's line -/

/-- The text of a notification's line, without its newline. -/
def Notification.text (n : Notification) : PyStr := n.render.dropLast

/-- INTERNAL: a rendered notification is its text and a newline.
SOURCE: rreplay.py:63-67 -/
theorem Notification.render_eq_text (n : Notification) : n.render = n.text ++ ['\n'] := by
  rw [Notification.text, Notification.render, List.dropLast_concat]

/-- INTERNAL: the text of a notification holds no newline: its keyword and separators do not,
and its fields are digits.
SOURCE: rreplay.py:63-67 -/
theorem Notification.newline_not_mem_text (n : Notification) : '\n' ∉ n.text := by
  have hnum : ∀ x : Numeral, '\n' ∉ x.digits := fun x h => by
    simpa using x.all_digits '\n' h
  have hkw : '\n' ∉ n.decision.keyword := by cases n.decision <;> decide
  rw [Notification.text, Notification.render, List.dropLast_concat]
  simp [hkw, hnum]

namespace Analysis

/-- `n` successive calls of `get_message`, each with at most `fuel` reads: the messages they
return, or `none` when one of them has not returned. -/
def getMessages (fuel : Nat) : Nat → Option (List Char) → List Char → Option (List PyStr)
  | 0, _, _ => some []
  | n + 1, rrdumpPipe, written =>
    match getMessage fuel rrdumpPipe written with
    | none => none
    | some (msg, rrdumpPipe') => (getMessages fuel n rrdumpPipe' written).map (msg :: ·)

/-- INTERNAL: a call of `get_message` reads from the open pipe, or from what rr wrote when
the pipe is not open yet.
SOURCE: rreplay.py:57-60 -/
theorem getMessage_eq (fuel : Nat) (rrdumpPipe : Option (List Char)) (written : List Char) :
    getMessage fuel rrdumpPipe written =
      (readLoop fuel [] (rrdumpPipe.getD written)).map fun r => (r.1, some r.2) := rfl

/-- INTERNAL: on a closed, exhausted pipe every call returns `''`.
SOURCE: rreplay.py:63-67 -/
theorem getMessages_closed (k : Nat) :
    ∀ (n : Nat) (rrdumpPipe : Option (List Char)) (written : List Char),
      rrdumpPipe.getD written = [] →
        getMessages (k + 1) n rrdumpPipe written = some (List.replicate n [])
  | 0, _, _, _ => rfl
  | n + 1, rrdumpPipe, written, hp => by
    simp [getMessages, getMessage_eq, hp, readLoop_closed,
      getMessages_closed k n (some []) written rfl, List.replicate_succ]

/-- On a pipe closed after whole lines, with enough reads per call, successive calls of
`get_message` return the lines in order, each ending in its newline, and then `''` on every
further call. -/
theorem getMessages_lines (fuel : Nat) (hfuel : 0 < fuel) :
    ∀ (lines : List PyStr), (∀ l ∈ lines, '\n' ∉ l ∧ l.length < fuel) →
      ∀ (extra : Nat) (rrdumpPipe : Option (List Char)) (written : List Char),
      rrdumpPipe.getD written = linesBytes lines →
      getMessages fuel (lines.length + extra) rrdumpPipe written =
        some (lines.map (· ++ ['\n']) ++ List.replicate extra [])
  | [], _, extra, rrdumpPipe, written, hp => by
    obtain ⟨k, rfl⟩ : ∃ k, fuel = k + 1 := ⟨fuel - 1, by omega⟩
    simpa using getMessages_closed k extra rrdumpPipe written hp
  | l :: ls, hl, extra, rrdumpPipe, written, hp => by
    obtain ⟨hnl, hlen⟩ := hl l (List.mem_cons_self l ls)
    have hls := getMessages_lines fuel hfuel ls (fun l' h => hl l' (List.mem_cons_of_mem l h))
      extra (some (linesBytes ls)) written rfl
    rw [List.length_cons, Nat.add_right_comm]
    simp only [linesBytes] at hls
    simpa [getMessages, getMessage_eq, hp, linesBytes, readLoop_line l hnl, hlen] using hls

/-! ## rr's notifications through the pipe -/

/-- On a pipe into which rr wrote lines of the protocol and which it then closed, successive
calls of `get_message`, each allowed as many reads as the longest line is long, return the
lines rr wrote, in order and each whole, and then `''` on every further call. -/
theorem getMessages_notifications (fuel : Nat) (hfuel : 0 < fuel) (ns : List Notification)
    (hlen : ∀ n ∈ ns, n.render.length ≤ fuel) (extra : Nat) :
    getMessages fuel (ns.length + extra) none (ns.map Notification.render).flatten =
      some (ns.map Notification.render ++ List.replicate extra []) := by
  have h := getMessages_lines fuel hfuel (ns.map Notification.text)
    (fun l hl => by
      obtain ⟨n, hn, rfl⟩ := List.mem_map.1 hl
      have := hlen n hn
      rw [n.render_eq_text, List.length_append, List.length_singleton] at this
      exact ⟨n.newline_not_mem_text, by omega⟩)
    extra none (ns.map Notification.render).flatten
    (by simp [linesBytes, Function.comp_def, ← Notification.render_eq_text])
  simpa [Function.comp_def, ← Notification.render_eq_text] using h

/-- The spec's scenario A through the pipe: rr wrote one line and closed the pipe; two calls
of `get_message` return the line and then `''`. -/
theorem get_message_scenario_a :
    let n : Notification := ⟨.inject, ⟨"5".toList, by decide, by decide⟩,
      ⟨"4242".toList, by decide, by decide⟩, ⟨"100".toList, by decide, by decide⟩⟩
    (0 < 64 ∧ ∀ n' ∈ [n], n'.render.length ≤ 64) ∧
      getMessages 64 2 none n.render = some [n.render, []] := by
  intro n
  have hlen : ∀ n' ∈ [n], n'.render.length ≤ 64 := by
    simp [n, Notification.render, Decision.keyword]
  exact ⟨⟨by decide, hlen⟩, by
    simpa using getMessages_notifications 64 (by decide) [n] hlen 1⟩

/-- On a pipe whose writer stopped in the middle of a line, the call of `get_message` that
reaches that line never returns, however many reads it is allowed. -/
theorem getMessages_pending (fuel : Nat) :
    ∀ (lines : List PyStr), (∀ l ∈ lines, '\n' ∉ l) →
      ∀ (pending : PyStr), pending ≠ [] → '\n' ∉ pending →
      ∀ (rrdumpPipe : Option (List Char)) (written : List Char),
      rrdumpPipe.getD written = linesBytes lines ++ pending →
      getMessages fuel (lines.length + 1) rrdumpPipe written = none
  | [], _, pending, hne, hnl, rrdumpPipe, written, hp => by
    have hlast : ([] ++ pending).getLast? ≠ some '\n' := fun h =>
      hnl (List.mem_of_getLast?_eq_some (by simpa using h))
    simp [getMessages, getMessage_eq, hp, linesBytes,
      readLoop_partial pending hnl [] (by simpa using hne) hlast fuel]
  | l :: ls, hl, pending, hne, hnl, rrdumpPipe, written, hp => by
    have hls := getMessages_pending fuel ls (fun l' h => hl l' (List.mem_cons_of_mem l h))
      pending hne hnl (some (linesBytes ls ++ pending)) written rfl
    have hp' : rrdumpPipe.getD written = l ++ '\n' :: (linesBytes ls ++ pending) := by
      simp [hp, linesBytes]
    rw [List.length_cons]
    by_cases hlen : l.length < fuel
    · simpa [getMessages, getMessage_eq, hp', readLoop_line l (hl l (List.mem_cons_self l ls)),
        hlen] using hls
    · simp [getMessages, getMessage_eq, hp', readLoop_line l (hl l (List.mem_cons_self l ls)),
        hlen]

/-- The failing input: rr wrote one message without its newline and closed the pipe. The
first call of `get_message` never returns, however many reads it is allowed. -/
theorem get_message_partial_line (fuel : Nat) :
    getMessage fuel none "INJECT: EVENT: 5 PID: 4242 REC_PID: 100".toList = none := by
  simp only [getMessage_eq, Option.getD_none, readLoop_partial
    "INJECT: EVENT: 5 PID: 4242 REC_PID: 100".toList (by decide) [] (by decide) (by decide) fuel,
    Option.map_none']

end Analysis

end CrashSimulator
