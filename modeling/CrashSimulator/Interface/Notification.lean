import CrashSimulator.Model.Matcher

/-!
# The notification protocol

The lines rr writes into the pipe, as the design fixes them (spec §6):

    INJECT: EVENT: <event> PID: <pid> REC_PID: <rec_pid>
    DONT_INJECT: EVENT: <event> PID: <pid> REC_PID: <rec_pid>

each followed by a newline, with decimal numerals in the three fields. A `Notification` is one
such line before it is written; `Notification.render` writes it. The numerals carry their
well-formedness, so no ill-formed notification can be built.

`parseMessage_render` is the bridge to the matcher: the parse at the top of the loop of
`process_messages` reads back from every rendered line its decision, its event and its pid.
-/

set_option autoImplicit false

namespace CrashSimulator

/-- A decimal numeral: one or more digits. -/
structure Numeral where
  digits : PyStr
  nonempty : digits ≠ []
  all_digits : ∀ c ∈ digits, c.isDigit = true

/-- The decision a notification carries. -/
inductive Decision where
  | inject
  | dontInject
  deriving DecidableEq, Repr

/-- The keyword that names a decision on the wire. -/
def Decision.keyword : Decision → PyStr
  | .inject => "INJECT".toList
  | .dontInject => "DONT_INJECT".toList

/-- A line of the protocol: a decision for the live process `pid`, created for `event` of
the recorded process `recPid`. -/
structure Notification where
  decision : Decision
  event : Numeral
  pid : Numeral
  recPid : Numeral

/-- The space-separated fields of a notification's line, its newline in the last one. -/
def Notification.fields (n : Notification) : List PyStr :=
  [n.decision.keyword ++ [':'], "EVENT:".toList, n.event.digits, "PID:".toList, n.pid.digits,
    "REC_PID:".toList, n.recPid.digits ++ ['\n']]

/-- The line rr writes for a notification. -/
def Notification.render (n : Notification) : PyStr :=
  n.decision.keyword ++ ": EVENT: ".toList ++ n.event.digits ++ " PID: ".toList ++
    n.pid.digits ++ " REC_PID: ".toList ++ n.recPid.digits ++ ['\n']

namespace Notification

/-- INTERNAL: a line is its fields joined by single spaces. -/
theorem render_eq_intercalate (n : Notification) : n.render = [' '].intercalate n.fields := by
  cases n with
  | mk d e p r => cases d <;> simp [render, fields, Decision.keyword, List.intercalate]

/-- INTERNAL: no field of a line holds a space. -/
theorem space_not_mem_fields (n : Notification) : ∀ l ∈ n.fields, ' ' ∉ l := by
  have hnum : ∀ x : Numeral, ' ' ∉ x.digits := fun x h => by
    simpa using x.all_digits ' ' h
  cases n with
  | mk d e p r =>
    simp only [fields, List.mem_cons, List.mem_singleton, List.not_mem_nil, or_false]
    rintro l (rfl | rfl | rfl | rfl | rfl | rfl | rfl)
    · cases d <;> decide
    · decide
    · exact hnum e
    · decide
    · exact hnum p
    · decide
    · simpa using hnum r

/-- Splitting a line at its spaces gives back its fields. -/
theorem splitOn_render (n : Notification) : n.render.splitOn ' ' = n.fields := by
  rw [render_eq_intercalate]
  exact List.splitOn_intercalate n.fields ' ' n.space_not_mem_fields (by simp [fields])

end Notification

/-- The parse of `process_messages` reads back the decision, the event and the pid of every
line of the protocol. -/
theorem parseMessage_render (n : Notification) :
    parseMessage n.render = .ok ⟨n.decision.keyword, n.event.digits, n.pid.digits⟩ := by
  have hkw : (strip (n.decision.keyword ++ [':'])).dropLast = n.decision.keyword := by
    cases n.decision <;> decide
  simp [parseMessage, n.splitOn_render, Notification.fields, getItem, hkw, bind, Except.bind,
    pure, Except.pure]

/-- A decimal numeral is ASCII, hence UTF-8. -/
theorem Numeral.utf8Valid_digits (x : Numeral) : utf8Valid x.digits = true :=
  utf8Valid_of_ascii fun c hc => by
    have h := x.all_digits c hc
    simp only [Char.isDigit, Bool.and_eq_true, decide_eq_true_eq] at h
    exact (h.2 : c.toNat ≤ 57).trans (by decide)

/-- One iteration of the loop on a line of the protocol whose pid is alive takes the branch of
its decision, with its event and its pid. -/
theorem Matcher.iterate_render (m : Matcher) (n : Notification)
    (ha : m.world.alive n.pid.digits = true) :
    m.iterate n.render = match n.decision with
      | .inject => m.inject n.event.digits n.pid.digits
      | .dontInject => m.dontInject n.pid.digits := by
  rw [Matcher.iterate, parseMessage_render]
  cases n.decision <;> simp [Decision.keyword, ha]

/-- On a line of the protocol whose pid is not alive, the iteration hangs in the poll. -/
theorem Matcher.iterate_render_hang (m : Matcher) (n : Notification)
    (ha : m.world.alive n.pid.digits = false) : m.iterate n.render = .error .hang m :=
  Matcher.iterate_eq_hang (parseMessage_render n) ha

/-- An iteration on a line of the protocol that returns found its pid alive and took the
branch of its decision. -/
theorem Matcher.iterate_render_eq_ok {m m' : Matcher} {n : Notification}
    (h : m.iterate n.render = .ok () m') :
    m.world.alive n.pid.digits = true ∧ (match n.decision with
      | .inject => m.inject n.event.digits n.pid.digits
      | .dontInject => m.dontInject n.pid.digits) = .ok () m' := by
  cases ha : m.world.alive n.pid.digits
  · rw [m.iterate_render_hang n ha] at h
    cases h
  · exact ⟨rfl, m.iterate_render n ha ▸ h⟩

/-- An iteration on a line of the protocol that raises has changed neither a subject, nor
`s`, nor the world. -/
theorem Matcher.iterate_render_eq_error {m m' : Matcher} {n : Notification} {e : PyError}
    (h : m.iterate n.render = .error e m') :
    m'.subjects = m.subjects ∧ m'.s = m.s ∧ m'.world = m.world := by
  obtain ⟨h1, h2, hw | ⟨f, hf, hu, -⟩⟩ := Matcher.iterate_eq_error h
  · exact ⟨h1, h2, hw⟩
  · rw [parseMessage_render] at hf
    cases hf
    simp [n.pid.utf8Valid_digits] at hu

end CrashSimulator
