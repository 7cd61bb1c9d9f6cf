import CrashSimulator.Interface.Notification
import CrashSimulator.Analysis.Configuration

/-!
# What the matcher makes of a line, and of an event

The parse of `process_messages` is positional. On every line of the protocol it reads back
the decision, the event and the pid (`Matcher.iterate_render`), but it accepts more than the
protocol: any line of five space-separated fields or more is read by its first, third and
fifth fields, and the loop cannot tell it from the line of the protocol with those fields.
Before it branches, it polls the fifth field until it is a live pid, forever when it is not;
then a decision other than `INJECT` and `DONT_INJECT` is skipped without a word. Only a line
of fewer than five fields raises, with `IndexError`, before anything changes
(`process_messages_line_fields`). A line with an unknown keyword and a live pid therefore does
not stop the matching (`process_messages_unknown_keyword`).

The candidates of an `INJECT` are the subjects whose event string is the notification's
event field. `get_configuration` sorts by `int(event)`, and the two notions of event agree for
subjects whose event is the canonical numeral of its value; a subject whose event is no
canonical numeral, such as `05`, which `int()` reads as 5, is a candidate for no canonical
numeral (`subjects_for_event_canonical`), and is never dispatched
(`process_messages_event_05`).

In the other direction, the request `execute_rr` starts rr with, `rec_pid:event,` for each
subject, can be read back: cut at the commas and then at the colons, it gives every subject's
pair in order, when no recorded pid holds a comma or a colon (`events_str_round_trip`).
-/

set_option autoImplicit false

namespace CrashSimulator.Analysis

/-- The candidates of an `INJECT` are the subjects whose event string is the notification's
event field and whose key is not handled. So a subject whose event string is the canonical
numeral of an integer is a candidate for a notification whose event field is the canonical
numeral of `n` exactly when `int()` reads `n` from its event and its key is not handled; a
subject whose event string is no canonical numeral is a candidate for none, though `int()`
reads `05` as 5. -/
theorem subjects_for_event_canonical (m : Matcher) :
    (∀ k s event, (k, s) ∈ m.subjectsForEvent event ↔
      m.subjects[k]? = some s ∧ s.event = event ∧ s.key ∉ m.handled) ∧
    (∀ k s, m.subjects[k]? = some s → ∀ v : Int, s.event = intStr v → ∀ n : Int,
      ((k, s) ∈ m.subjectsForEvent (intStr n) ↔ pyInt s.event = some n ∧ s.key ∉ m.handled)) ∧
    (∀ k s, (∀ v : Int, s.event ≠ intStr v) → ∀ n : Int, (k, s) ∉ m.subjectsForEvent (intStr n)) ∧
    pyInt "05".toList = some 5 := by
  refine ⟨fun k s event => Matcher.mem_subjectsForEvent, fun k s hk v hc n => ?_,
    fun k s hne n h => hne n (Matcher.mem_subjectsForEvent.1 h).2.1, by decide⟩
  rw [Matcher.mem_subjectsForEvent, hc, pyInt_intStr, intStr_injective.eq_iff, Option.some_inj]
  simp [hk]

/-- The subject of event `5` is a candidate for the notification of event `5`. -/
theorem subjects_for_event_five :
    let s : Subject :=
      { event := "5".toList, recPid := "100".toList, traceFile := "t.bin".toList,
        traceStart := "0".toList, traceEnd := "10".toList, mutator := "drop_write".toList,
        injectedStateFile := "5_drop_write_state.json".toList, otherProcs := [],
        mmapBackingFiles := none, checker := none, handle := none }
    let m : Matcher := ⟨[s], [], none, ⟨fun _ => none, [], [], [], [], fun _ => true⟩⟩
    m.subjects[0]? = some s ∧ s.event = intStr 5 ∧
      ((0, s) ∈ m.subjectsForEvent (intStr 5) ↔ pyInt s.event = some 5 ∧ s.key ∉ m.handled) := by
  intro s m
  have hc : s.event = intStr 5 := by norm_num [s, intStr, natStr, digitChar]
  exact ⟨rfl, hc, (subjects_for_event_canonical m).2.1 0 s rfl 5 hc 5⟩

/-- A section with the event `05`: `int()` reads 5 from it, but the notification of event 5
finds no candidate, the loop logs the process as an extra one and, when rr closes the pipe,
raises `IndexError` with the subject never dispatched. -/
theorem process_messages_event_05 :
    let cfg : IniFile := ⟨[.ofStrings "rr" [("rr_dir", "/traces")],
      .ofStrings "t1" [("event", "05"), ("pid", "100"), ("trace_file", "t.bin"),
        ("trace_start", "0"), ("trace_end", "10"), ("mutator", "drop_write")]], by decide⟩
    let w : World := ⟨fun f => if f = "config.ini".toList then some (.ini cfg) else none,
      [], [], [], [], fun _ => true⟩
    ∃ rrDir subjects w', getConfiguration "config.ini".toList w = .ok (rrDir, subjects) w' ∧
      subjects.map (pyInt ·.event) = [some 5] ∧
      ∃ m, processMessages ⟨subjects, [], none, w'⟩
          ["INJECT: EVENT: 5 PID: 4242 REC_PID: 100\n".toList] .closed = .error .indexError m ∧
        m.subjects = subjects ∧ m.world.log = [.extraProcess, .extraProcess] :=
  ⟨_, _, _, rfl, by decide, _, rfl, rfl, rfl⟩

/-! ## The request rr is started with -/

/-- INTERNAL: joining after a list that is not empty puts the separator after the head. -/
theorem intercalate_cons_of_ne_nil {α : Type} {sep a : List α} {l : List (List α)}
    (hl : l ≠ []) : sep.intercalate (a :: l) = a ++ sep ++ sep.intercalate l := by
  obtain ⟨b, l, rfl⟩ := List.exists_cons_of_ne_nil hl
  simp [List.intercalate, List.intersperse_cons_cons]

/-- INTERNAL: pieces each followed by a separator are the pieces and an empty one, joined. -/
theorem flatten_terminated_eq_intercalate {c : Char} :
    ∀ (xs : List PyStr), (xs.map (· ++ [c])).flatten = [c].intercalate (xs ++ [[]])
  | [] => rfl
  | x :: xs => by
    rw [List.map_cons, List.flatten_cons, flatten_terminated_eq_intercalate xs, List.cons_append,
      intercalate_cons_of_ne_nil (by simp)]

/-- INTERNAL: the loop of `execute_rr` appends one piece per subject.
SOURCE: rreplay.py:223-225 -/
theorem eventsStr_eq (subjects : List Subject) :
    eventsStr subjects =
      (subjects.map fun i => i.recPid ++ ":".toList ++ i.event ++ ",".toList).flatten := by
  suffices h : ∀ acc, subjects.foldl
      (fun acc i => acc ++ i.recPid ++ ":".toList ++ i.event ++ ",".toList) acc =
      acc ++ (subjects.map fun i => i.recPid ++ ":".toList ++ i.event ++ ",".toList).flatten by
    rw [eventsStr, h [], List.nil_append]
  induction subjects with
  | nil => simp
  | cons s rest ih =>
    intro acc
    rw [List.foldl_cons, ih, List.map_cons, List.flatten_cons]
    simp only [List.append_assoc]

/-- INTERNAL: two pieces joined by a separator neither holds split back at it. -/
theorem splitOn_pair {c : Char} {a b : PyStr} (ha : c ∉ a) (hb : c ∉ b) :
    (a ++ [c] ++ b).splitOn c = [a, b] := by
  have h := List.splitOn_intercalate [a, b] c (by simp [ha, hb]) (by simp)
  simpa [List.intercalate] using h

/-- The request `execute_rr` passes to rr reads back: cut at the commas and each field at the
colons, it gives the pair `[rec_pid, event]` of every subject, in order, and an empty last
field, when no recorded pid holds a comma or a colon and `int()` accepts every event. -/
theorem events_str_round_trip (subjects : List Subject)
    (h : ∀ s ∈ subjects, ',' ∉ s.recPid ∧ ':' ∉ s.recPid ∧ (pyInt s.event).isSome) :
    ((eventsStr subjects).splitOn ',').map (·.splitOn ':') =
      subjects.map (fun s => [s.recPid, s.event]) ++ [[[]]] := by
  have hev : ∀ s ∈ subjects, ',' ∉ s.event ∧ ':' ∉ s.event := fun s hs =>
    ⟨not_mem_of_pyInt (by decide) (by decide) (by decide) (by decide) (h s hs).2.2,
      not_mem_of_pyInt (by decide) (by decide) (by decide) (by decide) (h s hs).2.2⟩
  have hpieces : eventsStr subjects =
      ((subjects.map fun i => i.recPid ++ [':'] ++ i.event).map (· ++ [','])).flatten := by
    rw [eventsStr_eq, List.map_map]
    rfl
  rw [hpieces, flatten_terminated_eq_intercalate, List.splitOn_intercalate]
  · simp only [List.map_append, List.map_map]
    congr 1
    exact List.map_congr_left fun s hs => splitOn_pair (h s hs).2.1 (hev s hs).2
  · simp only [List.mem_append, List.mem_map, List.mem_singleton]
    rintro l (⟨s, hs, rfl⟩ | rfl)
    · simp [(h s hs).1, (hev s hs).1]
    · simp
  · simp

/-- The request for the spec's scenario A: `100:5,` reads back as the pair `[100, 5]`. -/
theorem events_str_scenario_a :
    let s : Subject :=
      { event := "5".toList, recPid := "100".toList, traceFile := "t.bin".toList,
        traceStart := "0".toList, traceEnd := "10".toList, mutator := "drop_write".toList,
        injectedStateFile := "5_drop_write_state.json".toList, otherProcs := [],
        mmapBackingFiles := none, checker := none, handle := none }
    (∀ t ∈ [s], ',' ∉ t.recPid ∧ ':' ∉ t.recPid ∧ (pyInt t.event).isSome) ∧
      ((eventsStr [s]).splitOn ',').map (·.splitOn ':') =
        [["100".toList, "5".toList], [[]]] := by
  intro s
  have h : ∀ t ∈ [s], ',' ∉ t.recPid ∧ ':' ∉ t.recPid ∧ (pyInt t.event).isSome := by decide
  exact ⟨h, events_str_round_trip [s] h⟩

end CrashSimulator.Analysis
