import CrashSimulator.Analysis.Siblings
import CrashSimulator.Model.Replay

/-!
# `wait_on_handles` never reaches a kill

The kill loop of `wait_on_handles` starts by formatting `s['other_procs'][i]` for its debug
log, where `i` is the pid string the loop runs over. A list subscripted by a string raises
`TypeError`, so the first sibling of the first subject that has one ends the function, before
its `os.kill` and before any later subject is waited on. Every run of `wait_on_handles`
therefore sends no signal at all (`waitOnHandles_killed`), and it returns only when no
subject has a sibling (`waitOnHandles_eq_ok`); when it does return, it has waited on every
handle. On subjects without siblings it always returns, and `waitOnHandles_no_siblings` says
all it did: every handle waited on, in subject order, and for each subject the records of
`supervisionLog`; `wait_on_handles_returns_iff` puts the two directions together.
`wait_on_handles_sibling_typeError` shows the defect on the subjects `process_messages` leaves
after the spec's scenarios B and D.
-/

set_option autoImplicit false

namespace CrashSimulator.Analysis

/-- INTERNAL: the kill loop raises `TypeError` at its first pid, before any kill.
SOURCE: rreplay.py:382-387 -/
theorem killOthers_cons (otherProcs : List PyStr) (i : PyStr) (rest : List PyStr) (w : World) :
    killOthers otherProcs (i :: rest) w = .error .typeError w := rfl

/-- INTERNAL: a first subject with a sibling ends `wait_on_handles` in `TypeError`, once its
own handle is waited on: no kill, no record, no later subject waited on.
SOURCE: rreplay.py:369-387 -/
theorem waitOnHandles_cons_sibling (status : Handle → Int) {s : Subject} {h : Handle}
    {i : PyStr} {more : List PyStr} (hh : s.handle = some h) (hs : s.otherProcs = i :: more)
    (rest : List Subject) (w : World) :
    waitOnHandles status (s :: rest) w = .error .typeError (w.wait h) := by
  simp [waitOnHandles, awaitSubject, hh, hs, killOthers_cons]

/-- INTERNAL: the wait of one subject sends no signal.
SOURCE: rreplay.py:373-378 -/
theorem awaitSubject_killed (status : Handle → Int) (s : Subject) (w : World) :
    (awaitSubject status s w).2.killed = w.killed := by
  unfold awaitSubject
  split <;> rfl

/-- INTERNAL: the wait of one subject waits on its handle when it has one.
SOURCE: rreplay.py:373-378 -/
theorem mem_awaitSubject_waited (status : Handle → Int) (s : Subject) (w : World) (h : Handle)
    (hs : s.handle = some h) : h ∈ (awaitSubject status s w).2.waited := by
  simp [awaitSubject, hs]

/-- INTERNAL: the wait of one subject keeps every earlier wait.
SOURCE: rreplay.py:373-378 -/
theorem awaitSubject_waited_grows (status : Handle → Int) (s : Subject) (w : World) :
    w.waited <+: (awaitSubject status s w).2.waited := by
  unfold awaitSubject
  split <;> simp

/-- INTERNAL: `wait_on_handles` only adds waits.
SOURCE: rreplay.py:369-392 -/
theorem waitOnHandles_waited_grows (status : Handle → Int) :
    ∀ (subjects : List Subject) (w : World),
      w.waited <+: (endState (waitOnHandles status subjects w)).waited
  | [], _ => List.prefix_refl _
  | s :: rest, w => by
    have h1 := awaitSubject_waited_grows status s w
    cases hs : s.otherProcs with
    | nil =>
      simp only [waitOnHandles, hs, killOthers]
      refine h1.trans (List.IsPrefix.trans ?_ (waitOnHandles_waited_grows status rest _))
      split <;> simp
    | cons i more => simpa [waitOnHandles, hs, killOthers_cons, endState] using h1

/-- Whatever the subjects, `wait_on_handles` sends `SIGKILL` to no process, whether it
returns or raises. -/
theorem waitOnHandles_killed (status : Handle → Int) :
    ∀ (subjects : List Subject) (w : World),
      (endState (waitOnHandles status subjects w)).killed = w.killed
  | [], _ => rfl
  | s :: rest, w => by
    cases hs : s.otherProcs with
    | nil =>
      simp only [waitOnHandles, hs, killOthers]
      rw [waitOnHandles_killed status rest]
      split <;> simp [awaitSubject_killed]
    | cons i more => simp [waitOnHandles, hs, killOthers_cons, endState, awaitSubject_killed]

/-- INTERNAL: `wait_on_handles` launches no process.
SOURCE: rreplay.py:369-392 -/
theorem waitOnHandles_spawned (status : Handle → Int) :
    ∀ (subjects : List Subject) (w : World),
      (endState (waitOnHandles status subjects w)).spawned = w.spawned
  | [], _ => rfl
  | s :: rest, w => by
    have hs : (awaitSubject status s w).2.spawned = w.spawned := by
      unfold awaitSubject
      split <;> rfl
    cases ho : s.otherProcs with
    | nil =>
      simp only [waitOnHandles, ho, killOthers]
      rw [waitOnHandles_spawned status rest]
      split <;> simp [hs]
    | cons i more => simp [waitOnHandles, ho, killOthers_cons, endState, hs]

/-- `wait_on_handles` returns only when no subject has a sibling, and then it has waited on
the handle of every subject that has one. -/
theorem waitOnHandles_eq_ok (status : Handle → Int) :
    ∀ (subjects : List Subject) (w w' : World), waitOnHandles status subjects w = .ok () w' →
      (∀ s ∈ subjects, s.otherProcs = []) ∧
      ∀ s ∈ subjects, ∀ h, s.handle = some h → h ∈ w'.waited
  | [], _, _, _ => ⟨by simp, by simp⟩
  | s :: rest, w, w', hok => by
    cases hs : s.otherProcs with
    | cons i more => simp [waitOnHandles, hs, killOthers_cons] at hok
    | nil =>
      simp only [waitOnHandles, hs, killOthers] at hok
      obtain ⟨hnil, hwait⟩ := waitOnHandles_eq_ok status rest _ _ hok
      have hsub : (awaitSubject status s w).2.waited ⊆ w'.waited := by
        have := waitOnHandles_waited_grows status rest
          (if (awaitSubject status s w).1 ≠ 0 then
            (awaitSubject status s w).2.logged (.supervisorFailed s.event s.recPid)
          else (awaitSubject status s w).2)
        rw [hok] at this
        refine List.IsPrefix.subset (List.IsPrefix.trans ?_ this)
        split <;> simp
      refine ⟨?_, ?_⟩
      · simpa [hs] using hnil
      · simp only [List.mem_cons, forall_eq_or_imp]
        exact ⟨fun h hh => hsub (mem_awaitSubject_waited status s w h hh), hwait⟩

/-- The records `wait_on_handles` logs for one subject without siblings: `'No handle'` when
it has none, and then the supervisor failure, since the status is `-1`; with a handle, the
supervisor failure exactly when the injector's exit status is not 0. -/
def supervisionLog (status : Handle → Int) (s : Subject) : List LogRecord :=
  match s.handle with
  | some h => if status h ≠ 0 then [.supervisorFailed s.event s.recPid] else []
  | none => [.noHandle s, .supervisorFailed s.event s.recPid]

/-- On subjects without siblings, `wait_on_handles` returns, having waited on every handle in
subject order and logged `supervisionLog` for each subject, and changed nothing else. -/
theorem waitOnHandles_no_siblings (status : Handle → Int) :
    ∀ (subjects : List Subject) (w : World), (∀ s ∈ subjects, s.otherProcs = []) →
      waitOnHandles status subjects w =
        .ok () { w with waited := w.waited ++ subjects.filterMap Subject.handle
                        log := w.log ++ subjects.flatMap (supervisionLog status) }
  | [], w, _ => by simp [waitOnHandles]
  | s :: rest, w, hs => by
    have ih := waitOnHandles_no_siblings status rest
    simp only [List.mem_cons, forall_eq_or_imp] at hs
    cases hh : s.handle with
    | none =>
      simp [waitOnHandles, awaitSubject, hh, hs.1, killOthers, ih _ hs.2, supervisionLog]
    | some h =>
      by_cases hst : status h = 0 <;>
        simp [waitOnHandles, awaitSubject, hh, hs.1, killOthers, ih _ hs.2, supervisionLog, hst]

/-- `wait_on_handles` returns exactly when no subject has a sibling, and then it has waited on
every handle in subject order and logged `supervisionLog` for each subject, and changed
nothing else. -/
theorem wait_on_handles_returns_iff (status : Handle → Int) (subjects : List Subject)
    (w : World) :
    ((∃ w', waitOnHandles status subjects w = .ok () w') ↔ ∀ s ∈ subjects, s.otherProcs = []) ∧
    ((∀ s ∈ subjects, s.otherProcs = []) →
      waitOnHandles status subjects w =
        .ok () { w with waited := w.waited ++ subjects.filterMap Subject.handle
                        log := w.log ++ subjects.flatMap (supervisionLog status) }) :=
  ⟨⟨fun ⟨w', h⟩ => (waitOnHandles_eq_ok status subjects w w' h).1,
      fun h => ⟨_, waitOnHandles_no_siblings status subjects w h⟩⟩,
    waitOnHandles_no_siblings status subjects w⟩

/-- The spec's scenario A at the supervisor, with an injector that exits with status 1: it is
waited on and the one record logged is the supervisor failure of event 5. -/
example :
    let h : Handle := ⟨1, injectorArgv "4242_5_drop_write_state.json".toList⟩
    let s : Subject :=
      { event := "5".toList, recPid := "100".toList, traceFile := "t.bin".toList,
        traceStart := "0".toList, traceEnd := "10".toList, mutator := "drop_write".toList,
        injectedStateFile := "5_drop_write_state.json".toList, otherProcs := [],
        mmapBackingFiles := none, checker := none, handle := some h }
    waitOnHandles (fun _ => 1) [s] ⟨fun _ => none, [], [], [], [], fun _ => true⟩ =
      .ok () ⟨fun _ => none, [], [h], [], [.supervisorFailed "5".toList "100".toList],
        fun _ => true⟩ := rfl

/-- The failing run, the spec's scenario D on the subjects `process_messages` leaves: two
subjects, of events 5 and 7, live pids, and the lines `INJECT 5 (4242)`, `DONT_INJECT 5
(4243)` and `INJECT 7 (4244)`. The loop reads the three lines and dispatches both subjects,
with 4243 the sibling of event 5. The injector of event 5 exits with status 1:
`wait_on_handles` waits on it and raises `TypeError`, so 4243 is not killed, no supervisor
failure is logged, and the injector of event 7 is never waited on. -/
theorem wait_on_handles_sibling_typeError :
    let a : Subject :=
      { event := "5".toList, recPid := "100".toList, traceFile := "t.bin".toList,
        traceStart := "0".toList, traceEnd := "10".toList, mutator := "drop_write".toList,
        injectedStateFile := "5_drop_write_state.json".toList, otherProcs := [],
        mmapBackingFiles := none, checker := none, handle := none }
    let b : Subject :=
      { a with event := "7".toList, injectedStateFile := "7_drop_write_state.json".toList }
    let w : World :=
      ⟨fun f => if f = a.injectedStateFile then some (.json a.toDoc)
        else if f = b.injectedStateFile then some (.json b.toDoc) else none, [], [], [], [],
        fun _ => true⟩
    let five : Numeral := ⟨"5".toList, by decide, by decide⟩
    let rec100 : Numeral := ⟨"100".toList, by decide, by decide⟩
    let b5 : Block := ⟨⟨.inject, five, ⟨"4242".toList, by decide, by decide⟩, rec100⟩, rfl,
      [⟨.dontInject, five, ⟨"4243".toList, by decide, by decide⟩, rec100⟩], by simp⟩
    let b7 : Block := ⟨⟨.inject, ⟨"7".toList, by decide, by decide⟩,
      ⟨"4244".toList, by decide, by decide⟩, rec100⟩, rfl, [], by simp⟩
    let h5 : Handle := ⟨0, injectorArgv "4242_5_drop_write_state.json".toList⟩
    let h7 : Handle := ⟨1, injectorArgv "4244_7_drop_write_state.json".toList⟩
    ∃ m, processMessages (Matcher.start [a, b] w) ([b5, b7].flatMap Block.lines) .closed =
        .ok [] m ∧
      m.subjects = [{ a with otherProcs := ["4243".toList], handle := some h5 },
        { b with handle := some h7 }] ∧
      waitOnHandles (fun _ => 1) m.subjects m.world = .error .typeError (m.world.wait h5) := by
  intro a b w five rec100 b5 b7 h5 h7
  have hnone : ∀ s ∈ [a, b], s.handle = none := by simp [a, b]
  obtain ⟨m, h, -, hrel⟩ := (@Matcher.inv_start [a, b] w (by decide) hnone
    (by simp [w])).processMessages_blocks [b5, b7] 0 [a, b] [] .closed [b5, b7] [] _ rfl
    (by simp [w, Matcher.start]) (by rw [Matcher.start_pending w hnone]; rfl) rfl
    (by simp [Matcher.start, Subject.handleIndex])
    (List.forall₂_same.2 fun s hs => .inl ⟨rfl, hnone s hs⟩)
  have hsub : m.subjects = [{ a with otherProcs := ["4243".toList], handle := some h5 },
      { b with handle := some h7 }] := by
    obtain ⟨x, y, hxy⟩ : ∃ x y, m.subjects = [x, y] := by
      match hm : m.subjects, hrel.length_eq with
      | [x, y], _ => exact ⟨x, y, rfl⟩
    rw [hxy] at hrel ⊢
    rw [List.forall₂_cons, List.forall₂_cons] at hrel
    obtain ⟨⟨j, c, hc, he, rfl⟩, ⟨i, d, hd, he', rfl⟩, -⟩ := hrel
    rcases j with _ | _ | j <;> rcases i with _ | _ | i <;>
      simp only [List.getElem?_cons_zero, List.getElem?_cons_succ, List.getElem?_nil,
        Option.some.injEq, reduceCtorEq] at hc hd <;> subst hc hd <;> simp [a, b, b5, b7] at he he' ⊢
    exact ⟨rfl, rfl⟩
  refine ⟨m, by simpa using h, hsub, ?_⟩
  rw [hsub]
  exact waitOnHandles_cons_sibling _ rfl rfl _ _

end CrashSimulator.Analysis
