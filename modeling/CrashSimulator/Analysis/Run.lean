import CrashSimulator.Analysis.Exit
import CrashSimulator.Analysis.Siblings

/-!
# The injectors a run launches, and a run that completes

`process_messages` launches an injector only for a candidate, a subject whose key is not yet
in `subjects_handled`, and that key joins the set; a key, once there, stays. So over any
stream of messages, however the loop ends (it returns, or a line is malformed, or a state file
is missing, or a pid never comes alive, or the operator interrupts), each injector it launched
belongs to a key `(event, mutator)` of the subjects it started with, no two to the same key
(`Launches`), and a whole run of `call_replay` launches nothing, or rr and then injectors for
distinct keys (`call_replay_launches_per_key`). This holds even when two sections share a key.

When rr keeps to the protocol, announcing each subject's event once with `INJECT` for a live
pid, a configuration with distinct keys and UTF-8 values is carried to its end: `call_replay`
returns normally, having launched rr and one injector per subject and waited on every
injector (`call_replay_completes`). Distinct keys are needed: when two sections share a key, the
handled keys never reach the number of subjects, the loop's guard holds forever, and whatever
rr sends the run raises before `wait_on_handles`, waiting on none of the injectors it launched
(`call_replay_shared_key_never_returns`). And a run that completes has read no `DONT_INJECT`
line before its loop returned: every process set rr announced by then was a single process
(`call_replay_returns_without_siblings`).
-/

set_option autoImplicit false

namespace CrashSimulator

namespace Matcher

/-- An `INJECT` that raises marked a candidate's key handled, and changed no subject and
launched no process. -/
theorem inject_eq_error_handled {m m' : Matcher} {event pid : PyStr} {e : PyError}
    (h : m.inject event pid = .error e m') :
    ∃ k s, (k, s) ∈ m.subjectsForEvent event ∧ m'.subjects = m.subjects ∧
      m'.handled = m.handled.insert s.key ∧ m'.world.spawned = m.world.spawned := by
  unfold inject at h
  split at h
  · cases h
  · rename_i k s _ hpop
    split at h <;> try split_ifs at h
    all_goals cases h
    all_goals exact ⟨k, s, mem_of_pop_eq_ok hpop, rfl, rfl, rfl⟩

/-- An iteration that raises changed nothing, or only marked a candidate's key handled and
wrote a file. -/
theorem iterate_eq_error_handled {m m' : Matcher} {msg : PyStr} {e : PyError}
    (h : m.iterate msg = .error e m') :
    m' = m ∨ ∃ event k s, (k, s) ∈ m.subjectsForEvent event ∧ m'.subjects = m.subjects ∧
      m'.handled = m.handled.insert s.key ∧ m'.world.spawned = m.world.spawned := by
  unfold iterate at h
  split at h
  · cases h
    exact .inl rfl
  · split_ifs at h
    · cases h
      exact .inl rfl
    · exact .inr ⟨_, inject_eq_error_handled h⟩
    · exact .inl (dontInject_eq_error h).2

/-- INTERNAL: an iteration that returns waits on no process.
SOURCE: rreplay.py:287-350 -/
theorem iterate_waited {m m' : Matcher} {msg : PyStr} (h : m.iterate msg = .ok () m') :
    m'.world.waited = m.world.waited := by
  obtain ⟨f, -, -, ⟨-, hi⟩ | ⟨-, hd⟩ | ⟨-, -, rfl⟩⟩ := iterate_eq_ok h
  · rcases inject_eq_ok hi with ⟨-, rfl⟩ | ⟨k, s, tmp, -, -, -, rfl⟩ <;> rfl
  · obtain ⟨k, -, rfl⟩ := dontInject_eq_ok hd
    rfl
  · rfl

end Matcher

/-- INTERNAL: the loop waits on no process, whether it returns or raises.
SOURCE: rreplay.py:287-350 -/
theorem processMessages_waited (m : Matcher) (msgs : List PyStr) (stop : ChannelEnd) :
    (endState (processMessages m msgs stop)).world.waited = m.world.waited :=
  processMessages_induction (fun _ => True) (fun m' => m'.world.waited = m.world.waited)
    (fun _ _ _ _ _ hm hit => (Matcher.iterate_waited hit).trans hm)
    (fun _ _ _ m' _ hm hit => show m'.world.waited = _ by
      obtain ⟨-, -, hw | ⟨-, -, -, _, hw⟩⟩ := Matcher.iterate_eq_error hit <;> rw [hw] <;> exact hm)
    m msgs stop (fun _ _ => trivial) rfl

/-- INTERNAL: the loop returns only once `subjects_handled` is as long as the subject list.
SOURCE: rreplay.py:288 -/
theorem processMessages_eq_ok_guard :
    ∀ {m m' : Matcher} {msgs rest : List PyStr} {stop : ChannelEnd},
      processMessages m msgs stop = .ok rest m' → ¬m'.handled.length < m'.subjects.length
  | m, m', [], rest, stop, h => by
    unfold processMessages at h
    split_ifs at h with hg
    · cases stop <;> cases h
    · cases h
      exact hg
  | m, m', msg :: more, rest, stop, h => by
    unfold processMessages at h
    split_ifs at h with hg
    · split at h
      · exact processMessages_eq_ok_guard h
      · cases h
    · cases h
      exact hg

/-! ## At most one injector per key -/

/-- The process `argv` is an injector for the key `key` of the subjects `subjects0`: one of
them has that key, and `argv` launches the injector on a per-process file of its event-level
state file. -/
def InjectorFor (subjects0 : List Subject) (argv : List PyStr) (key : PyStr × PyStr) : Prop :=
  ∃ s ∈ subjects0, s.key = key ∧
    ∃ pid, argv = injectorArgv (Matcher.pidUniqueStatefile pid s.injectedStateFile)

/-- INTERNAL: two lists with the same image under `f` have the same image at each index. -/
theorem getElem_map_eq_of_map_eq {α β : Type} {f : α → β} {l l' : List α}
    (h : l.map f = l'.map f) {k : Nat} (hk : k < l.length) (hk' : k < l'.length) :
    f l[k] = f l'[k] := by
  simpa [List.getElem?_eq_getElem hk, List.getElem?_eq_getElem hk'] using congrArg (·[k]?) h

/-- What the loop has launched, against the subjects `subjects0` it started with and the
processes `base` launched before it: the subjects keep their keys and state file names,
`subjects_handled` holds distinct keys of the subjects, and the processes launched since are
injectors, each for a handled key, no two for the same key. -/
structure Launches (subjects0 : List Subject) (base : List (List PyStr)) (m : Matcher) :
    Prop where
  keys_eq : m.subjects.map Subject.key = subjects0.map Subject.key
  files_eq : m.subjects.map Subject.injectedStateFile = subjects0.map Subject.injectedStateFile
  handled_nodup : m.handled.Nodup
  handled_keys : ∀ key ∈ m.handled, key ∈ subjects0.map Subject.key
  spawned : ∃ injectors keys, m.world.spawned = base ++ injectors ∧
    List.Forall₂ (InjectorFor subjects0) injectors keys ∧ keys.Nodup ∧ ∀ key ∈ keys, key ∈ m.handled

namespace Launches

variable {subjects0 : List Subject} {base : List (List PyStr)} {m m' : Matcher}

/-- The loop starts having launched nothing. -/
theorem start (subjects : List Subject) (w : World) :
    Launches subjects w.spawned (Matcher.start subjects w) :=
  ⟨rfl, rfl, List.nodup_nil, by simp [Matcher.start], [], [], by simp [Matcher.start], .nil,
    List.nodup_nil, by simp⟩

/-- A candidate's key is a key of the subjects not yet handled: marking it handled keeps the
handled keys distinct and adds one. -/
theorem insert_key {event : PyStr} {k : Nat} {s : Subject} (h : Launches subjects0 base m)
    (hc : (k, s) ∈ m.subjectsForEvent event) :
    (m.handled.insert s.key).Nodup ∧
      ∀ key ∈ m.handled.insert s.key, key ∈ subjects0.map Subject.key := by
  obtain ⟨hk, -, hn⟩ := Matcher.mem_subjectsForEvent.1 hc
  have hs : s.key ∈ subjects0.map Subject.key :=
    h.keys_eq ▸ List.mem_map_of_mem _ (List.getElem?_mem hk)
  rw [List.insert_of_not_mem hn]
  refine ⟨List.nodup_cons.2 ⟨hn, h.handled_nodup⟩, ?_⟩
  simpa only [List.mem_cons, forall_eq_or_imp] using ⟨hs, h.handled_keys⟩

/-- Marking a candidate's key handled without a launch keeps the record. -/
theorem handle {event : PyStr} {k : Nat} {s : Subject} (h : Launches subjects0 base m)
    (hc : (k, s) ∈ m.subjectsForEvent event) (hs : m'.subjects = m.subjects)
    (hh : m'.handled = m.handled.insert s.key) (hsp : m'.world.spawned = m.world.spawned) :
    Launches subjects0 base m' := by
  obtain ⟨hnd, hsub⟩ := h.insert_key hc
  obtain ⟨injectors, keys, hsp', hinj, hnodup, hkeys⟩ := h.spawned
  exact ⟨hs ▸ h.keys_eq, hs ▸ h.files_eq, hh ▸ hnd, hh ▸ hsub, injectors, keys, hsp ▸ hsp', hinj,
    hnodup, fun key hk => hh ▸ List.mem_insert_of_mem (hkeys key hk)⟩

/-- A dispatch launches one injector, for the candidate's key, and marks that key handled. -/
theorem dispatch {event : PyStr} {k : Nat} {s : Subject} {tmp : StateDoc} {pid : PyStr}
    (h : Launches subjects0 base m) (hc : (k, s) ∈ m.subjectsForEvent event) :
    Launches subjects0 base (m.dispatch k s tmp pid) := by
  obtain ⟨hnd, hsub⟩ := h.insert_key hc
  obtain ⟨injectors, keys, hsp, hinj, hnodup, hkeys⟩ := h.spawned
  obtain ⟨hk, -, hn⟩ := Matcher.mem_subjectsForEvent.1 hc
  obtain ⟨hlt, rfl⟩ := List.getElem?_eq_some_iff.1 hk
  have hlen : k < subjects0.length := by
    rw [← List.length_map subjects0 Subject.key, ← h.keys_eq, List.length_map]
    exact hlt
  have hkey := getElem_map_eq_of_map_eq h.keys_eq hlt hlen
  have hfile := getElem_map_eq_of_map_eq h.files_eq hlt hlen
  refine ⟨?_, ?_, hnd, hsub,
    injectors ++ [injectorArgv (Matcher.pidUniqueStatefile pid m.subjects[k].injectedStateFile)],
    keys ++ [m.subjects[k].key], ?_, ?_, ?_, ?_⟩
  · rw [Matcher.dispatch_subjects, map_modify_of_comp _ _ fun x => Subject.setHandle_key x _]
    exact h.keys_eq
  · rw [Matcher.dispatch_subjects,
      map_modify_of_comp _ _ fun x => Subject.setHandle_injectedStateFile x _]
    exact h.files_eq
  · rw [Matcher.dispatch_spawned, hsp, List.append_assoc]
  · refine List.rel_append hinj (.cons ⟨subjects0[k], List.getElem_mem hlen, hkey.symm, pid, ?_⟩
      .nil)
    rw [hfile]
  · exact List.nodup_append.2 ⟨hnodup, List.nodup_singleton _, fun a ha hb =>
      hn (List.mem_singleton.1 hb ▸ hkeys a ha)⟩
  · rw [Matcher.dispatch_handled, List.insert_of_not_mem hn]
    intro key hk
    rcases List.mem_append.1 hk with hk | hk
    · exact List.mem_cons_of_mem _ (hkeys key hk)
    · exact List.mem_singleton.1 hk ▸ List.mem_cons_self _ _

/-- Every returning iteration keeps the record. -/
theorem iterate_ok {msg : PyStr} (h : Launches subjects0 base m)
    (hit : m.iterate msg = .ok () m') : Launches subjects0 base m' := by
  obtain ⟨f, -, -, ⟨-, hi⟩ | ⟨-, hd⟩ | ⟨-, -, rfl⟩⟩ := Matcher.iterate_eq_ok hit
  · rcases Matcher.inject_eq_ok hi with ⟨-, rfl⟩ | ⟨k, s, tmp, hc, -, -, rfl⟩
    · exact ⟨h.keys_eq, h.files_eq, h.handled_nodup, h.handled_keys, h.spawned⟩
    · exact h.dispatch hc
  · obtain ⟨k, -, rfl⟩ := Matcher.dontInject_eq_ok hd
    refine ⟨?_, ?_, h.handled_nodup, h.handled_keys, h.spawned⟩
    · rw [map_modify_of_comp _ _ fun x => Subject.addOther_key x f.pid]
      exact h.keys_eq
    · rw [map_modify_of_comp _ _ fun x => Subject.addOther_injectedStateFile x f.pid]
      exact h.files_eq
  · exact h

/-- Every raising iteration keeps the record. -/
theorem iterate_error {msg : PyStr} {e : PyError} (h : Launches subjects0 base m)
    (hit : m.iterate msg = .error e m') : Launches subjects0 base m' := by
  rcases Matcher.iterate_eq_error_handled hit with rfl | ⟨event, k, s, hc, hs, hh, hsp⟩
  · exact h
  · exact h.handle hc hs hh hsp

/-- The record holds of the state the loop ends in, whatever the messages and however it
ends. -/
theorem processMessages (h : Launches subjects0 base m) (msgs : List PyStr) (stop : ChannelEnd) :
    Launches subjects0 base (endState (CrashSimulator.processMessages m msgs stop)) :=
  processMessages_induction (fun _ => True) (Launches subjects0 base)
    (fun _ _ _ _ _ hm hit => hm.iterate_ok hit) (fun _ _ _ _ _ hm hit => hm.iterate_error hit)
    m msgs stop (fun _ _ => trivial) h

/-- When two subjects share a key, the handled keys, distinct keys of the subjects, stay
fewer than the subjects: the loop's guard always holds. -/
theorem guard_of_not_nodup (h : Launches subjects0 base m)
    (hdup : ¬(subjects0.map Subject.key).Nodup) : m.handled.length < m.subjects.length := by
  have hsub : List.Subperm m.handled (subjects0.map Subject.key).dedup :=
    h.handled_nodup.subperm fun key hk => List.mem_dedup.2 (h.handled_keys key hk)
  have hlt : (subjects0.map Subject.key).dedup.length < (subjects0.map Subject.key).length :=
    lt_of_le_of_ne (List.dedup_sublist _).length_le fun heq =>
      hdup (List.dedup_eq_self.1 ((List.dedup_sublist _).eq_of_length heq))
  have hlen : m.subjects.length = (subjects0.map Subject.key).length := by
    rw [← h.keys_eq, List.length_map]
  exact hlen ▸ lt_of_le_of_lt hsub.length_le hlt

/-- The injectors launched are each for a key of the subjects, no two for the same key, so
they are no more than the distinct keys. -/
theorem injectors_per_key (h : Launches subjects0 base m) :
    ∃ injectors keys, m.world.spawned = base ++ injectors ∧ keys.Nodup ∧
      List.Forall₂ (InjectorFor subjects0) injectors keys ∧
      injectors.length ≤ (subjects0.map Subject.key).dedup.length := by
  obtain ⟨injectors, keys, hsp, hinj, hnodup, hkeys⟩ := h.spawned
  have hsub : List.Subperm keys (subjects0.map Subject.key).dedup :=
    hnodup.subperm fun key hk => List.mem_dedup.2 (h.handled_keys key (hkeys key hk))
  exact ⟨injectors, keys, hsp, hnodup, hinj, hinj.length_eq ▸ hsub.length_le⟩

end Launches

namespace Analysis

/-- However `call_replay` ends, it has launched no process, or it read a configuration and
launched rr and, after it, only injectors, each for a key `(event, mutator)` of the subjects
`get_configuration` returned, on a per-process file of that subject's state file, no two for
the same key: at most one per distinct key. -/
theorem call_replay_launches_per_key (defaultConfigPath testName : PyStr) (msgs : List PyStr)
    (stop : ChannelEnd) (status : Handle → Int) (w0 : World) :
    (endState (callReplay defaultConfigPath testName msgs stop status w0)).spawned =
        w0.spawned ∨
      ∃ rrDir subjects w1 injectors keys,
        getConfiguration (defaultConfigPath ++ testName ++ "/config.ini".toList) (cleanup w0) =
          .ok (rrDir, subjects) w1 ∧
        (endState (callReplay defaultConfigPath testName msgs stop status w0)).spawned =
          w0.spawned ++ rrArgv rrDir subjects :: injectors ∧
        keys.Nodup ∧
        List.Forall₂ (fun argv key => ∃ s ∈ subjects, s.key = key ∧
          ∃ pid, argv = injectorArgv (Matcher.pidUniqueStatefile pid s.injectedStateFile))
          injectors keys ∧
        injectors.length ≤ (subjects.map Subject.key).dedup.length := by
  unfold callReplay
  dsimp only
  split
  · exact .inl (cleanup_spawned w0)
  split
  · rename_i hcfg
    exact .inl ((getConfiguration_eq_error hcfg).symm ▸ cleanup_spawned w0)
  rename_i rrDir subjects w1 hcfg
  have hw1 : w1.spawned = w0.spawned := (getConfiguration_frame hcfg).1.trans (cleanup_spawned w0)
  have hcreate := (createEventConfigurationFiles_frame subjects w1).1
  split
  · rename_i hc
    rw [hc] at hcreate
    exact .inl (hcreate.trans hw1)
  rename_i w2 hc
  rw [hc] at hcreate
  have hw2 : w2.spawned = w0.spawned := hcreate.trans hw1
  obtain ⟨injectors, keys, hsp, hnodup, hinj, hle⟩ := ((Launches.start subjects
    (executeRr rrDir subjects w2)).processMessages msgs stop).injectors_per_key
  have hrun : (endState (processMessages ⟨subjects, [], none, executeRr rrDir subjects w2⟩ msgs
      stop)).world.spawned = w0.spawned ++ rrArgv rrDir subjects :: injectors := by
    simpa [Matcher.start, hw2] using hsp
  refine .inr ⟨rrDir, subjects, w1, injectors, keys, hcfg, ?_, hnodup, hinj, hle⟩
  split
  · rename_i hpm
    simpa [hpm, endState] using hrun
  · rename_i m hpm
    rw [hpm] at hrun
    have hwait := waitOnHandles_spawned status m.subjects m.world
    split <;> rename_i hw <;> rw [hw] at hwait
    · exact hwait.trans hrun
    · exact (cleanup_spawned _).trans (hwait.trans hrun)

/-! ## A run that completes -/

/-- When two sections of `config.ini` share an event and a mutator, `call_replay` never
returns normally: whatever rr writes into the pipe and however the channel ends, the loop of
`process_messages` never sees its guard fail, so the run raises before `wait_on_handles` and
waits on none of the injectors it launched. -/
theorem call_replay_shared_key_never_returns {defaultConfigPath testName rrDir : PyStr}
    {w0 w1 : World} {subjects : List Subject}
    (hcfg : getConfiguration (defaultConfigPath ++ testName ++ "/config.ini".toList)
      (cleanup w0) = .ok (rrDir, subjects) w1)
    (hdup : ¬(subjects.map Subject.key).Nodup) (msgs : List PyStr) (stop : ChannelEnd)
    (status : Handle → Int) :
    ∃ e w, callReplay defaultConfigPath testName msgs stop status w0 = .error e w ∧
      w.waited = w0.waited := by
  have hw1 : w1.waited = w0.waited := by rw [(getConfiguration_frame hcfg).2.1, cleanup_waited]
  have hcreate := (createEventConfigurationFiles_frame subjects w1).2
  unfold callReplay
  dsimp only
  split
  · exact ⟨_, _, rfl, cleanup_waited w0⟩
  simp only [hcfg]
  cases hc : createEventConfigurationFiles subjects w1 with
  | error e w2 =>
    rw [hc] at hcreate
    exact ⟨e, w2, rfl, hcreate.trans hw1⟩
  | ok _ w2 =>
  rw [hc] at hcreate
  have hwait : (endState (processMessages ⟨subjects, [], none, executeRr rrDir subjects w2⟩ msgs
      stop)).world.waited = w0.waited := by
    rw [processMessages_waited, executeRr_waited]
    exact hcreate.trans hw1
  simp only
  cases hpm : processMessages ⟨subjects, [], none, executeRr rrDir subjects w2⟩ msgs stop with
  | ok rest m =>
    have hl := (Launches.start subjects (executeRr rrDir subjects w2)).processMessages msgs stop
    rw [Matcher.start, hpm] at hl
    exact absurd (hl.guard_of_not_nodup hdup) (processMessages_eq_ok_guard hpm)
  | error e m =>
    rw [hpm] at hwait
    exact ⟨e, m.world, rfl, hwait⟩

/-- Two sections of event 5 with the same mutator: rr announces both process sets and closes
the pipe, and the run raises, having waited on no injector. -/
theorem call_replay_shared_key_two_sections :
    let cfg : IniFile := ⟨[.ofStrings "rr" [("rr_dir", "/traces")],
      .ofStrings "t1" [("event", "5"), ("pid", "100"), ("trace_file", "t.bin"),
        ("trace_start", "0"), ("trace_end", "10"), ("mutator", "drop_write")],
      .ofStrings "t2" [("event", "5"), ("pid", "200"), ("trace_file", "t.bin"),
        ("trace_start", "10"), ("trace_end", "20"), ("mutator", "drop_write")]], by decide⟩
    let w0 : World :=
      ⟨fun f => if f = "tests/t/config.ini".toList then some (.ini cfg)
        else if f = "tests/t".toList then some .data else none, [], [], [], [], fun _ => true⟩
    let msgs : List PyStr := ["INJECT: EVENT: 5 PID: 4242 REC_PID: 100\n".toList,
      "INJECT: EVENT: 5 PID: 4243 REC_PID: 200\n".toList]
    ∃ rrDir subjects w1,
      getConfiguration ("tests/".toList ++ "t".toList ++ "/config.ini".toList) (cleanup w0) =
        .ok (rrDir, subjects) w1 ∧ ¬(subjects.map Subject.key).Nodup ∧
      ∃ e w, callReplay "tests/".toList "t".toList msgs .closed (fun _ => 0) w0 = .error e w ∧
        w.waited = w0.waited := by
  intro cfg w0 msgs
  have hcfg : getConfiguration ("tests/".toList ++ "t".toList ++ "/config.ini".toList)
      (cleanup w0) = .ok (_, _) _ := rfl
  exact ⟨_, _, _, hcfg, by decide, call_replay_shared_key_never_returns hcfg (by decide) msgs
    .closed (fun _ => 0)⟩

/-- A run of `call_replay` that returns normally has read no `DONT_INJECT` line before its
loop returned: one before a dispatch raises `UnboundLocalError`, and one after gives a subject
a sibling, on which `wait_on_handles` raises `TypeError`. So `call_replay` completes only when
every process set rr announces before the loop ends is a single process: the lines the loop
reads, before the rest it leaves unread, hold no `DONT_INJECT`. -/
theorem call_replay_returns_without_siblings {defaultConfigPath testName : PyStr}
    {msgs : List PyStr} {stop : ChannelEnd} {status : Handle → Int} {w0 w : World}
    (h : callReplay defaultConfigPath testName msgs stop status w0 = .ok () w) :
    ∃ rrDir subjects w1 w2 rest m,
      getConfiguration (defaultConfigPath ++ testName ++ "/config.ini".toList) (cleanup w0) =
        .ok (rrDir, subjects) w1 ∧
      createEventConfigurationFiles subjects w1 = .ok () w2 ∧
      processMessages ⟨subjects, [], none, executeRr rrDir subjects w2⟩ msgs stop = .ok rest m ∧
      ∃ read, msgs = read ++ rest ∧
        ∀ msg ∈ read, ∀ f, parseMessage msg = .ok f → f.inject ≠ "DONT_INJECT".toList := by
  obtain ⟨rrDir, subjects, w1, w2, rest, m, w3, h1, h2, h3, h4, -⟩ := callReplay_eq_ok h
  have hstart : (Matcher.start subjects (executeRr rrDir subjects w2)).SiblingsKept subjects :=
    ⟨fun _ hk => (by cases hk), List.forall₂_same.2 fun _ _ => List.prefix_refl _⟩
  obtain ⟨read, hmsgs, -, hperm⟩ := hstart.processMessages_lines h3
  have hend : m.subjects.flatMap Subject.otherProcs = [] :=
    List.flatMap_eq_nil_iff.2 (waitOnHandles_eq_ok status m.subjects m.world w3 h4).1
  have hbegin : (Matcher.start subjects (executeRr rrDir subjects w2)).subjects.flatMap
      Subject.otherProcs = [] :=
    List.flatMap_eq_nil_iff.2 fun s hs => (getConfiguration_subject h1 s hs).2.1
  rw [hend, hbegin, List.nil_append] at hperm
  refine ⟨rrDir, subjects, w1, w2, rest, m, h1, h2, h3, read, hmsgs, fun msg hm f hf hd => ?_⟩
  have hsib : lineSiblingPid msg = some f.pid := by
    simp only [lineSiblingPid, hf]
    exact if_pos hd
  exact List.ne_nil_of_mem (List.mem_filterMap.2 ⟨msg, hm, hsib⟩) hperm.symm.eq_nil

/-- One section of event 5, and rr announcing its process set as two processes: the loop
stops after the `INJECT` line, every subject having a handle, and the run returns normally
having read that line only, the `DONT_INJECT` line left unread. -/
theorem call_replay_returns_one_section :
    let cfg : IniFile := ⟨[.ofStrings "rr" [("rr_dir", "/traces")],
      .ofStrings "t1" [("event", "5"), ("pid", "100"), ("trace_file", "t.bin"),
        ("trace_start", "0"), ("trace_end", "10"), ("mutator", "drop_write")]], by decide⟩
    let w0 : World :=
      ⟨fun f => if f = "tests/t/config.ini".toList then some (.ini cfg)
        else if f = "tests/t".toList then some .data else none, [], [], [], [], fun _ => true⟩
    let msgs : List PyStr := ["INJECT: EVENT: 5 PID: 4242 REC_PID: 100\n".toList,
      "DONT_INJECT: EVENT: 5 PID: 4243 REC_PID: 100\n".toList]
    (∃ w, callReplay "tests/".toList "t".toList msgs .closed (fun _ => 0) w0 = .ok () w) ∧
      ∃ rrDir subjects w1 w2 rest m,
        getConfiguration ("tests/".toList ++ "t".toList ++ "/config.ini".toList) (cleanup w0) =
          .ok (rrDir, subjects) w1 ∧
        createEventConfigurationFiles subjects w1 = .ok () w2 ∧
        processMessages ⟨subjects, [], none, executeRr rrDir subjects w2⟩ msgs .closed =
          .ok rest m ∧
        ∃ read, msgs = read ++ rest ∧
          ∀ msg ∈ read, ∀ f, parseMessage msg = .ok f → f.inject ≠ "DONT_INJECT".toList := by
  intro cfg w0 msgs
  obtain ⟨w, hrun⟩ : ∃ w, callReplay "tests/".toList "t".toList msgs .closed (fun _ => 0) w0 =
      .ok () w := ⟨_, rfl⟩
  exact ⟨⟨w, hrun⟩, call_replay_returns_without_siblings hrun⟩

end Analysis

end CrashSimulator
