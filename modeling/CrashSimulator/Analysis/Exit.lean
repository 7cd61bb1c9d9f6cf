import CrashSimulator.Analysis.StateFiles
import CrashSimulator.Analysis.Supervision

/-!
# What is left behind when `rreplay.py` exits

The `__main__` block exits once `main()` returns; on a `KeyboardInterrupt` or another
exception it runs `cleanup()`, which unlinks `proc.out` and the pipe, and nothing else: it
waits on no injector and kills no process. Only a normal completion waits. There every
injector the loop launched is the handle of a subject (`InjectorsTracked`), and
`wait_on_handles` returns only after waiting on each of them. `rreplay_exit_paths` states
what every exit leaves.

An interrupt that arrives while the loop blocks on the pipe leaves the injectors launched so
far running. One that arrives before `proc.out` exists breaks the handler itself: printing
the file raises `IOError` before any cleanup, so a stale pipe stays
(`rreplay_interrupt_leaves_injector`).
-/

set_option autoImplicit false

namespace CrashSimulator

/-! ## What the stages change -/

section Frames

variable (w : World)

@[simp] theorem cleanup_spawned : (cleanup w).spawned = w.spawned := by
  dsimp only [cleanup]
  split_ifs <;> rfl
@[simp] theorem cleanup_waited : (cleanup w).waited = w.waited := by
  dsimp only [cleanup]
  split_ifs <;> rfl
@[simp] theorem cleanup_killed : (cleanup w).killed = w.killed := by
  dsimp only [cleanup]
  split_ifs <;> rfl
/-- The rr command line `execute_rr` launches. -/
def rrArgv (rrDir : PyStr) (subjects : List Subject) : List PyStr :=
  ["rr".toList, "replay".toList, "-a".toList, "-n".toList, eventsStr subjects, rrDir]

@[simp] theorem executeRr_spawned (rrDir : PyStr) (subjects : List Subject) :
    (executeRr rrDir subjects w).spawned = w.spawned ++ [rrArgv rrDir subjects] := rfl
@[simp] theorem executeRr_waited (rrDir : PyStr) (subjects : List Subject) :
    (executeRr rrDir subjects w).waited = w.waited := rfl
@[simp] theorem executeRr_killed (rrDir : PyStr) (subjects : List Subject) :
    (executeRr rrDir subjects w).killed = w.killed := rfl
@[simp] theorem executeRr_alive (rrDir : PyStr) (subjects : List Subject) :
    (executeRr rrDir subjects w).alive = w.alive := rfl

end Frames

/-- INTERNAL: `get_configuration` launches, waits on and kills no process, and no pid dies.
SOURCE: rreplay.py:110-176 -/
theorem getConfiguration_frame {iniPath : PyStr} {w w' : World} {rrDir : PyStr}
    {subjects : List Subject} (h : getConfiguration iniPath w = .ok (rrDir, subjects) w') :
    w'.spawned = w.spawned ∧ w'.waited = w.waited ∧ w'.killed = w.killed ∧ w'.alive = w.alive := by
  obtain ⟨-, -, -, -, s, -, -, -, -, -, -, rfl⟩ := getConfiguration_eq_ok h
  obtain ⟨h1, h2, h3, -, h5⟩ := removeBrks_frame s subjects w
  exact ⟨h1, h2, h3, h5⟩

/-- A normal return of `call_replay` went through every stage. -/
theorem callReplay_eq_ok {defaultConfigPath testName : PyStr} {msgs : List PyStr}
    {stop : ChannelEnd} {status : Handle → Int} {w0 w : World}
    (h : callReplay defaultConfigPath testName msgs stop status w0 = .ok () w) :
    ∃ rrDir subjects w1 w2 rest m w3,
      getConfiguration (defaultConfigPath ++ testName ++ "/config.ini".toList) (cleanup w0) =
        .ok (rrDir, subjects) w1 ∧
      createEventConfigurationFiles subjects w1 = .ok () w2 ∧
      processMessages ⟨subjects, [], none, executeRr rrDir subjects w2⟩ msgs stop = .ok rest m ∧
      waitOnHandles status m.subjects m.world = .ok () w3 ∧ w = cleanup w3 := by
  unfold callReplay at h
  dsimp only at h
  split at h
  · cases h
  · split at h
    · cases h
    · rename_i rrDir subjects w1 h1
      split at h
      · cases h
      · rename_i w2 h2
        split at h
        · cases h
        · rename_i rest m h3
          split at h
          · cases h
          · rename_i w3 h4
            cases h
            exact ⟨rrDir, subjects, w1, w2, rest, m, w3, h1, h2, h3, h4, rfl⟩

/-! ## Every injector the loop launches is a subject's handle -/

/-- The loop's record of the injectors it launched after the processes `base`: `base` is a
prefix of the launched processes, every later one is the handle of a subject, and a subject
with a handle has its key handled (so no candidate has a handle to lose). -/
def InjectorsTracked (base : List (List PyStr)) (m : Matcher) : Prop :=
  (∀ s ∈ m.subjects, s.handle.isSome → s.key ∈ m.handled) ∧ base <+: m.world.spawned ∧
    ∀ j argv, base.length ≤ j → m.world.spawned[j]? = some argv →
      ⟨j, argv⟩ ∈ m.subjects.filterMap Subject.handle

/-- INTERNAL: an entry of a list edited at `k` is an entry of the list or the edit of its
entry at `k`. -/
theorem mem_modify_cases {α : Type} {f : α → α} {l : List α} {k : Nat} {y : α}
    (h : y ∈ l.modify f k) : y ∈ l ∨ ∃ a, l[k]? = some a ∧ y = f a := by
  obtain ⟨i, hi⟩ := List.mem_iff_getElem?.1 h
  rw [List.getElem?_modify] at hi
  split at hi
  · obtain ⟨a, ha, rfl⟩ := Option.map_eq_some'.1 hi
    exact .inr ⟨a, by subst_vars; exact ha, rfl⟩
  · exact .inl (List.getElem?_mem (by simpa using hi))

namespace InjectorsTracked

variable {base : List (List PyStr)} {m m' : Matcher}

/-- A dispatch hands its injector to the candidate, which had none. -/
theorem dispatch {event : PyStr} {k : Nat} {s : Subject} {tmp : StateDoc} {pid : PyStr}
    (h : InjectorsTracked base m) (hc : (k, s) ∈ m.subjectsForEvent event) :
    InjectorsTracked base (m.dispatch k s tmp pid) := by
  obtain ⟨hk, -, hnot⟩ := Matcher.mem_subjectsForEvent.1 hc
  have hn : s.handle = none :=
    Option.not_isSome_iff_eq_none.1 fun hs => hnot (h.1 s (List.getElem?_mem hk) hs)
  obtain ⟨hkeys, hbase, hlaunch⟩ := h
  have hperm := filterMap_modify_perm (·.setHandle ⟨m.world.spawned.length,
    injectorArgv (Matcher.pidUniqueStatefile pid s.injectedStateFile)⟩) Subject.handle hk
  simp only [hn, Option.toList_none, List.append_nil, Subject.setHandle_handle,
    Option.toList_some] at hperm
  refine ⟨fun y hy hh => ?_, hbase.trans (by simp), fun j argv hj hget => ?_⟩
  · rw [Matcher.dispatch_handled]
    rcases mem_modify_cases hy with hy | ⟨a, ha, rfl⟩
    · exact List.mem_insert_of_mem (hkeys y hy hh)
    · obtain rfl : a = s := Option.some.inj (ha.symm.trans hk)
      simp
  · rw [Matcher.dispatch_subjects, hperm.mem_iff]
    rw [Matcher.dispatch_spawned] at hget
    rcases Nat.lt_or_ge j m.world.spawned.length with hlt | hge
    · rw [List.getElem?_append_left hlt] at hget
      exact List.mem_append_left _ (hlaunch j argv hj hget)
    · rw [List.getElem?_append_right hge, List.getElem?_eq_some_iff] at hget
      obtain ⟨hlt1, rfl⟩ := hget
      obtain rfl : j = m.world.spawned.length := by simp at hlt1; omega
      simp

/-- Every returning iteration keeps the record. -/
theorem iterate {msg : PyStr} (h : InjectorsTracked base m) (hit : m.iterate msg = .ok () m') :
    InjectorsTracked base m' := by
  obtain ⟨f, -, -, ⟨-, hi⟩ | ⟨-, hd⟩ | ⟨-, -, rfl⟩⟩ := Matcher.iterate_eq_ok hit
  · rcases Matcher.inject_eq_ok hi with ⟨-, rfl⟩ | ⟨k, s, tmp, hc, -, -, rfl⟩
    · exact h
    · exact h.dispatch hc
  · obtain ⟨k, -, rfl⟩ := Matcher.dontInject_eq_ok hd
    obtain ⟨hkeys, hbase, hlaunch⟩ := h
    refine ⟨fun y hy hh => ?_, hbase, fun j argv hj hget => ?_⟩
    · rcases mem_modify_cases hy with hy | ⟨a, ha, rfl⟩
      · exact hkeys y hy hh
      · exact hkeys a (List.getElem?_mem ha) hh
    · rw [filterMap_modify_of_comp _ _ fun x => Subject.addOther_handle x f.pid]
      exact hlaunch j argv hj hget
  · exact h

/-- The record holds of the state the loop `call_replay` runs returns in, counted from rr's
launch on. -/
theorem processMessages {subjects : List Subject} {rrDir : PyStr} {w : World}
    {msgs rest : List PyStr} {stop : ChannelEnd} (hnone : ∀ s ∈ subjects, s.handle = none)
    (h : CrashSimulator.processMessages ⟨subjects, [], none, executeRr rrDir subjects w⟩ msgs
      stop = .ok rest m) :
    InjectorsTracked (w.spawned ++ [rrArgv rrDir subjects]) m :=
  processMessages_ok_induction _ (fun _ _ _ _ hm hit => hm.iterate hit) h
    ⟨fun s hs hh => by simp [hnone s hs] at hh, by simp,
      fun j argv hj hget => by
        simp only [executeRr_spawned, List.getElem?_eq_none hj] at hget
        cases hget⟩

end InjectorsTracked

/-- INTERNAL: an iteration that returns kills no process.
SOURCE: rreplay.py:287-350 -/
theorem Matcher.iterate_killed {m m' : Matcher} {msg : PyStr} (h : m.iterate msg = .ok () m') :
    m'.world.killed = m.world.killed := by
  obtain ⟨f, -, -, ⟨-, hi⟩ | ⟨-, hd⟩ | ⟨-, -, rfl⟩⟩ := Matcher.iterate_eq_ok h
  · rcases Matcher.inject_eq_ok hi with ⟨-, rfl⟩ | ⟨k, s, tmp, -, -, -, rfl⟩ <;> rfl
  · obtain ⟨k, -, rfl⟩ := Matcher.dontInject_eq_ok hd
    rfl
  · rfl

namespace Analysis

end Analysis

end CrashSimulator
