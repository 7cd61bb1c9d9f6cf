import CrashSimulator.Analysis.Matching

/-!
# Which process each subject is matched with

An `INJECT` is matched to the subject `subjects_for_event.pop()` returns: the last subject of
the announced event, in the order `get_configuration` sorted them, whose key is not yet in
`subjects_handled`. Over a stream of `INJECT` lines the subjects of one event are so taken
from the last to the first, each by the next `INJECT` of that event, and the lines of the
other events do not matter to them. `lifoPids` states this assignment without the loop: the
subject at a position is given the pid of the `INJECT` of its event whose rank, among the
`INJECT`s of that event (`injectPids`), is the number of later subjects of that event.

`Assigned` relates the loop's subjects to that assignment. One iteration keeps it
(`Assigned.dispatch` for a candidate taken, `Assigned.concat` when nothing is taken) and so
does the whole loop, however it ends (`Matcher.Assignment.processMessages`); the loop reads
the stream up to the first line whose pid is not alive, where it hangs in its poll, so the
assignment is that of the lines before it (`liveLines`). Because `lifoPids` reads the stream
only through `injectPids`, its projection on each event, the injectors the loop launches do
not depend on how rr interleaves the process sets of different events.
-/

set_option autoImplicit false

namespace CrashSimulator

/-! ## The assignment, stated without the loop -/

/-- The lines of `ns` before the first whose pid is not alive: those the loop can read. -/
def liveLines (alive : PyStr → Bool) (ns : List Notification) : List Notification :=
  ns.takeWhile fun n => alive n.pid.digits

/-- The pids of the `INJECT` lines of `event` among `ns`, in the order rr sends them. -/
def injectPids (ns : List Notification) (event : PyStr) : List PyStr :=
  (ns.filter fun n => n.decision = .inject ∧ n.event.digits = event).map (·.pid.digits)

/-- The assignment of `process_messages`, stated without the loop: the subject at each
position is given the pid of the `INJECT` of its event whose rank among the `INJECT`s of that
event is the number of later subjects of that event, so that the last subject of an event
takes the first pid; `none` when rr sent fewer. -/
def lifoPids (pids : PyStr → List PyStr) : List Subject → List (Option PyStr)
  | [] => []
  | s :: rest => (pids s.event)[rest.countP (·.event = s.event)]? :: lifoPids pids rest

/-- The command line of the injector a subject is given when it is matched with `pid`. -/
def Subject.injectorFor (s : Subject) (pid : PyStr) : List PyStr :=
  injectorArgv (Matcher.pidUniqueStatefile pid s.injectedStateFile)

/-- The injector each subject is given under the assignment `lifoPids`, position by
position. -/
def lifoInjectors (pids : PyStr → List PyStr) (subjects : List Subject) :
    List (Option (List PyStr)) :=
  List.zipWith (fun s p => p.map s.injectorFor) subjects (lifoPids pids subjects)

/-- The pids of two streams read one after the other. -/
theorem injectPids_append (ns ns' : List Notification) (event : PyStr) :
    injectPids (ns ++ ns') event = injectPids ns event ++ injectPids ns' event := by
  simp [injectPids]

/-- INTERNAL: one more `INJECT` adds its pid to the pids of its own event only.
SOURCE: rreplay.py:291-326 -/
theorem injectPids_concat (ns : List Notification) {n : Notification}
    (hd : n.decision = .inject) (event : PyStr) :
    injectPids (ns ++ [n]) event =
      injectPids ns event ++ if n.event.digits = event then [n.pid.digits] else [] := by
  rw [injectPids_append]
  by_cases he : n.event.digits = event <;> simp [injectPids, hd, he]

/-- Swapping two adjacent lines of different events leaves every event's pids as they were:
an interleaving of process sets is invisible to `injectPids`. -/
theorem injectPids_swap (l₁ l₂ : List Notification) {n n' : Notification}
    (h : n.event.digits ≠ n'.event.digits) (event : PyStr) :
    injectPids (l₁ ++ n :: n' :: l₂) event = injectPids (l₁ ++ n' :: n :: l₂) event := by
  simp only [injectPids_append]
  congr 1
  by_cases h1 : n.event.digits = event <;> by_cases h2 : n'.event.digits = event
  · exact absurd (h1.trans h2.symm) h
  all_goals simp [injectPids, List.filter_cons, h1, h2]

/-! ## The invariant -/

/-- The loop's subjects `l` against the subjects `subjects` it started with, once it has
read the `INJECT`s whose pids, per event, are `pids`: each subject kept its event and its
state file name, and it has a handle exactly when `lifoPids` gives it a pid, for the
injector launched on that pid. -/
def Assigned (pids : PyStr → List PyStr) : List Subject → List Subject → Prop
  | [], [] => True
  | s :: rest, t :: l =>
    (t.event = s.event ∧ t.injectedStateFile = s.injectedStateFile ∧
      t.handle.map Handle.argv = ((pids s.event)[rest.countP (·.event = s.event)]?).map
        s.injectorFor) ∧ Assigned pids rest l
  | _, _ => False

namespace Assigned

variable {pids : PyStr → List PyStr}

/-- Before the first line every subject is without a pid and without a handle. -/
theorem start : ∀ {subjects : List Subject}, (∀ s ∈ subjects, s.handle = none) →
    Assigned (injectPids []) subjects subjects
  | [], _ => trivial
  | s :: rest, hnone =>
    ⟨⟨rfl, rfl, by simp [hnone s (List.mem_cons_self _ _), injectPids]⟩,
      start fun t ht => hnone t (List.mem_cons_of_mem _ ht)⟩

/-- INTERNAL: a subject has a handle exactly when its rank is below the number of pids.
SOURCE: rreplay.py:320-344 -/
theorem isSome_iff_lt {t s : Subject} {ps : List PyStr} {i : Nat}
    (hh : t.handle.map Handle.argv = ps[i]?.map s.injectorFor) :
    t.handle.isSome ↔ i < ps.length := by
  rw [← Option.isSome_map' (f := Handle.argv), hh, Option.isSome_map', Option.isSome_iff_ne_none,
    Ne, List.getElem?_eq_none_iff, not_le]

/-- When every subject of `event` has a handle, no subject of `event` waits for a pid: there
are no more of them than pids of `event`. -/
theorem count_le {event : PyStr} : ∀ {subjects l : List Subject}, Assigned pids subjects l →
    (∀ t ∈ l, t.event = event → t.handle.isSome) →
    subjects.countP (·.event = event) ≤ (pids event).length
  | [], [], _, _ => by simp
  | s :: rest, t :: l, ⟨⟨hev, _, hh⟩, h⟩, hall => by
    rw [List.countP_cons]
    by_cases hs : s.event = event
    · subst hs
      have := (isSome_iff_lt hh).1 (hall t (List.mem_cons_self _ _) hev)
      simp only [decide_True, if_true]
      omega
    · simpa [hs] using count_le h fun u hu => hall u (List.mem_cons_of_mem _ hu)
  | [], _ :: _, h, _ => h.elim
  | _ :: _, [], h, _ => h.elim

/-- A subject of `event` without a handle waits for a pid of `event` not yet sent: there are
more subjects of `event` than pids. -/
theorem lt_count {event : PyStr} {t0 : Subject} (he : t0.event = event)
    (hn : t0.handle = none) : ∀ {subjects l : List Subject} {k : Nat},
    Assigned pids subjects l → l[k]? = some t0 →
    (pids event).length < subjects.countP (·.event = event)
  | s :: rest, t :: l, 0, ⟨⟨hev, _, hh⟩, _⟩, hk => by
    obtain rfl : t = t0 := by simpa using hk
    obtain rfl : s.event = event := hev ▸ he
    have := (isSome_iff_lt hh).not.1 (by simp [hn])
    simp only [List.countP_cons, decide_True, if_true]
    omega
  | s :: rest, t :: l, k + 1, ⟨_, h⟩, hk => by
    have := lt_count he hn h (by simpa using hk)
    rw [List.countP_cons]
    omega
  | [], [], _, _, hk => by simp at hk
  | [], _ :: _, _, h, _ => h.elim
  | _ :: _, [], _, h, _ => h.elim

/-- Pids past those the subjects wait for do not matter. -/
theorem congr {q : PyStr → List PyStr} : ∀ {subjects l : List Subject},
    (∀ event i, i < subjects.countP (·.event = event) → (q event)[i]? = (pids event)[i]?) →
    Assigned pids subjects l → Assigned q subjects l
  | [], [], _, h => h
  | s :: rest, t :: l, hq, ⟨⟨h1, h2, h3⟩, h⟩ =>
    ⟨⟨h1, h2, by rw [h3, hq s.event _ (by simp [List.countP_cons])]⟩,
      congr (fun e i hi => hq e i (by rw [List.countP_cons]; omega)) h⟩
  | [], _ :: _, _, h => h.elim
  | _ :: _, [], _, h => h.elim

/-- One more pid of `event` does not matter while no subject of `event` waits for it. -/
theorem concat {event pid : PyStr} {q : PyStr → List PyStr} {subjects l : List Subject}
    (hq : ∀ e, q e = pids e ++ if event = e then [pid] else [])
    (hc : subjects.countP (·.event = event) ≤ (pids event).length)
    (h : Assigned pids subjects l) : Assigned q subjects l :=
  h.congr fun e i hi => by
    rw [hq]
    split_ifs with hee
    · subst hee
      exact List.getElem?_append_left (by omega)
    · rw [List.append_nil]

/-- The dispatch of the last subject of `event` without a handle gives it the next pid of
`event`. -/
theorem dispatch {event pid : PyStr} {t0 : Subject} {hd : Handle} {q : PyStr → List PyStr}
    (he : t0.event = event) (hn : t0.handle = none) (hargv : hd.argv = t0.injectorFor pid)
    (hq : ∀ e, q e = pids e ++ if event = e then [pid] else []) :
    ∀ {subjects l : List Subject} {k : Nat}, Assigned pids subjects l → l[k]? = some t0 →
    (∀ j t, k < j → l[j]? = some t → t.event = event → t.handle.isSome) →
    Assigned q subjects (l.modify (·.setHandle hd) k)
  | s :: rest, t :: l, 0, ⟨⟨hev, hisf, hh⟩, h⟩, hk, hlater => by
    obtain rfl : t = t0 := by simpa using hk
    obtain rfl : s.event = event := hev ▸ he
    have hge := (isSome_iff_lt hh).not.1 (by simp [hn])
    have hle : rest.countP (·.event = s.event) ≤ (pids s.event).length :=
      count_le h fun u hu hue => by
        obtain ⟨j, hj⟩ := List.mem_iff_getElem?.1 hu
        exact hlater (j + 1) u (Nat.succ_pos j) (by simpa using hj) hue
    refine ⟨⟨hev, hisf, ?_⟩, concat hq hle h⟩
    rw [Subject.setHandle_handle, Option.map_some', hargv, hq, if_pos rfl,
      List.getElem?_append_right (by omega),
      show rest.countP (·.event = s.event) - (pids s.event).length = 0 by omega]
    simp [Subject.injectorFor, hisf]
  | s :: rest, t :: l, k + 1, ⟨⟨hev, hisf, hh⟩, h⟩, hk, hlater => by
    have hk' : l[k]? = some t0 := by simpa using hk
    refine ⟨⟨hev, hisf, ?_⟩, dispatch he hn hargv hq h hk' fun j u hj hu =>
      hlater (j + 1) u (by omega) (by simpa using hu)⟩
    rw [hh, hq]
    split_ifs with hee
    · subst hee
      have := lt_count he hn h hk'
      have h1 : (pids s.event ++ [pid])[rest.countP (·.event = s.event)]? = none :=
        List.getElem?_eq_none (by simp; omega)
      rw [h1, List.getElem?_eq_none (by omega)]
    · rw [List.append_nil]
  | [], [], _, _, hk, _ => by simp at hk
  | [], _ :: _, _, h, _, _ => h.elim
  | _ :: _, [], _, h, _, _ => h.elim

/-- The handles the invariant describes, as one list. -/
theorem map_argv : ∀ {subjects l : List Subject}, Assigned pids subjects l →
    l.map (·.handle.map Handle.argv) = lifoInjectors pids subjects
  | [], [], _ => rfl
  | s :: rest, t :: l, ⟨⟨_, _, hh⟩, h⟩ => by
    rw [List.map_cons, map_argv h, hh]
    rfl
  | [], _ :: _, h => h.elim
  | _ :: _, [], h => h.elim

end Assigned

/-! ## The loop keeps the invariant -/

/-- INTERNAL: the positions of an enumeration increase.
SOURCE: rreplay.py:298-303 -/
theorem pairwise_enumFrom {α : Type} : ∀ (n : Nat) (l : List α),
    (l.enumFrom n).Pairwise fun a b => a.1 < b.1
  | _, [] => List.Pairwise.nil
  | n, _ :: l => List.pairwise_cons.2 ⟨fun _ hx => List.le_fst_of_mem_enumFrom hx,
      pairwise_enumFrom (n + 1) l⟩

namespace Matcher

variable {m m' : Matcher}

/-- `pop` takes the last candidate: no subject after it is a candidate. -/
theorem not_mem_subjectsForEvent_of_pop {event : PyStr} {k : Nat} {s : Subject}
    {rest : List (Nat × Subject)} (h : pop (m.subjectsForEvent event) = .ok ((k, s), rest))
    {j : Nat} {t : Subject} (hj : k < j) : (j, t) ∉ m.subjectsForEvent event := by
  intro hmem
  have hlast : (m.subjectsForEvent event).getLast? = some (k, s) := by
    unfold pop at h
    split at h <;> cases h
    assumption
  have hpw : (m.subjectsForEvent event).Pairwise fun a b => a.1 < b.1 :=
    (pairwise_enumFrom 0 m.subjects).filter _
  obtain ⟨ys, hys⟩ := List.getLast?_eq_some_iff.1 hlast
  rw [hys, List.pairwise_append] at hpw
  rw [hys, List.mem_append, List.mem_singleton] at hmem
  rcases hmem with hy | heq
  · have := hpw.2.2 _ hy _ (List.mem_singleton_self _)
    simp only at this
    omega
  · simp only [Prod.mk.injEq] at heq
    omega

/-- Under the invariant an `INJECT` for a UTF-8 pid never raises: every candidate's state
file is a JSON document. -/
theorem Inv.inject_ok (hi : m.Inv) (event : PyStr) {pid : PyStr} (hu : utf8Valid pid = true) :
    ∃ m', m.inject event pid = .ok () m' := by
  unfold Matcher.inject
  split
  · exact ⟨_, rfl⟩
  · rename_i k s _ hpop
    obtain ⟨tmp, htmp⟩ :=
      hi.files s (List.getElem?_mem (hi.mem_subjectsForEvent.1 (mem_of_pop_eq_ok hpop)).1)
    simp only [htmp, hu, if_true]
    exact ⟨_, rfl⟩

/-- The state of the loop over a stream of `INJECT` lines, once it has read the lines `c`,
against the subjects it started with and the processes `base` launched before it: the matching
invariant holds, the subjects kept their keys and are assigned as `lifoPids` says, and the
processes launched since are, up to order, the injectors of the subjects that have one. -/
structure Assignment (subjects : List Subject) (base : List (List PyStr))
    (c : List Notification) (m : Matcher) : Prop where
  inv : m.Inv
  keys : m.subjects.map Subject.key = subjects.map Subject.key
  assigned : Assigned (injectPids c) subjects m.subjects
  spawned : m.world.spawned.Perm (base ++ m.subjects.filterMap fun s => s.handle.map Handle.argv)

namespace Assignment

variable {subjects : List Subject} {base : List (List PyStr)} {c : List Notification}

/-- The loop starts having read nothing and launched nothing. -/
theorem start {w : World} (hkeys : (subjects.map Subject.key).Nodup)
    (hnone : ∀ s ∈ subjects, s.handle = none)
    (hfiles : ∀ s ∈ subjects, ∃ tmp, w.files s.injectedStateFile = some (.json tmp)) :
    (Matcher.start subjects w).Assignment subjects w.spawned [] :=
  have hnil : subjects.filterMap (fun s => s.handle.map Handle.argv) = [] :=
    List.filterMap_eq_nil_iff.2 fun s hs => by rw [hnone s hs]; rfl
  ⟨inv_start hkeys hnone hfiles, rfl, Assigned.start hnone, by simp [Matcher.start, hnil]⟩

/-- Once every subject has a handle, the lines read after do not change the assignment. -/
theorem extend (h : m.Assignment subjects base c) (hall : ∀ s ∈ m.subjects, s.handle.isSome)
    (more : List Notification) : m.Assignment subjects base (c ++ more) :=
  ⟨h.inv, h.keys, h.assigned.congr fun e i hi => by
    rw [injectPids_append]
    exact List.getElem?_append_left
      (lt_of_lt_of_le hi (h.assigned.count_le fun t ht _ => hall t ht)), h.spawned⟩

/-- One iteration on an `INJECT` line keeps the record: a candidate taken is the last subject
of the event without a handle, and is given the next pid of that event. -/
theorem iterate {n : Notification} (h : m.Assignment subjects base c)
    (hd : n.decision = .inject) (hit : m.iterate n.render = .ok () m') :
    m'.Assignment subjects base (c ++ [n]) := by
  replace hit := (iterate_render_eq_ok hit).2
  simp only [hd] at hit
  have hq := injectPids_concat c hd
  unfold Matcher.inject at hit
  split at hit
  · rename_i hpop
    cases hit
    have hle := h.assigned.count_le fun t ht he =>
      (h.inv.key_mem_handled ht).1 (subjectsForEvent_eq_nil.1 (pop_eq_error hpop) t ht he)
    exact ⟨⟨h.inv.keys_nodup, h.inv.handled_perm, h.inv.files⟩, h.keys, h.assigned.concat hq hle,
      h.spawned⟩
  · rename_i k s _ hpop
    split at hit <;> (try split_ifs at hit) <;> cases hit
    have hc := mem_of_pop_eq_ok hpop
    obtain ⟨hk, he, hn⟩ := h.inv.mem_subjectsForEvent.1 hc
    refine ⟨h.inv.dispatch hc _ _, ?_, ?_, ?_⟩
    · rw [dispatch_subjects, map_modify_of_comp _ _ fun x => Subject.setHandle_key x _]
      exact h.keys
    · rw [dispatch_subjects]
      refine h.assigned.dispatch he hn rfl hq hk fun j t hj ht hte => ?_
      by_contra hns
      exact not_mem_subjectsForEvent_of_pop hpop hj
        (h.inv.mem_subjectsForEvent.2 ⟨ht, hte, by simpa using hns⟩)
    · have hp := filterMap_modify_perm (·.setHandle ⟨m.world.spawned.length,
        injectorArgv (pidUniqueStatefile n.pid.digits s.injectedStateFile)⟩)
        (fun s => s.handle.map Handle.argv) hk
      simp only [hn, Subject.setHandle_handle, Option.map_none', Option.map_some',
        Option.toList_none, Option.toList_some, List.append_nil] at hp
      rw [dispatch_spawned, dispatch_subjects]
      refine (h.spawned.append_right _).trans ?_
      rw [List.append_assoc]
      exact hp.symm.append_left base

/-- The record holds of the state the loop ends in over a stream of `INJECT` lines, whether it
returns, hangs on a pid that is not alive, or the channel ends first: it is the record of the
lines before the first pid that is not alive. -/
theorem processMessages : ∀ {m : Matcher} {c ns : List Notification} (stop : ChannelEnd),
    m.Assignment subjects base c → (∀ n ∈ ns, n.decision = .inject) →
    (endState (CrashSimulator.processMessages m (ns.map Notification.render) stop)).Assignment
      subjects base (c ++ liveLines m.world.alive ns)
  | m, c, [], stop, h, _ => by
    have hend : endState (CrashSimulator.processMessages m [] stop) = m := by
      unfold CrashSimulator.processMessages
      split_ifs <;> [cases stop <;> rfl; rfl]
    rw [List.map_nil, hend, liveLines, List.takeWhile_nil, List.append_nil]
    exact h
  | m, c, n :: ns, stop, h, hinj => by
    have hd := hinj n (List.mem_cons_self _ _)
    by_cases hg : m.handled.length < m.subjects.length
    · cases ha : m.world.alive n.pid.digits
      · have hlive : liveLines m.world.alive (n :: ns) = [] := by simp [liveLines, ha]
        rw [List.map_cons, hlive, List.append_nil]
        simpa [CrashSimulator.processMessages, hg, m.iterate_render_hang n ha, endState] using h
      · obtain ⟨m', hit⟩ := h.inv.inject_ok n.event.digits n.pid.utf8Valid_digits
        replace hit : m.iterate n.render = .ok () m' := by
          rw [iterate_render _ _ ha, hd]
          exact hit
        have hlive : liveLines m.world.alive (n :: ns) = n :: liveLines m'.world.alive ns := by
          simp [liveLines, ha, iterate_alive hit]
        rw [List.map_cons, processMessages_cons_ok hg hit, hlive]
        simpa using processMessages stop (h.iterate hd hit) fun x hx =>
          hinj x (List.mem_cons_of_mem _ hx)
    · rw [List.map_cons, processMessages_done hg]
      refine h.extend (fun s hs => ?_) _
      by_contra hn
      exact hg (h.inv.guard_iff.2 ⟨s, hs, by simpa using hn⟩)

end Assignment

end Matcher

/-- INTERNAL: subjects with the same keys and the same injectors have the same dispatched
keys.
SOURCE: rreplay.py:326-344 -/
theorem filterMap_dispatchedKey_eq : ∀ {l₁ l₂ : List Subject},
    l₁.map Subject.key = l₂.map Subject.key →
    l₁.map (·.handle.map Handle.argv) = l₂.map (·.handle.map Handle.argv) →
    l₁.filterMap Subject.dispatchedKey = l₂.filterMap Subject.dispatchedKey
  | [], [], _, _ => rfl
  | s₁ :: l₁, s₂ :: l₂, hk, ha => by
    simp only [List.map_cons, List.cons.injEq] at hk ha
    have hs : s₁.dispatchedKey = s₂.dispatchedKey := by
      cases h₁ : s₁.handle <;> cases h₂ : s₂.handle <;> simp_all [Subject.dispatchedKey]
    rw [List.filterMap_cons, List.filterMap_cons, hs, filterMap_dispatchedKey_eq hk.2 ha.2]
  | [], _ :: _, hk, _ => by simp at hk
  | _ :: _, [], hk, _ => by simp at hk

namespace Analysis

/-- Over subjects with distinct keys, none dispatched, whose event-level state files are JSON
documents, let rr send any stream of `INJECT` lines, and the channel end after it. The loop
reads the lines up to the first whose pid is not alive (`liveLines`), and gives the subjects
of each event the pids of that event's `INJECT`s among them, in the order rr sends them, from
the last subject of the event to the first, each an injector on
`<pid>_<injected_state_file>` (`lifoInjectors`); a subject left over has no handle, and an
`INJECT` left over launches nothing. The processes launched are, up to order, exactly those
injectors. -/
theorem process_messages_lifo_assignment (subjects : List Subject) (w : World)
    (hkeys : (subjects.map Subject.key).Nodup) (hnone : ∀ s ∈ subjects, s.handle = none)
    (hfiles : ∀ s ∈ subjects, ∃ tmp, w.files s.injectedStateFile = some (.json tmp))
    (ns : List Notification) (hinj : ∀ n ∈ ns, n.decision = .inject) (stop : ChannelEnd) :
    let m := endState (processMessages (Matcher.start subjects w) (ns.map Notification.render)
      stop)
    let pids := injectPids (liveLines w.alive ns)
    m.subjects.map (·.handle.map Handle.argv) = lifoInjectors pids subjects ∧
      m.world.spawned.Perm (w.spawned ++ (lifoInjectors pids subjects).filterMap id) := by
  intro m pids
  have h : m.Assignment subjects w.spawned (liveLines w.alive ns) :=
    (Matcher.Assignment.start hkeys hnone hfiles).processMessages stop hinj
  have hmap := h.assigned.map_argv
  refine ⟨hmap, ?_⟩
  rw [← hmap, List.filterMap_map]
  exact h.spawned

/-- Two subjects of event 5 and one of event 7, and rr announcing event 5, then 7, then 5:
the later subject of event 5 takes the first pid of event 5, and the earlier one the second. -/
theorem process_messages_lifo_event_five :
    let a : Subject :=
      { event := "5".toList, recPid := "100".toList, traceFile := "t.bin".toList,
        traceStart := "0".toList, traceEnd := "10".toList, mutator := "drop_write".toList,
        injectedStateFile := "5_drop_write_state.json".toList, otherProcs := [],
        mmapBackingFiles := none, checker := none, handle := none }
    let b : Subject :=
      { a with mutator := "fail_read".toList, injectedStateFile := "5_fail_read_state.json".toList }
    let c : Subject :=
      { a with event := "7".toList, injectedStateFile := "7_drop_write_state.json".toList }
    let w : World := ⟨fun _ => some (.json a.toDoc), [], [], [], [], fun _ => true⟩
    let ns : List Notification :=
      [⟨.inject, ⟨"5".toList, by decide, by decide⟩, ⟨"4242".toList, by decide, by decide⟩,
          ⟨"100".toList, by decide, by decide⟩⟩,
        ⟨.inject, ⟨"7".toList, by decide, by decide⟩, ⟨"4243".toList, by decide, by decide⟩,
          ⟨"100".toList, by decide, by decide⟩⟩,
        ⟨.inject, ⟨"5".toList, by decide, by decide⟩, ⟨"4244".toList, by decide, by decide⟩,
          ⟨"100".toList, by decide, by decide⟩⟩]
    (([a, b, c].map Subject.key).Nodup ∧ (∀ s ∈ [a, b, c], s.handle = none) ∧
      (∀ s ∈ [a, b, c], ∃ tmp, w.files s.injectedStateFile = some (.json tmp)) ∧
      ∀ n ∈ ns, n.decision = .inject) ∧
    (endState (processMessages (Matcher.start [a, b, c] w) (ns.map Notification.render)
      .closed)).subjects.map (·.handle.map Handle.argv) =
      [some (a.injectorFor "4244".toList), some (b.injectorFor "4242".toList),
        some (c.injectorFor "4243".toList)] := by
  intro a b c w ns
  have hkeys : ([a, b, c].map Subject.key).Nodup := by decide
  have hnone : ∀ s ∈ [a, b, c], s.handle = none := by decide
  have hfiles : ∀ s ∈ [a, b, c], ∃ tmp, w.files s.injectedStateFile = some (.json tmp) :=
    fun _ _ => ⟨_, rfl⟩
  have hinj : ∀ n ∈ ns, n.decision = .inject := by decide
  exact ⟨⟨hkeys, hnone, hfiles, hinj⟩,
    (process_messages_lifo_assignment [a, b, c] w hkeys hnone hfiles ns hinj .closed).1.trans rfl⟩

/-- How rr interleaves the process sets of different events does not matter. Over subjects
as above, two streams of `INJECT` lines whose lines before the first pid that is not alive
carry the same pids for each event, in the same order within the event, leave each subject
with the same injector, the same keys in `subjects_handled`, and the same processes launched,
up to order, however each channel ends. -/
theorem process_messages_interleaving_invariant (subjects : List Subject) (w : World)
    (hkeys : (subjects.map Subject.key).Nodup) (hnone : ∀ s ∈ subjects, s.handle = none)
    (hfiles : ∀ s ∈ subjects, ∃ tmp, w.files s.injectedStateFile = some (.json tmp))
    (ns₁ ns₂ : List Notification) (hinj₁ : ∀ n ∈ ns₁, n.decision = .inject)
    (hinj₂ : ∀ n ∈ ns₂, n.decision = .inject)
    (hproj : ∀ event, injectPids (liveLines w.alive ns₁) event =
      injectPids (liveLines w.alive ns₂) event) (stop₁ stop₂ : ChannelEnd) :
    let m₁ := endState (processMessages (Matcher.start subjects w)
      (ns₁.map Notification.render) stop₁)
    let m₂ := endState (processMessages (Matcher.start subjects w)
      (ns₂.map Notification.render) stop₂)
    m₁.subjects.map (·.handle.map Handle.argv) = m₂.subjects.map (·.handle.map Handle.argv) ∧
      m₁.handled.Perm m₂.handled ∧ m₁.world.spawned.Perm m₂.world.spawned := by
  intro m₁ m₂
  have h₁ : m₁.Assignment subjects w.spawned (liveLines w.alive ns₁) :=
    (Matcher.Assignment.start hkeys hnone hfiles).processMessages stop₁ hinj₁
  have h₂ : m₂.Assignment subjects w.spawned (liveLines w.alive ns₂) :=
    (Matcher.Assignment.start hkeys hnone hfiles).processMessages stop₂ hinj₂
  have hmap : m₁.subjects.map (·.handle.map Handle.argv) =
      m₂.subjects.map (·.handle.map Handle.argv) := by
    rw [h₁.assigned.map_argv, h₂.assigned.map_argv, funext hproj]
  have hlaunched : m₁.subjects.filterMap (fun s => s.handle.map Handle.argv) =
      m₂.subjects.filterMap (fun s => s.handle.map Handle.argv) := by
    simpa only [List.filterMap_map] using congrArg (List.filterMap id) hmap
  refine ⟨hmap, ?_, h₁.spawned.trans (hlaunched ▸ h₂.spawned.symm)⟩
  have hkeyed := filterMap_dispatchedKey_eq (h₁.keys.trans h₂.keys.symm) hmap
  exact h₁.inv.handled_perm.trans (hkeyed ▸ h₂.inv.handled_perm.symm)

/-- Two interleavings of the same process sets, event 5 before event 7 and after it, match
the three subjects alike. -/
theorem process_messages_interleaving_swap :
    let a : Subject :=
      { event := "5".toList, recPid := "100".toList, traceFile := "t.bin".toList,
        traceStart := "0".toList, traceEnd := "10".toList, mutator := "drop_write".toList,
        injectedStateFile := "5_drop_write_state.json".toList, otherProcs := [],
        mmapBackingFiles := none, checker := none, handle := none }
    let b : Subject :=
      { a with mutator := "fail_read".toList, injectedStateFile := "5_fail_read_state.json".toList }
    let c : Subject :=
      { a with event := "7".toList, injectedStateFile := "7_drop_write_state.json".toList }
    let w : World := ⟨fun _ => some (.json a.toDoc), [], [], [], [], fun _ => true⟩
    let n5 : Notification := ⟨.inject, ⟨"5".toList, by decide, by decide⟩,
      ⟨"4242".toList, by decide, by decide⟩, ⟨"100".toList, by decide, by decide⟩⟩
    let n7 : Notification := ⟨.inject, ⟨"7".toList, by decide, by decide⟩,
      ⟨"4243".toList, by decide, by decide⟩, ⟨"100".toList, by decide, by decide⟩⟩
    let n5' : Notification := ⟨.inject, ⟨"5".toList, by decide, by decide⟩,
      ⟨"4244".toList, by decide, by decide⟩, ⟨"100".toList, by decide, by decide⟩⟩
    (∀ event, injectPids [n5, n7, n5'] event = injectPids [n7, n5, n5'] event) ∧
      let m₁ := endState (processMessages (Matcher.start [a, b, c] w)
        ([n5, n7, n5'].map Notification.render) .closed)
      let m₂ := endState (processMessages (Matcher.start [a, b, c] w)
        ([n7, n5, n5'].map Notification.render) .interrupted)
      m₁.subjects.map (·.handle.map Handle.argv) = m₂.subjects.map (·.handle.map Handle.argv) ∧
        m₁.handled.Perm m₂.handled ∧ m₁.world.spawned.Perm m₂.world.spawned := by
  intro a b c w n5 n7 n5'
  have hproj : ∀ event, injectPids [n5, n7, n5'] event = injectPids [n7, n5, n5'] event :=
    injectPids_swap [] [n5'] (by decide)
  have hlive : ∀ ns : List Notification, liveLines w.alive ns = ns := fun ns =>
    List.takeWhile_eq_self_iff.2 fun _ _ => rfl
  exact ⟨hproj, process_messages_interleaving_invariant [a, b, c] w (by decide) (by decide)
    (fun _ _ => ⟨_, rfl⟩) [n5, n7, n5'] [n7, n5, n5'] (by decide) (by decide)
    (by simpa only [hlive] using hproj) .closed .interrupted⟩

end Analysis

end CrashSimulator
