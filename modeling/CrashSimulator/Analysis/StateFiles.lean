import CrashSimulator.Analysis.Matching
import CrashSimulator.Analysis.Configuration

/-!
# What the injectors are handed: the two kinds of state file

`get_configuration` names a subject's event-level state file `<event>_<mutator>_state.json`,
and `create_event_configuration_files` writes the subject's record there. When an `INJECT`
dispatches the subject, `process_messages` reads that record back, adds the live pid `p`, and
writes it to the per-process file `<p>_<event>_<mutator>_state.json`, the one the injector is
launched on.

`int()` accepts no `_`, so an event never holds one, and neither does a pid of the protocol.
The event-level names of distinct subjects then differ, and so do the per-process names of
distinct dispatches. A per-process name is another subject's event-level name exactly when
that subject's event is the pid and its mutator is `<event>_<mutator>` of the dispatched one
(`pidUniqueStatefile_eq_stateFileName`). When no mutator has that form, every injector is
handed its subject's record with its own pid, along every stream of the protocol
(`event_configuration_handoff`). A mutator such as `5_drop_write` and a live pid equal to an
event break it: `event_configuration_collision`.
-/

set_option autoImplicit false

namespace CrashSimulator

/-! ## Names -/

/-- INTERNAL: a separator that occurs in neither head splits an append at the same place. -/
theorem append_sep_inj {c : Char} :
    ∀ {a b x y : List Char}, c ∉ a → c ∉ b → a ++ c :: x = b ++ c :: y → a = b ∧ x = y
  | [], [], x, y, _, _, h => ⟨rfl, by simpa using h⟩
  | [], d :: b, x, y, _, hb, h => by
    simp only [List.nil_append, List.cons_append, List.cons.injEq] at h
    obtain ⟨rfl, -⟩ := h
    exact absurd (List.mem_cons_self _ _) hb
  | d :: a, [], x, y, ha, _, h => by
    simp only [List.nil_append, List.cons_append, List.cons.injEq] at h
    obtain ⟨rfl, -⟩ := h
    exact absurd (List.mem_cons_self _ _) ha
  | d :: a, e :: b, x, y, ha, hb, h => by
    simp only [List.cons_append, List.cons.injEq] at h
    obtain ⟨rfl, h⟩ := h
    obtain ⟨rfl, rfl⟩ := append_sep_inj (fun h' => ha (List.mem_cons_of_mem _ h'))
      (fun h' => hb (List.mem_cons_of_mem _ h')) h
    exact ⟨rfl, rfl⟩

/-- `int()` accepts no string with an underscore. -/
theorem underscore_not_mem_of_pyInt {s : PyStr} (h : (pyInt s).isSome) : '_' ∉ s :=
  not_mem_of_pyInt (by decide) (by decide) (by decide) (by decide) h

/-- A numeral of the protocol holds no underscore. -/
theorem Numeral.underscore_not_mem (x : Numeral) : '_' ∉ x.digits := fun h => by
  simpa using x.all_digits '_' h

/-- Event-level names of events without an underscore are distinct for distinct keys. -/
theorem stateFileName_inj {e e' m m' : PyStr} (he : '_' ∉ e) (he' : '_' ∉ e')
    (h : stateFileName e m = stateFileName e' m') : e = e' ∧ m = m' := by
  obtain ⟨rfl, hm⟩ := append_sep_inj he he' (by simpa [stateFileName] using h)
  exact ⟨rfl, List.append_cancel_right hm⟩

/-- Per-process names of pids without an underscore are distinct for distinct dispatches. -/
theorem pidUniqueStatefile_inj {p q x y : PyStr} (hp : '_' ∉ p) (hq : '_' ∉ q)
    (h : Matcher.pidUniqueStatefile p x = Matcher.pidUniqueStatefile q y) : p = q ∧ x = y :=
  append_sep_inj hp hq (by simpa [Matcher.pidUniqueStatefile] using h)

/-- A per-process name is an event-level name exactly when the event is the pid and the
mutator is `<event>_<mutator>` of the dispatched subject. -/
theorem pidUniqueStatefile_eq_stateFileName {p e m e' m' : PyStr} (hp : '_' ∉ p)
    (he : '_' ∉ e) :
    Matcher.pidUniqueStatefile p (stateFileName e' m') = stateFileName e m ↔
      e = p ∧ m = e' ++ "_".toList ++ m' := by
  constructor
  · intro h
    obtain ⟨rfl, hm⟩ := append_sep_inj hp he
      (by simpa [Matcher.pidUniqueStatefile, stateFileName] using h)
    have h' : (e' ++ "_".toList ++ m') ++ "_state.json".toList = m ++ "_state.json".toList := by
      simpa using hm
    exact ⟨rfl, (List.append_cancel_right h').symm⟩
  · rintro ⟨rfl, rfl⟩
    simp [Matcher.pidUniqueStatefile, stateFileName]

/-- INTERNAL: no state file is `proc.out`: their names end in `_state.json`.
SOURCE: rreplay.py:138-140 -/
theorem stateFileName_ne_PROC_FILE (e m : PyStr) : stateFileName e m ≠ PROC_FILE := fun h => by
  have hs : "_state.json".toList <:+ stateFileName e m := List.suffix_append _ _
  rw [h] at hs
  exact absurd hs (by decide)

/-! ## The subjects of `get_configuration` -/

/-- The subjects `get_configuration` returns have no handle and no sibling yet, an event
without an underscore, and the state file name of their event and mutator. -/
theorem getConfiguration_subject {iniPath : PyStr} {w w' : World} {rrDir : PyStr}
    {subjects : List Subject} (h : getConfiguration iniPath w = .ok (rrDir, subjects) w') :
    ∀ s ∈ subjects, s.handle = none ∧ s.otherProcs = [] ∧ '_' ∉ s.event ∧
      s.injectedStateFile = stateFileName s.event s.mutator := by
  obtain ⟨cfg, _, sections, raw, _, -, -, -, hr, hs, -, -⟩ := getConfiguration_eq_ok h
  obtain ⟨hint, rfl⟩ := sortByEvent_eq_ok.mp hs
  intro s hsub
  have hraw := (List.perm_insertionSort _ _).subset hsub
  obtain ⟨i, -, hc⟩ := exists_of_forall₂_right (sectionSubjects_eq_ok.mp hr) s hraw
  obtain ⟨-, -, -, -, -, -, hisf, hop, -, -, hh⟩ := sectionSubject_eq_ok.mp hc
  exact ⟨hh, hop, underscore_not_mem_of_pyInt (hint s hraw), hisf⟩

/-! ## The hand-off -/

section HandOff

variable {subjects : List Subject}

/-- INTERNAL: on subjects with distinct keys, named after their events and mutators, the
event-level name identifies the subject.
SOURCE: rreplay.py:138-140 -/
theorem injectedStateFile_inj
    (hnames : ∀ s ∈ subjects, '_' ∉ s.event ∧ s.injectedStateFile = stateFileName s.event s.mutator)
    (hkeys : (subjects.map Subject.key).Nodup) {s t : Subject} (hs : s ∈ subjects)
    (ht : t ∈ subjects) (h : s.injectedStateFile = t.injectedStateFile) : s = t := by
  rw [(hnames s hs).2, (hnames t ht).2] at h
  obtain ⟨he, hm⟩ := stateFileName_inj (hnames s hs).1 (hnames t ht).1 h
  exact List.inj_on_of_nodup_map hkeys hs ht (by simp [Subject.key, he, hm])

/-- INTERNAL: once `get_configuration` and `create_event_configuration_files` have returned on
subjects with distinct keys and rr has been started, each subject's event-level file holds its
record.
SOURCE: rreplay.py:184-243 -/
theorem executeRr_files_toDoc {iniPath : PyStr} {w0 w1 w2 : World} {rrDir : PyStr}
    (hcfg : getConfiguration iniPath w0 = .ok (rrDir, subjects) w1)
    (hcreate : createEventConfigurationFiles subjects w1 = .ok () w2)
    (hkeys : (subjects.map Subject.key).Nodup) :
    ∀ s ∈ subjects,
      (executeRr rrDir subjects w2).files s.injectedStateFile = some (.json s.toDoc) := by
  have hsub := getConfiguration_subject hcfg
  have hnames : ∀ s ∈ subjects,
      '_' ∉ s.event ∧ s.injectedStateFile = stateFileName s.event s.mutator :=
    fun s hs => ⟨(hsub s hs).2.2.1, (hsub s hs).2.2.2⟩
  obtain ⟨w', hok, -, hjson, -⟩ :=
    createEventConfigurationFiles_eq_ok subjects w1 (createEventConfigurationFiles_ok_dump hcreate)
  rw [hok] at hcreate
  cases hcreate
  have hnodup : (subjects.map Subject.injectedStateFile).Nodup :=
    (List.Nodup.of_map _ hkeys).map_on fun s hs t ht => injectedStateFile_inj hnames hkeys hs ht
  intro s hs
  have hne : s.injectedStateFile ≠ PROC_FILE := (hnames s hs).2 ▸ stateFileName_ne_PROC_FILE _ _
  simp [executeRr, hne, hjson hnodup s hs]

/-- What the state files hold for the subject `s0` of the configuration, now `s`: `s` names
the same event-level file, and once it has a handle, its injector was launched on the
per-process file of some pid `p`, which holds the record of `s0` with the pid `p`. -/
def Delivered (w : World) (s0 s : Subject) : Prop :=
  s.injectedStateFile = s0.injectedStateFile ∧
    ∀ h, s.handle = some h → ∃ p : Numeral,
      h.argv = injectorArgv (Matcher.pidUniqueStatefile p.digits s0.injectedStateFile) ∧
      w.files (Matcher.pidUniqueStatefile p.digits s0.injectedStateFile) =
        some (.json { s0.toDoc with pid := some p.digits })

/-- The invariant of the hand-off: every subject delivered, and every event-level file
holding the record `create_event_configuration_files` wrote. -/
def HandOff (subjects : List Subject) (m : Matcher) : Prop :=
  List.Forall₂ (Delivered m.world) subjects m.subjects ∧
    ∀ s ∈ subjects, m.world.files s.injectedStateFile = some (.json s.toDoc)

/-- INTERNAL: the hand-off depends on the subjects and the files only. -/
theorem HandOff.congr {m m' : Matcher} (h : HandOff subjects m) (hs : m'.subjects = m.subjects)
    (hf : m'.world.files = m.world.files) : HandOff subjects m' := by
  unfold HandOff Delivered at *
  rw [hs, hf]
  exact h

/-! The hand-off is kept over subjects named after their events and mutators, with distinct
keys, and with no mutator of the form `<event>_<mutator>` of a subject. -/

section Kept

variable
  (hnames : ∀ s ∈ subjects, '_' ∉ s.event ∧ s.injectedStateFile = stateFileName s.event s.mutator)
  (hkeys : (subjects.map Subject.key).Nodup)
  (hmut : ∀ s ∈ subjects, ∀ t ∈ subjects, s.mutator ≠ t.event ++ "_".toList ++ t.mutator)
include hnames hkeys hmut

/-- A dispatch keeps the hand-off when no mutator is `<event>_<mutator>` of a subject: the
per-process file it writes is no event-level file, and holds the candidate's record with the
pid; if an earlier dispatch wrote the same name, it wrote the same record. -/
theorem HandOff.dispatch {m : Matcher} {k : Nat} {s : Subject} {tmp : StateDoc} (p : Numeral)
    (h : HandOff subjects m) (hk : m.subjects[k]? = some s)
    (htmp : m.world.files s.injectedStateFile = some (.json tmp)) :
    HandOff subjects (m.dispatch k s tmp p.digits) := by
  obtain ⟨hrel, hev⟩ := h
  obtain ⟨s0, hk0, hisf, -⟩ := forall₂_getElem? hrel hk
  have hs0 : s0 ∈ subjects := List.getElem?_mem hk0
  rw [hisf] at htmp
  obtain rfl : tmp = s0.toDoc := by simpa [htmp] using hev s0 hs0
  have hfiles : ∀ g, (m.dispatch k s s0.toDoc p.digits).world.files g =
      if g = Matcher.pidUniqueStatefile p.digits s0.injectedStateFile
      then some (.json { s0.toDoc with pid := some p.digits }) else m.world.files g := by
    intro g
    rw [Matcher.dispatch_files, hisf]
  refine ⟨?_, fun t ht => ?_⟩
  · rw [Matcher.dispatch_subjects]
    refine forall₂_modify_right hrel ?_ ?_
    · rintro a ha b ⟨hb, hh⟩
      refine ⟨hb, fun h' hh' => ?_⟩
      obtain ⟨q, hq, hf⟩ := hh h' hh'
      refine ⟨q, hq, ?_⟩
      rw [hfiles]
      split_ifs with he
      · obtain ⟨hqp, hx⟩ := pidUniqueStatefile_inj q.underscore_not_mem p.underscore_not_mem he
        obtain rfl := injectedStateFile_inj hnames hkeys ha hs0 hx
        rw [hqp]
      · exact hf
    · rintro a b ha hb ⟨hab, -⟩
      obtain rfl : a = s0 := Option.some.inj (ha.symm.trans hk0)
      obtain rfl : b = s := Option.some.inj (hb.symm.trans hk)
      refine ⟨hab, fun h' hh' => ⟨p, ?_, by rw [hfiles, if_pos rfl]⟩⟩
      obtain rfl := Option.some.inj hh'
      simp [hab]
  · rw [hfiles, if_neg fun he => ?_]
    · exact hev t ht
    · rw [(hnames t ht).2, (hnames s0 hs0).2] at he
      exact hmut t ht s0 hs0
        ((pidUniqueStatefile_eq_stateFileName p.underscore_not_mem (hnames t ht).1).1 he.symm).2

/-- Every returning iteration on a line of the protocol keeps the hand-off. -/
theorem HandOff.iterate {m m' : Matcher} {n : Notification} (h : HandOff subjects m)
    (hit : m.iterate n.render = .ok () m') : HandOff subjects m' := by
  replace hit := (Matcher.iterate_render_eq_ok hit).2
  cases hd : n.decision <;> simp only [hd] at hit
  · rcases Matcher.inject_eq_ok hit with ⟨-, rfl⟩ | ⟨k, s, tmp, hc, htmp, -, rfl⟩
    · exact h.congr rfl rfl
    · exact h.dispatch hnames hkeys hmut n.pid (Matcher.mem_subjectsForEvent.1 hc).1 htmp
  · obtain ⟨k, -, rfl⟩ := Matcher.dontInject_eq_ok hit
    exact ⟨forall₂_modify_right h.1 (fun _ _ _ hr => hr) fun _ _ _ _ hr => hr, h.2⟩

/-- The hand-off holds of the state the loop ends in on lines of the protocol, whether it
returns or raises. -/
theorem HandOff.processMessages {m : Matcher} (h : HandOff subjects m) (ns : List Notification)
    (stop : ChannelEnd) :
    HandOff subjects
      (endState (CrashSimulator.processMessages m (ns.map Notification.render) stop)) :=
  processMessages_induction (fun msg => ∃ n : Notification, msg = n.render) (HandOff subjects)
    (fun _ _ _ ⟨_, hn⟩ _ hm hit => hm.iterate hnames hkeys hmut (hn ▸ hit))
    (fun _ _ _ _ ⟨_, hn⟩ hm herr => by
      obtain ⟨hs, -, hw⟩ := Matcher.iterate_render_eq_error (hn ▸ herr)
      exact hm.congr hs (by rw [hw]))
    m _ stop (by simp) h

end Kept

end HandOff

namespace Analysis

/-- On the subjects `get_configuration` returns, with distinct keys, once
`create_event_configuration_files` has run: distinct subjects have distinct event-level
names, distinct dispatches have distinct per-process names, and the per-process name of `p`
for `t` is the event-level name of `s` exactly when the event of `s` is `p` and its mutator is
`<event>_<mutator>` of `t`. When no mutator has that form, along every stream of the protocol,
whether the loop returns or raises, every event-level file still holds the record
`create_event_configuration_files` wrote, and the injector of every dispatched subject was
launched on a per-process file of some pid `p` that holds the subject's record with `p`. -/
theorem event_configuration_handoff {iniPath : PyStr} {w0 w1 w2 : World} {rrDir : PyStr}
    {subjects : List Subject} (hcfg : getConfiguration iniPath w0 = .ok (rrDir, subjects) w1)
    (hcreate : createEventConfigurationFiles subjects w1 = .ok () w2)
    (hkeys : (subjects.map Subject.key).Nodup) :
    (∀ s ∈ subjects, ∀ t ∈ subjects, s.injectedStateFile = t.injectedStateFile → s = t) ∧
    (∀ (p q : Numeral), ∀ s ∈ subjects, ∀ t ∈ subjects,
      Matcher.pidUniqueStatefile p.digits s.injectedStateFile =
        Matcher.pidUniqueStatefile q.digits t.injectedStateFile → p.digits = q.digits ∧ s = t) ∧
    (∀ p : Numeral, ∀ s ∈ subjects, ∀ t ∈ subjects,
      Matcher.pidUniqueStatefile p.digits t.injectedStateFile = s.injectedStateFile ↔
        s.event = p.digits ∧ s.mutator = t.event ++ "_".toList ++ t.mutator) ∧
    ((∀ s ∈ subjects, ∀ t ∈ subjects, s.mutator ≠ t.event ++ "_".toList ++ t.mutator) →
      ∀ (ns : List Notification) (stop : ChannelEnd),
        let m := endState (processMessages ⟨subjects, [], none, executeRr rrDir subjects w2⟩
          (ns.map Notification.render) stop)
        List.Forall₂ (fun s0 s => ∀ h, s.handle = some h → ∃ p : Numeral,
            h.argv = injectorArgv (Matcher.pidUniqueStatefile p.digits s0.injectedStateFile) ∧
            m.world.files (Matcher.pidUniqueStatefile p.digits s0.injectedStateFile) =
              some (.json { s0.toDoc with pid := some p.digits }))
          subjects m.subjects ∧
        ∀ s ∈ subjects, m.world.files s.injectedStateFile = some (.json s.toDoc)) := by
  have hsub := getConfiguration_subject hcfg
  have hnames : ∀ s ∈ subjects,
      '_' ∉ s.event ∧ s.injectedStateFile = stateFileName s.event s.mutator :=
    fun s hs => ⟨(hsub s hs).2.2.1, (hsub s hs).2.2.2⟩
  refine ⟨fun s hs t ht => injectedStateFile_inj hnames hkeys hs ht, fun p q s hs t ht h => ?_,
    fun p s hs t ht => ?_, fun hmut ns stop => ?_⟩
  · obtain ⟨hpq, hx⟩ := pidUniqueStatefile_inj p.underscore_not_mem q.underscore_not_mem h
    exact ⟨hpq, injectedStateFile_inj hnames hkeys hs ht hx⟩
  · rw [(hnames s hs).2, (hnames t ht).2]
    exact pidUniqueStatefile_eq_stateFileName p.underscore_not_mem (hnames s hs).1
  · have hstart : HandOff subjects ⟨subjects, [], none, executeRr rrDir subjects w2⟩ :=
      ⟨List.forall₂_same.2 fun s hs => ⟨rfl, fun h hh => by simp [(hsub s hs).1] at hh⟩,
        executeRr_files_toDoc hcfg hcreate hkeys⟩
    obtain ⟨hrel, hev⟩ := hstart.processMessages hnames hkeys hmut ns stop
    exact ⟨hrel.imp fun _ _ h => h.2, hev⟩

/-- The spec's scenario A, one section: `get_configuration` and
`create_event_configuration_files` return, the key is unique and the mutator is no subject's
`<event>_<mutator>`; along every stream of the protocol the event-level file keeps its
record. -/
theorem event_configuration_scenario_a :
    let cfg : IniFile := ⟨[.ofStrings "rr" [("rr_dir", "/traces")],
      .ofStrings "t1" [("event", "5"), ("pid", "100"), ("trace_file", "t.bin"),
        ("trace_start", "0"), ("trace_end", "10"), ("mutator", "drop_write")]], by decide⟩
    let w0 : World :=
      ⟨fun f => if f = "config.ini".toList then some (.ini cfg) else none, [], [], [], [],
        fun _ => true⟩
    ∃ rrDir subjects w1 w2,
      getConfiguration "config.ini".toList w0 = .ok (rrDir, subjects) w1 ∧
      createEventConfigurationFiles subjects w1 = .ok () w2 ∧
      (subjects.map Subject.key).Nodup ∧
      (∀ s ∈ subjects, ∀ t ∈ subjects, s.mutator ≠ t.event ++ "_".toList ++ t.mutator) ∧
      ∀ (ns : List Notification) (stop : ChannelEnd), ∀ s ∈ subjects,
        (endState (processMessages ⟨subjects, [], none, executeRr rrDir subjects w2⟩
          (ns.map Notification.render) stop)).world.files s.injectedStateFile =
          some (.json s.toDoc) := by
  intro cfg w0
  obtain ⟨rrDir, subjects, w1, w2, h1, h2, h3, h4⟩ : ∃ rrDir subjects w1 w2,
      getConfiguration "config.ini".toList w0 = .ok (rrDir, subjects) w1 ∧
      createEventConfigurationFiles subjects w1 = .ok () w2 ∧
      (subjects.map Subject.key).Nodup ∧
      ∀ s ∈ subjects, ∀ t ∈ subjects, s.mutator ≠ t.event ++ "_".toList ++ t.mutator :=
    ⟨_, _, _, _, rfl, rfl, by decide, by decide⟩
  exact ⟨rrDir, subjects, w1, w2, h1, h2, h3, h4, fun ns stop =>
    ((event_configuration_handoff h1 h2 h3).2.2.2 h4 ns stop).2⟩

/-- Two sections with distinct keys, `('5', 'drop_write')` and `('4242', '5_drop_write')`,
and the lines `INJECT 5` from the live process 4242, then `INJECT 4242` from 4243. The first
dispatch writes `4242_5_drop_write_state.json`, the second subject's event-level file, with
the first subject's record; the second dispatch reads it back, and the injector of the
subject of event 4242 is launched on a file that holds the record of the subject of event 5. -/
theorem event_configuration_collision :
    let cfg : IniFile := ⟨[.ofStrings "rr" [("rr_dir", "/traces")],
      .ofStrings "t1" [("event", "5"), ("pid", "100"), ("trace_file", "t.bin"),
        ("trace_start", "0"), ("trace_end", "10"), ("mutator", "drop_write")],
      .ofStrings "t2" [("event", "4242"), ("pid", "100"), ("trace_file", "t.bin"),
        ("trace_start", "20"), ("trace_end", "30"), ("mutator", "5_drop_write")]], by decide⟩
    let w0 : World :=
      ⟨fun f => if f = "config.ini".toList then some (.ini cfg) else none, [], [], [], [],
        fun _ => true⟩
    let handed := "4243_4242_5_drop_write_state.json".toList
    ∃ rrDir a b w1 w2 m,
      getConfiguration "config.ini".toList w0 = .ok (rrDir, [a, b]) w1 ∧
      createEventConfigurationFiles [a, b] w1 = .ok () w2 ∧
      ([a, b].map Subject.key).Nodup ∧
      processMessages ⟨[a, b], [], none, executeRr rrDir [a, b] w2⟩
        ["INJECT: EVENT: 5 PID: 4242 REC_PID: 100\n".toList,
          "INJECT: EVENT: 4242 PID: 4243 REC_PID: 100\n".toList] .closed = .ok [] m ∧
      a.event = "5".toList ∧ b.event = "4242".toList ∧
      (m.subjects.map fun t => t.handle.map Handle.argv) =
        [some (injectorArgv "4242_5_drop_write_state.json".toList), some (injectorArgv handed)] ∧
      m.world.files handed = some (.json { a.toDoc with pid := some "4243".toList }) :=
  ⟨_, _, _, _, _, _, rfl, rfl, by decide, rfl, rfl, rfl, rfl, rfl⟩

end Analysis

end CrashSimulator
