import CrashSimulator.Model.World
import Mathlib.Data.List.Sort

/-!
# Reading `config.ini`, emitting the event configurations, launching rr

The three functions `call_replay` runs before the matcher (rreplay.py:75-240).
`get_configuration` turns every section after the first into a subject, sorts the subjects
by `int(event)` and removes stale `brk()` mapping files; `create_event_configuration_files`
writes each subject to its event-level state file; `execute_rr` starts rr in the background
with its output in `proc.out`. Every option is read through `SafeConfigParser.get`, which
expands `%(name)s` references and `%%` in the value (`IniFile.get`); a value without `%` is
read as written (`interpolate_of_percent_not_mem`).

Each function is followed by the lemma that says what it does when it succeeds, so that the
analysis never unfolds it: `getConfiguration_eq_ok` and `getConfiguration_eq_error`,
`createEventConfigurationFiles_eq_ok` and `createEventConfigurationFiles_frame`.
-/

set_option autoImplicit false

namespace CrashSimulator

/-! ## `SafeConfigParser.get` -/

/-- `optionxform(name)`: `name.lower()`, which on a Python 2 `str` lowers `A`-`Z` only. -/
def optionxform (name : PyStr) : PyStr := name.map Char.toLower

/-- The names `get` and `%(name)s` resolve in a section: its options, then `__name__`, the
section's name, which the parser stores in every section before its options. -/
def IniSection.lookupVar (sec : IniSection) (name : PyStr) : Option PyStr :=
  match sec.options.lookup name with
  | some v => some v
  | none => if name = "__name__".toList then some sec.name else none

/-- Where `_interpolate_some` stands in a value: in plain text, after a `%`, inside the name
of a `%(name)s` reference, or after its `)`, where an `s` must follow. -/
inductive InterpMode where
  | text
  | percent
  | name (acc : PyStr)
  | close (name : PyStr)

/-- The scan of `SafeConfigParser._interpolate_some` over the rest of a value, with `nested`
the interpolation one level deeper. `%%` is a `%`; `%(name)s` is the value of `name`,
itself interpolated when it holds a `%`; any other `%`, or a reference the pattern
`%\(([^)]+)\)s` does not match, raises `InterpolationSyntaxError`; a name the section lacks
raises `InterpolationMissingOptionError`. -/
def interpolateScan (lookup : PyStr → Option PyStr) (nested : PyStr → Except PyError PyStr) :
    InterpMode → PyStr → Except PyError PyStr
  | .text, [] => .ok []
  | .text, '%' :: rest => interpolateScan lookup nested .percent rest
  | .text, c :: rest => (c :: ·) <$> interpolateScan lookup nested .text rest
  | .percent, '%' :: rest => ('%' :: ·) <$> interpolateScan lookup nested .text rest
  | .percent, '(' :: rest => interpolateScan lookup nested (.name []) rest
  | .percent, _ => .error .interpolationSyntaxError
  | .name acc, ')' :: rest =>
    if acc = [] then .error .interpolationSyntaxError
    else interpolateScan lookup nested (.close acc) rest
  | .name acc, c :: rest => interpolateScan lookup nested (.name (acc ++ [c])) rest
  | .name _, [] => .error .interpolationSyntaxError
  | .close name, 's' :: rest =>
    match lookup (optionxform name) with
    | none => .error .interpolationMissingOptionError
    | some v =>
      if '%' ∈ v then do
        let a ← nested v
        let b ← interpolateScan lookup nested .text rest
        pure (a ++ b)
      else (v ++ ·) <$> interpolateScan lookup nested .text rest
  | .close _, _ => .error .interpolationSyntaxError

/-- `_interpolate_some` with `depth` levels left before `MAX_INTERPOLATION_DEPTH` (10): one
level further raises `InterpolationDepthError`. -/
def interpolate (lookup : PyStr → Option PyStr) : Nat → PyStr → Except PyError PyStr
  | 0, _ => .error .interpolationDepthError
  | depth + 1, v => interpolateScan lookup (interpolate lookup depth) .text v

/-- `cfg.get(section, option)` of `SafeConfigParser`: the option's value in the section of
that name, interpolated. -/
def IniFile.get (cfg : IniFile) (sec opt : PyStr) : Except PyError PyStr :=
  match cfg.sections.find? (·.name = sec) with
  | none => .error .noSectionError
  | some s => match s.lookupVar (optionxform opt) with
    | none => .error .noOptionError
    | some v => interpolate s.lookupVar 10 v

/-- INTERNAL: text without `%` scans to itself. -/
theorem interpolateScan_of_percent_not_mem (lookup : PyStr → Option PyStr)
    (nested : PyStr → Except PyError PyStr) :
    ∀ {v : PyStr}, '%' ∉ v → interpolateScan lookup nested .text v = .ok v
  | [], _ => rfl
  | c :: v, h => by
    have hc : c ≠ '%' := fun e => h (e ▸ List.mem_cons_self c v)
    have ih := interpolateScan_of_percent_not_mem lookup nested
      fun hv => h (List.mem_cons_of_mem c hv)
    simp only [interpolateScan, ih]
    rfl

/-- A value without `%` is returned as it is. -/
theorem interpolate_of_percent_not_mem (lookup : PyStr → Option PyStr) (depth : Nat)
    {v : PyStr} (h : '%' ∉ v) : interpolate lookup (depth + 1) v = .ok v :=
  interpolateScan_of_percent_not_mem lookup _ h

/-- `try: s[key] = cfg.get(i, opt) except ConfigParser.NoOptionError: pass`: an absent
option leaves the key out, and any other error of `get` propagates. -/
def IniFile.getOptional (cfg : IniFile) (sec opt : PyStr) : Except PyError (Option PyStr) :=
  match cfg.get sec opt with
  | .ok v => .ok (some v)
  | .error .noOptionError => .ok none
  | .error e => .error e

/-- `cfg.sections()`: the section names in file order. -/
def IniFile.sectionNames (cfg : IniFile) : List PyStr := cfg.sections.map IniSection.name

/-- The name `get_configuration` gives a subject's event configuration,
`event + '_' + mutator + '_state.json'`. -/
def stateFileName (event mutator : PyStr) : PyStr :=
  event ++ "_".toList ++ mutator ++ "_state.json".toList

/-- The body of the section loop of `get_configuration`: the subject section `i` becomes. A
missing required option raises `NoOptionError`; a missing optional one leaves its key out. -/
def sectionSubject (cfg : IniFile) (i : PyStr) : Except PyError Subject := do
  let event ← cfg.get i "event".toList
  let recPid ← cfg.get i "pid".toList
  let traceFile ← cfg.get i "trace_file".toList
  let traceStart ← cfg.get i "trace_start".toList
  let traceEnd ← cfg.get i "trace_end".toList
  let mutator ← cfg.get i "mutator".toList
  let mmapBackingFiles ← cfg.getOptional i "mmap_backing_files".toList
  let checker ← cfg.getOptional i "checker".toList
  pure
    { event := event
      recPid := recPid
      traceFile := traceFile
      traceStart := traceStart
      traceEnd := traceEnd
      mutator := mutator
      injectedStateFile := stateFileName event mutator
      otherProcs := []
      mmapBackingFiles := mmapBackingFiles
      checker := checker
      handle := none }

/-- The section loop: one subject per section, in order; the first failure raises. -/
def sectionSubjects (cfg : IniFile) : List PyStr → Except PyError (List Subject)
  | [] => .ok []
  | i :: rest => do
    let s ← sectionSubject cfg i
    let ss ← sectionSubjects cfg rest
    pure (s :: ss)

/-- What the subject of section `i` holds: the section's six required options, its state
file name, no sibling, the optional options when present, and no handle. -/
def Carries (cfg : IniFile) (i : PyStr) (s : Subject) : Prop :=
  cfg.get i "event".toList = .ok s.event ∧ cfg.get i "pid".toList = .ok s.recPid ∧
  cfg.get i "trace_file".toList = .ok s.traceFile ∧
  cfg.get i "trace_start".toList = .ok s.traceStart ∧
  cfg.get i "trace_end".toList = .ok s.traceEnd ∧ cfg.get i "mutator".toList = .ok s.mutator ∧
  s.injectedStateFile = stateFileName s.event s.mutator ∧ s.otherProcs = [] ∧
  cfg.getOptional i "mmap_backing_files".toList = .ok s.mmapBackingFiles ∧
  cfg.getOptional i "checker".toList = .ok s.checker ∧ s.handle = none

/-- The subject of a section is the one that carries it. -/
theorem sectionSubject_eq_ok {cfg : IniFile} {i : PyStr} {s : Subject} :
    sectionSubject cfg i = .ok s ↔ Carries cfg i s := by
  simp only [sectionSubject, bind_eq_ok, pure_eq_ok, Carries]
  constructor
  · rintro ⟨_, h1, _, h2, _, h3, _, h4, _, h5, _, h6, _, h9, _, h10, rfl⟩
    exact ⟨h1, h2, h3, h4, h5, h6, rfl, rfl, h9, h10, rfl⟩
  · rintro ⟨h1, h2, h3, h4, h5, h6, h7, h8, h9, h10, h11⟩
    refine ⟨_, h1, _, h2, _, h3, _, h4, _, h5, _, h6, _, h9, _, h10, ?_⟩
    cases s
    simp_all

/-- The section loop succeeds with one subject per section, each the section's own. -/
theorem sectionSubjects_eq_ok {cfg : IniFile} {names : List PyStr} {ss : List Subject} :
    sectionSubjects cfg names = .ok ss ↔
      List.Forall₂ (fun i s => sectionSubject cfg i = .ok s) names ss := by
  induction names generalizing ss with
  | nil => cases ss <;> simp [sectionSubjects]
  | cons i rest ih => cases ss <;> simp [sectionSubjects, bind_eq_ok, map_eq_ok, ih]

/-- `_sort_by_event(sub)`: `int(sub['event'])`, read once `int()` accepted every event. -/
def eventKey (s : Subject) : Int := (pyInt s.event).getD 0

/-- The order `sort` puts subjects in: by `int(event)`. -/
def EventLE (a b : Subject) : Prop := eventKey a ≤ eventKey b

instance : DecidableRel EventLE := fun a b => inferInstanceAs (Decidable (eventKey a ≤ eventKey b))

instance : IsTotal Subject EventLE := ⟨fun a b => le_total (eventKey a) (eventKey b)⟩

instance : IsTrans Subject EventLE := ⟨fun _ _ _ => le_trans⟩

/-- `subjects.sort(key=_sort_by_event)`: the keys are computed first, so an event `int()`
rejects raises `ValueError`. CPython's sort is stable, and a stable sort has one result,
here computed by insertion. -/
def sortByEvent (subjects : List Subject) : Except PyError (List Subject) :=
  if subjects.all fun s => (pyInt s.event).isSome then
    .ok (subjects.insertionSort EventLE)
  else .error .valueError

/-- The sort succeeds when `int()` accepts every event, with the stable sort by `int(event)`. -/
theorem sortByEvent_eq_ok {subjects sorted : List Subject} :
    sortByEvent subjects = .ok sorted ↔
      (∀ s ∈ subjects, (pyInt s.event).isSome) ∧ sorted = subjects.insertionSort EventLE := by
  unfold sortByEvent
  split <;> rename_i h <;> simp only [List.all_eq_true] at h
  · exact ⟨fun e => ⟨h, (Except.ok.inj e).symm⟩, fun ⟨_, e⟩ => e ▸ rfl⟩
  · exact ⟨Except.noConfusion, fun ⟨h', _⟩ => absurd h' h⟩

/-- The file a stale `brk()` mapping of the recorded process `recPid` is kept in. -/
def brksFile (recPid : PyStr) : PyStr := recPid ++ "_brks.json".toList

/-- The cleanup loop of `get_configuration`: one `os.remove` per subject `i`, each of the
file of `s`, the subject the section loop left bound. -/
def removeBrks (s : Subject) (subjects : List Subject) (w : World) : World :=
  subjects.foldl (fun w _ => w.unlink (brksFile s.recPid)) w

/-- The cleanup loop removes the one file of `s`, if it runs at all. -/
@[simp] theorem removeBrks_files (s : Subject) (subjects : List Subject) (w : World)
    (g : PyStr) : (removeBrks s subjects w).files g =
      if subjects ≠ [] ∧ g = brksFile s.recPid then none else w.files g := by
  unfold removeBrks
  induction subjects generalizing w with
  | nil => simp
  | cons t rest ih => cases rest <;> simp_all [List.foldl]

/-- The cleanup loop only removes files. -/
theorem removeBrks_frame (s : Subject) (subjects : List Subject) (w : World) :
    (removeBrks s subjects w).spawned = w.spawned ∧ (removeBrks s subjects w).waited = w.waited ∧
    (removeBrks s subjects w).killed = w.killed ∧ (removeBrks s subjects w).log = w.log ∧
    (removeBrks s subjects w).alive = w.alive := by
  unfold removeBrks
  induction subjects generalizing w with
  | nil => simp
  | cons t rest ih => exact ih _

/-- `get_configuration(ini_path)`: the trace directory and the sorted subjects. An unread
`config.ini` raises `IOError` and an unparsable one a parsing error; with no section
`sections[0]` raises `IndexError`; with no section after the first, `NoSectionError`. -/
def getConfiguration (iniPath : PyStr) (w : World) :
    EStateM.Result PyError World (PyStr × List Subject) :=
  match w.files iniPath with
  | some (.ini cfg) =>
    match cfg.sectionNames with
    | [] => .error .indexError w
    | rrDirSection :: sections =>
      match cfg.get rrDirSection "rr_dir".toList with
      | .error e => .error e w
      | .ok rrDir =>
        if sections = [] then .error .noSectionError w else
        match sectionSubjects cfg sections with
        | .error e => .error e w
        | .ok subjects =>
          match sortByEvent subjects with
          | .error e => .error e w
          | .ok sorted =>
            match subjects.getLast? with
            | some s => .ok (rrDir, sorted) (removeBrks s sorted w)
            | none => .ok (rrDir, sorted) w
  | some _ => .error .parsingError w
  | none => .error .ioError w

/-- What `get_configuration` did when it returned: it read a `config.ini`, turned the
sections after the first into subjects, sorted them, and ran the cleanup loop with the last
section's subject bound. -/
theorem getConfiguration_eq_ok {iniPath : PyStr} {w w' : World} {rrDir : PyStr}
    {subjects : List Subject} (h : getConfiguration iniPath w = .ok (rrDir, subjects) w') :
    ∃ cfg rrDirSection sections raw s, w.files iniPath = some (.ini cfg) ∧
      cfg.sectionNames = rrDirSection :: sections ∧
      cfg.get rrDirSection "rr_dir".toList = .ok rrDir ∧
      sectionSubjects cfg sections = .ok raw ∧ sortByEvent raw = .ok subjects ∧
      raw.getLast? = some s ∧ w' = removeBrks s subjects w := by
  unfold getConfiguration at h
  split at h <;> try cases h
  rename_i cfg hf
  split at h <;> try cases h
  rename_i rrDirSection sections hn
  split at h <;> try cases h
  rename_i hd
  split at h <;> try cases h
  rename_i hsec
  split at h <;> try cases h
  rename_i raw hr
  split at h <;> try cases h
  rename_i hs
  split at h <;> cases h
  · exact ⟨cfg, rrDirSection, sections, raw, _, hf, hn, hd, hr, hs, ‹_›, rfl⟩
  · rename_i hl
    have hlen := (sectionSubjects_eq_ok.mp hr).length_eq
    rw [List.getLast?_eq_none_iff.mp hl, List.length_nil, List.length_eq_zero] at hlen
    exact absurd hlen hsec

/-- `get_configuration` raises before its cleanup loop, so a raise leaves the world as it
was. -/
theorem getConfiguration_eq_error {iniPath : PyStr} {w w' : World} {e : PyError}
    (h : getConfiguration iniPath w = .error e w') : w' = w := by
  unfold getConfiguration at h
  repeat' split at h
  all_goals cases h <;> rfl

/-- `create_event_configuration_files(subjects)`: each subject's dict, dumped to its
`injected_state_file` in list order. -/
def createEventConfigurationFiles : List Subject → World → EStateM.Result PyError World Unit
  | [], w => .ok () w
  | s :: rest, w =>
    match s.dump with
    | .ok d => createEventConfigurationFiles rest (w.write s.injectedStateFile (.json d))
    | .error e => .error e (w.write s.injectedStateFile .data)

/-- What `create_event_configuration_files` does on subjects that `json.dump` accepts: it
writes a state file for each and changes nothing else; a file no subject names is untouched,
and when the names are distinct each subject's file holds its own document. -/
theorem createEventConfigurationFiles_eq_ok (subjects : List Subject) (w : World)
    (h : ∀ s ∈ subjects, s.dump = .ok s.toDoc) :
    ∃ w', createEventConfigurationFiles subjects w = .ok () w' ∧
      (∀ g, (∀ s ∈ subjects, s.injectedStateFile ≠ g) → w'.files g = w.files g) ∧
      ((subjects.map Subject.injectedStateFile).Nodup →
        ∀ s ∈ subjects, w'.files s.injectedStateFile = some (.json s.toDoc)) ∧
      w'.spawned = w.spawned ∧ w'.waited = w.waited ∧ w'.killed = w.killed ∧
      w'.log = w.log ∧ w'.alive = w.alive := by
  induction subjects generalizing w with
  | nil => exact ⟨w, rfl, fun _ _ => rfl, fun _ _ h => absurd h (List.not_mem_nil _),
      rfl, rfl, rfl, rfl, rfl⟩
  | cons s rest ih =>
    obtain ⟨w', hw', hg, hs, h1, h2, h3, h4, h5⟩ :=
      ih (w.write s.injectedStateFile (.json s.toDoc)) fun t ht => h t (List.mem_cons_of_mem _ ht)
    refine ⟨w', by simp [createEventConfigurationFiles, h s (List.mem_cons_self _ _), hw'],
      fun g hn => ?_, fun hnd t ht => ?_, h1, h2, h3, h4, h5⟩
    · rw [hg g fun t ht => hn t (List.mem_cons_of_mem _ ht)]
      simp [Ne.symm (hn s (List.mem_cons_self _ _))]
    · simp only [List.map_cons, List.nodup_cons, List.mem_map] at hnd
      rcases List.mem_cons.mp ht with rfl | ht
      · rw [hg _ fun u hu e => hnd.1 ⟨u, hu, e⟩]
        simp
      · exact hs hnd.2 t ht

/-- When `create_event_configuration_files` returns, `json.dump` accepted every subject. -/
theorem createEventConfigurationFiles_ok_dump :
    ∀ {subjects : List Subject} {w w' : World},
      createEventConfigurationFiles subjects w = .ok () w' → ∀ s ∈ subjects, s.dump = .ok s.toDoc
  | [], _, _, _ => by simp
  | s :: rest, w, w', h => by
    unfold createEventConfigurationFiles at h
    split at h
    · rename_i d hd
      have hs : s.dump = .ok s.toDoc := by
        unfold Subject.dump at hd ⊢
        split at hd
        · cases hd
        · split_ifs at hd with hu
          cases hd
          simp [hu]
      simp only [List.mem_cons, forall_eq_or_imp]
      exact ⟨hs, createEventConfigurationFiles_ok_dump h⟩
    · cases h

/-- `create_event_configuration_files` launches and waits on no process, whether it returns
or raises. -/
theorem createEventConfigurationFiles_frame :
    ∀ (subjects : List Subject) (w : World),
      (endState (createEventConfigurationFiles subjects w)).spawned = w.spawned ∧
      (endState (createEventConfigurationFiles subjects w)).waited = w.waited
  | [], _ => ⟨rfl, rfl⟩
  | s :: rest, w => by
    unfold createEventConfigurationFiles
    split
    · exact createEventConfigurationFiles_frame rest _
    · exact ⟨rfl, rfl⟩

/-- The request string `execute_rr` passes to rr: `rec_pid:event,` for each subject, in
list order. -/
def eventsStr (subjects : List Subject) : PyStr :=
  subjects.foldl (fun acc i => acc ++ i.recPid ++ ":".toList ++ i.event ++ ",".toList) []

/-- `execute_rr(rr_dir, subjects)`: `proc.out` opened for writing and rr started on it. -/
def executeRr (rrDir : PyStr) (subjects : List Subject) (w : World) : World :=
  ((w.write PROC_FILE .data).spawn
    ["rr".toList, "replay".toList, "-a".toList, "-n".toList, eventsStr subjects, rrDir]).1

end CrashSimulator
