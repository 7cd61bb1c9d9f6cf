import CrashSimulator.Model.Python

/-!
# Subjects, state files and the world `rreplay.py` acts on

The data of the program. A test subject is the dict `get_configuration` builds for one
section of `config.ini`; `json.dump` turns it into a `StateDoc`, the object the event-level
and the per-process configuration files hold. `config.ini` itself is what `ConfigParser`
holds after reading it.

The world is what the program changes outside its own variables: the files, the processes
it starts with `subprocess.Popen`, the ones it waits on, the pids it sends `SIGKILL` and the
records it logs at warning level and above; and what it reads of the processes rr starts,
whether a pid is alive. Every change goes through one of the operations at the end, each with
its `@[simp]` lemmas, so later files never unfold the record.
-/

set_option autoImplicit false

namespace CrashSimulator

/-- A `subprocess.Popen` object: which process of the run it is, and its argument vector. -/
structure Handle where
  index : Nat
  argv : List PyStr
  deriving DecidableEq, Repr

/-- A test subject: the dict `get_configuration` builds for one section, with the `handle`
key `process_messages` adds when it launches the subject's injector. The two optional keys
are `none` when the section does not have them. -/
structure Subject where
  event : PyStr
  recPid : PyStr
  traceFile : PyStr
  traceStart : PyStr
  traceEnd : PyStr
  mutator : PyStr
  injectedStateFile : PyStr
  otherProcs : List PyStr
  mmapBackingFiles : Option PyStr
  checker : Option PyStr
  handle : Option Handle
  deriving DecidableEq, Repr

/-- The key `(s['event'], s['mutator'])` that `subjects_handled` records. -/
def Subject.key (s : Subject) : PyStr × PyStr := (s.event, s.mutator)

/-- `s['handle'] = h`. -/
def Subject.setHandle (s : Subject) (h : Handle) : Subject := { s with handle := some h }

/-- `s['other_procs'].append(pid)`. -/
def Subject.addOther (s : Subject) (pid : PyStr) : Subject :=
  { s with otherProcs := s.otherProcs ++ [pid] }

@[simp] theorem Subject.setHandle_handle (s : Subject) (h : Handle) :
    (s.setHandle h).handle = some h := rfl
@[simp] theorem Subject.setHandle_key (s : Subject) (h : Handle) :
    (s.setHandle h).key = s.key := rfl
@[simp] theorem Subject.setHandle_event (s : Subject) (h : Handle) :
    (s.setHandle h).event = s.event := rfl
@[simp] theorem Subject.setHandle_injectedStateFile (s : Subject) (h : Handle) :
    (s.setHandle h).injectedStateFile = s.injectedStateFile := rfl
@[simp] theorem Subject.setHandle_otherProcs (s : Subject) (h : Handle) :
    (s.setHandle h).otherProcs = s.otherProcs := rfl
@[simp] theorem Subject.addOther_handle (s : Subject) (pid : PyStr) :
    (s.addOther pid).handle = s.handle := rfl
@[simp] theorem Subject.addOther_key (s : Subject) (pid : PyStr) :
    (s.addOther pid).key = s.key := rfl
@[simp] theorem Subject.addOther_event (s : Subject) (pid : PyStr) :
    (s.addOther pid).event = s.event := rfl
@[simp] theorem Subject.addOther_injectedStateFile (s : Subject) (pid : PyStr) :
    (s.addOther pid).injectedStateFile = s.injectedStateFile := rfl
@[simp] theorem Subject.addOther_otherProcs (s : Subject) (pid : PyStr) :
    (s.addOther pid).otherProcs = s.otherProcs ++ [pid] := rfl

/-- The JSON object of a subject dict without a handle, with the `pid` key the matcher adds
(`none` when absent). -/
structure StateDoc where
  event : PyStr
  recPid : PyStr
  traceFile : PyStr
  traceStart : PyStr
  traceEnd : PyStr
  mutator : PyStr
  injectedStateFile : PyStr
  otherProcs : List PyStr
  mmapBackingFiles : Option PyStr
  checker : Option PyStr
  pid : Option PyStr
  deriving DecidableEq, Repr

/-- The JSON object of a subject dict without a handle: every key but `pid`. -/
def Subject.toDoc (s : Subject) : StateDoc :=
  { event := s.event
    recPid := s.recPid
    traceFile := s.traceFile
    traceStart := s.traceStart
    traceEnd := s.traceEnd
    mutator := s.mutator
    injectedStateFile := s.injectedStateFile
    otherProcs := s.otherProcs
    mmapBackingFiles := s.mmapBackingFiles
    checker := s.checker
    pid := none }

/-- The `str` values of a subject dict, each of which `json.dump` decodes as UTF-8. -/
def Subject.strs (s : Subject) : List PyStr :=
  [s.event, s.recPid, s.traceFile, s.traceStart, s.traceEnd, s.mutator, s.injectedStateFile] ++
    s.otherProcs ++ s.mmapBackingFiles.toList ++ s.checker.toList

/-- `json.dump(s, d)`: a `Popen` handle is not JSON serializable and raises `TypeError`, and
a `str` value that is not UTF-8 raises `UnicodeDecodeError`. (Which of the two a dict with
both raises depends on its key order; `create_event_configuration_files` dumps subjects
without a handle.) -/
def Subject.dump (s : Subject) : Except PyError StateDoc :=
  match s.handle with
  | some _ => .error .typeError
  | none => if s.strs.all utf8Valid then .ok s.toDoc else .error .unicodeDecodeError

/-- One section of `config.ini` as `ConfigParser` holds it after reading: its name and its
options (their names lower-cased by `optionxform`) with their raw values, before `get`
interpolates them; where the file sets an option twice, `lookup` finds the value kept. -/
structure IniSection where
  name : PyStr
  options : List (PyStr × PyStr)
  deriving DecidableEq, Repr

/-- A section written with Lean strings, for stating concrete configurations. -/
def IniSection.ofStrings (name : String) (options : List (String × String)) : IniSection :=
  ⟨name.toList, options.map fun o => (o.1.toList, o.2.toList)⟩

/-- `config.ini` after `cfg.read`: its sections in file order, under distinct names (the
parser keeps one section per name). -/
structure IniFile where
  sections : List IniSection
  names_nodup : (sections.map IniSection.name).Nodup

/-- What a file of the world holds. -/
inductive FileContent where
  /-- a JSON state file written by `json.dump` -/
  | json (d : StateDoc)
  /-- an INI file `ConfigParser` reads -/
  | ini (cfg : IniFile)
  /-- anything else: `proc.out`, the pipe, directories, stale `_brks.json` files -/
  | data

/-- The records the program logs at warning level and above. -/
inductive LogRecord where
  /-- the two warnings for an `INJECT` process no subject is left for -/
  | extraProcess
  /-- `'No handle associated with subject {}'` -/
  | noHandle (s : Subject)
  /-- `'CrashSimulator supervisor for event:rec_pid {}:{} failed'` -/
  | supervisorFailed (event recPid : PyStr)
  deriving DecidableEq, Repr

/-- The world outside the program's variables. -/
structure World where
  files : PyStr → Option FileContent
  /-- the argument vector of every process started, in order -/
  spawned : List (List PyStr)
  waited : List Handle
  killed : List Int
  log : List LogRecord
  /-- whether `util.process_is_alive(pid)` holds, or comes to hold while the program polls
  it (`util` is not among the sources; the program only polls the pids rr reports) -/
  alive : PyStr → Bool

/-- The state a computation ends in, whether it returned or raised. -/
def endState {ε σ α : Type} : EStateM.Result ε σ α → σ
  | .ok _ s => s
  | .error _ s => s

/-- Modelled from the spec: `consts.PROC_FILE` (the `consts` module is not among the
sources), the diagnostics capture file, which the comments of `execute_rr` and `cleanup`
call `proc.out`. -/
def PROC_FILE : PyStr := "proc.out".toList

/-- Modelled from the spec: `consts.RR_PIPE`, the communication channel, which the comments
of `process_messages` and `cleanup` call `rrdump_proc.pipe`. -/
def RR_PIPE : PyStr := "rrdump_proc.pipe".toList

/-- The argument vector `process_messages` launches the injector with. -/
def injectorArgv (statefile : PyStr) : List PyStr :=
  ["inject".toList, "--verbosity=40".toList, statefile]

namespace World

/-- `os.path.exists(f)`. -/
def «exists» (w : World) (f : PyStr) : Bool := (w.files f).isSome

/-- `open(f, 'w')` and a write of `c`. -/
def write (w : World) (f : PyStr) (c : FileContent) : World :=
  { w with files := fun g => if g = f then some c else w.files g }

/-- `os.unlink(f)`, or `os.remove(f)` with its `OSError` ignored: `f` is gone after it. -/
def unlink (w : World) (f : PyStr) : World :=
  { w with files := fun g => if g = f then none else w.files g }

/-- `subprocess.Popen(argv)`: the new process and its handle. -/
def spawn (w : World) (argv : List PyStr) : World × Handle :=
  ({ w with spawned := w.spawned ++ [argv] }, ⟨w.spawned.length, argv⟩)

/-- `h.wait()` returns once the process `h` has exited. -/
def wait (w : World) (h : Handle) : World := { w with waited := w.waited ++ [h] }

/-- `os.kill(pid, signal.SIGKILL)`, its `OSError` for a process already gone ignored. -/
def kill (w : World) (pid : Int) : World := { w with killed := w.killed ++ [pid] }

/-- A `logger.warning` or `logger.error` call. -/
def logged (w : World) (r : LogRecord) : World := { w with log := w.log ++ [r] }

variable (w : World) (f g : PyStr) (c : FileContent)

@[simp] theorem write_files : (w.write f c).files g = if g = f then some c else w.files g := rfl
@[simp] theorem unlink_files : (w.unlink f).files g = if g = f then none else w.files g := rfl
@[simp] theorem write_spawned : (w.write f c).spawned = w.spawned := rfl
@[simp] theorem write_waited : (w.write f c).waited = w.waited := rfl
@[simp] theorem write_killed : (w.write f c).killed = w.killed := rfl
@[simp] theorem write_log : (w.write f c).log = w.log := rfl
@[simp] theorem unlink_spawned : (w.unlink f).spawned = w.spawned := rfl
@[simp] theorem unlink_waited : (w.unlink f).waited = w.waited := rfl
@[simp] theorem unlink_killed : (w.unlink f).killed = w.killed := rfl
@[simp] theorem unlink_log : (w.unlink f).log = w.log := rfl
@[simp] theorem write_alive : (w.write f c).alive = w.alive := rfl
@[simp] theorem unlink_alive : (w.unlink f).alive = w.alive := rfl

variable (argv : List PyStr) (h : Handle) (pid : Int) (r : LogRecord)

@[simp] theorem spawn_files : (w.spawn argv).1.files = w.files := rfl
@[simp] theorem spawn_spawned : (w.spawn argv).1.spawned = w.spawned ++ [argv] := rfl
@[simp] theorem spawn_waited : (w.spawn argv).1.waited = w.waited := rfl
@[simp] theorem spawn_killed : (w.spawn argv).1.killed = w.killed := rfl
@[simp] theorem spawn_log : (w.spawn argv).1.log = w.log := rfl
@[simp] theorem spawn_handle : (w.spawn argv).2 = ⟨w.spawned.length, argv⟩ := rfl
@[simp] theorem wait_files : (w.wait h).files = w.files := rfl
@[simp] theorem wait_spawned : (w.wait h).spawned = w.spawned := rfl
@[simp] theorem wait_waited : (w.wait h).waited = w.waited ++ [h] := rfl
@[simp] theorem wait_killed : (w.wait h).killed = w.killed := rfl
@[simp] theorem wait_log : (w.wait h).log = w.log := rfl
@[simp] theorem kill_files : (w.kill pid).files = w.files := rfl
@[simp] theorem kill_spawned : (w.kill pid).spawned = w.spawned := rfl
@[simp] theorem kill_waited : (w.kill pid).waited = w.waited := rfl
@[simp] theorem kill_killed : (w.kill pid).killed = w.killed ++ [pid] := rfl
@[simp] theorem kill_log : (w.kill pid).log = w.log := rfl
@[simp] theorem logged_files : (w.logged r).files = w.files := rfl
@[simp] theorem logged_spawned : (w.logged r).spawned = w.spawned := rfl
@[simp] theorem logged_waited : (w.logged r).waited = w.waited := rfl
@[simp] theorem logged_killed : (w.logged r).killed = w.killed := rfl
@[simp] theorem logged_log : (w.logged r).log = w.log ++ [r] := rfl
@[simp] theorem spawn_alive : (w.spawn argv).1.alive = w.alive := rfl
@[simp] theorem wait_alive : (w.wait h).alive = w.alive := rfl
@[simp] theorem kill_alive : (w.kill pid).alive = w.alive := rfl
@[simp] theorem logged_alive : (w.logged r).alive = w.alive := rfl

@[simp] theorem exists_iff : w.exists f = true ↔ (w.files f).isSome := Iff.rfl

end World

end CrashSimulator
