import CrashSimulator.Model.Configuration
import CrashSimulator.Model.Matcher

/-!
# Waiting on the injectors, cleaning up, and the run as a whole

`wait_on_handles`, `cleanup`, `call_replay` and the `__main__` block (rreplay.py:357-494).
`call_replay` runs the stages in order, and any exception of a stage leaves the world as that
stage left it. The `__main__` block is a function of the result `main()` comes to: it exits
after a normal return, and on a `KeyboardInterrupt` or another `Exception` it runs `cleanup()`
and nothing else.

The exit status of an injector is the operator's business, not the program's: `wait_on_handles`
takes it as the function `status`.
-/

set_option autoImplicit false

namespace CrashSimulator

/-- The kill loop of `wait_on_handles` over the list `otherProcs`: its first statement formats
`s['other_procs'][i]` for the debug log, with the pid string `i` as the subscript; then
`os.kill(int(i), signal.SIGKILL)`, an `OSError` ignored. -/
def killOthers (otherProcs : List PyStr) : List PyStr → World → EStateM.Result PyError World Unit
  | [], w => .ok () w
  | i :: rest, w =>
    match getItem otherProcs (.str i) with
    | .error e => .error e w
    | .ok _ =>
      match pyInt i with
      | none => .error .valueError w
      | some pid => killOthers otherProcs rest (w.kill pid)

/-- The exit status `wait_on_handles` records for a subject, and the world after the wait: the
handle's status, or `-1` and an error log when there is no handle. -/
def awaitSubject (status : Handle → Int) (s : Subject) (w : World) : Int × World :=
  match s.handle with
  | some h => (status h, w.wait h)
  | none => (-1, w.logged (.noHandle s))

/-- `wait_on_handles(subjects)`, with `status h` the exit status `h.wait()` returns. -/
def waitOnHandles (status : Handle → Int) : List Subject → World → EStateM.Result PyError World Unit
  | [], w => .ok () w
  | s :: rest, w =>
    let (ret, w) := awaitSubject status s w
    match killOthers s.otherProcs s.otherProcs w with
    | .error e w => .error e w
    | .ok () w =>
      waitOnHandles status rest
        (if ret ≠ 0 then w.logged (.supervisorFailed s.event s.recPid) else w)

/-- `cleanup()`: `proc.out` and then the pipe unlinked, each if it exists. -/
def cleanup (w : World) : World :=
  let w := if w.exists PROC_FILE then w.unlink PROC_FILE else w
  if w.exists RR_PIPE then w.unlink RR_PIPE else w

/-- `call_replay(test_name, verbosity)`. `defaultConfigPath` is `consts.DEFAULT_CONFIG_PATH`,
not among the sources; `msgs` and `stop` are what `get_message` returns over the run, and
`status` the injectors' exit statuses. A missing test directory ends in `sys.exit(1)`. -/
def callReplay (defaultConfigPath testName : PyStr) (msgs : List PyStr) (stop : ChannelEnd)
    (status : Handle → Int) (w : World) : EStateM.Result PyError World Unit :=
  let w := cleanup w
  let testDir := defaultConfigPath ++ testName
  if !w.exists testDir then .error (.systemExit 1) w else
  match getConfiguration (testDir ++ "/config.ini".toList) w with
  | .error e w => .error e w
  | .ok (rrDir, subjects) w =>
    match createEventConfigurationFiles subjects w with
    | .error e w => .error e w
    | .ok () w =>
      match processMessages ⟨subjects, [], none, executeRr rrDir subjects w⟩ msgs stop with
      | .error e m => .error e m.world
      | .ok _ m =>
        match waitOnHandles status m.subjects m.world with
        | .error e w => .error e w
        | .ok () w => .ok () (cleanup w)

end CrashSimulator
