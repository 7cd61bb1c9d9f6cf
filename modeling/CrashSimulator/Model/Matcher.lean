import CrashSimulator.Model.World

/-!
# The matcher: `process_messages`

`process_messages` (rreplay.py:246-350) reads the messages rr writes into the pipe, one per
loop iteration, until `subjects_handled` is as long as the subject list. Each message is cut
at single spaces; the loop keeps `parts[0].strip()[:-1]`, `parts[2]` and `parts[4]` as the
decision, the event and the pid, and polls until the pid is alive, forever if it never is.
An `INJECT` pops the last subject of that event whose key is not handled yet, writes its
per-process state file and launches the injector on it. A `DONT_INJECT` appends the pid to
the `other_procs` of `s`, the local the last successful `INJECT` bound. Any other decision
does nothing.

The state of the loop is `Matcher`. The subject list is the list of dicts the loop mutates
in place; the local `s` is the position of the dict it is bound to. `Matcher.iterate_eq_ok`
and `Matcher.iterate_eq_error` say once what one iteration can do, and every later proof
starts from them.
-/

set_option autoImplicit false

namespace CrashSimulator

/-- The three fields the loop body reads from a message. -/
structure Fields where
  inject : PyStr
  event : PyStr
  pid : PyStr
  deriving DecidableEq, Repr

/-- The parse at the top of the loop body: `parts = message.split(' ')`,
`inject = parts[0].strip()[:-1]`, `event = parts[2]`, `pid = parts[4]`. -/
def parseMessage (message : PyStr) : Except PyError Fields := do
  let parts := message.splitOn ' '
  let part0 ← getItem parts (.int 0)
  let event ← getItem parts (.int 2)
  let pid ← getItem parts (.int 4)
  pure ⟨(strip part0).dropLast, event, pid⟩

/-- The state of the loop of `process_messages`: the subject dicts, `subjects_handled` (a set,
here a list without repetition), the local `s` (the position of the dict it is bound to,
`none` while unbound) and the world. -/
structure Matcher where
  subjects : List Subject
  handled : List (PyStr × PyStr)
  s : Option Nat
  world : World

namespace Matcher

/-- `subjects_for_event`: the subjects, with their positions and in list order, whose event
string is `event` and whose key is not in `subjects_handled`. -/
def subjectsForEvent (m : Matcher) (event : PyStr) : List (Nat × Subject) :=
  m.subjects.enum.filter fun (_, i) => i.event = event ∧ i.key ∉ m.handled

/-- `tmp['pid'] + '_' + eventwise_statefile`: the per-process state file name. -/
def pidUniqueStatefile (pid eventwiseStatefile : PyStr) : PyStr :=
  pid ++ "_".toList ++ eventwiseStatefile

/-- The path of the `INJECT` branch that launches an injector: `s`, at position `k`, is
marked handled; the document `tmp` loaded from its event-level state file is given the `pid`
and written to the per-process state file; the injector is launched on that file and its
handle stored in the subject. -/
def dispatch (m : Matcher) (k : Nat) (s : Subject) (tmp : StateDoc) (pid : PyStr) : Matcher :=
  let pidUnique := pidUniqueStatefile pid s.injectedStateFile
  let launched := (m.world.write pidUnique (.json { tmp with pid := some pid })).spawn
    (injectorArgv pidUnique)
  { subjects := m.subjects.modify (·.setHandle launched.2) k
    handled := m.handled.insert s.key
    s := some k
    world := launched.1 }

/-- The `INJECT` branch. With no candidate, `pop` raises `IndexError`, which the loop turns
into two warnings. Otherwise the last candidate is dispatched, its event-level state file
read with `json.load`: a missing file raises `IOError`, one that is not JSON `ValueError`,
both after the key was added to `subjects_handled`. `json.dump` of the document with its
`pid` raises `UnicodeDecodeError` when the pid is not UTF-8, once the per-process state file
is opened. -/
def inject (m : Matcher) (event pid : PyStr) : EStateM.Result PyError Matcher Unit :=
  match pop (m.subjectsForEvent event) with
  | .error _ => .ok () { m with world := (m.world.logged .extraProcess).logged .extraProcess }
  | .ok ((k, s), _) =>
    match m.world.files s.injectedStateFile with
    | some (.json tmp) =>
      if utf8Valid pid then .ok () (m.dispatch k s tmp pid)
      else .error .unicodeDecodeError
        { m with
          handled := m.handled.insert s.key
          world := m.world.write (pidUniqueStatefile pid s.injectedStateFile) .data }
    | some _ => .error .valueError { m with handled := m.handled.insert s.key }
    | none => .error .ioError { m with handled := m.handled.insert s.key }

/-- The `DONT_INJECT` branch: `s['other_procs'].append(pid)`, where `s` is the subject the
last successful `INJECT` took; before one, `s` is unbound and raises `UnboundLocalError`. -/
def dontInject (m : Matcher) (pid : PyStr) : EStateM.Result PyError Matcher Unit :=
  match m.s with
  | none => .error .unboundLocalError m
  | some k => .ok () { m with subjects := m.subjects.modify (·.addOther pid) k }

/-- One pass of the loop body on `message`. Between the parse and the branch,
`while not util.process_is_alive(pid)` polls the pid: it waits until the pid is alive, and
never ends when it is not. -/
def iterate (m : Matcher) (message : PyStr) : EStateM.Result PyError Matcher Unit :=
  match parseMessage message with
  | .error e => .error e m
  | .ok f =>
    if !m.world.alive f.pid then .error .hang m
    else if f.inject = "INJECT".toList then m.inject f.event f.pid
    else if f.inject = "DONT_INJECT".toList then m.dontInject f.pid
    else .ok () m

end Matcher

/-- What `get_message` does once the lines rr wrote are all read: return `''` on every call
(rr closed the pipe), or block until the operator interrupts. -/
inductive ChannelEnd where
  | closed
  | interrupted
  deriving DecidableEq, Repr

/-- The loop of `process_messages` over the messages `get_message` returns, in order: it runs
while `len(subjects_handled) < len(subjects)` and returns the messages it did not read. Past
the last line, `get_message` returns `''`, whose parse raises `IndexError`
(`Matcher.iterate_nil`), or the interrupt arrives while it blocks. -/
def processMessages (m : Matcher) (msgs : List PyStr) (stop : ChannelEnd) :
    EStateM.Result PyError Matcher (List PyStr) :=
  match msgs with
  | [] =>
    if m.handled.length < m.subjects.length then
      match stop with
      | .closed => .error .indexError m
      | .interrupted => .error .keyboardInterrupt m
    else .ok [] m
  | msg :: rest =>
    if m.handled.length < m.subjects.length then
      match m.iterate msg with
      | .ok () m' => processMessages m' rest stop
      | .error e m' => .error e m'
    else .ok msgs m

namespace Matcher

/-- The empty message `get_message` returns on a closed pipe raises `IndexError` at once. -/
theorem iterate_nil (m : Matcher) : m.iterate [] = .error .indexError m := rfl

/-! ## What one iteration can do -/

/-- A candidate is a subject of the list with that event string and an unhandled key. -/
theorem mem_subjectsForEvent {m : Matcher} {event : PyStr} {k : Nat} {s : Subject} :
    (k, s) ∈ m.subjectsForEvent event ↔
      m.subjects[k]? = some s ∧ s.event = event ∧ s.key ∉ m.handled := by
  simp [subjectsForEvent, List.mem_filter, List.mem_enum_iff_getElem?]

/-- There is no candidate exactly when every subject of that event is handled. -/
theorem subjectsForEvent_eq_nil {m : Matcher} {event : PyStr} :
    m.subjectsForEvent event = [] ↔ ∀ s ∈ m.subjects, s.event = event → s.key ∈ m.handled := by
  rw [List.eq_nil_iff_forall_not_mem]
  constructor
  · intro h s hs he
    obtain ⟨k, hk⟩ := List.mem_iff_getElem?.mp hs
    by_contra hn
    exact h (k, s) (mem_subjectsForEvent.mpr ⟨hk, he, hn⟩)
  · rintro h ⟨k, s⟩ hm
    obtain ⟨hk, he, hn⟩ := mem_subjectsForEvent.mp hm
    exact hn (h s (List.mem_iff_getElem?.mpr ⟨k, hk⟩) he)

section Dispatch

variable (m : Matcher) (k : Nat) (s : Subject) (tmp : StateDoc) (pid g : PyStr)

@[simp] theorem dispatch_subjects : (m.dispatch k s tmp pid).subjects =
    m.subjects.modify (·.setHandle
      ⟨m.world.spawned.length, injectorArgv (pidUniqueStatefile pid s.injectedStateFile)⟩) k :=
  rfl
@[simp] theorem dispatch_handled : (m.dispatch k s tmp pid).handled = m.handled.insert s.key :=
  rfl
@[simp] theorem dispatch_s : (m.dispatch k s tmp pid).s = some k := rfl
@[simp] theorem dispatch_files : (m.dispatch k s tmp pid).world.files g =
    if g = pidUniqueStatefile pid s.injectedStateFile then some (.json { tmp with pid := some pid })
    else m.world.files g := rfl
@[simp] theorem dispatch_spawned : (m.dispatch k s tmp pid).world.spawned =
    m.world.spawned ++ [injectorArgv (pidUniqueStatefile pid s.injectedStateFile)] := rfl
@[simp] theorem dispatch_waited : (m.dispatch k s tmp pid).world.waited = m.world.waited := rfl
@[simp] theorem dispatch_killed : (m.dispatch k s tmp pid).world.killed = m.world.killed := rfl
@[simp] theorem dispatch_log : (m.dispatch k s tmp pid).world.log = m.world.log := rfl
@[simp] theorem dispatch_alive : (m.dispatch k s tmp pid).world.alive = m.world.alive := rfl

end Dispatch

/-- An `INJECT` that returns either found no candidate and only logged, or dispatched a
candidate whose event-level state file holds a JSON document, with a UTF-8 pid. -/
theorem inject_eq_ok {m m' : Matcher} {event pid : PyStr} (h : m.inject event pid = .ok () m') :
    (m.subjectsForEvent event = [] ∧
      m' = { m with world := (m.world.logged .extraProcess).logged .extraProcess }) ∨
    ∃ k s tmp, (k, s) ∈ m.subjectsForEvent event ∧
      m.world.files s.injectedStateFile = some (.json tmp) ∧ utf8Valid pid = true ∧
      m' = m.dispatch k s tmp pid := by
  unfold inject at h
  split at h
  · cases h
    exact .inl ⟨pop_eq_error ‹_›, rfl⟩
  · rename_i k s _ hpop
    split at h <;> try split_ifs at h
    all_goals cases h
    exact .inr ⟨k, s, _, mem_of_pop_eq_ok hpop, ‹_›, ‹_›, rfl⟩

/-- An `INJECT` that raises has changed neither a subject nor `s`; of the world, it has at
most written a per-process state file, and only for a pid that is not UTF-8. -/
theorem inject_eq_error {m m' : Matcher} {event pid : PyStr} {e : PyError}
    (h : m.inject event pid = .error e m') :
    m'.subjects = m.subjects ∧ m'.s = m.s ∧
      (m'.world = m.world ∨ utf8Valid pid = false ∧ ∃ g, m'.world = m.world.write g .data) := by
  unfold inject at h
  split at h
  · cases h
  · split at h <;> try split_ifs at h with hu
    all_goals cases h
    · exact ⟨rfl, rfl, .inr ⟨by simpa using hu, _, rfl⟩⟩
    all_goals exact ⟨rfl, rfl, .inl rfl⟩

/-- A `DONT_INJECT` that returns appended its pid to the subject `s` is bound to. -/
theorem dontInject_eq_ok {m m' : Matcher} {pid : PyStr} (h : m.dontInject pid = .ok () m') :
    ∃ k, m.s = some k ∧ m' = { m with subjects := m.subjects.modify (·.addOther pid) k } := by
  unfold dontInject at h
  split at h <;> cases h
  exact ⟨_, ‹_›, rfl⟩

/-- A `DONT_INJECT` raises only while `s` is unbound, and then changes nothing. -/
theorem dontInject_eq_error {m m' : Matcher} {pid : PyStr} {e : PyError}
    (h : m.dontInject pid = .error e m') : m.s = none ∧ m' = m := by
  unfold dontInject at h
  split at h <;> cases h
  exact ⟨‹_›, rfl⟩

/-- One iteration that returns parsed its message, found its pid alive and took the branch
its decision names. -/
theorem iterate_eq_ok {m m' : Matcher} {message : PyStr} (h : m.iterate message = .ok () m') :
    ∃ f, parseMessage message = .ok f ∧ m.world.alive f.pid = true ∧
      ((f.inject = "INJECT".toList ∧ m.inject f.event f.pid = .ok () m') ∨
       (f.inject = "DONT_INJECT".toList ∧ m.dontInject f.pid = .ok () m') ∨
       (f.inject ≠ "INJECT".toList ∧ f.inject ≠ "DONT_INJECT".toList ∧ m' = m)) := by
  unfold iterate at h
  split at h
  · cases h
  · rename_i f hf
    cases h0 : m.world.alive f.pid
    · simp [h0] at h
    refine ⟨f, hf, h0, ?_⟩
    simp only [h0, Bool.not_true, Bool.false_eq_true, if_false] at h
    split_ifs at h with h1 h2
    · exact .inl ⟨h1, h⟩
    · exact .inr (.inl ⟨h2, h⟩)
    · cases h
      exact .inr (.inr ⟨h1, h2, rfl⟩)

/-- An iteration that raises has changed neither a subject nor `s`; of the world, it has at
most written a per-process state file, for a pid that is not UTF-8. -/
theorem iterate_eq_error {m m' : Matcher} {message : PyStr} {e : PyError}
    (h : m.iterate message = .error e m') :
    m'.subjects = m.subjects ∧ m'.s = m.s ∧
      (m'.world = m.world ∨ ∃ f, parseMessage message = .ok f ∧ utf8Valid f.pid = false ∧
        ∃ g, m'.world = m.world.write g .data) := by
  unfold iterate at h
  split at h
  · cases h
    exact ⟨rfl, rfl, .inl rfl⟩
  · rename_i f hf
    split_ifs at h
    · cases h
      exact ⟨rfl, rfl, .inl rfl⟩
    · obtain ⟨h1, h2, hw | ⟨hu, hw⟩⟩ := inject_eq_error h
      · exact ⟨h1, h2, .inl hw⟩
      · exact ⟨h1, h2, .inr ⟨f, hf, hu, hw⟩⟩
    · obtain ⟨-, rfl⟩ := dontInject_eq_error h
      exact ⟨rfl, rfl, .inl rfl⟩

/-- The poll on a pid that is not alive never ends: the iteration hangs, having changed
nothing. -/
theorem iterate_eq_hang {m : Matcher} {message : PyStr} {f : Fields}
    (hf : parseMessage message = .ok f) (ha : m.world.alive f.pid = false) :
    m.iterate message = .error .hang m := by
  simp [iterate, hf, ha]

/-- An iteration that returns keeps which pids are alive. -/
theorem iterate_alive {m m' : Matcher} {message : PyStr} (h : m.iterate message = .ok () m') :
    m'.world.alive = m.world.alive := by
  obtain ⟨f, -, -, ⟨-, hi⟩ | ⟨-, hd⟩ | ⟨-, -, rfl⟩⟩ := iterate_eq_ok h
  · rcases inject_eq_ok hi with ⟨-, rfl⟩ | ⟨k, s, tmp, -, -, -, rfl⟩ <;> rfl
  · obtain ⟨k, -, rfl⟩ := dontInject_eq_ok hd
    rfl
  · rfl

end Matcher

/-! ## The loop -/

/-- The loop returns at once when `subjects_handled` is as long as the subject list. -/
theorem processMessages_done {m : Matcher} (h : ¬m.handled.length < m.subjects.length)
    (msgs : List PyStr) (stop : ChannelEnd) : processMessages m msgs stop = .ok msgs m := by
  cases msgs <;> simp [processMessages, h]

/-- An iteration that returns hands the loop on to the next message. -/
theorem processMessages_cons_ok {m m' : Matcher} {msg : PyStr}
    (hg : m.handled.length < m.subjects.length) (h : m.iterate msg = .ok () m')
    (rest : List PyStr) (stop : ChannelEnd) :
    processMessages m (msg :: rest) stop = processMessages m' rest stop := by
  simp [processMessages, hg, h]

/-- A property that every iteration on an allowed message keeps, whether it returns or
raises, holds of the state the loop ends in, on allowed messages. -/
theorem processMessages_induction (allowed : PyStr → Prop) (P : Matcher → Prop)
    (hok : ∀ m msg m', allowed msg → m.handled.length < m.subjects.length → P m →
      m.iterate msg = .ok () m' → P m')
    (herr : ∀ m msg e m', allowed msg → P m → m.iterate msg = .error e m' → P m') :
    ∀ (m : Matcher) (msgs : List PyStr) (stop : ChannelEnd), (∀ msg ∈ msgs, allowed msg) → P m →
      P (endState (processMessages m msgs stop))
  | m, [], stop, _, hm => by
    unfold processMessages
    split_ifs <;> [cases stop <;> exact hm; exact hm]
  | m, msg :: rest, stop, ha, hm => by
    have hmsg := ha msg (List.mem_cons_self _ _)
    unfold processMessages
    split_ifs with hg
    · split
      · exact processMessages_induction allowed P hok herr _ rest stop
          (fun x hx => ha x (List.mem_cons_of_mem _ hx)) (hok m msg _ hmsg hg hm ‹_›)
      · exact herr m msg _ _ hmsg hm ‹_›
    · exact hm

/-- A property that every returning iteration keeps holds of the state a returning loop
ends in. -/
theorem processMessages_ok_induction (P : Matcher → Prop)
    (hok : ∀ m msg m', m.handled.length < m.subjects.length → P m →
      m.iterate msg = .ok () m' → P m') :
    ∀ {m m' : Matcher} {msgs rest : List PyStr} {stop : ChannelEnd},
      processMessages m msgs stop = .ok rest m' → P m → P m'
  | m, m', [], rest, stop, h, hm => by
    unfold processMessages at h
    split_ifs at h
    · cases stop <;> cases h
    · cases h
      exact hm
  | m, m', msg :: more, rest, stop, h, hm => by
    unfold processMessages at h
    split_ifs at h with hg
    · split at h
      · exact processMessages_ok_induction P hok h (hok m msg _ hg hm ‹_›)
      · cases h
    · cases h
      exact hm

end CrashSimulator
