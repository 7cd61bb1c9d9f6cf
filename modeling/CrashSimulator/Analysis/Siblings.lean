import CrashSimulator.Analysis.Matching

/-!
# Where the pids of the `DONT_INJECT` lines go

rr announces a process set by an `INJECT` line for the process it picked, then a
`DONT_INJECT` line for each other process of the set. The `DONT_INJECT` branch appends the
line's pid to `s`, the subject the last dispatching `INJECT` bound, whatever event the line
names; and the loop stops as soon as every subject has a handle.

So on a stream cut into `Block`s, one per subject in any order, each an `INJECT` for the
subject's event followed by `DONT_INJECT`s, all of live pids: every subject is dispatched by
exactly one block, and gets the pids of that block's `DONT_INJECT`s, in order, except for the
last block, whose `DONT_INJECT`s are left unread and land in no `other_procs`
(`process_messages_sibling_pids`). A `DONT_INJECT` before any `INJECT` raises
`UnboundLocalError`. `process_messages_trailing_sibling` runs both on the smallest stream:
one subject, one `INJECT` and one `DONT_INJECT`, in either order.

What the loop does read is kept whole: on any stream of the protocol read to its end, every
`other_procs` only grows, and the pids of the `DONT_INJECT` lines read are all recorded, each
once (`process_messages_siblings_conserved`), because `s`, once bound, is always the position
of a subject (`Matcher.SiblingsKept`).
-/

set_option autoImplicit false

namespace CrashSimulator

/-- A block of the stream: an `INJECT` line, then the `DONT_INJECT` lines of the other
processes of its process set. -/
structure Block where
  leader : Notification
  leader_inject : leader.decision = .inject
  siblings : List Notification
  siblings_dontInject : ∀ n ∈ siblings, n.decision = .dontInject

namespace Block

/-- The lines of a block, as rr writes them. -/
def lines (b : Block) : List PyStr := b.leader.render :: b.siblings.map Notification.render

/-- The pids of the block's `DONT_INJECT` lines. -/
def siblingPids (b : Block) : List PyStr := b.siblings.map (·.pid.digits)

/-- The pids of all the block's lines, which the loop polls in turn. -/
def pids (b : Block) : List PyStr := b.leader.pid.digits :: b.siblingPids

end Block

/-- `s` with `pids` appended to its `other_procs`. -/
def Subject.addOthers (s : Subject) (pids : List PyStr) : Subject :=
  { s with otherProcs := s.otherProcs ++ pids }

namespace Subject

@[simp] theorem addOthers_key (s : Subject) (pids : List PyStr) : (s.addOthers pids).key = s.key :=
  rfl
@[simp] theorem addOthers_handle (s : Subject) (pids : List PyStr) :
    (s.addOthers pids).handle = s.handle := rfl
@[simp] theorem addOthers_injectedStateFile (s : Subject) (pids : List PyStr) :
    (s.addOthers pids).injectedStateFile = s.injectedStateFile := rfl
@[simp] theorem addOthers_pendingEvent (s : Subject) (pids : List PyStr) :
    (s.addOthers pids).pendingEvent = s.pendingEvent := rfl
@[simp] theorem addOthers_nil (s : Subject) : s.addOthers [] = s := by simp [addOthers]
theorem addOther_addOthers (s : Subject) (pid : PyStr) (pids : List PyStr) :
    (s.addOther pid).addOthers pids = s.addOthers (pid :: pids) := by
  simp [addOthers, addOther]

end Subject

/-- How a subject of the start ends up once the blocks `bs` are read: dispatched by a block
`j` whose `INJECT` names its event, as the `j`-th injector launched after the `n0` launched
before, with the pids of that block's `DONT_INJECT`s appended to its `other_procs`, except
for the last block, whose `DONT_INJECT`s are not read. -/
def Served (bs : List Block) (n0 : Nat) (s s' : Subject) : Prop :=
  ∃ j b, bs[j]? = some b ∧ s.event = b.leader.event.digits ∧
    s' = (s.setHandle ⟨n0 + j, injectorArgv
      (Matcher.pidUniqueStatefile b.leader.pid.digits s.injectedStateFile)⟩).addOthers
      (if j + 1 = bs.length then [] else b.siblingPids)

/-- A subject of the start part way through the blocks: untouched and without a handle, or
served. -/
def ServedOrWaiting (bs : List Block) (n0 : Nat) (s s' : Subject) : Prop :=
  (s' = s ∧ s.handle = none) ∨ Served bs n0 s s'

/-- The position among the launched processes of a subject's injector, once it has one. -/
def Subject.handleIndex (s : Subject) : Option Nat := s.handle.map Handle.index

/-- The pid a line of the protocol hands to the siblings: a `DONT_INJECT` line's. -/
def Notification.siblingPid (n : Notification) : Option PyStr :=
  match n.decision with
  | .dontInject => some n.pid.digits
  | .inject => none

/-- The pid any line read by the loop hands to the siblings: a `DONT_INJECT` line's. -/
def lineSiblingPid (msg : PyStr) : Option PyStr :=
  match parseMessage msg with
  | .ok f => if f.inject = "DONT_INJECT".toList then some f.pid else none
  | .error _ => none

/-- On a line of the protocol it is the notification's sibling pid. -/
theorem lineSiblingPid_render (n : Notification) : lineSiblingPid n.render = n.siblingPid := by
  cases hd : n.decision <;> simp [lineSiblingPid, parseMessage_render, hd,
    Notification.siblingPid, Decision.keyword]

/-- INTERNAL: an edit of an entry that adds `extra` to the entry's image under `g` adds
`extra` to the concatenated images, up to order. -/
theorem flatMap_modify_perm {α β : Type} (f : α → α) (g : α → List β) (extra : List β)
    (hg : ∀ x, g (f x) = g x ++ extra) :
    ∀ (l : List α) (k : Nat), k < l.length →
      ((l.modify f k).flatMap g).Perm (l.flatMap g ++ extra)
  | [], _, h => absurd h (Nat.not_lt_zero _)
  | x :: xs, 0, _ => by
    rw [List.modify_zero_cons, List.flatMap_cons, List.flatMap_cons, hg, List.append_assoc,
      List.append_assoc]
    exact List.perm_append_comm.append_left _
  | x :: xs, k + 1, h => by
    rw [List.modify_succ_cons, List.flatMap_cons, List.flatMap_cons, List.append_assoc]
    exact (flatMap_modify_perm f g extra hg xs k (by simpa using h)).append_left _

/-- What the loop keeps of the siblings of the subjects `s0` it started on: `s` is unbound or
the position of a subject, and every subject's `other_procs` only grows. -/
structure Matcher.SiblingsKept (s0 : List Subject) (m : Matcher) : Prop where
  s_lt : ∀ k, m.s = some k → k < m.subjects.length
  grows : List.Forall₂ (fun s s' => s.otherProcs <+: s'.otherProcs) s0 m.subjects

namespace Matcher.SiblingsKept

variable {s0 : List Subject} {m m' : Matcher}

/-- One returning iteration on any line keeps the record, and adds the line's sibling pid, if
it has one, to the `other_procs` of exactly one subject. -/
theorem iterate {msg : PyStr} (h : m.SiblingsKept s0) (hit : m.iterate msg = .ok () m') :
    m'.SiblingsKept s0 ∧ (m'.subjects.flatMap Subject.otherProcs).Perm
      (m.subjects.flatMap Subject.otherProcs ++ (lineSiblingPid msg).toList) := by
  obtain ⟨f, hf, -, ⟨hd, hit⟩ | ⟨hd, hit⟩ | ⟨-, hd, rfl⟩⟩ := Matcher.iterate_eq_ok hit
  · have hsp : lineSiblingPid msg = none := by simp [lineSiblingPid, hf, hd]
    rw [hsp, Option.toList_none, List.append_nil]
    rcases Matcher.inject_eq_ok hit with ⟨-, rfl⟩ | ⟨k, s, tmp, hc, -, -, rfl⟩
    · exact ⟨⟨h.s_lt, h.grows⟩, List.Perm.refl _⟩
    · have hlt : k < m.subjects.length :=
        (List.getElem?_eq_some_iff.1 (Matcher.mem_subjectsForEvent.1 hc).1).1
      refine ⟨⟨fun j hj => ?_, forall₂_modify_right h.grows (fun _ _ _ hr => hr)
        fun _ _ _ _ hr => by simpa using hr⟩, ?_⟩
      · obtain rfl : k = j := by simpa using hj
        simpa using hlt
      · simpa using flatMap_modify_perm _ Subject.otherProcs [] (fun x => by simp) _ k hlt
  · have hsp : lineSiblingPid msg = some f.pid := by simp [lineSiblingPid, hf, hd]
    rw [hsp, Option.toList_some]
    obtain ⟨k, hs, rfl⟩ := Matcher.dontInject_eq_ok hit
    refine ⟨⟨fun j hj => by simpa using h.s_lt j hj, forall₂_modify_right h.grows
      (fun _ _ _ hr => hr) fun _ _ _ _ hr => hr.trans (List.prefix_append _ _)⟩, ?_⟩
    exact flatMap_modify_perm _ Subject.otherProcs _ (fun _ => rfl) _ k (h.s_lt k hs)
  · have hsp : lineSiblingPid msg = none := by simp only [lineSiblingPid, hf, hd, if_false]
    rw [hsp, Option.toList_none, List.append_nil]
    exact ⟨h, List.Perm.refl _⟩

/-- A loop that returns has read a prefix of its lines, and added the pid of every
`DONT_INJECT` line among them, each once, to the `other_procs`. -/
theorem processMessages_lines {stop : ChannelEnd} :
    ∀ {m m' : Matcher} {msgs rest : List PyStr}, m.SiblingsKept s0 →
      CrashSimulator.processMessages m msgs stop = .ok rest m' →
      ∃ read, msgs = read ++ rest ∧ m'.SiblingsKept s0 ∧
        (m'.subjects.flatMap Subject.otherProcs).Perm
          (m.subjects.flatMap Subject.otherProcs ++ read.filterMap lineSiblingPid)
  | m, m', [], rest, h, hpm => by
    unfold CrashSimulator.processMessages at hpm
    split_ifs at hpm
    · cases stop <;> cases hpm
    · cases hpm
      exact ⟨[], rfl, h, by simp⟩
  | m, m', msg :: more, rest, h, hpm => by
    unfold CrashSimulator.processMessages at hpm
    split_ifs at hpm
    · split at hpm
      · obtain ⟨h1, hp1⟩ := h.iterate ‹_›
        obtain ⟨read, rfl, h2, hp2⟩ := processMessages_lines h1 hpm
        refine ⟨msg :: read, rfl, h2, hp2.trans ?_⟩
        rw [filterMap_cons_toList, ← List.append_assoc]
        exact hp1.append_right _
      · cases hpm
    · cases hpm
      exact ⟨[], rfl, h, by simp⟩

/-- A loop that reads the lines of `ns` to their end and returns keeps the record, and has
added the pid of every `DONT_INJECT` line among them, each once, to the `other_procs`. -/
theorem processMessages {rest : List PyStr} {stop : ChannelEnd} {m m' : Matcher}
    (ns : List Notification) (h : m.SiblingsKept s0)
    (hpm : CrashSimulator.processMessages m (ns.map Notification.render ++ rest) stop =
      .ok rest m') :
    m'.SiblingsKept s0 ∧ (m'.subjects.flatMap Subject.otherProcs).Perm
      (m.subjects.flatMap Subject.otherProcs ++ ns.filterMap Notification.siblingPid) := by
  obtain ⟨read, hread, h', hp⟩ := h.processMessages_lines hpm
  obtain rfl := List.append_cancel_right hread
  refine ⟨h', ?_⟩
  simpa [List.filterMap_map, Function.comp_def, lineSiblingPid_render] using hp

end Matcher.SiblingsKept

namespace Matcher

/-- INTERNAL: while the loop goes on, the `DONT_INJECT` lines after a dispatch, for live pids,
append their pids, in order, to the subject `s` is bound to.
SOURCE: rreplay.py:345-350 -/
theorem processMessages_siblings :
    ∀ (m : Matcher) {k : Nat} (sibs : List Notification) (more : List PyStr) (stop : ChannelEnd),
      m.s = some k → (∀ n ∈ sibs, n.decision = .dontInject) →
      (∀ n ∈ sibs, m.world.alive n.pid.digits = true) →
      m.handled.length < m.subjects.length →
      processMessages m (sibs.map Notification.render ++ more) stop =
        processMessages
          { m with subjects := m.subjects.modify (·.addOthers (sibs.map (·.pid.digits))) k }
          more stop
  | m, k, [], more, stop, _, _, _, _ => by
    have hid : m.subjects.modify (fun x => x) k = m.subjects := List.modify_id k m.subjects
    simp [hid]
  | m, k, n :: sibs, more, stop, hs, hd, ha, hg => by
    have hit : m.iterate n.render =
        .ok () { m with subjects := m.subjects.modify (·.addOther n.pid.digits) k } := by
      rw [iterate_render _ _ (ha n (List.mem_cons_self _ _)), hd n (List.mem_cons_self _ _)]
      simp [dontInject, hs]
    rw [List.map_cons, List.cons_append, processMessages_cons_ok hg hit,
      processMessages_siblings { m with subjects := m.subjects.modify (·.addOther n.pid.digits) k }
        sibs more stop hs (fun n' h => hd n' (List.mem_cons_of_mem _ h))
        (fun n' h => ha n' (List.mem_cons_of_mem _ h)) (by simpa using hg)]
    simp [List.modify_modify_eq, Function.comp_def, Subject.addOther_addOthers]

/-- INTERNAL: the `INJECT` of a block whose event is pending, for a live pid, dispatches a
candidate, and the loop goes on to the block's `DONT_INJECT` lines.
SOURCE: rreplay.py:287-344 -/
theorem Inv.processMessages_leader {m : Matcher} (hi : m.Inv) (b : Block)
    (hb : b.leader.event.digits ∈ m.pending) (ha : m.world.alive b.leader.pid.digits = true)
    (more : List PyStr) (stop : ChannelEnd) :
    ∃ k s tmp, (k, s) ∈ m.subjectsForEvent b.leader.event.digits ∧
      processMessages m (b.lines ++ more) stop =
        processMessages (m.dispatch k s tmp b.leader.pid.digits)
          (b.siblings.map Notification.render ++ more) stop := by
  obtain ⟨k, s, tmp, hc, hinject⟩ := hi.inject_eq_dispatch b.leader.pid.utf8Valid_digits hb
  have hit : m.iterate b.leader.render = .ok () (m.dispatch k s tmp b.leader.pid.digits) := by
    rw [iterate_render _ _ ha, b.leader_inject]
    exact hinject
  have hg : m.handled.length < m.subjects.length :=
    hi.guard_iff.2 (by obtain ⟨t, ht, hn, -⟩ := mem_pending.1 hb; exact ⟨t, ht, hn⟩)
  exact ⟨k, s, tmp, hc, by rw [Block.lines, List.cons_append, processMessages_cons_ok hg hit]⟩

/-- INTERNAL: the dispatched subject of a block is served by it, and the others stay as they
were, once its `DONT_INJECT` pids `pids` are appended.
SOURCE: rreplay.py:327-350 -/
theorem forall₂_servedOrWaiting_dispatch {bs pre todo : List Block} {b : Block} {n0 : Nat}
    {s0 : List Subject} {m : Matcher} {k : Nat} {s : Subject}
    (hbs : bs = pre ++ b :: todo) (hn0 : m.world.spawned.length = n0 + pre.length) (hi : m.Inv)
    (hc : (k, s) ∈ m.subjectsForEvent b.leader.event.digits) (tmp : StateDoc)
    (hrel : List.Forall₂ (ServedOrWaiting bs n0) s0 m.subjects) :
    List.Forall₂ (ServedOrWaiting bs n0) s0
      ((m.dispatch k s tmp b.leader.pid.digits).subjects.modify
        (·.addOthers (if todo.isEmpty then [] else b.siblingPids)) k) := by
  obtain ⟨hk, hse, hsn⟩ := hi.mem_subjectsForEvent.1 hc
  rw [dispatch_subjects, List.modify_modify_eq]
  refine forall₂_modify_right hrel (fun _ _ _ h => h) fun a t _ ht hr => .inr ?_
  obtain rfl : t = s := Option.some.inj (ht.symm.trans hk)
  obtain ⟨rfl, -⟩ : t = a ∧ a.handle = none := by
    rcases hr with h | ⟨j, b', -, -, rfl⟩
    · exact h
    · simp at hsn
  refine ⟨pre.length, b, by rw [hbs, List.getElem?_append_right (le_refl _)]; simp, hse, ?_⟩
  cases todo <;> simp [hbs, hn0, Function.comp_def]

/-- INTERNAL: with no event pending, the loop reads no message, and every subject that was
waiting for its block has been served.
SOURCE: rreplay.py:287-288 -/
theorem Inv.processMessages_served {m : Matcher} {bs : List Block} {n0 : Nat}
    {s0 : List Subject} (hi : m.Inv) (hp : m.pending = [])
    (hrel : List.Forall₂ (ServedOrWaiting bs n0) s0 m.subjects) (msgs : List PyStr)
    (stop : ChannelEnd) :
    processMessages m msgs stop = .ok msgs m ∧ List.Forall₂ (Served bs n0) s0 m.subjects := by
  have hall : ∀ s ∈ m.subjects, s.handle.isSome := by
    simpa [pending, Subject.pendingEvent_eq_none] using hp
  refine ⟨(hi.processMessages_eq_self_iff msgs stop).2 hall, forall₂_imp_of_right ?_ hrel hall⟩
  rintro s s' (⟨rfl, hn⟩ | h) hs'
  · simp [hn] at hs'
  · exact h

/-- INTERNAL: the blocks `todo`, for live pids, read from a state where the blocks `pre`
before them are read, serve every subject of the start, and leave the last block's
`DONT_INJECT`s unread.
SOURCE: rreplay.py:287-350 -/
theorem Inv.processMessages_blocks (bs : List Block) (n0 : Nat) (s0 : List Subject)
    (rest : List PyStr) (stop : ChannelEnd) :
    ∀ (todo pre : List Block) (m : Matcher), bs = pre ++ todo → m.Inv →
      (∀ b ∈ todo, ∀ p ∈ b.pids, m.world.alive p = true) →
      (todo.map (·.leader.event.digits)).Perm m.pending →
      m.world.spawned.length = n0 + pre.length →
      (m.subjects.filterMap Subject.handleIndex).Perm (List.range' n0 pre.length) →
      List.Forall₂ (ServedOrWaiting bs n0) s0 m.subjects →
      ∃ m', processMessages m (todo.flatMap Block.lines ++ rest) stop =
          .ok ((todo.getLast?.map fun b => b.siblings.map Notification.render).getD [] ++ rest) m' ∧
        (m'.subjects.filterMap Subject.handleIndex).Perm (List.range' n0 bs.length) ∧
        List.Forall₂ (Served bs n0) s0 m'.subjects
  | [], pre, m, hbs, hi, _, hp, _, hidx, hrel => by
    obtain ⟨hret, hserved⟩ := hi.processMessages_served hp.symm.eq_nil hrel rest stop
    exact ⟨m, by simpa using hret, by simpa [hbs] using hidx, hserved⟩
  | b :: todo, pre, m, hbs, hi, ha, hp, hn0, hidx, hrel => by
    have hb : b.leader.event.digits ∈ m.pending := hp.subset (List.mem_cons_self _ _)
    have hab : ∀ p ∈ b.pids, m.world.alive p = true := ha b (List.mem_cons_self _ _)
    obtain ⟨k, s, tmp, hc, hstep⟩ := hi.processMessages_leader b hb
      (hab _ (List.mem_cons_self _ _)) (todo.flatMap Block.lines ++ rest) stop
    have hi1 := hi.dispatch hc tmp b.leader.pid.digits
    have hp1 : (todo.map (·.leader.event.digits)).Perm
        (m.dispatch k s tmp b.leader.pid.digits).pending :=
      List.Perm.cons_inv (hp.trans ((hi.pending_dispatch hc tmp _).symm.trans
        (List.perm_append_singleton _ _)))
    have hidx1 : ((m.dispatch k s tmp b.leader.pid.digits).subjects.filterMap
        Subject.handleIndex).Perm (List.range' n0 (pre.length + 1)) := by
      obtain ⟨hk, -, hsn⟩ := hi.mem_subjectsForEvent.1 hc
      have := filterMap_modify_perm (·.setHandle ⟨m.world.spawned.length,
        injectorArgv (pidUniqueStatefile b.leader.pid.digits s.injectedStateFile)⟩)
        Subject.handleIndex hk
      simp only [Subject.handleIndex, hsn, Subject.setHandle_handle, Option.map_none',
        Option.map_some', Option.toList_none, Option.toList_some, List.append_nil] at this
      rw [dispatch_subjects, List.range'_1_concat, ← hn0]
      exact this.trans (hidx.append_right _)
    have hrel1 := forall₂_servedOrWaiting_dispatch hbs hn0 hi hc tmp hrel
    rw [List.flatMap_cons, List.append_assoc, hstep]
    cases todo with
    | nil =>
      have hid : ∀ l : List Subject, l.modify (fun x => x) k = l := fun l => List.modify_id k l
      simp only [List.isEmpty_nil, if_true, Subject.addOthers_nil, hid] at hrel1
      obtain ⟨hret, hserved⟩ := hi1.processMessages_served hp1.symm.eq_nil hrel1 _ stop
      exact ⟨_, by simpa using hret, by simpa [hbs] using hidx1, hserved⟩
    | cons c todo' =>
      simp only [List.isEmpty_cons, Bool.false_eq_true, if_false] at hrel1
      have hc1 : c.leader.event.digits ∈ (m.dispatch k s tmp b.leader.pid.digits).pending :=
        hp1.subset (List.mem_cons_self _ _)
      have hg1 := hi1.guard_iff.2
        (by obtain ⟨t, ht, hn, -⟩ := mem_pending.1 hc1; exact ⟨t, ht, hn⟩)
      rw [processMessages_siblings _ b.siblings _ stop (dispatch_s ..) b.siblings_dontInject
          (fun n hn => by simpa using hab _ (List.mem_cons_of_mem _ (List.mem_map_of_mem _ hn)))
          hg1, List.getLast?_cons_cons]
      exact processMessages_blocks bs n0 s0 rest stop (c :: todo') (pre ++ [b])
        { m.dispatch k s tmp b.leader.pid.digits with
          subjects := (m.dispatch k s tmp b.leader.pid.digits).subjects.modify
            (·.addOthers b.siblingPids) k }
        (by simp [hbs])
        (hi1.modify_subject (·.addOthers b.siblingPids) (fun _ => rfl) (fun _ => rfl)
          (fun _ => rfl) k)
        (fun b' hb' => by simpa using ha b' (List.mem_cons_of_mem _ hb'))
        (by simpa [pending, filterMap_modify_of_comp (·.addOthers b.siblingPids)
              Subject.pendingEvent (fun x => Subject.addOthers_pendingEvent x _)] using hp1)
        (by simp [hn0, Nat.add_assoc])
        (by simpa [filterMap_modify_of_comp (·.addOthers b.siblingPids) Subject.handleIndex
              (fun x => rfl)] using hidx1)
        hrel1

end Matcher

namespace Analysis

/-- Over subjects with distinct keys, none dispatched, whose event-level state files are JSON
documents, and a stream of blocks for live pids, one per subject in any order, each an
`INJECT` for the subject's event followed by any number of `DONT_INJECT`s, then any lines at
all: the loop returns after the `INJECT` of the last block, leaving that block's
`DONT_INJECT`s and the rest unread. By then the `j`-th block has dispatched exactly one
subject, of its event, as the `j`-th injector launched, and that subject's `other_procs` has
the pids of the block's `DONT_INJECT`s appended in order, whatever events those lines name;
the last block's pids are in no `other_procs`. A stream that starts with a `DONT_INJECT` for
a live pid raises `UnboundLocalError` at once. -/
theorem process_messages_sibling_pids (subjects : List Subject) (w : World)
    (hkeys : (subjects.map Subject.key).Nodup) (hnone : ∀ s ∈ subjects, s.handle = none)
    (hfiles : ∀ s ∈ subjects, ∃ tmp, w.files s.injectedStateFile = some (.json tmp))
    (stop : ChannelEnd) :
    (∀ (bs : List Block) (rest : List PyStr),
      (bs.map (·.leader.event.digits)).Perm (subjects.map Subject.event) →
      (∀ b ∈ bs, ∀ p ∈ b.pids, w.alive p = true) →
      ∃ m, processMessages (Matcher.start subjects w) (bs.flatMap Block.lines ++ rest) stop =
          .ok ((bs.getLast?.map fun b => b.siblings.map Notification.render).getD [] ++ rest) m ∧
        (m.subjects.filterMap Subject.handleIndex).Perm (List.range' w.spawned.length bs.length) ∧
        List.Forall₂ (Served bs w.spawned.length) subjects m.subjects) ∧
    ∀ (n : Notification) (more : List PyStr), n.decision = .dontInject →
      w.alive n.pid.digits = true → subjects ≠ [] →
      processMessages (Matcher.start subjects w) (n.render :: more) stop =
        .error .unboundLocalError (Matcher.start subjects w) := by
  refine ⟨fun bs rest hp ha => ?_, fun n more hd ha hne => ?_⟩
  · exact (Matcher.inv_start hkeys hnone hfiles).processMessages_blocks bs w.spawned.length
      subjects rest stop bs [] _ rfl ha (by rwa [Matcher.start_pending w hnone]) rfl
      (by simpa [Matcher.start, Subject.handleIndex] using hnone)
      (List.forall₂_same.2 fun s hs => .inl ⟨rfl, hnone s hs⟩)
  · have hit : (Matcher.start subjects w).iterate n.render =
        .error .unboundLocalError (Matcher.start subjects w) := by
      rw [Matcher.iterate_render _ _ ha, hd]
      rfl
    have hg : 0 < subjects.length := List.length_pos.2 hne
    simp [processMessages, Matcher.start, hg] at hit ⊢
    simp [hit]

/-- Two subjects, of events 5 and 7, and the blocks `INJECT 5 (4242)`, `DONT_INJECT 5
(4243)` and `INJECT 7 (4250)`: the loop reads the three lines and serves both subjects, the
sibling 4243 going to the subject of event 5. -/
theorem process_messages_two_blocks :
    let a : Subject :=
      { event := "5".toList, recPid := "100".toList, traceFile := "t.bin".toList,
        traceStart := "0".toList, traceEnd := "10".toList, mutator := "drop_write".toList,
        injectedStateFile := "5_drop_write_state.json".toList, otherProcs := [],
        mmapBackingFiles := none, checker := none, handle := none }
    let b : Subject :=
      { a with event := "7".toList, injectedStateFile := "7_drop_write_state.json".toList }
    let w : World :=
      ⟨fun f => if f = a.injectedStateFile then some (.json a.toDoc)
        else if f = b.injectedStateFile then some (.json b.toDoc) else none, [], [], [], [],
        fun _ => true⟩
    let five : Numeral := ⟨"5".toList, by decide, by decide⟩
    let rec100 : Numeral := ⟨"100".toList, by decide, by decide⟩
    let bs : List Block :=
      [⟨⟨.inject, five, ⟨"4242".toList, by decide, by decide⟩, rec100⟩, rfl,
          [⟨.dontInject, five, ⟨"4243".toList, by decide, by decide⟩, rec100⟩], by simp⟩,
        ⟨⟨.inject, ⟨"7".toList, by decide, by decide⟩, ⟨"4250".toList, by decide, by decide⟩,
          rec100⟩, rfl, [], by simp⟩]
    ∃ m, processMessages (Matcher.start [a, b] w) (bs.flatMap Block.lines) .closed = .ok [] m ∧
      List.Forall₂ (Served bs 0) [a, b] m.subjects := by
  intro a b w five rec100 bs
  obtain ⟨m, h, -, hrel⟩ := (process_messages_sibling_pids [a, b] w (by decide) (by simp [a, b])
    (by simp [w]) .closed).1 bs [] (List.Perm.refl _) (by simp [w])
  exact ⟨m, by simpa [bs] using h, hrel⟩

/-- One subject of event 5, live pids, and the lines `INJECT 5 (4242)` then `DONT_INJECT 5
(4243)`: the loop returns after the `INJECT`, the `DONT_INJECT` unread, and 4243 is in no
`other_procs`. With the `DONT_INJECT` first, the loop raises `UnboundLocalError` at once,
having recorded nothing. -/
theorem process_messages_trailing_sibling :
    let s : Subject :=
      { event := "5".toList, recPid := "100".toList, traceFile := "t.bin".toList,
        traceStart := "0".toList, traceEnd := "10".toList, mutator := "drop_write".toList,
        injectedStateFile := "5_drop_write_state.json".toList, otherProcs := [],
        mmapBackingFiles := none, checker := none, handle := none }
    let w : World :=
      ⟨fun f => if f = s.injectedStateFile then some (.json s.toDoc) else none, [], [], [], [],
        fun _ => true⟩
    let five : Numeral := ⟨"5".toList, by decide, by decide⟩
    let rec100 : Numeral := ⟨"100".toList, by decide, by decide⟩
    let leader : Notification := ⟨.inject, five, ⟨"4242".toList, by decide, by decide⟩, rec100⟩
    let sibling : Notification := ⟨.dontInject, five, ⟨"4243".toList, by decide, by decide⟩, rec100⟩
    (∃ m, processMessages (Matcher.start [s] w) [leader.render, sibling.render] .closed =
        .ok [sibling.render] m ∧ ∀ t ∈ m.subjects, "4243".toList ∉ t.otherProcs) ∧
    processMessages (Matcher.start [s] w) [sibling.render, leader.render] .closed =
      .error .unboundLocalError (Matcher.start [s] w) :=
  ⟨⟨_, rfl, by decide⟩, rfl⟩

/-- Whatever the subjects and the lines of the protocol, once the loop has read the lines to
their end and returned, every subject's `other_procs` has only grown, and holds, all subjects
together, the pids of the `DONT_INJECT` lines read, each as often as it was read: no sibling is
lost or duplicated, though it may go to the subject of another event. -/
theorem process_messages_siblings_conserved (subjects : List Subject) (w : World)
    (ns : List Notification) (rest : List PyStr) (stop : ChannelEnd) (m : Matcher)
    (h : processMessages (Matcher.start subjects w) (ns.map Notification.render ++ rest) stop =
      .ok rest m) :
    List.Forall₂ (fun s s' => s.otherProcs <+: s'.otherProcs) subjects m.subjects ∧
      (m.subjects.flatMap Subject.otherProcs).Perm
        (subjects.flatMap Subject.otherProcs ++ ns.filterMap Notification.siblingPid) := by
  obtain ⟨hk, hp⟩ := Matcher.SiblingsKept.processMessages ns
    ⟨fun _ h => (by cases h), List.forall₂_same.2 fun s _ => List.prefix_refl _⟩ h
  exact ⟨hk.grows, hp⟩

/-- The spec's scenarios B and C with a second subject, of event 7: the lines `INJECT 5
(4242)`, `DONT_INJECT 5 (4243)` and `INJECT 7 (4250)` are all read, and 4243 is the one
sibling recorded. -/
theorem process_messages_sibling_recorded :
    let a : Subject :=
      { event := "5".toList, recPid := "100".toList, traceFile := "t.bin".toList,
        traceStart := "0".toList, traceEnd := "10".toList, mutator := "drop_write".toList,
        injectedStateFile := "5_drop_write_state.json".toList, otherProcs := [],
        mmapBackingFiles := none, checker := none, handle := none }
    let b : Subject :=
      { a with event := "7".toList, injectedStateFile := "7_drop_write_state.json".toList }
    let w : World :=
      ⟨fun f => if f = a.injectedStateFile then some (.json a.toDoc)
        else if f = b.injectedStateFile then some (.json b.toDoc) else none, [], [], [], [],
        fun _ => true⟩
    let five : Numeral := ⟨"5".toList, by decide, by decide⟩
    let rec100 : Numeral := ⟨"100".toList, by decide, by decide⟩
    let b5 : Block := ⟨⟨.inject, five, ⟨"4242".toList, by decide, by decide⟩, rec100⟩, rfl,
      [⟨.dontInject, five, ⟨"4243".toList, by decide, by decide⟩, rec100⟩], by simp⟩
    let b7 : Block := ⟨⟨.inject, ⟨"7".toList, by decide, by decide⟩,
      ⟨"4250".toList, by decide, by decide⟩, rec100⟩, rfl, [], by simp⟩
    let ns : List Notification := b5.leader :: b5.siblings ++ [b7.leader]
    ∃ m, processMessages (Matcher.start [a, b] w) (ns.map Notification.render ++ []) .closed =
        .ok [] m ∧
      List.Forall₂ (fun s s' => s.otherProcs <+: s'.otherProcs) [a, b] m.subjects ∧
      (m.subjects.flatMap Subject.otherProcs).Perm
        ([a, b].flatMap Subject.otherProcs ++ ns.filterMap Notification.siblingPid) := by
  intro a b w five rec100 b5 b7 ns
  have hnone : ∀ s ∈ [a, b], s.handle = none := by simp [a, b]
  obtain ⟨m, h, -⟩ := (@Matcher.inv_start [a, b] w (by decide) hnone
    (by simp [w])).processMessages_blocks [b5, b7] 0 [a, b] [] .closed [b5, b7] [] _ rfl
    (by simp [w, Matcher.start]) (by rw [Matcher.start_pending w hnone]; rfl) rfl
    (by simp [Matcher.start, Subject.handleIndex])
    (List.forall₂_same.2 fun s hs => .inl ⟨rfl, hnone s hs⟩)
  exact ⟨m, h, process_messages_siblings_conserved [a, b] w ns [] .closed m h⟩

end Analysis

end CrashSimulator
