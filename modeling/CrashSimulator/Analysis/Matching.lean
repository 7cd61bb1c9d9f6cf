import CrashSimulator.Interface.Notification

/-!
# The matching invariant of `process_messages`

`call_replay` starts the loop of `process_messages` on the subjects `get_configuration`
returned, none of them dispatched yet, once `create_event_configuration_files` has written
each subject's event-level state file. On subjects with distinct keys the loop then keeps
`Matcher.Inv`: the keys stay distinct, `subjects_handled` holds exactly the keys of the
subjects that have a handle, and every event-level state file holds a JSON document. Every
returning iteration keeps it (`Matcher.Inv.iterate`), so every state the loop reaches on the
lines of the protocol has it (`Matcher.Reaches.inv`).

What follows from it: the loop goes on exactly while some subject has no handle; an iteration
never changes a handle once set, and sets one only from an `INJECT` of the subject's own
event, to the injector it launches next (`Matcher.Inv.iterate_handleStep`); the processes
launched since the start are exactly the subjects' injectors (`Matcher.Launched`); an
`INJECT` leaves the subjects and the handled keys alone only when every subject of its event
has a handle; and a stream of one `INJECT` per subject, for live pids, is read to its end with
every subject dispatched (`Matcher.Inv.processMessages_injects`).
`process_messages_matching_invariant` puts these together.
-/

set_option autoImplicit false

namespace CrashSimulator

/-! ## Editing one entry of a list

The loop mutates one subject dict in place, which the model writes as `List.modify`. -/

section Modify

variable {α β : Type}

/-- INTERNAL: `filterMap` on a cons, as an append. -/
theorem filterMap_cons_toList (g : α → Option β) (x : α) (xs : List α) :
    (x :: xs).filterMap g = (g x).toList ++ xs.filterMap g := by
  cases h : g x <;> simp [h]

/-- INTERNAL: a `filterMap` blind to the edit is blind to the edited list. -/
theorem filterMap_modify_of_comp (f : α → α) (g : α → Option β) (hg : ∀ x, g (f x) = g x) :
    ∀ (l : List α) (k : Nat), (l.modify f k).filterMap g = l.filterMap g
  | [], _ => by simp
  | x :: xs, 0 => by simp only [List.modify_zero_cons, filterMap_cons_toList, hg]
  | x :: xs, k + 1 => by
    simp only [List.modify_succ_cons, filterMap_cons_toList, filterMap_modify_of_comp f g hg xs k]

/-- INTERNAL: editing the entry `a` trades its image under a `filterMap` for the image of its
edit, up to order. -/
theorem filterMap_modify_perm (f : α → α) (g : α → Option β) :
    ∀ {l : List α} {k : Nat} {a : α}, l[k]? = some a →
      ((l.modify f k).filterMap g ++ (g a).toList).Perm (l.filterMap g ++ (g (f a)).toList)
  | [], _, _, h => by simp at h
  | x :: xs, 0, a, h => by
    obtain rfl : x = a := by simpa using h
    simp only [List.modify_zero_cons, filterMap_cons_toList, List.append_assoc]
    refine List.perm_append_comm.trans ?_
    simpa only [List.append_assoc] using List.perm_append_comm.append_right (g (f x)).toList
  | x :: xs, k + 1, a, h => by
    simp only [List.modify_succ_cons, filterMap_cons_toList, List.append_assoc]
    exact (filterMap_modify_perm f g (by simpa using h)).append_left _

/-- INTERNAL: an edit that keeps a projection keeps the list's projection. -/
theorem map_modify_of_comp (f : α → α) (g : α → β) (hg : ∀ x, g (f x) = g x) :
    ∀ (l : List α) (k : Nat), (l.modify f k).map g = l.map g
  | [], _ => by simp
  | x :: xs, 0 => by simp [hg]
  | x :: xs, k + 1 => by simp [map_modify_of_comp f g hg xs k]

/-- INTERNAL: an entry of the edited list is an entry of the list, or the edit of one. -/
theorem exists_of_mem_modify {f : α → α} :
    ∀ {l : List α} {k : Nat} {y : α}, y ∈ l.modify f k → ∃ x ∈ l, y = x ∨ y = f x
  | [], _, _, h => by simp at h
  | x :: xs, 0, y, h => by
    rcases List.mem_cons.1 (by simpa using h) with rfl | h
    · exact ⟨x, List.mem_cons_self _ _, .inr rfl⟩
    · exact ⟨y, List.mem_cons_of_mem _ h, .inl rfl⟩
  | x :: xs, k + 1, y, h => by
    rcases List.mem_cons.1 (by simpa using h) with rfl | h
    · exact ⟨y, List.mem_cons_self _ _, .inl rfl⟩
    · obtain ⟨z, hz, hy⟩ := exists_of_mem_modify h
      exact ⟨z, List.mem_cons_of_mem _ hz, hy⟩

/-- INTERNAL: a relation that holds of each entry with itself and of the edited entry with
its edit relates the list to the edited list, entry by entry. -/
theorem forall₂_modify {R : α → α → Prop} {f : α → α} :
    ∀ {l : List α} {k : Nat}, (∀ x ∈ l, R x x) → (∀ a, l[k]? = some a → R a (f a)) →
      List.Forall₂ R l (l.modify f k)
  | [], _, _, _ => by simp
  | x :: xs, 0, hr, hf => by
    simpa using List.Forall₂.cons (hf x (by simp))
      (List.forall₂_same.2 fun y hy => hr y (List.mem_cons_of_mem _ hy))
  | x :: xs, k + 1, hr, hf => by
    simpa using List.Forall₂.cons (hr x (List.mem_cons_self _ _))
      (forall₂_modify (fun y hy => hr y (List.mem_cons_of_mem _ hy)) fun a ha => hf a (by simpa))

/-- INTERNAL: a relation implied entry by entry, for the entries of the left list. -/
theorem forall₂_imp_of_mem {γ : Type} {R R' : α → γ → Prop} :
    ∀ {l₁ : List α} {l₂ : List γ}, List.Forall₂ R l₁ l₂ → (∀ a ∈ l₁, ∀ b, R a b → R' a b) →
      List.Forall₂ R' l₁ l₂
  | _, _, .nil, _ => .nil
  | _, _, .cons h t, hmono =>
    .cons (hmono _ (List.mem_cons_self _ _) _ h)
      (forall₂_imp_of_mem t fun x hx => hmono x (List.mem_cons_of_mem _ hx))

/-- INTERNAL: an edit at `k` of the right list keeps a relation, where it holds of the
entries at `k` and their edit.
SOURCE: rreplay.py:340-350 -/
theorem forall₂_modify_right {γ : Type} {R R' : α → γ → Prop} {f : γ → γ} :
    ∀ {l₁ : List α} {l₂ : List γ} {k : Nat}, List.Forall₂ R l₁ l₂ →
      (∀ a ∈ l₁, ∀ b, R a b → R' a b) →
      (∀ a b, l₁[k]? = some a → l₂[k]? = some b → R a b → R' a (f b)) →
      List.Forall₂ R' l₁ (l₂.modify f k)
  | _, _, _, .nil, _, _ => by simp
  | a :: _, b :: _, 0, .cons h t, hmono, hf => by
    simpa using List.Forall₂.cons (hf a b (by simp) (by simp) h)
      (forall₂_imp_of_mem t fun x hx => hmono x (List.mem_cons_of_mem _ hx))
  | a :: _, b :: _, k + 1, .cons h t, hmono, hf => by
    simpa using List.Forall₂.cons (hmono a (List.mem_cons_self _ _) b h)
      (forall₂_modify_right t (fun x hx => hmono x (List.mem_cons_of_mem _ hx))
        fun a' b' h1 h2 => hf a' b' (by simpa) (by simpa))

/-- INTERNAL: the entry at `k` of the right list is related to the entry at `k` of the left. -/
theorem forall₂_getElem? {γ : Type} {R : α → γ → Prop} :
    ∀ {l₁ : List α} {l₂ : List γ} {k : Nat} {b : γ}, List.Forall₂ R l₁ l₂ → l₂[k]? = some b →
      ∃ a, l₁[k]? = some a ∧ R a b
  | _, _, _, _, .nil, h => by simp at h
  | a :: _, _ :: _, 0, _, .cons hr _, h => by
    obtain rfl : _ = _ := Option.some.inj (by simpa using h)
    exact ⟨a, by simp, hr⟩
  | _ :: _, _ :: _, _ + 1, _, .cons _ t, h => by simpa using forall₂_getElem? t (by simpa using h)

/-- INTERNAL: a relation between two lists, and a property of every entry of the right one,
give a relation that needs the property. -/
theorem forall₂_imp_of_right {γ : Type} {R R' : α → γ → Prop} {P : γ → Prop}
    (himp : ∀ a b, R a b → P b → R' a b) :
    ∀ {l₁ : List α} {l₂ : List γ}, List.Forall₂ R l₁ l₂ → (∀ b ∈ l₂, P b) → List.Forall₂ R' l₁ l₂
  | _, _, .nil, _ => .nil
  | _, _, .cons h t, hp =>
    .cons (himp _ _ h (hp _ (List.mem_cons_self _ _)))
      (forall₂_imp_of_right himp t fun b hb => hp b (List.mem_cons_of_mem _ hb))

/-- INTERNAL: a `filterMap` drops an entry exactly when it maps some entry to `none`. -/
theorem length_filterMap_lt_iff (g : α → Option β) :
    ∀ l : List α, (l.filterMap g).length < l.length ↔ ∃ x ∈ l, g x = none
  | [] => by simp
  | x :: xs => by
    have hle := List.length_filterMap_le g xs
    cases h : g x <;> simp [h, length_filterMap_lt_iff g xs]
    omega

end Modify

/-! ## Handled keys and pending events -/

/-- The key of a subject that has a handle: the entry of `subjects_handled` it should have. -/
def Subject.dispatchedKey (s : Subject) : Option (PyStr × PyStr) := s.handle.map fun _ => s.key

/-- The event of a subject without a handle: an `INJECT` of that event is still due. -/
def Subject.pendingEvent (s : Subject) : Option PyStr :=
  match s.handle with
  | none => some s.event
  | some _ => none

namespace Subject

@[simp] theorem setHandle_dispatchedKey (s : Subject) (h : Handle) :
    (s.setHandle h).dispatchedKey = some s.key := rfl
@[simp] theorem addOther_dispatchedKey (s : Subject) (pid : PyStr) :
    (s.addOther pid).dispatchedKey = s.dispatchedKey := rfl
@[simp] theorem setHandle_pendingEvent (s : Subject) (h : Handle) :
    (s.setHandle h).pendingEvent = none := rfl
@[simp] theorem addOther_pendingEvent (s : Subject) (pid : PyStr) :
    (s.addOther pid).pendingEvent = s.pendingEvent := rfl

theorem dispatchedKey_eq_some {s : Subject} {key : PyStr × PyStr} :
    s.dispatchedKey = some key ↔ s.handle.isSome ∧ s.key = key := by
  cases h : s.handle <;> simp [dispatchedKey, h]

theorem dispatchedKey_eq_none {s : Subject} : s.dispatchedKey = none ↔ s.handle = none := by
  simp [dispatchedKey]

theorem pendingEvent_eq_some {s : Subject} {event : PyStr} :
    s.pendingEvent = some event ↔ s.handle = none ∧ s.event = event := by
  cases h : s.handle <;> simp [pendingEvent, h]

theorem pendingEvent_eq_none {s : Subject} : s.pendingEvent = none ↔ s.handle.isSome := by
  cases h : s.handle <;> simp [pendingEvent, h]

end Subject

namespace Matcher

/-- The state `process_messages` starts in: no key handled, `s` unbound. -/
def start (subjects : List Subject) (w : World) : Matcher := ⟨subjects, [], none, w⟩

/-- The events of the `INJECT`s still due: one per subject without a handle. -/
def pending (m : Matcher) : List PyStr := m.subjects.filterMap Subject.pendingEvent

theorem mem_pending {m : Matcher} {event : PyStr} :
    event ∈ m.pending ↔ ∃ s ∈ m.subjects, s.handle = none ∧ s.event = event := by
  simp [pending, List.mem_filterMap, Subject.pendingEvent_eq_some]

/-- Before the first message every subject is pending. -/
theorem start_pending {subjects : List Subject} (w : World)
    (hnone : ∀ s ∈ subjects, s.handle = none) :
    (start subjects w).pending = subjects.map Subject.event := by
  rw [pending, start, ← List.filterMap_eq_map]
  exact List.filterMap_congr fun s hs => by simp [Subject.pendingEvent, hnone s hs]

/-! ## The invariant -/

/-- The invariant of the loop of `process_messages`: the keys are distinct,
`subjects_handled` is, up to order, the list of keys of the subjects that have a handle, and
every event-level state file holds a JSON document. -/
structure Inv (m : Matcher) : Prop where
  keys_nodup : (m.subjects.map Subject.key).Nodup
  handled_perm : m.handled.Perm (m.subjects.filterMap Subject.dispatchedKey)
  files : ∀ s ∈ m.subjects, ∃ tmp, m.world.files s.injectedStateFile = some (.json tmp)

variable {m m' : Matcher}

/-- The loop starts in the invariant on subjects with distinct keys and no handle, whose
event-level state files are JSON documents. -/
theorem inv_start {subjects : List Subject} {w : World} (hkeys : (subjects.map Subject.key).Nodup)
    (hnone : ∀ s ∈ subjects, s.handle = none)
    (hfiles : ∀ s ∈ subjects, ∃ tmp, w.files s.injectedStateFile = some (.json tmp)) :
    (start subjects w).Inv :=
  ⟨hkeys, by simpa [start, Subject.dispatchedKey_eq_none] using hnone, hfiles⟩

namespace Inv

/-- `subjects_handled` holds exactly the keys of the subjects that have a handle. -/
theorem mem_handled (hi : m.Inv) {key : PyStr × PyStr} :
    key ∈ m.handled ↔ ∃ s ∈ m.subjects, s.handle.isSome ∧ s.key = key := by
  simp [hi.handled_perm.mem_iff, List.mem_filterMap, Subject.dispatchedKey_eq_some]

/-- A subject's key is handled exactly when the subject has a handle. -/
theorem key_mem_handled (hi : m.Inv) {s : Subject} (hs : s ∈ m.subjects) :
    s.key ∈ m.handled ↔ s.handle.isSome := by
  rw [hi.mem_handled]
  constructor
  · rintro ⟨t, ht, hh, hk⟩
    rwa [← List.inj_on_of_nodup_map hi.keys_nodup ht hs hk]
  · exact fun h => ⟨s, hs, h, rfl⟩

/-- The candidates of an `INJECT` are the subjects of its event that have no handle. -/
theorem mem_subjectsForEvent (hi : m.Inv) {event : PyStr} {k : Nat} {s : Subject} :
    (k, s) ∈ m.subjectsForEvent event ↔
      m.subjects[k]? = some s ∧ s.event = event ∧ s.handle = none := by
  rw [Matcher.mem_subjectsForEvent]
  refine and_congr_right fun hk => and_congr_right fun _ => ?_
  rw [hi.key_mem_handled (List.getElem?_mem hk)]
  simp

/-- The loop goes on exactly while some subject has no handle. -/
theorem guard_iff (hi : m.Inv) :
    m.handled.length < m.subjects.length ↔ ∃ s ∈ m.subjects, s.handle = none := by
  simp [hi.handled_perm.length_eq, length_filterMap_lt_iff, Subject.dispatchedKey_eq_none]

/-- An `INJECT`, with a UTF-8 pid, of an event some subject without a handle has dispatches a
candidate. -/
theorem inject_eq_dispatch (hi : m.Inv) {event pid : PyStr} (hu : utf8Valid pid = true)
    (he : event ∈ m.pending) :
    ∃ k s tmp, (k, s) ∈ m.subjectsForEvent event ∧
      m.inject event pid = .ok () (m.dispatch k s tmp pid) := by
  obtain ⟨s, hs, hn, he⟩ := mem_pending.1 he
  obtain ⟨k, hk⟩ := List.mem_iff_getElem?.1 hs
  have hne : m.subjectsForEvent event ≠ [] :=
    List.ne_nil_of_mem (hi.mem_subjectsForEvent.2 ⟨hk, he, hn⟩)
  cases hpop : pop (m.subjectsForEvent event) with
  | error e => exact absurd (pop_eq_error hpop) hne
  | ok r =>
    obtain ⟨⟨k', s'⟩, rest⟩ := r
    have hc := mem_of_pop_eq_ok hpop
    obtain ⟨tmp, htmp⟩ := hi.files s' (List.getElem?_mem (hi.mem_subjectsForEvent.1 hc).1)
    exact ⟨k', s', tmp, hc, by simp [inject, hpop, htmp, hu]⟩

/-! ## What one iteration keeps -/

/-- INTERNAL: a dispatch keeps every JSON document a JSON document.
SOURCE: rreplay.py:327-337 -/
theorem dispatch_files_json {k : Nat} {s : Subject} {tmp : StateDoc} {pid f : PyStr}
    {d : StateDoc} (h : m.world.files f = some (.json d)) :
    ∃ d', (m.dispatch k s tmp pid).world.files f = some (.json d') := by
  rw [dispatch_files]
  split
  · exact ⟨_, rfl⟩
  · exact ⟨d, h⟩

/-- The dispatch of a candidate keeps the invariant: the candidate had no handle, so its key
joins `subjects_handled` exactly when it gets one. -/
theorem dispatch {event : PyStr} {k : Nat} {s : Subject} (hi : m.Inv)
    (hc : (k, s) ∈ m.subjectsForEvent event) (tmp : StateDoc) (pid : PyStr) :
    (m.dispatch k s tmp pid).Inv where
  keys_nodup := by
    rw [dispatch_subjects, map_modify_of_comp _ _ fun x => Subject.setHandle_key x _]
    exact hi.keys_nodup
  handled_perm := by
    obtain ⟨hk, -, hn⟩ := hi.mem_subjectsForEvent.1 hc
    have hp := filterMap_modify_perm (·.setHandle
      ⟨m.world.spawned.length, injectorArgv (pidUniqueStatefile pid s.injectedStateFile)⟩)
      Subject.dispatchedKey hk
    rw [Subject.dispatchedKey_eq_none.2 hn, Subject.setHandle_dispatchedKey] at hp
    rw [dispatch_handled, List.insert_of_not_mem (Matcher.mem_subjectsForEvent.1 hc).2.2,
      dispatch_subjects]
    simpa using ((hi.handled_perm.cons _).trans (List.perm_append_singleton _ _).symm).trans hp.symm
  files t ht := by
    obtain ⟨u, hu, rfl | rfl⟩ := exists_of_mem_modify ht <;>
      exact dispatch_files_json (hi.files _ hu).choose_spec

/-- A returning `INJECT` keeps the invariant. -/
theorem inject {event pid : PyStr} (hi : m.Inv) (h : m.inject event pid = .ok () m') : m'.Inv := by
  rcases inject_eq_ok h with ⟨-, rfl⟩ | ⟨k, s, tmp, hc, -, -, rfl⟩
  · exact ⟨hi.keys_nodup, hi.handled_perm, hi.files⟩
  · exact hi.dispatch hc tmp pid

/-- An edit of one subject that keeps its key, its handle and its state file name keeps the
invariant. -/
theorem modify_subject (hi : m.Inv) (f : Subject → Subject) (hkey : ∀ s, (f s).key = s.key)
    (hhandle : ∀ s, (f s).handle = s.handle)
    (hfile : ∀ s, (f s).injectedStateFile = s.injectedStateFile) (k : Nat) :
    ({ m with subjects := m.subjects.modify f k } : Matcher).Inv := by
  refine ⟨?_, ?_, fun t ht => ?_⟩
  · rw [map_modify_of_comp _ _ hkey]
    exact hi.keys_nodup
  · rw [filterMap_modify_of_comp _ _ fun x => by simp [Subject.dispatchedKey, hhandle, hkey]]
    exact hi.handled_perm
  · obtain ⟨u, hu, rfl | rfl⟩ := exists_of_mem_modify ht
    exacts [hi.files _ hu, hfile u ▸ hi.files u hu]

/-- A returning `DONT_INJECT` keeps the invariant: it changes no key and no handle. -/
theorem dontInject {pid : PyStr} (hi : m.Inv) (h : m.dontInject pid = .ok () m') : m'.Inv := by
  obtain ⟨k, -, rfl⟩ := dontInject_eq_ok h
  exact hi.modify_subject (·.addOther pid) (fun _ => rfl) (fun _ => rfl) (fun _ => rfl) k

/-- Every returning iteration keeps the invariant. -/
theorem iterate {msg : PyStr} (hi : m.Inv) (h : m.iterate msg = .ok () m') : m'.Inv := by
  obtain ⟨f, -, -, ⟨-, h⟩ | ⟨-, h⟩ | ⟨-, -, rfl⟩⟩ := iterate_eq_ok h
  · exact hi.inject h
  · exact hi.dontInject h
  · exact hi

/-- A dispatch takes the candidate's event off the pending ones. -/
theorem pending_dispatch {event : PyStr} {k : Nat} {s : Subject} (hi : m.Inv)
    (hc : (k, s) ∈ m.subjectsForEvent event) (tmp : StateDoc) (pid : PyStr) :
    ((m.dispatch k s tmp pid).pending ++ [event]).Perm m.pending := by
  obtain ⟨hk, he, hn⟩ := hi.mem_subjectsForEvent.1 hc
  have := filterMap_modify_perm (·.setHandle ⟨m.world.spawned.length,
    injectorArgv (pidUniqueStatefile pid s.injectedStateFile)⟩) Subject.pendingEvent hk
  rw [Subject.setHandle_pendingEvent, Subject.pendingEvent_eq_some.2 ⟨hn, he⟩] at this
  simpa [pending] using this

/-! ## How one iteration changes a subject -/

end Inv

/-- How one iteration on the line of `n`, with `base` processes launched before it, may change
a subject: its key and its state file name stay; a handle, once set, stays; and a subject gets
a handle only from an `INJECT` of its own event, to the process launched next, the injector
`inject --verbosity=40 <pid>_<injected_state_file>`. -/
def HandleStep (n : Notification) (base : Nat) (s s' : Subject) : Prop :=
  s'.key = s.key ∧ s'.injectedStateFile = s.injectedStateFile ∧
    (∀ h, s.handle = some h → s'.handle = some h) ∧
    ∀ h, s.handle = none → s'.handle = some h →
      n.decision = .inject ∧ s.event = n.event.digits ∧
        h = ⟨base, ["inject".toList, "--verbosity=40".toList,
          n.pid.digits ++ "_".toList ++ s.injectedStateFile]⟩

theorem HandleStep.refl (n : Notification) (base : Nat) (s : Subject) : HandleStep n base s s :=
  ⟨rfl, rfl, fun _ h => h, fun _ h h' => by simp [h] at h'⟩

namespace Inv

/-- One returning iteration on a line of the protocol relates each subject to its next
version by `HandleStep`. -/
theorem iterate_handleStep (hi : m.Inv) {n : Notification} (h : m.iterate n.render = .ok () m') :
    List.Forall₂ (HandleStep n m.world.spawned.length) m.subjects m'.subjects := by
  replace h := (iterate_render_eq_ok h).2
  cases hd : n.decision <;> simp only [hd] at h
  · rcases inject_eq_ok h with ⟨-, rfl⟩ | ⟨k, s, tmp, hc, -, -, rfl⟩
    · exact List.forall₂_same.2 fun s _ => HandleStep.refl n _ s
    · obtain ⟨hk, he, hn⟩ := hi.mem_subjectsForEvent.1 hc
      refine forall₂_modify (fun s _ => HandleStep.refl n _ s) fun a ha => ?_
      obtain rfl : a = s := Option.some.inj (ha.symm.trans hk)
      refine ⟨by simp, by simp, fun _ h' => by simp [hn] at h', fun h' _ hh => ?_⟩
      obtain rfl := Option.some.inj hh
      exact ⟨hd, he, rfl⟩
  · obtain ⟨k, -, rfl⟩ := dontInject_eq_ok h
    exact forall₂_modify (fun s _ => HandleStep.refl n _ s) fun a _ =>
      ⟨by simp, by simp, fun _ h' => by simpa using h', fun _ h' hh => by simp [h'] at hh⟩

/-- An `INJECT` leaves the subjects and `subjects_handled` as they were exactly when every
subject of its event already has a handle. -/
theorem inject_unchanged_iff (hi : m.Inv) {event pid : PyStr}
    (h : m.inject event pid = .ok () m') :
    (m'.subjects = m.subjects ∧ m'.handled = m.handled) ↔
      ∀ s ∈ m.subjects, s.event = event → s.handle.isSome := by
  rcases inject_eq_ok h with ⟨hnil, rfl⟩ | ⟨k, s, tmp, hc, -, -, rfl⟩
  · simp only [true_and, true_iff]
    exact fun s hs he => (hi.key_mem_handled hs).1 (subjectsForEvent_eq_nil.1 hnil s hs he)
  · obtain ⟨hk, he, hn⟩ := hi.mem_subjectsForEvent.1 hc
    refine iff_of_false (fun ⟨_, hh⟩ => ?_) fun hall => ?_
    · simp [List.insert_of_not_mem (Matcher.mem_subjectsForEvent.1 hc).2.2] at hh
    · simpa [hn] using hall s (List.getElem?_mem hk) he

end Inv

/-! ## Reachable states -/

/-- The states the loop of `process_messages` passes through from its start on `subjects`
and `w`: one returning iteration on a line of the protocol at a time, while its guard holds. -/
inductive Reaches (subjects : List Subject) (w : World) : Matcher → Prop
  | initial : Reaches subjects w (start subjects w)
  | step {m m' : Matcher} (n : Notification) : Reaches subjects w m →
      m.handled.length < m.subjects.length → m.iterate n.render = .ok () m' →
      Reaches subjects w m'

/-- Every reachable state has the invariant. -/
theorem Reaches.inv {subjects : List Subject} {w : World}
    (hkeys : (subjects.map Subject.key).Nodup) (hnone : ∀ s ∈ subjects, s.handle = none)
    (hfiles : ∀ s ∈ subjects, ∃ tmp, w.files s.injectedStateFile = some (.json tmp))
    (h : Reaches subjects w m) : m.Inv := by
  induction h with
  | initial => exact inv_start hkeys hnone hfiles
  | step _ _ _ hit ih => exact ih.iterate hit

/-! ## The processes the loop launches -/

/-- The handles of the processes `injectors`, launched in order after `base` others. -/
def launchedHandles (base : Nat) (injectors : List (List PyStr)) : List Handle :=
  (injectors.enumFrom base).map fun p => ⟨p.1, p.2⟩

/-- The processes launched since the loop started on `w` are the subjects' injectors: the
handles of the subjects are, up to order, the processes started after those of `w`, each with
its position and its argument vector. -/
def Launched (w : World) (m : Matcher) : Prop :=
  ∃ injectors, m.world.spawned = w.spawned ++ injectors ∧
    (m.subjects.filterMap Subject.handle).Perm (launchedHandles w.spawned.length injectors)

/-- Before the first message no process is launched. -/
theorem launched_start {subjects : List Subject} (w : World)
    (hnone : ∀ s ∈ subjects, s.handle = none) : (start subjects w).Launched w :=
  ⟨[], by simp [start], by simpa [start, launchedHandles, List.filterMap_eq_nil_iff] using hnone⟩

/-- Every returning iteration keeps the launched processes the subjects' injectors. -/
theorem Inv.launched_iterate {w : World} {msg : PyStr} (hi : m.Inv) (hl : m.Launched w)
    (h : m.iterate msg = .ok () m') : m'.Launched w := by
  obtain ⟨injectors, hsp, hperm⟩ := hl
  obtain ⟨f, -, -, ⟨-, h⟩ | ⟨-, h⟩ | ⟨-, -, rfl⟩⟩ := iterate_eq_ok h
  · rcases inject_eq_ok h with ⟨-, rfl⟩ | ⟨k, s, tmp, hc, -, -, rfl⟩
    · exact ⟨injectors, by simpa using hsp, hperm⟩
    · obtain ⟨hk, -, hn⟩ := hi.mem_subjectsForEvent.1 hc
      refine ⟨injectors ++ [injectorArgv (pidUniqueStatefile f.pid s.injectedStateFile)],
        by simp [hsp], ?_⟩
      have hp := filterMap_modify_perm (·.setHandle ⟨m.world.spawned.length,
        injectorArgv (pidUniqueStatefile f.pid s.injectedStateFile)⟩) Subject.handle hk
      rw [hn, Subject.setHandle_handle, Option.toList_none, List.append_nil] at hp
      rw [dispatch_subjects, launchedHandles, List.enumFrom_append, List.map_append]
      refine hp.trans (hperm.append_right _) |>.trans ?_
      simp [launchedHandles, hsp]
  · obtain ⟨k, -, rfl⟩ := dontInject_eq_ok h
    refine ⟨injectors, hsp, ?_⟩
    dsimp only
    rwa [filterMap_modify_of_comp (fun x : Subject => x.addOther f.pid) Subject.handle
      fun _ => rfl]
  · exact ⟨injectors, hsp, hperm⟩

/-- Every reachable state has launched exactly its subjects' injectors. -/
theorem Reaches.launched {subjects : List Subject} {w : World}
    (hkeys : (subjects.map Subject.key).Nodup) (hnone : ∀ s ∈ subjects, s.handle = none)
    (hfiles : ∀ s ∈ subjects, ∃ tmp, w.files s.injectedStateFile = some (.json tmp))
    (h : Reaches subjects w m) : m.Launched w := by
  induction h with
  | initial => exact launched_start w hnone
  | step _ hr _ hit ih => exact (hr.inv hkeys hnone hfiles).launched_iterate ih hit

/-- The state `process_messages` returns in, on lines of the protocol, is reachable. -/
theorem Reaches.processMessages {subjects : List Subject} {w : World} :
    ∀ {m m' : Matcher} {ns : List Notification} {rest : List PyStr} {stop : ChannelEnd},
      Reaches subjects w m →
      CrashSimulator.processMessages m (ns.map Notification.render) stop = .ok rest m' →
      Reaches subjects w m'
  | m, m', [], rest, stop, hr, h => by
    unfold CrashSimulator.processMessages at h
    split_ifs at h
    · cases stop <;> cases h
    · cases h
      exact hr
  | m, m', n :: ns, rest, stop, hr, h => by
    simp only [List.map_cons] at h
    unfold CrashSimulator.processMessages at h
    split_ifs at h with hg
    · split at h
      · exact Reaches.processMessages (hr.step n hg ‹_›) h
      · cases h
    · cases h
      exact hr

end Matcher

/-! ## The loop -/

/-- The loop returns the messages it did not read: a suffix of its input. -/
theorem processMessages_suffix :
    ∀ {m m' : Matcher} {msgs rest : List PyStr} {stop : ChannelEnd},
      processMessages m msgs stop = .ok rest m' → rest <:+ msgs
  | m, m', [], rest, stop, h => by
    unfold processMessages at h
    split_ifs at h
    · cases stop <;> cases h
    · cases h
      exact List.suffix_refl _
  | m, m', msg :: more, rest, stop, h => by
    unfold processMessages at h
    split_ifs at h
    · split at h
      · exact (processMessages_suffix h).trans (List.suffix_cons _ _)
      · cases h
    · cases h
      exact List.suffix_refl _

namespace Matcher.Inv

variable {m : Matcher}

/-- The loop returns without reading a message exactly when every subject has a handle. -/
theorem processMessages_eq_self_iff (hi : m.Inv) (msgs : List PyStr) (stop : ChannelEnd) :
    processMessages m msgs stop = .ok msgs m ↔ ∀ s ∈ m.subjects, s.handle.isSome := by
  constructor
  · intro h
    by_contra hn
    push_neg at hn
    have hg : m.handled.length < m.subjects.length :=
      hi.guard_iff.2 (by simpa [Option.not_isSome_iff_eq_none] using hn)
    cases msgs with
    | nil => cases stop <;> simp [processMessages, hg] at h
    | cons msg more =>
      simp only [processMessages, hg, if_true] at h
      split at h
      · simpa using (processMessages_suffix h).length_le
      · cases h
  · intro hall
    refine processMessages_done (fun hg => ?_) msgs stop
    obtain ⟨s, hs, hn⟩ := hi.guard_iff.1 hg
    simpa [hn] using hall s hs

/-- A stream of one `INJECT` per pending event, in any order, for live pids, is read to its
end, and the loop returns with every subject dispatched, one injector launched per line and no
sibling added. -/
theorem processMessages_injects (hi : m.Inv) (ns : List Notification) (rest : List PyStr)
    (stop : ChannelEnd) (hinj : ∀ n ∈ ns, n.decision = .inject)
    (halive : ∀ n ∈ ns, m.world.alive n.pid.digits = true)
    (hp : (ns.map (·.event.digits)).Perm m.pending) :
    ∃ m', processMessages m (ns.map Notification.render ++ rest) stop = .ok rest m' ∧
      (∀ s ∈ m'.subjects, s.handle.isSome) ∧
      m'.subjects.map Subject.otherProcs = m.subjects.map Subject.otherProcs ∧
      m'.world.spawned.length = m.world.spawned.length + ns.length := by
  induction ns generalizing m with
  | nil =>
    have hall : ∀ s ∈ m.subjects, s.handle.isSome := by
      simpa [pending, Subject.pendingEvent_eq_none] using hp.symm.eq_nil
    exact ⟨m, (hi.processMessages_eq_self_iff rest stop).2 hall, hall, rfl, rfl⟩
  | cons n ns ih =>
    have he : n.event.digits ∈ m.pending := hp.subset (List.mem_cons_self _ _)
    obtain ⟨k, s, tmp, hc, hinject⟩ := hi.inject_eq_dispatch n.pid.utf8Valid_digits he
    have hit : m.iterate n.render = .ok () (m.dispatch k s tmp n.pid.digits) := by
      rw [iterate_render _ _ (halive n (List.mem_cons_self _ _)), hinj n (List.mem_cons_self _ _)]
      exact hinject
    have hg : m.handled.length < m.subjects.length :=
      hi.guard_iff.2 (by obtain ⟨t, ht, hn, -⟩ := mem_pending.1 he; exact ⟨t, ht, hn⟩)
    obtain ⟨m', h', hall, hother, hlen⟩ := ih (hi.dispatch hc tmp n.pid.digits)
      (fun n' hn' => hinj n' (List.mem_cons_of_mem _ hn'))
      (fun n' hn' => by simpa using halive n' (List.mem_cons_of_mem _ hn'))
      (List.Perm.cons_inv (hp.trans ((hi.pending_dispatch hc tmp _).symm.trans
        (List.perm_append_singleton _ _))))
    refine ⟨m', by rw [List.map_cons, List.cons_append, processMessages_cons_ok hg hit]; exact h',
      hall, ?_, ?_⟩
    · rw [hother, dispatch_subjects,
        map_modify_of_comp _ _ fun x => Subject.setHandle_otherProcs x _]
    · rw [hlen, dispatch_spawned, List.length_append, List.length_singleton, List.length_cons]
      omega

end Matcher.Inv

namespace Analysis

/-- Over subjects with distinct keys, none dispatched, whose event-level state files are JSON
documents. At every state the loop reaches on lines of the protocol, `subjects_handled` holds
exactly the keys of the subjects that have a handle, the processes launched since the start
are exactly the subjects' injectors, and the loop returns without reading a message exactly
when every subject has a handle. One more line changes the subjects only as `HandleStep`
allows: a handle is set at most once and never changed, and only by an `INJECT` of the
subject's own event, to the process it launches next, `inject --verbosity=40
<pid>_<injected_state_file>`. An `INJECT` leaves the subjects and the handled keys alone
exactly when every subject of its event has a handle. A stream of one `INJECT` per subject, in
any order, for live pids, is read in `len(subjects)` iterations: the loop then returns the rest
unread, every subject dispatched, one injector launched per subject. -/
theorem process_messages_matching_invariant (subjects : List Subject) (w : World)
    (hkeys : (subjects.map Subject.key).Nodup) (hnone : ∀ s ∈ subjects, s.handle = none)
    (hfiles : ∀ s ∈ subjects, ∃ tmp, w.files s.injectedStateFile = some (.json tmp)) :
    (∀ m, Matcher.Reaches subjects w m →
      (∀ key, key ∈ m.handled ↔ ∃ s ∈ m.subjects, s.handle.isSome ∧ s.key = key) ∧
      (∃ injectors, m.world.spawned = w.spawned ++ injectors ∧
        (m.subjects.filterMap Subject.handle).Perm
          (Matcher.launchedHandles w.spawned.length injectors)) ∧
      (∀ msgs stop, processMessages m msgs stop = .ok msgs m ↔
        ∀ s ∈ m.subjects, s.handle.isSome) ∧
      ∀ (n : Notification) m', m.iterate n.render = .ok () m' →
        List.Forall₂ (Matcher.HandleStep n m.world.spawned.length) m.subjects m'.subjects ∧
        (n.decision = .inject → ((m'.subjects = m.subjects ∧ m'.handled = m.handled) ↔
          ∀ s ∈ m.subjects, s.event = n.event.digits → s.handle.isSome))) ∧
    ∀ (ns : List Notification) (rest : List PyStr) (stop : ChannelEnd),
      (∀ n ∈ ns, n.decision = .inject) → (∀ n ∈ ns, w.alive n.pid.digits = true) →
      (ns.map (·.event.digits)).Perm (subjects.map Subject.event) →
      ∃ m, processMessages (Matcher.start subjects w) (ns.map Notification.render ++ rest) stop =
        .ok rest m ∧ (∀ s ∈ m.subjects, s.handle.isSome) ∧
        m.world.spawned.length = w.spawned.length + subjects.length := by
  refine ⟨fun m hr => ?_, fun ns rest stop hinj halive hp => ?_⟩
  · have hi := hr.inv hkeys hnone hfiles
    refine ⟨fun _ => hi.mem_handled, hr.launched hkeys hnone hfiles,
      hi.processMessages_eq_self_iff, fun n m' h => ⟨hi.iterate_handleStep h, fun hd =>
        hi.inject_unchanged_iff (by simpa only [hd] using (Matcher.iterate_render_eq_ok h).2)⟩⟩
  · obtain ⟨m, h, hall, -, hlen⟩ := (Matcher.inv_start hkeys hnone hfiles).processMessages_injects
      ns rest stop hinj halive (by rwa [Matcher.start_pending w hnone])
    have hn : ns.length = subjects.length := by simpa using hp.length_eq
    exact ⟨m, h, hall, by rw [hlen, hn]; rfl⟩

/-- The spec's scenario A: one subject of event 5 whose state file has been written, and the
line `INJECT: EVENT: 5 PID: 4242 REC_PID: 100` for a live pid. The loop reads the line and
returns with the subject dispatched, one injector launched. -/
theorem process_messages_scenario_a_dispatched :
    let s : Subject :=
      { event := "5".toList, recPid := "100".toList, traceFile := "t.bin".toList,
        traceStart := "0".toList, traceEnd := "10".toList, mutator := "drop_write".toList,
        injectedStateFile := "5_drop_write_state.json".toList, otherProcs := [],
        mmapBackingFiles := none, checker := none, handle := none }
    let w : World :=
      ⟨fun f => if f = s.injectedStateFile then some (.json s.toDoc) else none, [], [], [], [],
        fun _ => true⟩
    let n : Notification := ⟨.inject, ⟨"5".toList, by decide, by decide⟩,
      ⟨"4242".toList, by decide, by decide⟩, ⟨"100".toList, by decide, by decide⟩⟩
    ∃ m, processMessages (Matcher.start [s] w) [n.render] .closed = .ok [] m ∧
      (∀ t ∈ m.subjects, t.handle.isSome) ∧ m.world.spawned.length = 1 := by
  intro s w n
  simpa using (process_messages_matching_invariant [s] w (by simp [s]) (by simp [s])
    (by simp [w])).2 [n] [] .closed (by simp [n]) (by simp [w]) (by simp [n, s])

end Analysis

end CrashSimulator
