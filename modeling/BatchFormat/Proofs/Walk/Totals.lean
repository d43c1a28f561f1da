import BatchFormat.Proofs.Walk.Turns

/-!
# What is noted about each path

A walk notes something about a path at most once: that the file changed, that it failed, or that
the directory cannot be listed. So nothing that is noted is written over, and no path is noted as
changed and as failed.
-/
namespace BatchFormat

variable {w : Walker} {host : Host} {run : Run} {s : Summary} {p q : Path} {dryRun : Bool}
  {logs : List Location} {event : Event} {events : List Event}
  {outcome : Path → Except Failure Transformed} {ending : Except Failure Transformed}

namespace Walker

/-- What there is to say about an attempt that failed. -/
def complaint? : Except Failure Transformed → Option String
  | .ok _ => none
  | .error e => some e.message

/-- The path about which something is noted on an event, if any. -/
def subject? (w : Walker) : Event → Option Path
  | .met c => w.taken? (.met c)
  | .missed p _ => some p

theorem taken?_eq_some_iff :
    w.taken? event = some p ↔ event = .met ⟨p, .file⟩ ∧ w.eligible p = true := by
  constructor
  · intro h
    obtain ⟨⟨q, kind⟩, rfl, hfile, rfl⟩ := met_of_taken? h
    have hkind : kind = .file := by simpa [Candidate.isFile] using hfile
    subst hkind
    simpa [taken?, Candidate.isFile] using h
  · rintro ⟨rfl, heligible⟩
    simp [taken?, Candidate.isFile, heligible]

/-- What a walk takes is every file that it meets and that is eligible. -/
theorem mem_taken_iff {world : World} {root : Path} {recursive : Bool} :
    p ∈ w.taken host root recursive dryRun world ↔
      .met ⟨p, .file⟩ ∈ w.trace host root recursive dryRun world ∧ w.eligible p = true := by
  simp only [taken, List.mem_filterMap, taken?_eq_some_iff]
  constructor
  · rintro ⟨_, hevent, rfl, heligible⟩
    exact ⟨hevent, heligible⟩
  · rintro ⟨hevent, heligible⟩
    exact ⟨_, hevent, rfl, heligible⟩

theorem taken_of_file {world : World} {root : Path} (h : w.KeepsShape host)
    (hcwd : ∃ mode, world.tree.Stands host.cwd (.dir mode))
    (hfile : world.tree.isFile host.cwd root = .ok true) (heligible : w.eligible root = true)
    (recursive dryRun : Bool) : w.taken host root recursive dryRun world = [root] := by
  have htaken : w.taken? (.met ⟨root, .file⟩) = some root :=
    taken?_eq_some_iff.mpr ⟨rfl, heligible⟩
  rw [taken, trace_of_file h hcwd hfile, List.filterMap_cons_some htaken, List.filterMap_nil]

theorem subject?_of_taken? (h : w.taken? event = some p) : w.subject? event = some p := by
  obtain ⟨rfl, -⟩ := taken?_eq_some_iff.mp h
  exact h

theorem mem_subjects_of_taken (h : p ∈ events.filterMap w.taken?) :
    p ∈ events.filterMap w.subject? := by
  obtain ⟨event, hevent, htaken⟩ := List.mem_filterMap.mp h
  exact List.mem_filterMap.mpr ⟨event, hevent, subject?_of_taken? htaken⟩

theorem subjects_cons_subset (event : Event) (events : List Event) :
    events.filterMap w.subject? ⊆ (event :: events).filterMap w.subject? := fun x hx => by
  obtain ⟨later, hlater, heq⟩ := List.mem_filterMap.mp hx
  exact List.mem_filterMap.mpr ⟨later, List.mem_cons_of_mem _ hlater, heq⟩

theorem subjects_cons (h : ((event :: events).filterMap w.subject?).Nodup) :
    (events.filterMap w.subject?).Nodup ∧
      ∀ x ∈ events.filterMap w.subject?, w.subject? event ≠ some x := by
  cases hsubject : w.subject? event with
  | none =>
    rw [List.filterMap_cons_none hsubject] at h
    exact ⟨h, fun _ _ heq => nomatch heq⟩
  | some p =>
    rw [List.filterMap_cons_some hsubject] at h
    obtain ⟨hfresh, hrest⟩ := List.nodup_cons.mp h
    exact ⟨hrest, fun x hx heq => hfresh (Option.some.inj heq ▸ hx)⟩

/-- Where no two events have the same subject, that of one is none of the others. -/
theorem subject_fresh {before after : List Event}
    (h : ((before ++ event :: after).filterMap w.subject?).Nodup)
    (hsubject : w.subject? event = some p) :
    p ∉ before.filterMap w.subject? ∧ p ∉ after.filterMap w.subject? := by
  rw [List.filterMap_append, List.filterMap_cons_some hsubject, List.nodup_append] at h
  obtain ⟨-, hrest, hfresh⟩ := h
  exact ⟨fun hmem => hfresh p hmem p List.mem_cons_self rfl, (List.nodup_cons.mp hrest).1⟩

/-- What is noted about a path that is met concerns a file. -/
theorem subject?_met {c : Candidate} (h : w.subject? (.met c) = some p) : c = ⟨p, .file⟩ := by
  have htaken : w.taken? (.met c) = some p := h
  obtain ⟨heq, -⟩ := taken?_eq_some_iff.mp htaken
  exact Event.met.inj heq

theorem heading_of_subject? (h : w.subject? event = some p) : event.heading = (p, true) := by
  cases event with
  | met c => rw [subject?_met h, Event.heading]
  | missed q e => rw [Event.heading, Option.some.inj h]

/-- No two events with different headings have the same subject. -/
theorem nodup_subjects (h : (events.map Event.heading).Nodup) (w : Walker) :
    (events.filterMap w.subject?).Nodup := by
  refine List.pairwise_filterMap.mpr ((List.pairwise_map.mp h).imp ?_)
  rintro event other hne x hx _ hx' rfl
  exact hne ((heading_of_subject? hx).trans (heading_of_subject? hx').symm)

theorem nodup_course {world : World} {root : Path} (hplaces : world.tree.places.Nodup)
    (w : Walker) (host : Host) (recursive : Bool) :
    ((course host root recursive world.tree).filterMap w.subject?).Nodup := by
  unfold course
  split
  · exact nodup_subjects (Tree.nodup_headings hplaces _ _ _ _) w
  · exact List.nodup_nil

end Walker

namespace Summary

/-! ## What an event adds -/

theorem changedFiles_book : (s.book p ending).changedFiles =
    s.changedFiles ++ if Walker.changes ending then [p] else [] := by
  unfold book
  cases ending with
  | error e => simp [Walker.changes, recordError, recordProcessed]
  | ok result =>
    cases hchanged : result.changed <;>
      simp [Walker.changes, hchanged, recordChanged, recordProcessed]

theorem lookup_book (x : Path) : (s.book p ending).errors.lookup x =
    if x = p then (Walker.complaint? ending).or (s.errors.lookup x) else s.errors.lookup x := by
  unfold book
  cases ending with
  | error e =>
    simp only [recordError, recordProcessed, lookup_setMessage, Walker.complaint?, Option.some_or]
  | ok result =>
    cases hchanged : result.changed <;>
      simp [Walker.complaint?, hchanged, recordChanged, recordProcessed]

theorem enter_taken (h : w.taken? event = some p) :
    s.enter w outcome event = s.book p (outcome p) := by
  obtain ⟨rfl, heligible⟩ := Walker.taken?_eq_some_iff.mp h
  simp [enter, Candidate.isFile, heligible]

theorem enter_passed {c : Candidate} (h : w.taken? (.met c) = none) :
    s.enter w outcome (.met c) = s := by
  simp only [Walker.taken?] at h
  split at h
  · cases h
  · next hcond => simp only [enter, if_neg hcond]

theorem enter_congr {outcome' : Path → Except Failure Transformed}
    (h : ∀ p ∈ w.taken? event, outcome p = outcome' p) :
    s.enter w outcome event = s.enter w outcome' event := by
  cases htaken : w.taken? event with
  | some p => rw [enter_taken htaken, enter_taken htaken, h p htaken]
  | none =>
    cases event with
    | missed p e => rfl
    | met c => rw [enter_passed htaken, enter_passed htaken]

theorem changedFiles_enter : (s.enter w outcome event).changedFiles =
    s.changedFiles ++ (w.taken? event).toList.filter fun p => Walker.changes (outcome p) := by
  cases htaken : w.taken? event with
  | some p =>
    rw [enter_taken htaken, changedFiles_book]
    cases hchanges : Walker.changes (outcome p) <;> simp [hchanges]
  | none =>
    cases event with
    | missed p e => simp [enter, recordError]
    | met c => simp [enter_passed htaken]

theorem changedFiles_foldl_enter (events : List Event) (s : Summary) :
    (events.foldl (fun s event => s.enter w outcome event) s).changedFiles =
      s.changedFiles ++ (events.filterMap w.taken?).filter fun p => Walker.changes (outcome p) := by
  induction events generalizing s with
  | nil => simp
  | cons event events ih =>
    rw [List.foldl_cons, ih, changedFiles_enter]
    cases htaken : w.taken? event <;> simp [htaken, List.filter_cons]
    split <;> simp

/-- What is noted about other paths stays. -/
theorem lookup_enter_of_ne (h : w.subject? event ≠ some q) :
    (s.enter w outcome event).errors.lookup q = s.errors.lookup q := by
  cases event with
  | missed p e =>
    have hne : q ≠ p := fun heq => h (congrArg some heq.symm)
    simp only [enter, recordError, lookup_setMessage, if_neg hne]
  | met c =>
    cases htaken : w.taken? (.met c) with
    | none => rw [enter_passed htaken]
    | some p =>
      have hne : q ≠ p := by
        rintro rfl
        exact h htaken
      rw [enter_taken htaken, lookup_book, if_neg hne]

theorem mem_changedFiles_enter_of_ne (h : w.subject? event ≠ some q) :
    q ∈ (s.enter w outcome event).changedFiles ↔ q ∈ s.changedFiles := by
  have hnot : w.taken? event ≠ some q := fun htaken => h (Walker.subject?_of_taken? htaken)
  rw [changedFiles_enter, List.mem_append, List.mem_filter, Option.mem_toList]
  simp [hnot]

/-- Every failure was counted once, and has an entry of its own. -/
structure Tidy (s : Summary) : Prop where
  once : (s.errors.map Prod.fst).Nodup
  counted : s.failed = s.errors.length

theorem tidy_empty : empty.Tidy := ⟨List.nodup_nil, rfl⟩

/-- A message for a new path comes last. -/
theorem setMessage_of_fresh {errors : List (Path × String)} (h : errors.lookup p = none)
    (message : String) : setMessage p message errors = errors ++ [(p, message)] := by
  induction errors with
  | nil => rfl
  | cons pair errors ih =>
    obtain ⟨other, old⟩ := pair
    rw [List.lookup_cons] at h
    split at h
    · cases h
    · next hne =>
      have hother : other ≠ p := fun heq => by simp [heq] at hne
      rw [setMessage, if_neg hother, ih h]
      rfl

theorem Tidy.recordError (h : s.Tidy) (hfresh : s.errors.lookup p = none) (message : String) :
    (s.recordError p message).Tidy := by
  have hnot : p ∉ s.errors.map Prod.fst := fun hmem => by
    obtain ⟨pair, hpair, rfl⟩ := List.mem_map.mp hmem
    exact absurd (List.lookup_eq_none_iff.mp hfresh pair hpair) (by simp)
  constructor
  · simp only [Summary.recordError, setMessage_of_fresh hfresh, List.map_append, List.map_cons,
      List.map_nil]
    exact List.nodup_append.mpr ⟨h.once, List.nodup_singleton _, fun x hx y hy heq =>
      hnot (List.mem_singleton.mp hy ▸ heq ▸ hx)⟩
  · simp [Summary.recordError, setMessage_of_fresh hfresh, h.counted]

/-- The totals stay in step with each other, if a path is not counted twice. -/
theorem Tidy.enter (h : s.Tidy) (hfresh : ∀ p ∈ w.subject? event, s.errors.lookup p = none) :
    (s.enter w outcome event).Tidy := by
  cases htaken : w.taken? event with
  | some p =>
    rw [enter_taken htaken]
    have hprocessed : s.recordProcessed.Tidy := ⟨h.once, h.counted⟩
    unfold book
    split
    · exact hprocessed.recordError (hfresh p (Walker.subject?_of_taken? htaken)) _
    · split
      · exact ⟨h.once, h.counted⟩
      · exact hprocessed
  | none =>
    cases event with
    | missed p e => exact h.recordError (hfresh p rfl) _
    | met c =>
      rw [enter_passed htaken]
      exact h

end Summary

namespace Walker

/-! ## What a run notes -/

/-- Events that have nothing to do with a path leave what is noted about it. -/
theorem noted_replay (h : w.Steady host logs)
    (hready : run.Ready host logs (events.filterMap w.taken?)) (dryRun : Bool)
    (hother : q ∉ events.filterMap w.subject?) :
    (w.replay host dryRun events run).summary.errors.lookup q = run.summary.errors.lookup q ∧
      (q ∈ (w.replay host dryRun events run).summary.changedFiles ↔
        q ∈ run.summary.changedFiles) := by
  induction events generalizing run with
  | nil => exact ⟨rfl, Iff.rfl⟩
  | cons event events ih =>
    have hne : w.subject? event ≠ some q := fun heq =>
      hother (List.mem_filterMap.mpr ⟨event, List.mem_cons_self, heq⟩)
    have hrest : q ∉ events.filterMap w.subject? := fun hmem =>
      hother (subjects_cons_subset _ _ hmem)
    obtain ⟨hlookup, hmem⟩ := ih (hready.tail (shape_act h.keepsShape hready.head dryRun)) hrest
    have hsummary := (act_eq h hready.head dryRun).1
    rw [hsummary] at hlookup hmem
    exact ⟨hlookup.trans (Summary.lookup_enter_of_ne hne),
      hmem.trans (Summary.mem_changedFiles_enter_of_ne hne)⟩

/-- If no two events have the same subject, every failure has an entry of its own. -/
theorem tidy_replay (h : w.Steady host logs)
    (hready : run.Ready host logs (events.filterMap w.taken?)) (dryRun : Bool)
    (honce : (events.filterMap w.subject?).Nodup)
    (hfresh : ∀ x ∈ events.filterMap w.subject?, run.summary.errors.lookup x = none)
    (htidy : run.summary.Tidy) : (w.replay host dryRun events run).summary.Tidy := by
  induction events generalizing run with
  | nil => exact htidy
  | cons event events ih =>
    have hsummary := (act_eq h hready.head dryRun).1
    obtain ⟨hrest, hothers⟩ := subjects_cons honce
    refine ih (hready.tail (shape_act h.keepsShape hready.head dryRun)) hrest ?_ ?_
    · intro x hx
      rw [hsummary, Summary.lookup_enter_of_ne (hothers x hx)]
      exact hfresh x (subjects_cons_subset _ _ hx)
    · rw [hsummary]
      exact htidy.enter fun x hx => hfresh x (by simp [List.filterMap_cons_some hx])

/-- A directory that is missed is noted with what there is to say about it. -/
theorem lookup_of_missed (h : w.Steady host logs)
    (hready : run.Ready host logs (events.filterMap w.taken?)) (dryRun : Bool)
    (honce : (events.filterMap w.subject?).Nodup) {e : SystemError}
    (hmissed : .missed q e ∈ events) :
    (w.replay host dryRun events run).summary.errors.lookup q = some e.message := by
  obtain ⟨before, after, rfl⟩ := List.append_of_mem hmissed
  have hlast := (subject_fresh honce rfl).2
  have hready' : run.Ready host logs (before.filterMap w.taken?) := hready.of_shape rfl (by simp)
  have hturn : (w.replay host dryRun before run).Ready host logs
      ((.missed q e :: after).filterMap w.taken?) :=
    hready.of_shape (shape_replay h.keepsShape hready' dryRun).symm (by simp)
  rw [replay_append, replay_cons,
    (noted_replay h (hturn.tail (shape_act h.keepsShape hturn.head dryRun)) dryRun hlast).1,
    (act_eq h hturn.head dryRun).1, Summary.enter, Summary.recordError, Summary.lookup_setMessage,
    if_pos rfl]

end Walker
end BatchFormat
