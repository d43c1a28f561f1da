import BatchFormat.Proofs.Traverse.Order

/-!
# With a handler and without one

A traversal calls its handler for each directory that it comes to and that cannot be listed, in the
order in which it comes to them, and goes on behind it. Without a handler it does the same until the
first of these calls, and ends there with the error that the handler would have been given.
-/
namespace BatchFormat

namespace Event

variable {t : Tree} {faults : Faults} {cwd : Location} {recursive : Bool}
  {before above new : List Event} {bare handled : Progress (List Event)} {p q root : Path}

/-- The directories that are missed come in the order of what is met, each behind its own. -/
def Announces (new : List Event) : Prop :=
  ((new.filterMap missed?).map Prod.fst).Sublist
    ((new.filterMap candidate?).map Candidate.path)

/-- How a part of a traversal goes without a handler, if this is what it adds with one: if nothing
is missed, it goes the same way, and otherwise it ends where the first directory is missed, which
is the last one that it has come to. -/
def Breaks (before above new : List Event) (bare handled : Progress (List Event)) : Prop :=
  (new.filterMap missed? = [] ∧ bare = handled) ∨
    ∃ first d e rest, new = first ++ missed d e :: rest ∧ first.filterMap missed? = [] ∧
      (above ++ first).getLast? = some (met ⟨d, .directory⟩) ∧ bare = ⟨before ++ first, some e⟩

/-- What a part of a traversal does with a handler, compared with what it does without one; what
was met right above it, if anything, belongs to it. -/
def Compares (before above : List Event) (bare handled : Progress (List Event)) : Prop :=
  ∃ new, handled.state = before ++ new ∧ Announces (above ++ new) ∧
    Breaks before above new bare handled

theorem Compares.same (hstate : handled.state = before ++ new)
    (hnew : new.filterMap missed? = []) : Compares before [] handled handled :=
  ⟨new, hstate, by simp [Announces, hnew], Or.inl ⟨hnew, rfl⟩⟩

theorem Compares.nothing (before : List Event) (stopped : Option SystemError) :
    Compares before [] ⟨before, stopped⟩ ⟨before, stopped⟩ :=
  .same (by simp) (List.filterMap_nil)

theorem Compares.one (c : Candidate) (before : List Event) (stopped : Option SystemError) :
    Compares before [] ⟨before ++ [met c], stopped⟩ ⟨before ++ [met c], stopped⟩ :=
  .same rfl rfl

/-- What is met above a part can be left out of account if nothing in the part depends on it. -/
theorem Compares.lift (h : Compares before [] bare handled) (c : Candidate) :
    Compares before [met c] bare handled := by
  obtain ⟨new, hstate, hannounced, hbreaks⟩ := h
  refine ⟨new, hstate, ?_, ?_⟩
  · exact hannounced.trans (List.sublist_cons_self _ _)
  · rcases hbreaks with hsame | ⟨first, d, e, rest, hnew, hfirst, hlast, hbare⟩
    · exact Or.inl hsame
    · refine Or.inr ⟨first, d, e, rest, hnew, hfirst, ?_, hbare⟩
      rw [List.nil_append] at hlast
      rw [List.getLast?_append, hlast]
      rfl

/-- A directory that is met, and what is done in it. -/
theorem Compares.enter (h : Compares (before ++ [met ⟨q, .directory⟩]) [met ⟨q, .directory⟩]
    bare handled) : Compares before [] bare handled := by
  obtain ⟨new, hstate, hannounced, hbreaks⟩ := h
  refine ⟨met ⟨q, .directory⟩ :: new, by simpa using hstate, hannounced, ?_⟩
  rcases hbreaks with ⟨hnone, hsame⟩ | ⟨first, d, e, rest, rfl, hfirst, hlast, hbare⟩
  · exact Or.inl ⟨hnone, hsame⟩
  · refine Or.inr ⟨met ⟨q, .directory⟩ :: first, d, e, rest, rfl, hfirst, hlast, ?_⟩
    rw [hbare, List.append_assoc]
    rfl

/-- Two parts of a traversal, one after the other, with a handler and without. -/
theorem Compares.andThen {f g : List Event → Progress (List Event)}
    (h : Compares before [] bare handled)
    (hnext : ∀ events, Compares events [] (f events) (g events)) :
    Compares before [] (bare.andThen f) (handled.andThen g) := by
  obtain ⟨new, hstate, hannounced, hbreaks⟩ := h
  have hbare : ∀ first e, bare = ⟨before ++ first, some e⟩ → bare.andThen f = bare := by
    rintro first e rfl
    rfl
  cases hstopped : handled.stopped with
  | some stop =>
    have hhandled : handled.andThen g = handled := by simp [Progress.andThen, hstopped]
    rw [hhandled]
    refine ⟨new, hstate, hannounced, ?_⟩
    rcases hbreaks with ⟨hnone, rfl⟩ | ⟨first, d, e, rest, hnew, hfirst, hlast, hend⟩
    · exact Or.inl ⟨hnone, by simp [Progress.andThen, hstopped]⟩
    · exact Or.inr ⟨first, d, e, rest, hnew, hfirst, hlast, (hbare first e hend).trans hend⟩
  | none =>
    have hhandled : handled.andThen g = g handled.state := by simp [Progress.andThen, hstopped]
    rw [hhandled]
    obtain ⟨more, hmore, hannounced', hbreaks'⟩ := hnext handled.state
    refine ⟨new ++ more, by rw [hmore, hstate, List.append_assoc], ?_, ?_⟩
    · unfold Announces at hannounced hannounced' ⊢
      simpa using hannounced.append hannounced'
    · rcases hbreaks with ⟨hnone, rfl⟩ | ⟨first, d, e, rest, rfl, hfirst, hlast, hend⟩
      · have hgoes : bare.andThen f = f bare.state := by simp [Progress.andThen, hstopped]
        rw [hgoes]
        rcases hbreaks' with ⟨hnone', hsame⟩ | ⟨first, d, e, rest, rfl, hfirst, hlast, hend⟩
        · exact Or.inl ⟨by simp [hnone, hnone'], hsame⟩
        · refine Or.inr ⟨new ++ first, d, e, rest, by simp, by simp [hnone, hfirst], ?_, ?_⟩
          · simp only [List.nil_append] at hlast ⊢
            rw [List.getLast?_append, hlast]
            rfl
          · rw [hend, hstate, List.append_assoc]
      · exact Or.inr ⟨first, d, e, rest ++ more, by simp, hfirst, hlast,
          (hbare first e hend).trans hend⟩

theorem Compares.foldl {f g : String → List Event → Progress (List Event)} (names : List String)
    (hnext : ∀ name ∈ names, ∀ events, Compares events [] (f name events) (g name events))
    (h : Compares before [] bare handled) :
    Compares before [] (names.foldl (fun progress name => progress.andThen (f name)) bare)
      (names.foldl (fun progress name => progress.andThen (g name)) handled) := by
  induction names generalizing bare handled with
  | nil => exact h
  | cons name names ih =>
    exact ih (fun other hother => hnext other (List.mem_cons_of_mem _ hother))
      (h.andThen (hnext name List.mem_cons_self))

/-- An entry that is met in both traversals, and explored in both if in one. -/
theorem Compares.entry {enter enter' : Path → List Event → Progress (List Event)}
    (hlists : t.Lists faults cwd p q)
    (henter : t.Enters faults cwd recursive p q → ∀ events,
      Compares events [met ⟨q, .directory⟩] (enter q events) (enter' q events)) :
    Compares before [] ((recorder t false).entry cwd recursive enter q before)
      ((recorder t true).entry cwd recursive enter' q before) := by
  change Compares before [] ((recorder t true).entry cwd recursive enter q before) _
  by_cases henters : t.Enters faults cwd recursive p q
  · rw [entry_of_enters henters, entry_of_enters henters]
    exact (henter henters _).enter
  · cases hkind : t.kind? cwd q with
    | error e =>
      rw [entry_of_error hkind, entry_of_error hkind]
      exact .nothing before _
    | ok kind =>
      cases kind with
      | none =>
        rw [entry_of_other hkind, entry_of_other hkind]
        exact .nothing before _
      | some kind =>
        rw [entry_of_not_enters hlists hkind henters, entry_of_not_enters hlists hkind henters]
        exact .one ⟨q, kind⟩ before none

/-- A directory that cannot be listed ends the part without a handler. An error that does not come
from the system is no concern of the handler, and ends both. -/
theorem Compares.skip (p : Path) (e : SystemError) (before : List Event) :
    Compares before [met ⟨p, .directory⟩] ((recorder t false).skip p e before)
      ((recorder t true).skip p e before) := by
  have hbare : (recorder t false).skip p e before = ⟨before, some e⟩ := rfl
  rw [hbare]
  cases hrefusal : e.isRefusal with
  | false =>
    have hhandled : (recorder t true).skip p e before = ⟨before, some e⟩ := by
      simp [Visitor.skip, recorder, hrefusal]
    rw [hhandled]
    exact (Compares.nothing before _).lift _
  | true =>
    have hhandled : (recorder t true).skip p e before = ⟨before ++ [missed p e], none⟩ := by
      simp [Visitor.skip, recorder, hrefusal]
    rw [hhandled]
    exact ⟨[missed p e], rfl, List.Sublist.refl _,
      Or.inr ⟨[], p, e, [], rfl, rfl, rfl, by rw [List.append_nil]⟩⟩

/-- What lies below a directory that is met, with a handler and without. -/
theorem Compares.below (depth : Nat) (p : Path) (before : List Event) :
    Compares before [met ⟨p, .directory⟩]
      ((recorder t false).below faults cwd recursive depth p before)
      ((recorder t true).below faults cwd recursive depth p before) := by
  induction depth generalizing p before with
  | zero => exact (Compares.nothing before none).lift _
  | succ depth ih =>
    cases hlist : t.list faults cwd p with
    | error e =>
      have hskip : ∀ b, (recorder t b).below faults cwd recursive (depth + 1) p before =
          (recorder t b).skip p e before := by
        intro b
        simp [Visitor.below, recorder, hlist]
      rw [hskip, hskip]
      exact .skip p e before
    | ok names =>
      have hfold : ∀ b, (recorder t b).below faults cwd recursive (depth + 1) p before =
          names.foldl (fun progress name => progress.andThen ((recorder t b).entry cwd recursive
            ((recorder t b).below faults cwd recursive depth) (p.child name)))
            ⟨before, none⟩ := by
        intro b
        simp [Visitor.below, recorder, hlist]
      rw [hfold, hfold]
      refine Compares.lift ?_ _
      refine Compares.foldl names (fun name hname events => ?_) (.nothing before none)
      exact .entry ⟨names, hlist, name, hname, rfl⟩ fun _ events => ih (p.child name) events

end Event

namespace Tree

variable {t : Tree} {faults : Faults} {cwd : Location} {recursive : Bool} {root d : Path}
  {e : SystemError}

/-- A whole traversal with a handler, compared with one that has none. -/
theorem compares_events (t : Tree) (faults : Faults) (cwd : Location) (root : Path)
    (recursive : Bool) :
    Event.Compares [] [.met ⟨root, .directory⟩] (t.events faults cwd root recursive false)
      (t.events faults cwd root recursive true) := by
  cases hfile : t.isFile cwd root with
  | error e =>
    have hrun : ∀ b, t.events faults cwd root recursive b = ⟨[], some e⟩ := by
      intro b
      simp [events, Visitor.run, Event.recorder, hfile]
    rw [hrun, hrun]
    exact (Event.Compares.nothing [] _).lift _
  | ok isFile =>
    cases isFile with
    | true =>
      have hrun : ∀ b, t.events faults cwd root recursive b = ⟨[.met ⟨root, .file⟩], none⟩ := by
        intro b
        simp [events, Visitor.run, Event.recorder, hfile]
      rw [hrun, hrun]
      exact (Event.Compares.one ⟨root, .file⟩ [] none).lift _
    | false =>
      have hrun : ∀ b, t.events faults cwd root recursive b =
          (Event.recorder t b).below faults cwd recursive Visitor.depthLimit root [] := by
        intro b
        simp [events, Visitor.run, Event.recorder, hfile]
      rw [hrun, hrun]
      exact .below _ root []

/-! ## The calls of the handler -/

/-- A directory that a traversal comes to and that the system refuses to list. -/
def Refuses (t : Tree) (faults : Faults) (cwd : Location) (recursive : Bool) (root d : Path)
    (e : SystemError) : Prop :=
  t.Unlisted faults cwd recursive root d e ∧ e.isRefusal = true

theorem Unlisted.eq_root (h : t.Unlisted faults cwd recursive root d e) {e' : SystemError}
    (hlist : t.list faults cwd root = .error e') : d = root ∧ e = e' := by
  obtain rfl := h.reaches.eq_of_unlisted (Path.Within.refl root) h.reaches.within hlist
  exact ⟨rfl, Except.error.inj (h.list.symm.trans hlist)⟩

theorem entryAt?_of_reaches (hroot : ∃ found, t.entryAt? cwd true root = .ok found)
    (h : t.Reaches faults cwd recursive root d) : ∃ found, t.entryAt? cwd true d = .ok found := by
  rcases Relation.ReflTransGen.cases_tail h with heq | ⟨p, -, henters⟩
  · exact heq ▸ hroot
  · obtain ⟨place, entry, hfound, -⟩ := entryAt?_of_test henters.isDir
    exact ⟨_, hfound⟩

theorem dir_of_list {names : List String} (h : t.list faults cwd d = .ok names) :
    ∃ place mode, t.entryAt? cwd true d = .ok (place, .dir mode) ∧ names = t.names place := by
  unfold list at h
  split at h
  · cases h
  · split at h
    · cases h
    · next place mode hentry =>
      cases h
      exact ⟨place, mode, hentry, rfl⟩
    · cases h

section

variable (hfile : ∃ isFile, t.isFile cwd root = .ok isFile)
  (htells : ∀ q, t.Meets faults cwd recursive root q → ∃ kind, t.kind? cwd q = .ok kind)
include hfile htells

omit hfile in
/-- Where it can always be told what an entry is, a root that can be listed is traversed to the
end. -/
theorem stopped_eq_none {names : List String} (hlist : t.list faults cwd root = .ok names) :
    (t.events faults cwd root recursive true).stopped = none := by
  obtain ⟨place, mode, hentry, -⟩ := dir_of_list hlist
  have hdir := isDir_of_dir hentry
  refine (events_stopped_iff (pathExists_of_test hdir)).mpr ?_
  rintro q (⟨hother, -⟩ | ⟨-, hmeets⟩)
  · cases hother.symm.trans (isFile_of_isDir hdir)
  · exact htells q hmeets

/-- The handler is called for the directories that are come to and refused, with the error. -/
theorem missed_mem_events_iff :
    .missed d e ∈ (t.events faults cwd root recursive true).state ↔
      t.Refuses faults cwd recursive root d e := by
  obtain ⟨isFile, hfile⟩ := hfile
  cases isFile with
  | true =>
    rw [events_of_file hfile]
    constructor
    · simp
    · rintro ⟨hunlisted, -⟩
      cases hfile.symm.trans hunlisted.deep
  | false =>
    cases hlist : t.list faults cwd root with
    | error e' =>
      rw [events_of_unlisted hfile hlist]
      constructor
      · split
        · next hrefusal =>
          intro hmem
          cases List.mem_singleton.mp hmem
          exact ⟨⟨hfile, .refl, hlist⟩, hrefusal⟩
        · simp
      · rintro ⟨hunlisted, hrefusal⟩
        obtain ⟨rfl, rfl⟩ := hunlisted.eq_root hlist
        simp [hrefusal]
    | ok names =>
      have hnone := stopped_eq_none htells hlist
      obtain ⟨place, mode, hentry, -⟩ := dir_of_list hlist
      have hroot := pathExists_of_test (isDir_of_dir hentry)
      constructor
      · intro hmem
        obtain ⟨hreaches, herror⟩ :=
          ((explored_events hfile hroot faults recursive).sound _ hmem).resolve_left (by simp)
        obtain ⟨found, hfound⟩ := entryAt?_of_reaches ⟨_, hentry⟩ hreaches
        exact ⟨⟨hfile, hreaches, herror⟩,
          isRefusal_of_list (entryAt?_eq_ok_iff.mp hfound).1 herror⟩
      · exact fun hrefuses => missed_mem_events hroot hnone hrefuses.1

end

theorem mem_missed_iff {events : List Event} :
    (d, e) ∈ events.filterMap Event.missed? ↔ .missed d e ∈ events := by
  rw [List.mem_filterMap]
  constructor
  · rintro ⟨_ | ⟨d', e'⟩, hevent, hmissed⟩
    · cases hmissed
    · cases hmissed
      exact hevent
  · exact fun hevent => ⟨_, hevent, rfl⟩

/-- A root of which something is missed is no file. -/
theorem isFile_of_missed
    (h : .missed d e ∈ (t.events faults cwd root recursive true).state) :
    t.isFile cwd root = .ok false := by
  cases hfile : t.isFile cwd root with
  | error e' => simp [events, Visitor.run, Event.recorder, hfile] at h
  | ok isFile =>
    cases isFile with
    | false => rfl
    | true => simp [events_of_file hfile] at h

end Tree

namespace Survey

variable {t : Tree} {faults : Faults} {cwd : Location} {recursive : Bool} {root d : Path}
  {e : SystemError}

/-- A handler that is not called makes no difference. -/
theorem take_bare_eq (h : (take t faults cwd root recursive true).state.unlisted = []) :
    take t faults cwd root recursive false = take t faults cwd root recursive true := by
  obtain ⟨new, hstate, -, hbreaks⟩ := Tree.compares_events t faults cwd root recursive
  rw [take_eq_events] at h
  rcases hbreaks with ⟨-, hsame⟩ | ⟨first, d, e, rest, hnew, -⟩
  · rw [take_eq_events, take_eq_events, hsame]
  · simp [hstate, hnew, Event.missed?] at h

/-- Without a handler a traversal ends where it would first be called. -/
theorem take_bare_of_head (hplaces : t.places.Nodup)
    (h : (take t faults cwd root recursive true).state.unlisted.head? = some (d, e)) :
    let handled := take t faults cwd root recursive true
    let bare := take t faults cwd root recursive false
    bare.stopped = some e ∧ bare.state.candidates <+: handled.state.candidates ∧
      bare.state.candidates.getLast? = if d = root then none else some ⟨d, .directory⟩ := by
  obtain ⟨new, hstate, -, hbreaks⟩ := Tree.compares_events t faults cwd root recursive
  simp only [take_eq_events] at h ⊢
  rw [List.nil_append] at hstate
  rw [hstate] at h ⊢
  rcases hbreaks with ⟨hnone, -⟩ | ⟨first, d', e', rest, rfl, hfirst, hlast, hbare⟩
  · simp [hnone] at h
  · simp only [List.filterMap_append, hfirst, List.nil_append] at h
    obtain ⟨rfl, rfl⟩ : d' = d ∧ e' = e := by simpa [Event.missed?] using h
    simp only [hbare, List.nil_append, List.filterMap_append, List.prefix_append, true_and]
    rcases List.eq_nil_or_concat first with rfl | ⟨front, last, rfl⟩
    · obtain rfl : root = d' := by simpa using hlast
      simp
    · obtain rfl : last = .met ⟨d', .directory⟩ := by
        rw [List.concat_eq_append, ← List.append_assoc, List.getLast?_concat] at hlast
        exact Option.some.inj hlast
      have hmissed : .missed d' e' ∈ (t.events faults cwd root recursive true).state := by
        rw [hstate]
        simp
      obtain ⟨-, hbelow⟩ := Tree.candidates_of_not_file hplaces (Tree.isFile_of_missed hmissed)
        faults recursive true
      have hne : d' ≠ root := by
        refine (hbelow ⟨d', .directory⟩ ?_).ne
        rw [hstate]
        simp [Event.candidate?]
      simp [hne, Event.candidate?]

/-- The handler is called for the directories in the order in which they are met, and once each. -/
theorem unlisted_in_order (hplaces : t.places.Nodup) :
    let handled := (take t faults cwd root recursive true).state
    (handled.unlisted.map Prod.fst).Sublist (root :: handled.candidates.map Candidate.path) ∧
      (handled.unlisted.map Prod.fst).Nodup := by
  obtain ⟨new, hstate, hannounced, -⟩ := Tree.compares_events t faults cwd root recursive
  rw [List.nil_append] at hstate
  simp only [take_eq_events, hstate]
  have hsublist : ((new.filterMap Event.missed?).map Prod.fst).Sublist
      (root :: (new.filterMap Event.candidate?).map Candidate.path) := hannounced
  refine ⟨hsublist, ?_⟩
  cases hmissed : new.filterMap Event.missed? with
  | nil => simp
  | cons miss rest =>
    have hmem : .missed miss.1 miss.2 ∈ (t.events faults cwd root recursive true).state := by
      rw [hstate, ← Tree.mem_missed_iff, hmissed]
      exact List.mem_cons_self
    obtain ⟨hsorted, hbelow⟩ := Tree.candidates_of_not_file hplaces
      (Tree.isFile_of_missed hmem) faults recursive true
    rw [hstate] at hsorted hbelow
    rw [← hmissed]
    refine List.Nodup.sublist hsublist (List.nodup_cons.mpr ⟨?_, ?_⟩)
    · intro hroot
      obtain ⟨c, hc, heq⟩ := List.mem_map.mp hroot
      exact (hbelow c hc).ne heq
    · refine List.pairwise_map.mpr (hsorted.imp fun {a b} hab heq => ?_)
      rw [Path.Precedes, heq] at hab
      exact List.lt_irrefl _ hab

end Survey
end BatchFormat
