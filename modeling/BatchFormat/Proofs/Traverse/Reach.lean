import Mathlib.Logic.Relation
import BatchFormat.Proofs.Traverse.Simulation

/-!
# How far a traversal reaches

A traversal enters every directory that can be reached from its root through directories that can
be listed, and meets every entry there. The only thing that can stop it is an entry whose kind the
system refuses to tell, which is one that leads to a name that is too long.
-/
namespace BatchFormat

/-- A path with many names is a long text. -/
theorem Path.length_parts_le (p : Path) : p.parts.length ≤ p.text.utf8ByteSize + 1 := by
  have hnames : ∀ names : List String,
      names.length ≤ (String.intercalate "/" names).utf8ByteSize + 1 := by
    intro names
    induction names with
    | nil => simp
    | cons name names ih =>
      cases names with
      | nil => simp
      | cons next names =>
        have hslash : "/".utf8ByteSize = 1 := by decide
        rw [String.intercalate_cons_cons, String.utf8ByteSize_append, String.utf8ByteSize_append]
        simp only [List.length_cons] at ih ⊢
        omega
  have hparts := hnames p.parts
  unfold text
  split
  · next hdot => simp [hdot.2]
  · rw [String.utf8ByteSize_append]
    omega

namespace Tree

variable (t : Tree) (faults : Faults) (cwd : Location) (recursive : Bool)

/-- `q` is an entry of the directory `p`, which can be listed. -/
def Lists (p q : Path) : Prop :=
  ∃ names, t.list faults cwd p = .ok names ∧ ∃ name ∈ names, q = p.child name

/-- From `p` the traversal goes on into `q`, a directory in `p` itself. -/
structure Enters (p q : Path) : Prop where
  lists : t.Lists faults cwd p q
  deep : recursive = true
  isDir : t.isDir cwd q = .ok true
  isLink : t.isLink cwd q = .ok false

/-- The directories that are reached from `p` through directories that can be listed. -/
def Reaches : Path → Path → Prop := Relation.ReflTransGen (t.Enters faults cwd recursive)

/-- What there is to meet below `p`. -/
def Meets (p q : Path) : Prop := ∃ d, t.Reaches faults cwd recursive p d ∧ t.Lists faults cwd d q

variable {t faults cwd recursive} {p q d : Path} {names : List String}

theorem Lists.cases (h : t.list faults cwd p = .ok names) (hq : t.Lists faults cwd p q) :
    ∃ name ∈ names, q = p.child name := by
  obtain ⟨names', hnames', hq⟩ := hq
  rw [h] at hnames'
  cases hnames'
  exact hq

/-- What is reached from a directory is the directory itself, or is reached from one in it. -/
theorem Reaches.cases (h : t.list faults cwd p = .ok names)
    (hd : t.Reaches faults cwd recursive p d) :
    d = p ∨ ∃ name ∈ names, t.Enters faults cwd recursive p (p.child name) ∧
      t.Reaches faults cwd recursive (p.child name) d := by
  rcases Relation.ReflTransGen.cases_head hd with rfl | ⟨c, hc, hcd⟩
  · exact Or.inl rfl
  · obtain ⟨name, hmem, rfl⟩ := hc.lists.cases h
    exact Or.inr ⟨name, hmem, hc, hcd⟩

/-- What is met below a directory is an entry of it, or is met below one. -/
theorem Meets.cases (h : t.list faults cwd p = .ok names)
    (hq : t.Meets faults cwd recursive p q) :
    ∃ name ∈ names, q = p.child name ∨ t.Enters faults cwd recursive p (p.child name) ∧
      t.Meets faults cwd recursive (p.child name) q := by
  obtain ⟨d, hd, hq⟩ := hq
  rcases Reaches.cases h hd with rfl | ⟨name, hmem, hc, hcd⟩
  · obtain ⟨name, hmem, rfl⟩ := hq.cases h
    exact ⟨name, hmem, Or.inl rfl⟩
  · exact ⟨name, hmem, Or.inr ⟨hc, d, hcd, hq⟩⟩

end Tree

namespace Event

variable (t : Tree) (faults : Faults) (cwd : Location) (recursive : Bool) (root : Path)

/-- An event that is bound to happen: what is met is there, and what is missed is reached. -/
def Occurs : Event → Prop
  | met c => t.Meets faults cwd recursive root c.path ∧ t.kind? cwd c.path = .ok (some c.kind)
  | missed p e => t.Reaches faults cwd recursive root p ∧ t.list faults cwd p = .error e

/-- What a part of a traversal did: it kept the notes that there were, added nothing but what
occurs, and, if it was not stopped, noted some entries and some directories for certain. -/
structure Explored (before : List Event) (after : Progress (List Event))
    (dirs entries : Path → Prop) : Prop where
  keeps : before ⊆ after.state
  sound : ∀ event ∈ after.state, event ∈ before ∨ Occurs t faults cwd recursive root event
  halts : ∀ e, after.stopped = some e →
    ∃ q, t.Meets faults cwd recursive root q ∧ t.kind? cwd q = .error e
  met : after.stopped = none → ∀ q, entries q →
    ∃ kind, t.kind? cwd q = .ok kind ∧ ∀ k, kind = some k → met ⟨q, k⟩ ∈ after.state
  missed : after.stopped = none → ∀ d, dirs d → ∀ e, t.list faults cwd d = .error e →
    missed d e ∈ after.state

variable {t faults cwd recursive root} {before : List Event} {after : Progress (List Event)}
  {dirs entries dirs' entries' : Path → Prop} {p q : Path}

/-- Of directories that can be listed there is nothing to note. -/
theorem Explored.mono (h : Explored t faults cwd recursive root before after dirs entries)
    (hdirs : ∀ d, dirs' d → dirs d ∨ ∃ names, t.list faults cwd d = .ok names)
    (hentries : ∀ q, entries' q → entries q) :
    Explored t faults cwd recursive root before after dirs' entries' where
  keeps := h.keeps
  sound := h.sound
  halts := h.halts
  met := fun hnone q hq => h.met hnone q (hentries q hq)
  missed := by
    intro hnone d hd e he
    rcases hdirs d hd with hd | ⟨names, hnames⟩
    · exact h.missed hnone d hd e he
    · rw [hnames] at he
      cases he

/-- A part of a traversal in which nothing is looked at. -/
theorem Explored.refl (before : List Event) :
    Explored t faults cwd recursive root before ⟨before, none⟩ (fun _ => False)
      (fun _ => False) where
  keeps := List.Subset.refl _
  sound := fun _ h => Or.inl h
  halts := fun _ h => nomatch h
  met := fun _ _ h => h.elim
  missed := fun _ _ h => h.elim

/-- Two parts of a traversal, one after the other. If the first part stops, the second one is never
looked at, and nothing is claimed of it. -/
theorem Explored.andThen {f : List Event → Progress (List Event)}
    (h : Explored t faults cwd recursive root before after dirs entries)
    (hnext : ∀ events, Explored t faults cwd recursive root events (f events) dirs' entries') :
    Explored t faults cwd recursive root before (after.andThen f) (fun d => dirs d ∨ dirs' d)
      (fun q => entries q ∨ entries' q) := by
  unfold Progress.andThen
  cases hstopped : after.stopped with
  | some e =>
    refine ⟨h.keeps, h.sound, h.halts, ?_, ?_⟩ <;> simp [hstopped]
  | none =>
    have hafter := hnext after.state
    refine ⟨List.Subset.trans h.keeps hafter.keeps, ?_, hafter.halts, ?_, ?_⟩
    · intro event hevent
      rcases hafter.sound event hevent with hold | hnew
      · exact h.sound event hold
      · exact Or.inr hnew
    · rintro hnone q (hq | hq)
      · obtain ⟨kind, hkind, hmet⟩ := h.met hstopped q hq
        exact ⟨kind, hkind, fun k hk => hafter.keeps (hmet k hk)⟩
      · exact hafter.met hnone q hq
    · rintro hnone d (hd | hd) e he
      · exact hafter.keeps (h.missed hstopped d hd e he)
      · exact hafter.missed hnone d hd e he

/-- The entries of a directory, each explored in its turn. -/
theorem Explored.foldl {f : String → List Event → Progress (List Event)}
    {dirsOf entriesOf : String → Path → Prop} (names : List String)
    (hnext : ∀ name ∈ names, ∀ events, Explored t faults cwd recursive root events (f name events)
      (dirsOf name) (entriesOf name))
    (h : Explored t faults cwd recursive root before after dirs entries) :
    Explored t faults cwd recursive root before
      (names.foldl (fun progress name => progress.andThen (f name)) after)
      (fun d => dirs d ∨ ∃ name ∈ names, dirsOf name d)
      (fun q => entries q ∨ ∃ name ∈ names, entriesOf name q) := by
  induction names generalizing after dirs entries with
  | nil => exact h.mono (fun d hd => Or.inl (by simpa using hd)) (by simp)
  | cons name names ih =>
    have hstep := h.andThen (hnext name List.mem_cons_self)
    refine (ih (fun other hother => hnext other (List.mem_cons_of_mem _ hother)) hstep).mono ?_ ?_
    · intro d hd
      exact Or.inl (by simpa [or_assoc] using hd)
    · intro q hq
      simpa [or_assoc] using hq

/-! ## The notes of a traversal -/

/-- A directory that cannot be listed is noted, and leads nowhere. -/
theorem Explored.skip {e : SystemError} (hp : t.Reaches faults cwd recursive root p)
    (hlist : t.list faults cwd p = .error e) (hrefusal : e.isRefusal = true) :
    Explored t faults cwd recursive root before ((recorder t true).skip p e before)
      (t.Reaches faults cwd recursive p) (t.Meets faults cwd recursive p) := by
  have hskip : (recorder t true).skip p e before = ⟨before ++ [.missed p e], none⟩ := by
    simp [Visitor.skip, recorder, hrefusal]
  have honly : ∀ d, t.Reaches faults cwd recursive p d → d = p := by
    intro d hd
    rcases Relation.ReflTransGen.cases_head hd with heq | ⟨q, hq, -⟩
    · exact heq.symm
    · obtain ⟨names, hnames, -⟩ := hq.lists
      rw [hlist] at hnames
      cases hnames
  rw [hskip]
  refine ⟨List.subset_append_left _ _, ?_, by simp, ?_, ?_⟩
  · intro event hevent
    rcases List.mem_append.mp hevent with hold | hnew
    · exact Or.inl hold
    · rw [List.mem_singleton] at hnew
      exact Or.inr (hnew ▸ ⟨hp, hlist⟩)
  · rintro - q ⟨d, hd, names, hnames, -⟩
    rw [honly d hd, hlist] at hnames
    cases hnames
  · rintro - d hd e' he'
    rw [honly d hd, hlist] at he'
    cases he'
    simp [honly d hd]

/-- An entry that is met is noted with its kind. -/
theorem Explored.visit {kind : Kind} (hq : t.Meets faults cwd recursive root q)
    (hkind : t.kind? cwd q = .ok (some kind)) :
    Explored t faults cwd recursive root before
      ⟨(recorder t true).visit ⟨q, kind⟩ before, none⟩ (fun _ => False) (fun x => x = q) := by
  refine ⟨List.subset_append_left _ _, ?_, by simp, ?_, fun _ _ h => h.elim⟩
  · intro event hevent
    rcases List.mem_append.mp hevent with hold | hnew
    · exact Or.inl hold
    · rw [List.mem_singleton] at hnew
      exact Or.inr (hnew ▸ ⟨hq, hkind⟩)
  · rintro - x rfl
    refine ⟨_, hkind, fun k hk => ?_⟩
    cases hk
    simp [recorder]

/-! ### One entry -/

section

variable {enter : Path → List Event → Progress (List Event)} {e : SystemError} {kind : Kind}

theorem entry_of_error (hkind : t.kind? cwd q = .error e) :
    (recorder t true).entry cwd recursive enter q before = ⟨before, some e⟩ := by
  simp [Visitor.entry, recorder, hkind]

theorem entry_of_other (hkind : t.kind? cwd q = .ok none) :
    (recorder t true).entry cwd recursive enter q before = ⟨before, none⟩ := by
  simp [Visitor.entry, recorder, hkind]

theorem entry_of_enters (h : t.Enters faults cwd recursive p q) :
    (recorder t true).entry cwd recursive enter q before =
      enter q ((recorder t true).visit ⟨q, .directory⟩ before) := by
  simp [Visitor.entry, recorder, Tree.kind?_eq_directory_iff.mpr h.isDir, h.deep, h.isLink]

/-- What is met and not entered is a file, a link, or found in a traversal that stays flat. -/
theorem entry_of_not_enters (hlists : t.Lists faults cwd p q)
    (hkind : t.kind? cwd q = .ok (some kind)) (h : ¬t.Enters faults cwd recursive p q) :
    (recorder t true).entry cwd recursive enter q before =
      ⟨(recorder t true).visit ⟨q, kind⟩ before, none⟩ := by
  cases kind with
  | file => simp [Visitor.entry, recorder, hkind]
  | directory =>
    have hdir := Tree.kind?_eq_directory_iff.mp hkind
    obtain ⟨place, e, hfound, -⟩ := Tree.entryAt?_of_test hdir
    obtain ⟨link, hlink⟩ := Tree.isLink_of_entryAt? hfound
    cases link with
    | true => simp [Visitor.entry, recorder, hkind, hlink]
    | false =>
      have hflat : recursive = false := by
        cases hrec : recursive with
        | false => rfl
        | true => exact (h (hrec ▸ ⟨hlists, rfl, hdir, hlink⟩)).elim
      simp [Visitor.entry, recorder, hkind, hflat]

/-- An entry of a directory is met itself, and explored in turn if the traversal goes on into it. -/
theorem Explored.entry (hp : t.Reaches faults cwd recursive root p)
    (hlists : t.Lists faults cwd p q)
    (henter : t.Enters faults cwd recursive p q → ∀ events,
      Explored t faults cwd recursive root events (enter q events)
        (t.Reaches faults cwd recursive q) (t.Meets faults cwd recursive q)) :
    Explored t faults cwd recursive root before
      ((recorder t true).entry cwd recursive enter q before)
      (fun d => t.Enters faults cwd recursive p q ∧ t.Reaches faults cwd recursive q d)
      (fun x => x = q ∨ t.Enters faults cwd recursive p q ∧ t.Meets faults cwd recursive q x) := by
  have hq : t.Meets faults cwd recursive root q := ⟨p, hp, hlists⟩
  by_cases henters : t.Enters faults cwd recursive p q
  · rw [entry_of_enters henters]
    have hvisit : Explored t faults cwd recursive root before
        ⟨(recorder t true).visit ⟨q, .directory⟩ before, none⟩ (fun _ => False) (fun x => x = q) :=
      .visit hq (Tree.kind?_eq_directory_iff.mpr henters.isDir)
    refine (hvisit.andThen (henter henters)).mono ?_ ?_
    · exact fun d hd => Or.inl (Or.inr hd.2)
    · exact fun x hx => hx.imp id And.right
  · cases hkind : t.kind? cwd q with
    | error e =>
      rw [entry_of_error hkind]
      refine ⟨List.Subset.refl _, fun _ h => Or.inl h, ?_, by simp, by simp⟩
      intro e' he'
      cases he'
      exact ⟨q, hq, hkind⟩
    | ok kind =>
      cases kind with
      | none =>
        rw [entry_of_other hkind]
        refine ⟨List.Subset.refl _, fun _ h => Or.inl h, by simp, ?_, by simp [henters]⟩
        rintro - x (rfl | ⟨hyes, -⟩)
        · exact ⟨none, hkind, by simp⟩
        · exact (henters hyes).elim
      | some kind =>
        rw [entry_of_not_enters hlists hkind henters]
        refine (Explored.visit hq hkind).mono ?_ ?_
        · exact fun d hd => (henters hd.1).elim
        · exact fun x hx => hx.resolve_right fun h => henters h.1

end

/-- A directory that is reached is explored as a whole. There is always depth left for it, since
its path would be too long otherwise. -/
theorem Explored.below (depth : Nat) (hp : t.Reaches faults cwd recursive root p)
    (hfound : ∃ found, t.entryAt? cwd true p = .ok found)
    (hdepth : Visitor.depthLimit ≤ p.parts.length + depth) :
    Explored t faults cwd recursive root before
      ((recorder t true).below faults cwd recursive depth p before)
      (t.Reaches faults cwd recursive p) (t.Meets faults cwd recursive p) := by
  induction depth generalizing p before with
  | zero =>
    -- the system would not have found a path with so many names
    obtain ⟨found, hfound⟩ := hfound
    have hshort := (Tree.entryAt?_eq_ok_iff.mp hfound).2.1
    have hlong := p.length_parts_le
    unfold Visitor.depthLimit at hdepth
    omega
  | succ depth ih =>
    obtain ⟨⟨place, entry⟩, hfound⟩ := hfound
    cases hlist : t.list faults cwd p with
    | error e =>
      have hskip : (recorder t true).below faults cwd recursive (depth + 1) p before =
          (recorder t true).skip p e before := by
        simp [Visitor.below, recorder, hlist]
      rw [hskip]
      exact .skip hp hlist (Tree.isRefusal_of_list (Tree.entryAt?_eq_ok_iff.mp hfound).1 hlist)
    | ok names =>
      have hfold : (recorder t true).below faults cwd recursive (depth + 1) p before =
          names.foldl (fun progress name => progress.andThen ((recorder t true).entry cwd recursive
            ((recorder t true).below faults cwd recursive depth) (p.child name)))
            ⟨before, none⟩ := by
        simp [Visitor.below, recorder, hlist]
      rw [hfold]
      have hentry : ∀ name ∈ names, ∀ events,
          Explored t faults cwd recursive root events
            ((recorder t true).entry cwd recursive
              ((recorder t true).below faults cwd recursive depth) (p.child name) events)
            (fun d => t.Enters faults cwd recursive p (p.child name) ∧
              t.Reaches faults cwd recursive (p.child name) d)
            (fun q => q = p.child name ∨ t.Enters faults cwd recursive p (p.child name) ∧
              t.Meets faults cwd recursive (p.child name) q) := by
        intro name hname events
        refine .entry hp ⟨names, hlist, name, hname, rfl⟩ fun henters events => ?_
        obtain ⟨place, entry, hchild, -⟩ := Tree.entryAt?_of_test henters.isDir
        refine ih (hp.tail henters) ⟨(place, entry), hchild⟩ ?_
        simp only [Path.child, List.length_append, List.length_singleton]
        omega
      refine (Explored.foldl names hentry (Explored.refl before)).mono ?_ ?_
      · intro d hd
        rcases Tree.Reaches.cases hlist hd with rfl | ⟨name, hmem, hbelow⟩
        · exact Or.inr ⟨names, hlist⟩
        · exact Or.inl (Or.inr ⟨name, hmem, hbelow⟩)
      · intro q hq
        exact Or.inr (Tree.Meets.cases hlist hq)

end Event

namespace Tree

variable {t : Tree} {faults : Faults} {cwd : Location} {recursive : Bool} {root q : Path}

/-- The paths whose kind a traversal asks for. A root that is a file is the only one. -/
def ComesTo (t : Tree) (faults : Faults) (cwd : Location) (recursive : Bool) (root q : Path) :
    Prop :=
  (t.isFile cwd root = .ok true ∧ q = root) ∨
    (t.isFile cwd root = .ok false ∧ t.Meets faults cwd recursive root q)

theorem events_of_file (hfile : t.isFile cwd root = .ok true) :
    t.events faults cwd root recursive true = ⟨[.met ⟨root, .file⟩], none⟩ := by
  simp [events, Visitor.run, Event.recorder, hfile]

theorem explored_events (hfile : t.isFile cwd root = .ok false)
    (hroot : t.pathExists cwd root = .ok true) (faults : Faults) (recursive : Bool) :
    Event.Explored t faults cwd recursive root [] (t.events faults cwd root recursive true)
      (t.Reaches faults cwd recursive root) (t.Meets faults cwd recursive root) := by
  obtain ⟨place, entry, hfound, -⟩ := entryAt?_of_test hroot
  have hevents : t.events faults cwd root recursive true =
      (Event.recorder t true).below faults cwd recursive Visitor.depthLimit root [] := by
    simp [events, Visitor.run, Event.recorder, hfile]
  rw [hevents]
  exact .below _ .refl ⟨_, hfound⟩ (Nat.le_add_left _ _)

/-- The traversal of a root that exists is stopped by an entry that it comes to and that the system
refuses to look at, and by nothing else. -/
theorem events_stopped_iff (hroot : t.pathExists cwd root = .ok true) :
    (t.events faults cwd root recursive true).stopped = none ↔
      ∀ q, t.ComesTo faults cwd recursive root q → ∃ kind, t.kind? cwd q = .ok kind := by
  obtain ⟨file, hfile⟩ : ∃ b, t.isFile cwd root = .ok b := test_ok hroot _
  cases file with
  | true =>
    simp only [events_of_file hfile, true_iff]
    rintro q (⟨-, rfl⟩ | ⟨hother, -⟩)
    · exact ⟨_, kind?_eq_file_iff.mpr hfile⟩
    · rw [hfile] at hother
      cases hother
  | false =>
    have hexplored := explored_events hfile hroot faults recursive
    constructor
    · rintro hnone q (⟨hother, -⟩ | ⟨-, hmeets⟩)
      · rw [hfile] at hother
        cases hother
      · obtain ⟨kind, hkind, -⟩ := hexplored.met hnone q hmeets
        exact ⟨kind, hkind⟩
    · intro hall
      cases hstopped : (t.events faults cwd root recursive true).stopped with
      | none => rfl
      | some e =>
        obtain ⟨q, hmeets, herror⟩ := hexplored.halts e hstopped
        obtain ⟨kind, hkind⟩ := hall q (Or.inr ⟨hfile, hmeets⟩)
        rw [hkind] at herror
        cases herror

/-- A traversal that is not stopped meets everything that it comes to. -/
theorem met_mem_events (hroot : t.pathExists cwd root = .ok true)
    (hnone : (t.events faults cwd root recursive true).stopped = none)
    (hq : t.ComesTo faults cwd recursive root q) {kind : Kind}
    (hkind : t.kind? cwd q = .ok (some kind)) :
    .met ⟨q, kind⟩ ∈ (t.events faults cwd root recursive true).state := by
  rcases hq with ⟨hfile, rfl⟩ | ⟨hfile, hmeets⟩
  · rw [kind?_eq_file_iff.mpr hfile] at hkind
    cases hkind
    simp [events_of_file hfile]
  · have hexplored := explored_events hfile hroot faults recursive
    obtain ⟨kind', hkind', hmet⟩ := hexplored.met hnone q hmeets
    rw [hkind] at hkind'
    cases hkind'
    exact hmet kind rfl

/-- What is met is of the kind that was noted. -/
theorem kind?_of_met (hroot : t.pathExists cwd root = .ok true) {c : Candidate}
    (hmet : .met c ∈ (t.events faults cwd root recursive true).state) :
    t.kind? cwd c.path = .ok (some c.kind) := by
  obtain ⟨file, hfile⟩ : ∃ b, t.isFile cwd root = .ok b := test_ok hroot _
  cases file with
  | true =>
    simp only [events_of_file hfile, List.mem_singleton, Event.met.injEq] at hmet
    subst hmet
    exact kind?_eq_file_iff.mpr hfile
  | false =>
    have hexplored := explored_events hfile hroot faults recursive
    exact ((hexplored.sound _ hmet).resolve_left (by simp)).2

/-- A traversal meets nothing but what it comes to. -/
theorem comesTo_of_met (hroot : t.pathExists cwd root = .ok true) {c : Candidate}
    (hmet : .met c ∈ (t.events faults cwd root recursive true).state) :
    t.ComesTo faults cwd recursive root c.path := by
  obtain ⟨isFile, hfile⟩ : ∃ isFile, t.isFile cwd root = .ok isFile := test_ok hroot _
  cases isFile with
  | true =>
    rw [events_of_file hfile] at hmet
    cases List.mem_singleton.mp hmet
    exact Or.inl ⟨hfile, rfl⟩
  | false =>
    have hexplored := explored_events hfile hroot faults recursive
    exact Or.inr ⟨hfile, ((hexplored.sound _ hmet).resolve_left (by simp)).1⟩

/-- A file that is met is none of the directories that are missed. -/
theorem met_ne_missed (hroot : t.pathExists cwd root = .ok true) {c : Candidate} {p : Path}
    {e : SystemError} (hmet : .met c ∈ (t.events faults cwd root recursive true).state)
    (hfile : c.isFile = true)
    (hmissed : .missed p e ∈ (t.events faults cwd root recursive true).state) : c.path ≠ p := by
  have hkind := kind?_of_met hroot hmet
  have hisFile : t.isFile cwd c.path = .ok true := by
    have hkindFile : c.kind = .file := by simpa [Candidate.isFile] using hfile
    rwa [hkindFile, kind?_eq_file_iff] at hkind
  obtain ⟨file, hfileRoot⟩ : ∃ b, t.isFile cwd root = .ok b := test_ok hroot _
  cases file with
  | true => simp [events_of_file hfileRoot] at hmissed
  | false =>
    have hexplored := explored_events hfileRoot hroot faults recursive
    obtain ⟨hreaches, -⟩ := (hexplored.sound _ hmissed).resolve_left (by simp)
    rintro rfl
    rcases Relation.ReflTransGen.cases_tail hreaches with heq | ⟨d, -, henters⟩
    · rw [heq, hfileRoot] at hisFile
      cases hisFile
    · have hnot := isDir_eq_false_of_isFile hisFile
      rw [henters.isDir] at hnot
      cases hnot

end Tree
end BatchFormat
