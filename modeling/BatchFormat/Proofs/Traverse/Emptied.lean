import BatchFormat.Proofs.Traverse.Handler
import BatchFormat.Proofs.Tree.Emptied

/-!
# Emptied directories on a traversal

A traversal that passes over the directories that it may not list comes to the same paths as one
that finds them empty. But there may be links from outside to what such a directory holds. Where it
is empty they lead nowhere, and are no candidates any more.
-/
namespace BatchFormat

namespace Path

variable {root : Path} {above names : List String}

theorem below_iff : ({ root with parts := root.parts ++ above } : Path).Below
    { root with parts := root.parts ++ names } ↔ above <+: names ∧ above ≠ names := by
  constructor
  · rintro ⟨name, rest, heq⟩
    have hparts : root.parts ++ names = root.parts ++ (above ++ name :: rest) := by
      simpa [child] using congrArg Path.parts heq
    obtain rfl := List.append_cancel_left hparts
    exact ⟨List.prefix_append _ _, by simp⟩
  · rintro ⟨⟨rest, rfl⟩, hne⟩
    cases rest with
    | nil => simp at hne
    | cons name rest => exact ⟨name, rest, by simp [child]⟩

end Path

namespace Tree

variable {t : Tree} {faults : Faults} {cwd top : Location} {recursive : Bool}
  {root p q d : Path} {names : List String} {dirs : List Path} {mode : Nat}

theorem kind?_congr {u : Tree} (h : u.entryAt? cwd true q = t.entryAt? cwd true q) :
    u.kind? cwd q = t.kind? cwd q := by
  unfold kind? isDir isFile test probe
  rw [h]

theorem entryAt?_of_kind? {kind : Kind} (h : t.kind? cwd q = .ok (some kind)) :
    ∃ found, t.entryAt? cwd true q = .ok found := by
  cases kind with
  | file =>
    obtain ⟨place, entry, hfound, -⟩ := entryAt?_of_test (kind?_eq_file_iff.mp h)
    exact ⟨_, hfound⟩
  | directory =>
    obtain ⟨place, entry, hfound, -⟩ := entryAt?_of_test (kind?_eq_directory_iff.mp h)
    exact ⟨_, hfound⟩

/-- The names that lead from the root to a directory that is reached lead from the root's place to
its own. -/
theorem Reaches.exists_place (h : t.Reaches faults cwd recursive root d) (hproper : t.Proper)
    (htop : t.entryAt? cwd true root = .ok (top, .dir mode)) :
    ∃ names m, d = { root with parts := root.parts ++ names } ∧
      t.entryAt? cwd true d = .ok (top ++ names, .dir m) := by
  induction h with
  | refl => exact ⟨[], mode, by simp, by simpa using htop⟩
  | tail _ henters ih =>
    obtain ⟨names, m, rfl, hp⟩ := ih
    obtain ⟨listed, hlist, name, hname, rfl⟩ := henters.lists
    obtain ⟨place, m', hplace, rfl⟩ := dir_of_list hlist
    cases hp.symm.trans hplace
    obtain ⟨entry, hget⟩ := get?_of_mem_names hname
    obtain ⟨hdir, hnul, hshort⟩ :=
      (isDir_child_iff hp (hproper.isName hname) hget).mp ⟨henters.isDir, henters.isLink⟩
    -- what is entered is no link, so that its path and its place go on by the same name
    cases entry with
    | dir m' =>
      refine ⟨names ++ [name], m', by simp [Path.child], ?_⟩
      simpa using entryAt?_child hp (hproper.isName hname) hget hnul hshort fun _ => rfl
    | file | link | fifo => cases hdir

/-- The candidates below a directory that is listed. -/
theorem mem_candidates_iff_of_list (hlist : t.list faults cwd root = .ok names)
    (htells : ∀ q, t.Meets faults cwd recursive root q → ∃ kind, t.kind? cwd q = .ok kind)
    {c : Candidate} :
    c ∈ (t.events faults cwd root recursive true).state.filterMap Event.candidate? ↔
      t.Meets faults cwd recursive root c.path ∧ t.kind? cwd c.path = .ok (some c.kind) := by
  obtain ⟨place, mode, hentry, -⟩ := dir_of_list hlist
  have hdir := isDir_of_dir hentry
  exact mem_candidates_events_iff (isFile_of_isDir hdir) (pathExists_of_test hdir)
    (stopped_eq_none htells hlist)

/-- The root is a directory, and these are the directories that a traversal of it may not list. -/
structure Bars (t : Tree) (faults : Faults) (cwd : Location) (recursive : Bool) (root : Path)
    (top : Location) (dirs : List Path) : Prop where
  proper : t.Proper
  leads : ∃ mode, t.entryAt? cwd true root = .ok (top, .dir mode)
  refused : ∀ d, d ∈ dirs ↔ ∃ e, t.Refuses faults cwd recursive root d e

namespace Bars

variable (h : t.Bars faults cwd recursive root top dirs)
include h

/-! ## What is left -/

theorem isBelow_iff_below (hd : t.Reaches faults cwd recursive root d) :
    t.isBelow cwd (top ++ names) d = true ↔ d.Below { root with parts := root.parts ++ names } := by
  obtain ⟨mode, htop⟩ := h.leads
  obtain ⟨above, m, rfl, hentry⟩ := hd.exists_place h.proper htop
  rw [isBelow_iff hentry, Path.below_iff, List.prefix_append_right_inj, ne_eq,
    List.append_right_inj]

/-- What is met does not lie in a directory that is refused. -/
theorem spares_of_meets (hq : t.Meets faults cwd recursive root
    { root with parts := root.parts ++ names }) : t.Spares cwd dirs (top ++ names) := by
  intro d hd
  obtain ⟨e, hunlisted, -⟩ := (h.refused d).mp hd
  refine Bool.eq_false_iff.mpr fun hbelow => ?_
  exact not_meets_of_unlisted hunlisted.reaches hunlisted.list
    ((h.isBelow_iff_below hunlisted.reaches).mp hbelow) hq

theorem spares_root : t.Spares cwd dirs top := by
  intro d hd
  obtain ⟨e, hunlisted, -⟩ := (h.refused d).mp hd
  refine Bool.eq_false_iff.mpr fun hbelow => ?_
  rw [← List.append_nil top, h.isBelow_iff_below hunlisted.reaches, List.append_nil] at hbelow
  exact hbelow.ne (hunlisted.reaches.within.antisymm hbelow.within)

theorem spares_of_reaches (hd : t.Reaches faults cwd recursive root
    { root with parts := root.parts ++ names }) : t.Spares cwd dirs (top ++ names) := by
  rcases Relation.ReflTransGen.cases_tail hd with heq | ⟨p, hp, henters⟩
  · obtain rfl : names = [] := by simpa using congrArg Path.parts heq
    simpa using h.spares_root
  · exact h.spares_of_meets ⟨p, hp, henters.lists⟩

/-! ## One directory -/

section

variable (hp : t.Reaches faults cwd recursive root p)
include hp

/-- What is met stands in a directory that is reached, and is left there. -/
theorem exists_entry (hq : t.Lists faults cwd p q) :
    ∃ place m name entry, t.entryAt? cwd true p = .ok (place, .dir m) ∧ IsName name ∧
      q = p.child name ∧ t.get? (place ++ [name]) = some entry ∧ t.Spares cwd dirs place ∧
      t.Spares cwd dirs (place ++ [name]) := by
  have hmeets : t.Meets faults cwd recursive root q := ⟨p, hp, hq⟩
  obtain ⟨mode, htop⟩ := h.leads
  obtain ⟨names, m, rfl, hentry⟩ := hp.exists_place h.proper htop
  obtain ⟨listed, hlist, name, hname, rfl⟩ := hq
  obtain ⟨place, m', hplace, rfl⟩ := dir_of_list hlist
  cases hentry.symm.trans hplace
  obtain ⟨entry, hget⟩ := get?_of_mem_names hname
  refine ⟨_, m, name, entry, hentry, h.proper.isName hname, rfl, hget, h.spares_of_reaches hp, ?_⟩
  rw [List.append_assoc]
  refine h.spares_of_meets ?_
  simpa [Path.child] using hmeets

variable (hsame : (t.emptied cwd dirs).entryAt? cwd true p = t.entryAt? cwd true p)
include hsame

/-- A directory that is listed still holds its entries, and one that is refused holds none. -/
theorem lists_iff : (t.emptied cwd dirs).Lists .none cwd p q ↔ t.Lists faults cwd p q := by
  constructor
  · rintro ⟨names, hlist, name, hname, rfl⟩
    obtain ⟨place, m, hentry, rfl⟩ := dir_of_list hlist
    rw [hsame] at hentry
    cases hlist' : t.list faults cwd p with
    | error e =>
      obtain ⟨mode, htop⟩ := h.leads
      have hmem : p ∈ dirs := by
        refine (h.refused p).mpr ⟨e, ⟨isFile_of_isDir (isDir_of_dir htop), hp, hlist'⟩, ?_⟩
        exact isRefusal_of_list (entryAt?_eq_ok_iff.mp hentry).1 hlist'
      rw [eq_nil_of_list_emptied hmem hlist] at hname
      cases hname
    | ok names' =>
      obtain ⟨place', m', hentry', rfl⟩ := dir_of_list hlist'
      cases hentry.symm.trans hentry'
      obtain ⟨entry, hget⟩ := get?_of_mem_names hname
      exact ⟨_, hlist', name, mem_names_of_get? (emptied_extends t cwd dirs _ _ hget), rfl⟩
  · intro hq
    obtain ⟨place, m, name, entry, hentry, -, rfl, hget, -, hleft⟩ := h.exists_entry hp hq
    exact ⟨_, list_of_dir (hsame.trans hentry), name, mem_names_of_get? (hleft.get?_eq.trans hget),
      rfl⟩

/-- Where the refused directories are empty, the traversal goes on into the same directories. -/
theorem enters_iff : (t.emptied cwd dirs).Enters .none cwd recursive p q ↔
    t.Enters faults cwd recursive p q := by
  have hreal : t.Lists faults cwd p q → ((t.emptied cwd dirs).isDir cwd q = .ok true ∧
      (t.emptied cwd dirs).isLink cwd q = .ok false ↔
        t.isDir cwd q = .ok true ∧ t.isLink cwd q = .ok false) := by
    intro hq
    obtain ⟨place, m, name, entry, hentry, hname, rfl, hget, -, hleft⟩ := h.exists_entry hp hq
    rw [isDir_child_iff hentry hname hget,
      isDir_child_iff (hsame.trans hentry) hname (hleft.get?_eq.trans hget)]
  constructor
  · intro henters
    have hq := (h.lists_iff hp hsame).mp henters.lists
    obtain ⟨hdir, hlink⟩ := (hreal hq).mp ⟨henters.isDir, henters.isLink⟩
    exact ⟨hq, henters.deep, hdir, hlink⟩
  · intro henters
    obtain ⟨hdir, hlink⟩ := (hreal henters.lists).mpr ⟨henters.isDir, henters.isLink⟩
    exact ⟨(h.lists_iff hp hsame).mpr henters.lists, henters.deep, hdir, hlink⟩

/-- An entry is what it was, or it is a link to what is gone. -/
theorem kind?_cases (hq : t.Lists faults cwd p q) :
    (t.emptied cwd dirs).kind? cwd q = .ok none ∨
      (t.emptied cwd dirs).kind? cwd q = t.kind? cwd q := by
  obtain ⟨place, m, name, entry, hentry, -, rfl, -, hplace, -⟩ := h.exists_entry hp hq
  rcases entryAt?_emptied_child (hsame.trans hentry) hplace name with hgone | hstays
  · left
    simp [kind?, isDir, isFile, test, probe, hgone, Cause.isAbsence, Except.map, bind, Except.bind,
      pure, Except.pure]
  · exact Or.inr (kind?_congr hstays)

/-- An entry that is no link is where it was. -/
theorem entryAt?_of_not_link (hq : t.Lists faults cwd p q)
    (hfound : ∃ found, t.entryAt? cwd true q = .ok found) (hlink : t.isLink cwd q = .ok false) :
    (t.emptied cwd dirs).entryAt? cwd true q = t.entryAt? cwd true q := by
  obtain ⟨place, m, name, entry, hentry, hname, rfl, hget, -, hleft⟩ := h.exists_entry hp hq
  obtain ⟨found, hfound⟩ := hfound
  obtain ⟨hnul, hshort, -⟩ := entryAt?_eq_ok_iff.mp hfound
  rw [isLink_child hentry hname hget hnul hshort, Except.ok.injEq] at hlink
  rw [entryAt?_child hentry hname hget hnul hshort fun _ => hlink]
  exact entryAt?_child (hsame.trans hentry) hname (hleft.get?_eq.trans hget) hnul hshort
    fun _ => hlink

end

/-! ## The whole traversal -/

section

variable (hroot : (t.emptied cwd dirs).entryAt? cwd true root = t.entryAt? cwd true root)
include hroot

/-- The directories that are reached are where they were. -/
theorem entryAt?_of_reaches (hd : t.Reaches faults cwd recursive root d) :
    (t.emptied cwd dirs).entryAt? cwd true d = t.entryAt? cwd true d := by
  induction hd with
  | refl => exact hroot
  | tail hp henters ih =>
    obtain ⟨place, entry, hfound, -⟩ := entryAt?_of_test henters.isDir
    exact h.entryAt?_of_not_link hp ih henters.lists ⟨_, hfound⟩ henters.isLink

/-- Where the refused directories are empty, the same directories are reached. -/
theorem reaches_iff : (t.emptied cwd dirs).Reaches .none cwd recursive root d ↔
    t.Reaches faults cwd recursive root d := by
  constructor
  · intro hd
    induction hd with
    | refl => exact .refl
    | tail _ henters ih =>
      exact ih.tail ((h.enters_iff ih (h.entryAt?_of_reaches hroot ih)).mp henters)
  · intro hd
    induction hd with
    | refl => exact .refl
    | tail hp henters ih =>
      exact ih.tail ((h.enters_iff hp (h.entryAt?_of_reaches hroot hp)).mpr henters)

/-- Both traversals come to the same paths. -/
theorem meets_iff : (t.emptied cwd dirs).Meets .none cwd recursive root q ↔
    t.Meets faults cwd recursive root q := by
  refine exists_congr fun d => ?_
  rw [h.reaches_iff hroot]
  exact and_congr_right fun hd => h.lists_iff hd (h.entryAt?_of_reaches hroot hd)

theorem kind?_cases_of_meets (hq : t.Meets faults cwd recursive root q) :
    (t.emptied cwd dirs).kind? cwd q = .ok none ∨
      (t.emptied cwd dirs).kind? cwd q = t.kind? cwd q := by
  obtain ⟨d, hd, hlists⟩ := hq
  exact h.kind?_cases hd (h.entryAt?_of_reaches hroot hd) hlists

end

/-- The root is where it was, unless the way to it led through what is gone. -/
theorem root_cases :
    (t.emptied cwd dirs).entryAt? cwd true root = .error (.refused .noEntry root.text) ∨
      (t.emptied cwd dirs).entryAt? cwd true root = t.entryAt? cwd true root := by
  obtain ⟨mode, htop⟩ := h.leads
  refine ((emptied_extends t cwd dirs).entryAt?_cases cwd true root).imp_right fun hsame => ?_
  have hget := get?_of_entryAt? htop
  rw [hsame, htop]
  simp [Except.map, h.spares_root.get?_eq, hget]

/-! ## The candidates -/

section

variable (hlist : t.list faults cwd root = .ok names)
  (htells : ∀ q, t.Meets faults cwd recursive root q → ∃ kind, t.kind? cwd q = .ok kind)
include hlist htells

/-- Where the root is gone, so is everything below it. -/
theorem kind?_of_gone
    (hgone : (t.emptied cwd dirs).entryAt? cwd true root = .error (.refused .noEntry root.text))
    {c : Candidate} (hc : c ∈ (t.events faults cwd root recursive true).state.filterMap
      Event.candidate?) : (t.emptied cwd dirs).kind? cwd c.path ≠ .ok (some c.kind) := by
  intro hkind
  obtain ⟨mode, htop⟩ := h.leads
  obtain ⟨hnul, hshort, -⟩ := entryAt?_eq_ok_iff.mp htop
  obtain ⟨name, names, heq⟩ := ((mem_candidates_iff_of_list hlist htells).mp hc).1.below
  obtain ⟨found, hfound⟩ := entryAt?_of_kind? hkind
  have hwalk := (entryAt?_eq_ok_iff.mp hfound).2.2
  have hparts : c.path.parts = root.parts ++ name :: names := by simp [heq, Path.child]
  have horigin : c.path.origin cwd = root.origin cwd := by rw [heq]; rfl
  rw [hparts, horigin] at hwalk
  obtain ⟨place, entry, hroot⟩ := walk_of_append hwalk
  cases hgone.symm.trans (entryAt?_eq_ok_iff.mpr ⟨hnul, hshort, hroot⟩)

/-- Where the root is still there, the traversal of the emptied tree comes to its end, with those
candidates that are what they were. -/
theorem events_of_kept
    (hroot : (t.emptied cwd dirs).entryAt? cwd true root = t.entryAt? cwd true root) :
    let emptied := (t.emptied cwd dirs).events .none cwd root recursive true
    emptied.stopped = none ∧ emptied.state.filterMap Event.candidate? =
      ((t.events faults cwd root recursive true).state.filterMap Event.candidate?).filter
        fun c => (t.emptied cwd dirs).kind? cwd c.path = .ok (some c.kind) := by
  obtain ⟨mode, htop⟩ := h.leads
  have hlist' := list_of_dir (hroot.trans htop)
  have hfile := isFile_of_isDir (isDir_of_dir htop)
  have hfile' := isFile_of_isDir (isDir_of_dir (hroot.trans htop))
  have htells' : ∀ q, (t.emptied cwd dirs).Meets .none cwd recursive root q →
      ∃ kind, (t.emptied cwd dirs).kind? cwd q = .ok kind := by
    intro q hq
    have hmeets := (h.meets_iff hroot).mp hq
    rcases h.kind?_cases_of_meets hroot hmeets with hgone | hsame
    · exact ⟨none, hgone⟩
    · exact hsame ▸ htells q hmeets
  refine ⟨stopped_eq_none htells' hlist', ?_⟩
  -- both come in the order of the names, so it is enough that they hold the same
  obtain ⟨hsorted, -⟩ := candidates_of_not_file h.proper.once hfile faults recursive true
  obtain ⟨hsorted', -⟩ :=
    candidates_of_not_file (h.proper.emptied cwd dirs) hfile' .none recursive true
  refine hsorted'.eq_of_mem_iff (hsorted.filter _) fun c => ?_
  rw [List.mem_filter, mem_candidates_iff_of_list hlist htells,
    mem_candidates_iff_of_list hlist' htells', h.meets_iff hroot, decide_eq_true_eq]
  constructor
  · rintro ⟨hmeets, hkind⟩
    refine ⟨⟨hmeets, ?_⟩, hkind⟩
    rcases h.kind?_cases_of_meets hroot hmeets with hgone | hsame
    · cases hgone.symm.trans hkind
    · exact hsame ▸ hkind
  · rintro ⟨⟨hmeets, -⟩, hkind⟩
    exact ⟨hmeets, hkind⟩

/-- A candidate that is no link is still what it was. -/
theorem kind?_of_not_link
    (hroot : (t.emptied cwd dirs).entryAt? cwd true root = t.entryAt? cwd true root)
    {c : Candidate}
    (hc : c ∈ (t.events faults cwd root recursive true).state.filterMap Event.candidate?)
    (hlink : t.isLink cwd c.path = .ok false) :
    (t.emptied cwd dirs).kind? cwd c.path = .ok (some c.kind) := by
  obtain ⟨⟨d, hd, hlists⟩, hkind⟩ := (mem_candidates_iff_of_list hlist htells).mp hc
  rw [kind?_congr (h.entryAt?_of_not_link hd (h.entryAt?_of_reaches hroot hd) hlists
    (entryAt?_of_kind? hkind) hlink), hkind]

end

end Bars

/-! ## Roots of any kind -/

theorem Extends.isFile_eq_false {u : Tree} (h : Extends u t) (hfile : t.isFile cwd p = .ok false) :
    u.isFile cwd p = .ok false := by
  rcases h.entryAt?_cases cwd true p with hgone | hsame
  · simp [isFile, test, probe, hgone, Cause.isAbsence, Except.map]
  · cases ht : t.entryAt? cwd true p with
    | error e =>
      unfold isFile test probe at hfile ⊢
      rw [hsame]
      rw [ht] at hfile ⊢
      exact hfile
    | ok found =>
      have hentry := get?_of_entryAt? ht
      have hnot : ((u.get? found.1).getD (.dir 0o755)).isFile = false := by
        cases hget : u.get? found.1 with
        | none => rfl
        | some entry =>
          rw [h _ _ hget] at hentry
          simpa [isFile, test, probe, ht, Except.map, ← hentry] using hfile
      simp [isFile, test, probe, hsame, ht, Except.map, hnot]

/-- Below a root that lists nothing there are no candidates. -/
theorem events_of_no_names (hfile : t.isFile cwd root = .ok false)
    (hnil : ∀ names, t.list faults cwd root = .ok names → names = []) (recursive : Bool) :
    let events := t.events faults cwd root recursive true
    events.state.filterMap Event.candidate? = [] ∧
      (Path.holdsNul root.text = false → events.stopped = none) := by
  cases hlist : t.list faults cwd root with
  | error e =>
    simp only [events_of_unlisted hfile hlist]
    split
    · exact ⟨rfl, fun _ => rfl⟩
    · next hrefusal =>
      exact ⟨rfl, fun hnul => (hrefusal (isRefusal_of_list hnul hlist)).elim⟩
  | ok names =>
    obtain rfl := hnil names hlist
    simp [events, Visitor.run, Visitor.depthLimit, Visitor.below, Event.recorder, hfile, hlist]

/-- A root that could not be listed lists nothing once it is emptied. -/
theorem eq_nil_of_list_root {e : SystemError} (hfile : t.isFile cwd root = .ok false)
    (hlist : t.list faults cwd root = .error e)
    (hdirs : ∀ d, d ∈ dirs ↔ ∃ e, t.Refuses faults cwd recursive root d e)
    (hnames : (t.emptied cwd dirs).list .none cwd root = .ok names) : names = [] := by
  obtain ⟨place, mode, hentry, -⟩ := dir_of_list hnames
  have hrefusal := isRefusal_of_list (entryAt?_eq_ok_iff.mp hentry).1 hlist
  exact eq_nil_of_list_emptied ((hdirs root).mpr ⟨e, ⟨hfile, .refl, hlist⟩, hrefusal⟩) hnames

section

variable (hfile : ∃ isFile, t.isFile cwd root = .ok isFile)
  (htells : ∀ q, t.Meets faults cwd recursive root q → ∃ kind, t.kind? cwd q = .ok kind)
include hfile htells

/-- A traversal with a handler comes to its end. -/
theorem stopped_eq_none_of_no_nul (hnul : Path.holdsNul root.text = false) :
    (t.events faults cwd root recursive true).stopped = none := by
  obtain ⟨isFile, hfile⟩ := hfile
  cases isFile with
  | true => rw [events_of_file hfile]
  | false =>
    cases hlist : t.list faults cwd root with
    | error e =>
      rw [events_of_unlisted hfile hlist, if_pos (isRefusal_of_list hnul hlist)]
    | ok names => exact stopped_eq_none htells hlist

variable (hproper : t.Proper)
  (hdirs : ∀ d, d ∈ dirs ↔ ∃ e, t.Refuses faults cwd recursive root d e)
include hproper hdirs

/-- A traversal of the emptied tree meets, of what was met, what is still there as what it was. If
the root is still there, only links can have lost what they were. -/
theorem events_emptied :
    let emptied := (t.emptied cwd dirs).events .none cwd root recursive true
    let candidates := (t.events faults cwd root recursive true).state.filterMap Event.candidate?
    (Path.holdsNul root.text = false → emptied.stopped = none) ∧
      emptied.state.filterMap Event.candidate? =
        candidates.filter (fun c => (t.emptied cwd dirs).kind? cwd c.path = .ok (some c.kind)) ∧
      ((t.emptied cwd dirs).entryAt? cwd true root = t.entryAt? cwd true root →
        ∀ c ∈ candidates, t.isLink cwd c.path = .ok false →
          (t.emptied cwd dirs).kind? cwd c.path = .ok (some c.kind)) := by
  have hextends := emptied_extends t cwd dirs
  obtain ⟨isFile, hfile⟩ := hfile
  cases isFile with
  | true =>
    -- the root is met alone, and nothing is refused
    obtain rfl : dirs = [] := by
      refine List.eq_nil_iff_forall_not_mem.mpr fun d hd => ?_
      obtain ⟨e, hunlisted, -⟩ := (hdirs d).mp hd
      cases hfile.symm.trans hunlisted.deep
    simp [emptied_nil, events_of_file hfile, Event.candidate?, kind?_eq_file_iff.mpr hfile]
  | false =>
    have hfile' := hextends.isFile_eq_false hfile
    cases hlist : t.list faults cwd root with
    | error e =>
      have hnil : ∀ names, (t.emptied cwd dirs).list .none cwd root = .ok names → names = [] :=
        fun _ => eq_nil_of_list_root hfile hlist hdirs
      have hnone : (t.events faults cwd root recursive true).state.filterMap
          Event.candidate? = [] := by
        rw [events_of_unlisted hfile hlist]
        split <;> rfl
      obtain ⟨hnone', hstopped⟩ := events_of_no_names hfile' hnil recursive
      simp only [hnone]
      exact ⟨hstopped, hnone', fun _ c hc => absurd hc List.not_mem_nil⟩
    | ok names =>
      obtain ⟨top, mode, htop, -⟩ := dir_of_list hlist
      have hbars : t.Bars faults cwd recursive root top dirs := ⟨hproper, ⟨mode, htop⟩, hdirs⟩
      rcases hbars.root_cases with hgone | hkept
      · have hnil : ∀ names, (t.emptied cwd dirs).list .none cwd root = .ok names →
            names = [] := by
          intro names hnames
          obtain ⟨place, mode, hentry, -⟩ := dir_of_list hnames
          cases hgone.symm.trans hentry
        obtain ⟨hnone', hstopped⟩ := events_of_no_names hfile' hnil recursive
        refine ⟨hstopped, hnone'.trans ?_, fun hkept => ?_⟩
        · refine (List.filter_eq_nil_iff.mpr fun c hc => ?_).symm
          simpa using hbars.kind?_of_gone hlist htells hgone hc
        · cases (hgone.symm.trans hkept).trans htop
      · obtain ⟨hstopped, hsame⟩ := hbars.events_of_kept hlist htells hkept
        exact ⟨fun _ => hstopped, hsame, fun _ c => hbars.kind?_of_not_link hlist htells hkept⟩

end

end Tree

namespace Survey

section

variable {t : Tree} {faults : Faults} {cwd : Location} {recursive : Bool} {root : Path}
  (hfile : ∃ isFile, t.isFile cwd root = .ok isFile)
  (htells : ∀ q, t.Meets faults cwd recursive root q → ∃ kind, t.kind? cwd q = .ok kind)
include hfile htells

theorem unlisted_iff {d : Path} {e : SystemError} :
    (d, e) ∈ (take t faults cwd root recursive true).state.unlisted ↔
      t.Refuses faults cwd recursive root d e := by
  rw [take_eq_events, Tree.mem_missed_iff, Tree.missed_mem_events_iff hfile htells]

theorem mem_unlisted_iff (d : Path) :
    d ∈ (take t faults cwd root recursive true).state.unlisted.map Prod.fst ↔
      ∃ e, t.Refuses faults cwd recursive root d e := by
  simp [← unlisted_iff hfile htells]

end

/-- Where a traversal can always tell what an entry is, the handler is called for the directories
that it comes to and that the system refuses to list, for each of them once, in the order in which
they are met. If there are none, it makes no difference whether there is a handler. Otherwise a
traversal without one meets what comes before the first call, the refused directory being the last,
and ends with the error of that call. With a handler the traversal goes on to the end, and a
traversal of the tree with these directories emptied meets the same, except for what has ceased to
be what it was; while the root is still there, these can only be links. -/
theorem take_handled (t : Tree) (faults : Faults) (cwd : Location) (root : Path)
    (recursive : Bool) (hproper : t.Proper)
    (hfile : ∃ isFile, t.isFile cwd root = .ok isFile)
    (htells : ∀ q, t.Meets faults cwd recursive root q → ∃ kind, t.kind? cwd q = .ok kind) :
    let handled := take t faults cwd root recursive true
    let bare := take t faults cwd root recursive false
    let refused := handled.state.unlisted.map Prod.fst
    let emptied := t.emptied cwd refused
    let calm := take emptied .none cwd root recursive true
    (∀ d e, (d, e) ∈ handled.state.unlisted ↔ t.Refuses faults cwd recursive root d e) ∧
      refused.Sublist (root :: handled.state.candidates.map Candidate.path) ∧ refused.Nodup ∧
      (handled.state.unlisted = [] → bare = handled) ∧
      (∀ d e, handled.state.unlisted.head? = some (d, e) → bare.stopped = some e ∧
        bare.state.candidates <+: handled.state.candidates ∧
        bare.state.candidates.getLast? = if d = root then none else some ⟨d, .directory⟩) ∧
      (Path.holdsNul root.text = false → handled.stopped = none ∧ calm.stopped = none) ∧
      calm.state.candidates = handled.state.candidates.filter
        (fun c => emptied.kind? cwd c.path = .ok (some c.kind)) ∧
      (emptied.entryAt? cwd true root = t.entryAt? cwd true root →
        ∀ c ∈ handled.state.candidates, t.isLink cwd c.path = .ok false →
          emptied.kind? cwd c.path = .ok (some c.kind)) := by
  obtain ⟨hsublist, hnodup⟩ := unlisted_in_order hproper.once
  obtain ⟨hcalm, hsame, hlinks⟩ := Tree.events_emptied hfile htells hproper
    (mem_unlisted_iff hfile htells)
  refine ⟨fun d e => unlisted_iff hfile htells, hsublist, hnodup, take_bare_eq, ?_,
    fun hnul => ⟨?_, ?_⟩, ?_, ?_⟩
  · exact fun d e hhead => take_bare_of_head hproper.once hhead
  · simpa only [take_eq_events] using Tree.stopped_eq_none_of_no_nul hfile htells hnul
  · simpa only [take_eq_events] using hcalm hnul
  · simpa only [take_eq_events] using hsame
  · simpa only [take_eq_events] using hlinks

def inwardTree : Tree :=
  ⟨[(["a"], .dir 0o755), (["a", "x"], .file [] 0o644), (["l"], .link "a/x")]⟩

def barring : Faults := { Faults.none with list := (· == ⟨.relative, ["a"]⟩) }

theorem inwardTree_proper : inwardTree.Proper := ⟨by decide, by decide⟩

theorem inwardTree_root : inwardTree.entryAt? [] true ⟨.relative, []⟩ = .ok ([], .dir 0o755) :=
  Tree.entryAt?_eq_ok_iff.mpr ⟨by decide, by decide, Tree.walk_nil⟩

theorem inwardTree_inner :
    inwardTree.entryAt? [] true ⟨.relative, ["a"]⟩ = .ok (["a"], .dir 0o755) :=
  Tree.entryAt?_eq_ok_iff.mpr ⟨by decide, by decide,
    (Tree.walk_through (by decide) rfl).trans Tree.walk_nil⟩

theorem inwardTree_link :
    inwardTree.entryAt? [] true ⟨.relative, ["l"]⟩ = .ok (["a", "x"], .file [] 0o644) := by
  have hpieces : Path.pieces "a/x" = ["a", "x"] := by decide
  refine Tree.entryAt?_eq_ok_iff.mpr ⟨by decide, by decide, ?_⟩
  refine (Tree.walk_onward (by decide) rfl (by simp)).trans ?_
  rw [hpieces]
  exact (Tree.walk_through (by decide) rfl).trans
    (Tree.walk_halt (by decide) rfl rfl)

theorem inwardTree_list : inwardTree.list barring [] ⟨.relative, []⟩ = .ok ["a", "l"] := by
  have hsorted : inwardTree.names [] = ["a", "l"] := List.mergeSort_of_pairwise (by decide)
  simp [Tree.list, barring, inwardTree_root, hsorted]

theorem inwardTree_list_inner :
    inwardTree.list barring [] ⟨.relative, ["a"]⟩ = .error (.refused .denied "a") := by
  decide

theorem inwardTree_isFile : inwardTree.isFile [] ⟨.relative, []⟩ = .ok false :=
  Tree.isFile_of_isDir (Tree.isDir_of_dir inwardTree_root)

theorem inwardTree_isLink : inwardTree.isLink [] ⟨.relative, ["a"]⟩ = .ok false ∧
    inwardTree.isLink [] ⟨.relative, ["l"]⟩ = .ok true := by
  have hdir : inwardTree.entryAt? [] false ⟨.relative, ["a"]⟩ = .ok (["a"], .dir 0o755) :=
    Tree.entryAt?_eq_ok_iff.mpr ⟨by decide, by decide,
      (Tree.walk_through (by decide) rfl).trans Tree.walk_nil⟩
  have hlink : inwardTree.entryAt? [] false ⟨.relative, ["l"]⟩ = .ok (["l"], .link "a/x") :=
    Tree.entryAt?_eq_ok_iff.mpr ⟨by decide, by decide, Tree.walk_link_last (by decide) rfl⟩
  simp [Tree.isLink, Tree.probe, hdir, hlink, Except.map, Entry.isLink]

theorem inwardTree_reaches_iff {d : Path} :
    inwardTree.Reaches barring [] true ⟨.relative, []⟩ d ↔
      d = ⟨.relative, []⟩ ∨ d = ⟨.relative, ["a"]⟩ := by
  constructor
  · intro h
    induction h with
    | refl => exact Or.inl rfl
    | tail _ henters ih =>
      rcases ih with rfl | rfl
      · obtain ⟨name, hname, rfl⟩ := henters.lists.cases inwardTree_list
        simp only [List.mem_cons, List.not_mem_nil, or_false] at hname
        rcases hname with rfl | rfl
        · exact Or.inr rfl
        · cases inwardTree_isLink.2.symm.trans henters.isLink
      · obtain ⟨names, hlist, -⟩ := henters.lists
        cases inwardTree_list_inner.symm.trans hlist
  · rintro (rfl | rfl)
    · exact .refl
    · exact .single ⟨⟨_, inwardTree_list, "a", by decide, rfl⟩, rfl,
        Tree.isDir_of_dir inwardTree_inner, inwardTree_isLink.1⟩

theorem inwardTree_meets_iff {q : Path} :
    inwardTree.Meets barring [] true ⟨.relative, []⟩ q ↔
      q = ⟨.relative, ["a"]⟩ ∨ q = ⟨.relative, ["l"]⟩ := by
  constructor
  · rintro ⟨d, hd, hlists⟩
    rcases inwardTree_reaches_iff.mp hd with rfl | rfl
    · obtain ⟨name, hname, rfl⟩ := hlists.cases inwardTree_list
      simpa [Path.child] using hname
    · obtain ⟨names, hlist, -⟩ := hlists
      cases inwardTree_list_inner.symm.trans hlist
  · rintro (rfl | rfl)
    · exact ⟨_, .refl, _, inwardTree_list, "a", by decide, rfl⟩
    · exact ⟨_, .refl, _, inwardTree_list, "l", by decide, rfl⟩

theorem inwardTree_kind? :
    inwardTree.kind? [] ⟨.relative, ["a"]⟩ = .ok (some .directory) ∧
      inwardTree.kind? [] ⟨.relative, ["l"]⟩ = .ok (some .file) :=
  ⟨Tree.kind?_eq_directory_iff.mpr (Tree.isDir_of_dir inwardTree_inner),
    Tree.kind?_eq_file_iff.mpr (Tree.isFile_of_file inwardTree_link)⟩

theorem inwardTree_tells {q : Path} (h : inwardTree.Meets barring [] true ⟨.relative, []⟩ q) :
    ∃ kind, inwardTree.kind? [] q = .ok kind := by
  rcases inwardTree_meets_iff.mp h with rfl | rfl
  · exact ⟨_, inwardTree_kind?.1⟩
  · exact ⟨_, inwardTree_kind?.2⟩

theorem inwardTree_refuses_iff {d : Path} {e : SystemError} :
    inwardTree.Refuses barring [] true ⟨.relative, []⟩ d e ↔
      d = ⟨.relative, ["a"]⟩ ∧ e = .refused .denied "a" := by
  constructor
  · rintro ⟨hunlisted, -⟩
    rcases inwardTree_reaches_iff.mp hunlisted.reaches with rfl | rfl
    · cases inwardTree_list.symm.trans hunlisted.list
    · exact ⟨rfl, Except.error.inj (hunlisted.list.symm.trans inwardTree_list_inner)⟩
  · rintro ⟨rfl, rfl⟩
    exact ⟨⟨inwardTree_isFile, inwardTree_reaches_iff.mpr (Or.inr rfl), inwardTree_list_inner⟩, rfl⟩

/-- The handler is called for the directory alone; without it this is where the traversal ends. -/
theorem take_handled_of_inwardTree :
    inwardTree.Proper ∧ inwardTree.isFile [] ⟨.relative, []⟩ = .ok false ∧
      (∀ q, inwardTree.Meets barring [] true ⟨.relative, []⟩ q →
        ∃ kind, inwardTree.kind? [] q = .ok kind) ∧
      let handled := take inwardTree barring [] ⟨.relative, []⟩ true true
      let bare := take inwardTree barring [] ⟨.relative, []⟩ true false
      handled.stopped = none ∧
        handled.state.unlisted = [(⟨.relative, ["a"]⟩, .refused .denied "a")] ∧
        bare.stopped = some (.refused .denied "a") ∧
        bare.state.candidates.getLast? = some ⟨⟨.relative, ["a"]⟩, .directory⟩ := by
  have htells := fun q => inwardTree_tells (q := q)
  obtain ⟨hmem, -, hnodup, -, hhead, hnul, -⟩ := take_handled inwardTree barring []
    ⟨.relative, []⟩ true inwardTree_proper ⟨_, inwardTree_isFile⟩ htells
  have hunlisted : (take inwardTree barring [] ⟨.relative, []⟩ true true).state.unlisted =
      [(⟨.relative, ["a"]⟩, .refused .denied "a")] := by
    refine List.perm_singleton.mp ((List.perm_ext_iff_of_nodup hnodup.of_map (by simp)).mpr ?_)
    rintro ⟨d, e⟩
    rw [hmem, inwardTree_refuses_iff]
    simp
  obtain ⟨hstopped, -, hlast⟩ := hhead _ _ (congrArg List.head? hunlisted)
  exact ⟨inwardTree_proper, inwardTree_isFile, htells, (hnul (by decide)).1, hunlisted, hstopped,
    hlast.trans (if_neg (by decide))⟩

/-- What the link leads to is gone where the directory is emptied. -/
theorem inwardTree_emptied {dirs : List Path} (h : ⟨.relative, ["a"]⟩ ∈ dirs) :
    (inwardTree.emptied [] dirs).kind? [] ⟨.relative, ["l"]⟩ ≠ .ok (some .file) := by
  intro hkind
  obtain ⟨found, hfound⟩ := Tree.entryAt?_of_kind? hkind
  rcases (Tree.emptied_extends inwardTree [] dirs).entryAt?_cases [] true ⟨.relative, ["l"]⟩ with
    hgone | hsame
  · cases hgone.symm.trans hfound
  · rw [inwardTree_link] at hsame
    have hleft : inwardTree.Spares [] dirs ["a", "x"] :=
      Tree.spares_top.of_walk (Tree.entryAt?_eq_ok_iff.mp hsame).2.2
    cases (hleft _ h).symm.trans ((Tree.isBelow_iff inwardTree_inner).mpr (by decide))

/-- The link is met, but not where the directory is emptied. -/
theorem take_handled_ne_emptied :
    inwardTree.Proper ∧ inwardTree.isFile [] ⟨.relative, []⟩ = .ok false ∧
      (∀ q, inwardTree.Meets barring [] true ⟨.relative, []⟩ q →
        ∃ kind, inwardTree.kind? [] q = .ok kind) ∧
      let handled := take inwardTree barring [] ⟨.relative, []⟩ true true
      let emptied := inwardTree.emptied [] (handled.state.unlisted.map Prod.fst)
      (take emptied .none [] ⟨.relative, []⟩ true true).state.candidates ≠
        handled.state.candidates := by
  have htells := fun q => inwardTree_tells (q := q)
  refine ⟨inwardTree_proper, inwardTree_isFile, htells, fun hequal => ?_⟩
  have hdirs : ∀ d, d ∈ (take inwardTree barring [] ⟨.relative, []⟩ true
      true).state.unlisted.map Prod.fst ↔
        ∃ e, inwardTree.Refuses barring [] true ⟨.relative, []⟩ d e :=
    mem_unlisted_iff ⟨_, inwardTree_isFile⟩ htells
  have hmet : ⟨⟨.relative, ["l"]⟩, .file⟩ ∈
      (take inwardTree barring [] ⟨.relative, []⟩ true true).state.candidates := by
    rw [take_eq_events, Tree.mem_candidates_iff_of_list inwardTree_list htells]
    exact ⟨inwardTree_meets_iff.mpr (Or.inr rfl), inwardTree_kind?.2⟩
  obtain ⟨-, hsame, -⟩ := Tree.events_emptied ⟨_, inwardTree_isFile⟩ htells inwardTree_proper hdirs
  rw [← hequal, take_eq_events, hsame, List.mem_filter, decide_eq_true_eq] at hmet
  refine inwardTree_emptied ((hdirs _).mpr ⟨_, inwardTree_refuses_iff.mpr ⟨rfl, rfl⟩⟩) hmet.2

end Survey
end BatchFormat
