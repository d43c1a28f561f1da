import Mathlib.Data.List.Sort
import BatchFormat.Proofs.Pairs
import BatchFormat.Proofs.Traverse.Unlisted

/-!
# The order of a traversal

Names are only ever sorted inside one directory. Yet the candidates of a whole traversal come in the
order of the names that lead to them: what lies below an entry has that entry's name in its way, and
so stands between the entry and the next one. In a tree where nothing is refused, the candidates are
then settled by what there is to meet, and a traversal that stays flat meets the first level of it.
-/
namespace BatchFormat

namespace Path

def namesFrom (root p : Path) : List String := p.parts.drop root.parts.length

/-- `p` comes before `q` in the order of the names, which are compared by code points. -/
def Precedes (p q : Path) : Prop := p.parts < q.parts

variable {p q r : Path} {name other : String}

theorem Precedes.of_below (h : p.Below q) : p.Precedes q := by
  obtain ⟨name, names, rfl⟩ := h
  have hlonger : p.parts ++ [] < p.parts ++ name :: names :=
    List.append_left_lt (List.nil_lt_cons name names)
  simpa [Precedes, child] using hlonger

/-- What lies within an entry comes before what lies within a later one. -/
theorem Precedes.of_within (hlt : name < other) (hq : (p.child name).Within q)
    (hr : (p.child other).Within r) : q.Precedes r := by
  obtain ⟨names, rfl⟩ := hq
  obtain ⟨names', rfl⟩ := hr
  have hapart : p.parts ++ name :: names < p.parts ++ other :: names' :=
    List.append_left_lt (List.cons_lt_cons_iff.mpr (Or.inl hlt))
  simpa [Precedes, child] using hapart

theorem namesFrom_of_below (h : p.Below q) : q.parts = p.parts ++ p.namesFrom q := by
  obtain ⟨name, names, rfl⟩ := h
  simp [namesFrom, child]

theorem lt_of_append_lt {front names names' : List String} (h : front ++ names < front ++ names') :
    names < names' := by
  induction front with
  | nil => exact h
  | cons first front ih =>
    rcases List.cons_lt_cons_iff.mp h with hself | ⟨-, hrest⟩
    · exact (String.lt_irrefl first hself).elim
    · exact ih hrest

/-- The order is that of the names below a common root. -/
theorem Precedes.namesFrom_lt (hq : p.Below q) (hr : p.Below r) (h : q.Precedes r) :
    p.namesFrom q < p.namesFrom r := by
  rw [Precedes, namesFrom_of_below hq, namesFrom_of_below hr] at h
  exact lt_of_append_lt h

end Path

namespace Tree

variable {t : Tree} {faults : Faults} {cwd place : Location} {p : Path} {names : List String}

/-- The names in a directory are listed in strict order if no place is kept twice. -/
theorem pairwise_lt_of_list (h : t.places.Nodup) (hlist : t.list faults cwd p = .ok names) :
    names.Pairwise (· < ·) := by
  have hnodup := nodup_of_list h hlist
  unfold list at hlist
  split at hlist
  · cases hlist
  · split at hlist
    · cases hlist
    · next place _ _ =>
      cases hlist
      have hfound : (t.entries.filterMap fun e => nameIn? place e.1).Nodup :=
        (List.mergeSort_perm _ _).nodup_iff.mp hnodup
      exact pairwise_lt_mergeSort (by simpa using hfound)
    · cases hlist

end Tree

namespace Event

/-- A part of a traversal adds candidates in order, all of them within a scope. -/
def AddsInOrder (before : List Event) (after : Progress (List Event)) (scope : Path → Prop) :
    Prop :=
  ∃ new, after.state = before ++ new ∧
    (new.filterMap candidate?).Pairwise (fun a b => a.path.Precedes b.path) ∧
    ∀ c ∈ new.filterMap candidate?, scope c.path

variable {t : Tree} {faults : Faults} {cwd : Location} {recursive handled : Bool}
  {before : List Event} {after : Progress (List Event)} {scope scope' : Path → Prop}
  {p q root : Path}

theorem AddsInOrder.nothing (before : List Event) (stopped : Option SystemError)
    (scope : Path → Prop) : AddsInOrder before ⟨before, stopped⟩ scope :=
  ⟨[], by simp, List.Pairwise.nil, fun _ h => nomatch h⟩

theorem AddsInOrder.one (c : Candidate) (before : List Event) (stopped : Option SystemError) :
    AddsInOrder before ⟨before ++ [met c], stopped⟩ fun q => q = c.path :=
  ⟨[met c], rfl, List.pairwise_singleton _ _, fun other hmem => by
    rw [List.mem_singleton.mp hmem]⟩

theorem AddsInOrder.mono (h : AddsInOrder before after scope) (hscope : ∀ q, scope q → scope' q) :
    AddsInOrder before after scope' := by
  obtain ⟨new, hstate, hsorted, hall⟩ := h
  exact ⟨new, hstate, hsorted, fun c hc => hscope _ (hall c hc)⟩

/-- A part whose scope comes before that of the next one is followed by it. -/
theorem AddsInOrder.andThen {f : List Event → Progress (List Event)}
    (h : AddsInOrder before after scope) (hnext : ∀ events, AddsInOrder events (f events) scope')
    (hbefore : ∀ q r, scope q → scope' r → q.Precedes r) :
    AddsInOrder before (after.andThen f) fun q => scope q ∨ scope' q := by
  obtain ⟨new, hstate, hsorted, hall⟩ := h
  unfold Progress.andThen
  split
  · exact ⟨new, hstate, hsorted, fun c hc => Or.inl (hall c hc)⟩
  · obtain ⟨more, hmore, hsorted', hall'⟩ := hnext after.state
    refine ⟨new ++ more, by rw [hmore, hstate, List.append_assoc], ?_, ?_⟩
    · rw [List.filterMap_append]
      exact List.pairwise_append.mpr ⟨hsorted, hsorted', fun c hc d hd =>
        hbefore _ _ (hall c hc) (hall' d hd)⟩
    · intro c hc
      rw [List.filterMap_append] at hc
      exact (List.mem_append.mp hc).imp (hall c) (hall' c)

/-- The entries of a directory, one after the other. -/
theorem AddsInOrder.foldl {f : String → List Event → Progress (List Event)} (p : Path)
    (names : List String) (hnames : names.Pairwise (· < ·))
    (hnext : ∀ name events, AddsInOrder events (f name events) (p.child name).Within)
    (hbefore : ∀ name ∈ names, ∀ q r, scope q → (p.child name).Within r → q.Precedes r)
    (h : AddsInOrder before after scope) :
    AddsInOrder before (names.foldl (fun progress name => progress.andThen (f name)) after)
      fun q => scope q ∨ ∃ name ∈ names, (p.child name).Within q := by
  induction names generalizing after scope with
  | nil => exact h.mono fun q hq => Or.inl hq
  | cons name names ih =>
    obtain ⟨hfirst, hrest⟩ := List.pairwise_cons.mp hnames
    have hstep := h.andThen (hnext name) (hbefore name List.mem_cons_self)
    refine (ih hrest ?_ hstep).mono ?_
    · rintro other hother q r (hold | hnew) hr
      · exact hbefore other (List.mem_cons_of_mem _ hother) q r hold hr
      · exact .of_within (hfirst other hother) hnew hr
    · intro q hq
      simpa [or_assoc] using hq

/-- The turn of an entry adds that entry first and what lies below it next. -/
theorem AddsInOrder.entry {enter : Path → List Event → Progress (List Event)}
    (henter : ∀ events, AddsInOrder events (enter q events) q.Below) :
    AddsInOrder before ((recorder t handled).entry cwd recursive enter q before) q.Within := by
  have hself : ∀ kind stopped, AddsInOrder before
      ⟨(recorder t handled).visit ⟨q, kind⟩ before, stopped⟩ q.Within :=
    fun kind stopped => (AddsInOrder.one ⟨q, kind⟩ before stopped).mono fun r hr => hr ▸ .refl q
  unfold Visitor.entry
  split
  · exact .nothing before _ _
  · exact .nothing before _ _
  · exact hself .file none
  · simp only
    split
    · split
      · exact hself .directory _
      · exact hself .directory _
      · -- the directory comes first, and then what lies below it
        have hboth := (AddsInOrder.one ⟨q, .directory⟩ before none).andThen henter
          fun r r' hr hr' => hr ▸ .of_below hr'
        refine hboth.mono ?_
        rintro r (rfl | hbelow)
        · exact .refl _
        · exact hbelow.within
    · exact hself .directory _

/-- What is met below a directory comes in order. -/
theorem AddsInOrder.below (h : t.places.Nodup) (depth : Nat) (p : Path) (before : List Event) :
    AddsInOrder before ((recorder t handled).below faults cwd recursive depth p before)
      p.Below := by
  induction depth generalizing p before with
  | zero => exact .nothing before none _
  | succ depth ih =>
    unfold Visitor.below
    split
    · next e _ =>
      unfold Visitor.skip recorder
      cases handled with
      | false => exact .nothing before _ _
      | true =>
        simp only [if_true]
        split
        · exact ⟨[missed p e], rfl, List.Pairwise.nil, fun _ h => nomatch h⟩
        · exact .nothing before _ _
    · next names hlist =>
      have hnothing : AddsInOrder before ⟨before, none⟩ fun _ => False := .nothing before none _
      have hfold := hnothing.foldl p names (Tree.pairwise_lt_of_list h hlist)
        (f := fun name => (recorder t handled).entry cwd recursive
          ((recorder t handled).below faults cwd recursive depth) (p.child name))
        (fun name events => .entry fun events => ih (p.child name) events)
        (fun _ _ _ _ h => h.elim)
      refine hfold.mono ?_
      rintro q (hfalse | ⟨name, -, hname⟩)
      · exact hfalse.elim
      · exact hname.below_child

/-! ## Without a handler -/

/-- What is not entered does not matter to an entry, nor does what would be done about a directory
that cannot be listed. -/
theorem entry_congr {enter enter' : Path → List Event → Progress (List Event)}
    (hlists : t.Lists faults cwd p q)
    (h : t.Enters faults cwd recursive p q → ∀ events, enter q events = enter' q events) :
    (recorder t handled).entry cwd recursive enter q before =
      (recorder t true).entry cwd recursive enter' q before := by
  change (recorder t true).entry cwd recursive enter q before = _
  by_cases henters : t.Enters faults cwd recursive p q
  · rw [entry_of_enters henters, entry_of_enters henters, h henters]
  · cases hkind : t.kind? cwd q with
    | error e => rw [entry_of_error hkind, entry_of_error hkind]
    | ok kind =>
      cases kind with
      | none => rw [entry_of_other hkind, entry_of_other hkind]
      | some kind =>
        rw [entry_of_not_enters hlists hkind henters, entry_of_not_enters hlists hkind henters]

/-- Where every directory can be listed, a handler is never needed. -/
theorem below_eq_of_listed
    (hall : ∀ d, t.Reaches faults cwd recursive root d → ∃ names, t.list faults cwd d = .ok names)
    (depth : Nat) (hp : t.Reaches faults cwd recursive root p) (before : List Event) :
    (recorder t handled).below faults cwd recursive depth p before =
      (recorder t true).below faults cwd recursive depth p before := by
  induction depth generalizing p before with
  | zero => rfl
  | succ depth ih =>
    obtain ⟨names, hlist⟩ := hall p hp
    have hfold : ∀ b, (recorder t b).below faults cwd recursive (depth + 1) p before =
        names.foldl (fun progress name => progress.andThen ((recorder t b).entry cwd recursive
          ((recorder t b).below faults cwd recursive depth) (p.child name)))
          ⟨before, none⟩ := by
      intro b
      simp [Visitor.below, recorder, hlist]
    rw [hfold, hfold]
    refine List.foldl_ext _ _ _ fun progress name hname => congrArg progress.andThen ?_
    funext events
    exact entry_congr ⟨names, hlist, name, hname, rfl⟩ fun henters events =>
      ih (hp.tail henters) events

end Event

namespace Tree

variable {t : Tree} {faults : Faults} {cwd : Location} {recursive handled : Bool}
  {root p q d : Path}

/-- Below `root` nothing is refused: each directory that is reached can be listed, and of each entry
that is met it can be told what it is. -/
structure Granted (t : Tree) (faults : Faults) (cwd : Location) (recursive : Bool) (root : Path) :
    Prop where
  lists : ∀ d, t.Reaches faults cwd recursive root d → ∃ names, t.list faults cwd d = .ok names
  tells : ∀ q, t.Meets faults cwd recursive root q → ∃ kind, t.kind? cwd q = .ok kind

theorem Meets.below (h : t.Meets faults cwd recursive root q) : root.Below q := by
  obtain ⟨d, hreaches, names, -, name, -, rfl⟩ := h
  exact hreaches.within.below_of_child name

/-- A traversal that stays flat reaches nothing but its root. -/
theorem Reaches.eq_root (h : t.Reaches faults cwd false root d) : d = root := by
  rcases Relation.ReflTransGen.cases_head h with heq | ⟨c, hc, -⟩
  · exact heq.symm
  · exact absurd hc.deep (by decide)

theorem meets_flat_iff : t.Meets faults cwd false root q ↔ t.Lists faults cwd root q := by
  constructor
  · rintro ⟨d, hreaches, hlists⟩
    exact hreaches.eq_root ▸ hlists
  · exact fun hlists => ⟨root, .refl, hlists⟩

/-- The first level of all that is met. -/
theorem lists_iff_meets : t.Lists faults cwd root q ↔
    t.Meets faults cwd true root q ∧ (root.namesFrom q).length = 1 := by
  constructor
  · intro hlists
    refine ⟨⟨root, .refl, hlists⟩, ?_⟩
    obtain ⟨-, -, name, -, rfl⟩ := hlists
    simp [Path.namesFrom, Path.child]
  · rintro ⟨⟨d, hreaches, hlists⟩, hlength⟩
    obtain ⟨names, rfl⟩ := hreaches.within
    obtain ⟨listed, hlist, name, hname, rfl⟩ := hlists
    have hnil : names = [] := by simpa [Path.namesFrom, Path.child] using hlength
    subst hnil
    exact ⟨listed, by simpa using hlist, name, hname, by simp [Path.child]⟩

theorem Granted.flat (h : t.Granted faults cwd true root) : t.Granted faults cwd false root where
  lists := fun _ hd => hd.eq_root ▸ h.lists root .refl
  tells := fun q hq => h.tells q (lists_iff_meets.mp (meets_flat_iff.mp hq)).1

theorem events_eq_of_listed (hroot : t.isDir cwd root = .ok true)
    (h : t.Granted faults cwd recursive root) :
    t.events faults cwd root recursive handled = t.events faults cwd root recursive true := by
  have hbelow : ∀ b, t.events faults cwd root recursive b =
      (Event.recorder t b).below faults cwd recursive Visitor.depthLimit root [] := by
    intro b
    simp [events, Visitor.run, Event.recorder, isFile_of_isDir hroot]
  rw [hbelow, hbelow]
  exact Event.below_eq_of_listed h.lists _ .refl []

theorem mem_candidates_iff {events : List Event} {c : Candidate} :
    c ∈ events.filterMap Event.candidate? ↔ .met c ∈ events := by
  rw [List.mem_filterMap]
  constructor
  · rintro ⟨other | ⟨d, e⟩, hevent, hc⟩
    · cases hc
      exact hevent
    · cases hc
  · exact fun hevent => ⟨_, hevent, rfl⟩

/-- The candidates of a traversal that comes to its end are what there is to meet, as what it is. -/
theorem mem_candidates_events_iff (hfile : t.isFile cwd root = .ok false)
    (hexists : t.pathExists cwd root = .ok true)
    (hnone : (t.events faults cwd root recursive true).stopped = none) {c : Candidate} :
    c ∈ (t.events faults cwd root recursive true).state.filterMap Event.candidate? ↔
      t.Meets faults cwd recursive root c.path ∧ t.kind? cwd c.path = .ok (some c.kind) := by
  have hcomes : t.ComesTo faults cwd recursive root c.path ↔
      t.Meets faults cwd recursive root c.path := by
    simp [ComesTo, hfile]
  rw [mem_candidates_iff, met_mem_events_iff hexists hnone, hcomes]

/-- Where nothing is refused, a traversal comes to its end and misses nothing. -/
theorem events_of_granted (handled : Bool) (hroot : t.isDir cwd root = .ok true)
    (h : t.Granted faults cwd recursive root) :
    let events := t.events faults cwd root recursive handled
    events.stopped = none ∧ events.state.filterMap Event.missed? = [] ∧
      ∀ c, c ∈ events.state.filterMap Event.candidate? ↔
        t.Meets faults cwd recursive root c.path ∧ t.kind? cwd c.path = .ok (some c.kind) := by
  have hfile := isFile_of_isDir hroot
  have hexists := pathExists_of_test hroot
  have hnone : (t.events faults cwd root recursive true).stopped = none := by
    refine (events_stopped_iff hexists).mpr ?_
    rintro q (⟨hother, -⟩ | ⟨-, hmeets⟩)
    · exact nomatch hfile.symm.trans hother
    · exact h.tells q hmeets
  rw [events_eq_of_listed hroot h]
  refine ⟨hnone, List.filterMap_eq_nil_iff.mpr ?_, fun c => ?_⟩
  · rintro (c | ⟨d, e⟩) hevent
    · rfl
    · obtain ⟨hreaches, herror⟩ := ((explored_events hfile hexists faults recursive).sound _
        hevent).resolve_left (by simp)
      obtain ⟨names, hlist⟩ := h.lists d hreaches
      exact nomatch hlist.symm.trans herror
  · exact mem_candidates_events_iff hfile hexists hnone

/-- What a traversal meets lies below its root, unless that is a file, and comes in the order of the
names. -/
theorem candidates_of_not_file (hplaces : t.places.Nodup) (hfile : t.isFile cwd root = .ok false)
    (faults : Faults) (recursive handled : Bool) :
    let candidates := (t.events faults cwd root recursive handled).state.filterMap Event.candidate?
    candidates.Pairwise (fun a b => a.path.Precedes b.path) ∧
      ∀ c ∈ candidates, root.Below c.path := by
  have hbelow : t.events faults cwd root recursive handled =
      (Event.recorder t handled).below faults cwd recursive Visitor.depthLimit root [] := by
    simp [events, Visitor.run, Event.recorder, hfile]
  obtain ⟨new, hstate, hsorted, hscope⟩ :
      Event.AddsInOrder [] ((Event.recorder t handled).below faults cwd recursive
        Visitor.depthLimit root []) root.Below := .below hplaces _ root []
  rw [hbelow, hstate]
  exact ⟨hsorted, hscope⟩

end Tree

namespace Survey

instance : Std.Irrefl fun a b : Candidate => a.path.Precedes b.path :=
  ⟨fun a => List.lt_irrefl a.path.parts⟩

instance : Std.Antisymm fun a b : Candidate => a.path.Precedes b.path :=
  ⟨fun _ _ hab hba => (List.lt_asymm hab hba).elim⟩

def isImmediate (root : Path) (c : Candidate) : Bool := (root.namesFrom c.path).length == 1

/-- Below a directory where nothing is refused, a survey that goes deep comes to its end without an
error, whether there is a handler or not. Its candidates are the entries that are met in real
directories and are directories or files, links followed; each is there once, and they come in the
order of the names that lead to them. A survey that stays flat has just those in the root itself.
Directories may be nested as deep as paths can be: no bound on the depth of calls is counted in. -/
theorem take_complete (t : Tree) (faults : Faults) (cwd : Location) (root : Path) (handled : Bool)
    (hplaces : t.places.Nodup) (hroot : t.isDir cwd root = .ok true)
    (hgranted : t.Granted faults cwd true root) :
    let deep := take t faults cwd root true handled
    deep.stopped = none ∧ deep.state.unlisted = [] ∧
      (∀ c, c ∈ deep.state.candidates ↔ t.Meets faults cwd true root c.path ∧
        (c.kind = .directory ∧ t.isDir cwd c.path = .ok true ∨
          c.kind = .file ∧ t.isFile cwd c.path = .ok true)) ∧
      deep.state.candidates.Nodup ∧
      deep.state.candidates.Pairwise
        (fun a b => root.namesFrom a.path < root.namesFrom b.path) ∧
      take t faults cwd root false handled =
        ⟨⟨deep.state.candidates.filter (isImmediate root), []⟩, none⟩ := by
  obtain ⟨hstopped, hmissed, hmem⟩ := Tree.events_of_granted handled hroot hgranted
  obtain ⟨hstopped', hmissed', hmem'⟩ := Tree.events_of_granted handled hroot hgranted.flat
  have hfile := Tree.isFile_of_isDir hroot
  obtain ⟨hsorted, -⟩ := Tree.candidates_of_not_file hplaces hfile faults true handled
  obtain ⟨hsorted', -⟩ := Tree.candidates_of_not_file hplaces hfile faults false handled
  simp only [take_eq_events, hstopped, hmissed, hstopped', hmissed', true_and]
  refine ⟨fun c => ?_, hsorted.nodup, ?_, ?_⟩
  · rw [hmem, ← Tree.kind?_eq_directory_iff, ← Tree.kind?_eq_file_iff]
    cases c.kind <;> simp
  · refine hsorted.imp_of_mem fun {a b} ha hb hab => ?_
    exact hab.namesFrom_lt ((hmem a).mp ha).1.below ((hmem b).mp hb).1.below
  · have hsame : (t.events faults cwd root false handled).state.filterMap Event.candidate? =
        ((t.events faults cwd root true handled).state.filterMap Event.candidate?).filter
          (isImmediate root) := by
      refine hsorted'.eq_of_mem_iff (hsorted.filter _) fun c => ?_
      rw [List.mem_filter, hmem, hmem', Tree.meets_flat_iff, Tree.lists_iff_meets, isImmediate,
        beq_iff_eq]
      exact and_right_comm
    rw [hsame]

def linkedTree : Tree :=
  ⟨[(["a"], .dir 0o755), (["a", "x"], .file [] 0o644), (["l"], .link "a")]⟩

theorem isName_linkedTree : Tree.IsName "a" ∧ Tree.IsName "x" ∧ Tree.IsName "l" :=
  ⟨by decide, by decide, by decide⟩

theorem linkedTree_root : linkedTree.entryAt? [] true ⟨.relative, []⟩ = .ok ([], .dir 0o755) :=
  Tree.entryAt?_eq_ok_iff.mpr ⟨by decide, by decide, Tree.walk_nil⟩

theorem linkedTree_inner :
    linkedTree.entryAt? [] true ⟨.relative, ["a"]⟩ = .ok (["a"], .dir 0o755) :=
  Tree.entryAt?_eq_ok_iff.mpr ⟨by decide, by decide,
    (Tree.walk_through isName_linkedTree.1 rfl).trans Tree.walk_nil⟩

theorem linkedTree_file :
    linkedTree.entryAt? [] true ⟨.relative, ["a", "x"]⟩ = .ok (["a", "x"], .file [] 0o644) :=
  Tree.entryAt?_eq_ok_iff.mpr ⟨by decide, by decide,
    (Tree.walk_through isName_linkedTree.1 rfl).trans
      (Tree.walk_halt isName_linkedTree.2.1 rfl rfl)⟩

theorem linkedTree_link :
    linkedTree.entryAt? [] true ⟨.relative, ["l"]⟩ = .ok (["a"], .dir 0o755) := by
  have hpieces : Path.pieces "a" = ["a"] := by decide
  refine Tree.entryAt?_eq_ok_iff.mpr ⟨by decide, by decide, ?_⟩
  refine (Tree.walk_onward isName_linkedTree.2.2 rfl (by simp)).trans ?_
  rw [hpieces]
  exact (Tree.walk_through isName_linkedTree.1 rfl).trans Tree.walk_nil

theorem linkedTree_isLink : linkedTree.isLink [] ⟨.relative, ["l"]⟩ = .ok true := by
  have hentry : linkedTree.entryAt? [] false ⟨.relative, ["l"]⟩ = .ok (["l"], .link "a") :=
    Tree.entryAt?_eq_ok_iff.mpr ⟨by decide, by decide,
      Tree.walk_link_last isName_linkedTree.2.2 rfl⟩
  simp [Tree.isLink, Tree.probe, hentry, Except.map, Entry.isLink]

theorem linkedTree_list : linkedTree.list .none [] ⟨.relative, []⟩ = .ok ["a", "l"] :=
  have hsorted : ["a", "l"].mergeSort (fun a b => decide (a ≤ b)) = ["a", "l"] :=
    List.mergeSort_of_pairwise (by decide)
  (Tree.list_of_dir linkedTree_root).trans (congrArg _ hsorted)

theorem linkedTree_list_inner : linkedTree.list .none [] ⟨.relative, ["a"]⟩ = .ok ["x"] :=
  (Tree.list_of_dir linkedTree_inner).trans (congrArg _ (List.mergeSort_singleton "x"))

theorem linkedTree_reaches {d : Path} (h : linkedTree.Reaches .none [] true ⟨.relative, []⟩ d) :
    d = ⟨.relative, []⟩ ∨ d = ⟨.relative, ["a"]⟩ := by
  induction h with
  | refl => exact Or.inl rfl
  | tail _ henters ih =>
    rcases ih with rfl | rfl
    · obtain ⟨name, hname, rfl⟩ := henters.lists.cases linkedTree_list
      simp only [List.mem_cons, List.not_mem_nil, or_false] at hname
      rcases hname with rfl | rfl
      · exact Or.inr rfl
      · cases linkedTree_isLink.symm.trans henters.isLink
    · obtain ⟨name, hname, rfl⟩ := henters.lists.cases linkedTree_list_inner
      obtain rfl := List.mem_singleton.mp hname
      have hfile := Tree.isDir_eq_false_of_isFile (Tree.isFile_of_file linkedTree_file)
      cases hfile.symm.trans henters.isDir

theorem linkedTree_granted : linkedTree.Granted .none [] true ⟨.relative, []⟩ where
  lists := by
    intro d hd
    rcases linkedTree_reaches hd with rfl | rfl
    · exact ⟨_, linkedTree_list⟩
    · exact ⟨_, linkedTree_list_inner⟩
  tells := by
    rintro q ⟨d, hd, hlists⟩
    rcases linkedTree_reaches hd with rfl | rfl
    · obtain ⟨name, hname, rfl⟩ := hlists.cases linkedTree_list
      simp only [List.mem_cons, List.not_mem_nil, or_false] at hname
      rcases hname with rfl | rfl
      · exact ⟨_, Tree.kind?_eq_directory_iff.mpr (Tree.isDir_of_dir linkedTree_inner)⟩
      · exact ⟨_, Tree.kind?_eq_directory_iff.mpr (Tree.isDir_of_dir linkedTree_link)⟩
    · obtain ⟨name, hname, rfl⟩ := hlists.cases linkedTree_list_inner
      obtain rfl := List.mem_singleton.mp hname
      exact ⟨_, Tree.kind?_eq_file_iff.mpr (Tree.isFile_of_file linkedTree_file)⟩

/-- The link is a candidate of its own, and what is in the directory behind it is met once. -/
theorem take_complete_of_linkedTree :
    linkedTree.places.Nodup ∧ linkedTree.isDir [] ⟨.relative, []⟩ = .ok true ∧
      linkedTree.Granted .none [] true ⟨.relative, []⟩ ∧
      let found := (take linkedTree .none [] ⟨.relative, []⟩ true true).state.candidates
      ⟨⟨.relative, ["l"]⟩, .directory⟩ ∈ found ∧ found.Nodup ∧
        ⟨⟨.relative, ["l", "x"]⟩, .file⟩ ∉ found := by
  have hplaces : linkedTree.places.Nodup := by decide
  have hroot := Tree.isDir_of_dir linkedTree_root
  have hlink := Tree.isDir_of_dir linkedTree_link
  obtain ⟨-, -, hmem, hnodup, -⟩ := take_complete linkedTree .none [] ⟨.relative, []⟩ true
    hplaces hroot linkedTree_granted
  refine ⟨hplaces, hroot, linkedTree_granted, (hmem _).mpr ⟨?_, Or.inl ⟨rfl, hlink⟩⟩, hnodup, ?_⟩
  · exact ⟨_, .refl, _, linkedTree_list, "l", by decide, rfl⟩
  · intro hfound
    obtain ⟨⟨d, hd, hlists⟩, -⟩ := (hmem _).mp hfound
    rcases linkedTree_reaches hd with rfl | rfl
    · obtain ⟨name, -, heq⟩ := hlists.cases linkedTree_list
      simp [Path.child] at heq
    · obtain ⟨name, -, heq⟩ := hlists.cases linkedTree_list_inner
      simp [Path.child] at heq

end Survey
end BatchFormat
