import Mathlib.Data.List.Nodup
import Mathlib.Data.List.Perm.Subperm
import BatchFormat.Proofs.Traverse.Agenda
import BatchFormat.Proofs.Traverse.Ordinary

/-!
# What a traversal lists

From a directory a traversal goes on only into directories that are in it themselves, so its way
down is the way from the place of the root, one name for one name. Whatever the links of a tree are,
it lists no place twice, and there are no more steps than entries.
-/
namespace BatchFormat

namespace Path

variable {p q s : Path} {name other : String}

def Apart (p q : Path) : Prop := ¬p.Within q ∧ ¬q.Within p

theorem Apart.ne (h : p.Apart q) : p ≠ q := by
  rintro rfl
  exact h.1 (.refl p)

theorem not_child_within (p : Path) (name : String) : ¬(p.child name).Within p :=
  fun h => h.below_child.ne rfl

/-- Different entries of a directory are apart. -/
theorem apart_children (hne : name ≠ other) : (p.child name).Apart (p.child other) :=
  ⟨fun h => hne (h.child_inj (.refl _)), fun h => hne (h.child_inj (.refl _)).symm⟩

/-- What is apart from a directory is apart from its entries. -/
theorem Apart.child (h : p.Apart q) (name : String) : (p.child name).Apart q := by
  have hwithin : ¬p.Within q := h.1
  refine ⟨fun hchild => hwithin ((within_child p name).trans hchild), fun habove => ?_⟩
  rcases habove.of_child with rfl | hp
  · exact hwithin (within_child p name)
  · exact h.2 hp

end Path

namespace Tree

variable {t : Tree} {faults : Faults} {cwd : Location} {recursive : Bool} {root d q : Path}

def realPlace? (t : Tree) (cwd : Location) (p : Path) : Option Location :=
  (t.entryAt? cwd true p).toOption.map Prod.fst

/-- The way from the root to a directory that is reached leads through directories that are no
links. -/
theorem Reaches.exists_way (h : t.Reaches faults cwd recursive root d) :
    ∃ names, d = root.extend names ∧ ∀ way, way <+: names → way ≠ [] →
      t.isDir cwd (root.extend way) = .ok true ∧ t.isLink cwd (root.extend way) = .ok false := by
  induction h with
  | refl => exact ⟨[], by simp, fun way hway hne => (hne (List.prefix_nil.mp hway)).elim⟩
  | tail _ henters ih =>
    obtain ⟨names, rfl, hway⟩ := ih
    obtain ⟨listed, -, name, -, rfl⟩ := henters.lists
    refine ⟨names ++ [name], (Path.extend_concat ..).symm, fun way hprefix hne => ?_⟩
    rcases List.prefix_concat_iff.mp hprefix with rfl | hshorter
    · rw [Path.extend_concat]
      exact ⟨henters.isDir, henters.isLink⟩
    · exact hway way hshorter hne

/-- The names of that way lead from the place of the root to the place of the directory. -/
theorem Reaches.entryAt?_extend {names : List String}
    (h : t.Reaches faults cwd recursive root (root.extend names)) (hproper : t.Proper)
    {top : Location} {entry : Entry} (htop : t.entryAt? cwd true root = .ok (top, entry)) :
    ∃ found, t.entryAt? cwd true (root.extend names) = .ok (top ++ names, found) := by
  rcases Relation.ReflTransGen.cases_head h with heq | ⟨c, henters, -⟩
  · obtain rfl : names = [] := by simpa [Path.extend] using congrArg Path.parts heq
    exact ⟨entry, by simpa using htop⟩
  · obtain ⟨listed, hlist, -⟩ := henters.lists
    obtain ⟨place, mode, hdir, -⟩ := dir_of_list hlist
    cases htop.symm.trans hdir
    obtain ⟨names', m, heq, hfound⟩ := h.exists_place hproper htop
    obtain rfl : names = names' := by simpa [Path.extend] using congrArg Path.parts heq
    exact ⟨_, hfound⟩

theorem realPlace?_eq_some_iff {place : Location} :
    t.realPlace? cwd d = some place ↔ ∃ found, t.entryAt? cwd true d = .ok (place, found) := by
  unfold realPlace?
  cases t.entryAt? cwd true d with
  | error e => simp [Except.toOption]
  | ok found =>
    obtain ⟨there, entry⟩ := found
    simp [Except.toOption]

/-- Different directories that are reached have different places. -/
theorem Reaches.eq_of_realPlace? (hd : t.Reaches faults cwd recursive root d)
    (hq : t.Reaches faults cwd recursive root q) (hproper : t.Proper) {place : Location}
    (hdplace : t.realPlace? cwd d = some place) (hqplace : t.realPlace? cwd q = some place) :
    d = q := by
  obtain ⟨entry, hentry⟩ := realPlace?_eq_some_iff.mp hdplace
  obtain ⟨other, hother⟩ := realPlace?_eq_some_iff.mp hqplace
  obtain ⟨top, found, htop⟩ : ∃ top found, t.entryAt? cwd true root = .ok (top, found) := by
    rcases Relation.ReflTransGen.cases_head hd with rfl | ⟨c, henters, -⟩
    · exact ⟨place, entry, hentry⟩
    · obtain ⟨place, mode, hdir, -⟩ := dir_of_list henters.lists.choose_spec.1
      exact ⟨place, _, hdir⟩
  obtain ⟨names, rfl, -⟩ := hd.exists_way
  obtain ⟨names', rfl, -⟩ := hq.exists_way
  obtain ⟨_, hplace⟩ := hd.entryAt?_extend hproper htop
  obtain ⟨_, hplace'⟩ := hq.entryAt?_extend hproper htop
  obtain ⟨rfl, -⟩ := Prod.mk.inj (Except.ok.inj (hentry.symm.trans hplace))
  obtain ⟨hsame, -⟩ := Prod.mk.inj (Except.ok.inj (hother.symm.trans hplace'))
  rw [List.append_cancel_left hsame]

/-- What is met below the root stands in the tree, below the place of the root. -/
theorem Meets.mem_places (h : t.Meets faults cwd recursive root q) (hproper : t.Proper)
    {top : Location} {mode : Nat} (htop : t.entryAt? cwd true root = .ok (top, .dir mode)) :
    ∃ names, q = root.extend names ∧ top ++ names ∈ t.places := by
  obtain ⟨d, hd, listed, hlist, name, hname, rfl⟩ := h
  obtain ⟨names, m, rfl, hentry⟩ := hd.exists_place hproper htop
  obtain ⟨place, m', hplace, rfl⟩ := dir_of_list hlist
  cases hentry.symm.trans hplace
  refine ⟨names ++ [name], (Path.extend_concat root names name).symm, ?_⟩
  rw [← List.append_assoc]
  exact mem_names_iff.mp hname

/-- There are no more paths to meet than entries in the tree. -/
theorem length_le_of_meets (hproper : t.Proper) {paths : List Path} (hnodup : paths.Nodup)
    (hmeets : ∀ q ∈ paths, t.Meets faults cwd recursive root q) :
    paths.length ≤ t.entries.length := by
  cases paths with
  | nil => exact Nat.zero_le _
  | cons p paths =>
    obtain ⟨top, mode, htop⟩ := (hmeets p List.mem_cons_self).dir_of_root
    have hfrom : ∀ names, root.namesFrom (root.extend names) = names := fun names => by
      simp [Path.namesFrom, Path.extend]
    have hplaces : ((p :: paths).map fun q => top ++ root.namesFrom q) ⊆ t.places := by
      intro place hplace
      obtain ⟨q, hq, rfl⟩ := List.mem_map.mp hplace
      obtain ⟨names, rfl, hmem⟩ := (hmeets q hq).mem_places hproper htop
      rwa [hfrom]
    have honce : ((p :: paths).map fun q => top ++ root.namesFrom q).Nodup := by
      refine hnodup.map_on fun x hx y hy heq => ?_
      obtain ⟨names, rfl, -⟩ := (hmeets x hx).mem_places hproper htop
      obtain ⟨names', rfl, -⟩ := (hmeets y hy).mem_places hproper htop
      rw [hfrom, hfrom] at heq
      rw [List.append_cancel_left heq]
    simpa [places] using (List.Nodup.subperm honce hplaces).length_le

end Tree

variable {σ : Type} {v : Visitor σ} {t : Tree} {faults : Faults} {cwd : Location}
  {recursive : Bool} {root p : Path} {a : Agenda σ} {due : List Path} {start s : σ}

/-- What holds on a traversal of `t` at any time. Everything on the agenda is something to meet, and
nothing that is due lies within what was seen, or within something else that is due. -/
structure Agenda.Orderly (v : Visitor σ) (t : Tree) (faults : Faults) (cwd : Location)
    (recursive : Bool) (root : Path) (a : Agenda σ) : Prop where
  shape : (v.tree a.state).shape = t.shape
  meets : ∀ q ∈ a.seen ++ a.due, t.Meets faults cwd recursive root q
  reaches : ∀ d ∈ a.listed, t.Reaches faults cwd recursive root d
  apart : a.due.Pairwise Path.Apart
  fresh : ∀ s ∈ a.seen, ∀ q ∈ a.due, ¬q.Within s
  once : a.seen.Nodup
  sublist : a.listed.Sublist (root :: a.seen)

/-- The directory `p` may be listed now: nothing that is due has to do with it, and nothing below it
was seen. -/
structure Agenda.Admits (t : Tree) (faults : Faults) (cwd : Location) (recursive : Bool)
    (root p : Path) (a : Agenda σ) : Prop where
  reaches : t.Reaches faults cwd recursive root p
  apart : ∀ q ∈ a.due, p.Apart q
  last : ∀ s ∈ a.seen, p.Within s → s = p
  sublist : (a.listed ++ [p]).Sublist (root :: a.seen)

namespace Agenda.Orderly

/-- The invariant does not depend on what the visitor does, as long as it keeps the shape. -/
theorem with_state (h : a.Orderly v t faults cwd recursive root)
    (hshape : (v.tree s).shape = t.shape) :
    ({ a with state := s } : Agenda σ).Orderly v t faults cwd recursive root :=
  ⟨hshape, h.meets, h.reaches, h.apart, h.fresh, h.once, h.sublist⟩

theorem with_listed (h : a.Orderly v t faults cwd recursive root)
    (hp : t.Reaches faults cwd recursive root p)
    (hsublist : (a.listed ++ [p]).Sublist (root :: a.seen)) :
    ({ a with listed := a.listed ++ [p] } : Agenda σ).Orderly v t faults cwd recursive root := by
  refine ⟨h.shape, h.meets, fun d hd => ?_, h.apart, h.fresh, h.once, hsublist⟩
  rcases List.mem_append.mp hd with hold | hnew
  · exact h.reaches d hold
  · exact List.mem_singleton.mp hnew ▸ hp

/-- The entries of a directory that may be listed come to what is due. -/
theorem with_due (h : a.Orderly v t faults cwd recursive root)
    (hp : a.Admits t faults cwd recursive root p) {names : List String} (hnames : names.Nodup)
    (hlist : t.list faults cwd p = .ok names) :
    ({ a with due := names.map p.child ++ a.due } : Agenda σ).Orderly v t faults cwd recursive
      root := by
  have hmeets : ∀ name ∈ names, t.Meets faults cwd recursive root (p.child name) :=
    fun name hname => ⟨p, hp.reaches, names, hlist, name, hname, rfl⟩
  refine ⟨h.shape, fun q hq => ?_, h.reaches, ?_, fun s hs q hq hwithin => ?_, h.once, h.sublist⟩
  · simp only [List.mem_append, List.mem_map] at hq
    rcases hq with hseen | ⟨name, hname, rfl⟩ | hdue
    · exact h.meets q (List.mem_append_left _ hseen)
    · exact hmeets name hname
    · exact h.meets q (List.mem_append_right _ hdue)
  · refine List.pairwise_append.mpr ⟨?_, h.apart, ?_⟩
    · exact List.pairwise_map.mpr (hnames.imp Path.apart_children)
    · intro c hc q hq
      obtain ⟨name, -, rfl⟩ := List.mem_map.mp hc
      exact (hp.apart q hq).child name
  · rcases List.mem_append.mp hq with hchild | hdue
    · obtain ⟨name, -, rfl⟩ := List.mem_map.mp hchild
      have hself : s = p := hp.last s hs ((Path.within_child p name).trans hwithin)
      exact Path.not_child_within p name (hself ▸ hwithin)
    · exact h.fresh s hs q hdue hwithin

/-- What is seen next was not seen before, and may be listed if it is entered. -/
theorem pop (h : a.Orderly v t faults cwd recursive root) (hdue : a.due = p :: due) :
    ({ a with due := due, seen := a.seen ++ [p] } : Agenda σ).Orderly v t faults cwd recursive
      root := by
  have hapart := h.apart
  have hfresh := h.fresh
  rw [hdue] at hapart hfresh
  obtain ⟨hhead, htail⟩ := List.pairwise_cons.mp hapart
  refine ⟨h.shape, fun q hq => h.meets q ?_, h.reaches, htail, fun s hs q hq => ?_, ?_, ?_⟩
  · simpa [hdue] using hq
  · rcases List.mem_append.mp hs with hold | hnew
    · exact hfresh s hold q (List.mem_cons_of_mem _ hq)
    · exact List.mem_singleton.mp hnew ▸ (hhead q hq).2
  · refine h.once.append (List.nodup_singleton p) fun s hold hnew => ?_
    obtain rfl := List.mem_singleton.mp hnew
    exact hfresh s hold s List.mem_cons_self (.refl s)
  · exact h.sublist.trans (List.sublist_append_left (root :: a.seen) [p])

theorem admits (h : a.Orderly v t faults cwd recursive root) (hdue : a.due = p :: due)
    (hp : t.Reaches faults cwd recursive root p) (s : σ) :
    (⟨s, due, a.seen ++ [p], a.listed⟩ : Agenda σ).Admits t faults cwd recursive root p := by
  have hapart := h.apart
  have hfresh := h.fresh
  rw [hdue] at hapart hfresh
  refine ⟨hp, (List.pairwise_cons.mp hapart).1, fun s hs hwithin => ?_, ?_⟩
  · rcases List.mem_append.mp hs with hold | hnew
    · exact (hfresh s hold p List.mem_cons_self hwithin).elim
    · exact List.mem_singleton.mp hnew
  · exact h.sublist.append (List.Sublist.refl [p])

/-- No entry is on the agenda twice. -/
theorem nodup (h : a.Orderly v t faults cwd recursive root) : (a.seen ++ a.due).Nodup := by
  refine h.once.append (h.apart.imp Path.Apart.ne) fun s hs hdue => ?_
  exact h.fresh s hs s hdue (.refl s)

theorem nodup_listed (h : a.Orderly v t faults cwd recursive root) : a.listed.Nodup := by
  refine (List.nodup_cons.mpr ⟨fun hroot => ?_, h.once⟩).sublist h.sublist
  exact (h.meets root (List.mem_append_left _ hroot)).below.ne rfl

end Agenda.Orderly

namespace Visitor

open Agenda

theorem orderly_skip (hkeep : v.KeepsShape cwd start)
    (h : a.Orderly v (v.tree start) faults cwd recursive root) (e : SystemError) :
    (v.withAgenda.skip p e a).state.Orderly v (v.tree start) faults cwd recursive root := by
  unfold skip withAgenda
  cases hpass : v.unlisted? with
  | none => exact h
  | some pass =>
    simp only [Option.map_some]
    split
    · exact h.with_state ((hkeep.unlisted pass hpass p e _).trans h.shape)
    · exact h

theorem orderly_schedule (hkeep : v.KeepsShape cwd start) (honce : (v.tree start).places.Nodup)
    (h : a.Orderly v (v.tree start) faults cwd recursive root)
    (hp : a.Admits (v.tree start) faults cwd recursive root p) :
    (v.schedule faults cwd p a).state.Orderly v (v.tree start) faults cwd recursive root := by
  simp only [schedule]
  rw [Tree.list_of_shape h.shape]
  cases hlist : (v.tree start).list faults cwd p with
  | error e => exact orderly_skip hkeep (h.with_listed hp.reaches hp.sublist) e
  | ok names =>
    have hdue := h.with_due hp (Tree.nodup_of_list honce hlist) hlist
    exact hdue.with_listed hp.reaches hp.sublist

/-- What is listed in a step is a directory in one that was listed. -/
theorem orderly_step (hkeep : v.KeepsShape cwd start) (honce : (v.tree start).places.Nodup)
    (h : a.Orderly v (v.tree start) faults cwd recursive root) :
    (v.step faults cwd recursive a).state.Orderly v (v.tree start) faults cwd recursive root := by
  unfold step
  cases hdue : a.due with
  | nil => exact h
  | cons p due =>
    have hpop := h.pop hdue
    have hvisit : ∀ kind, (v.tree start).kind? cwd p = .ok (some kind) →
        (v.tree (v.visit ⟨p, kind⟩ a.state)).shape = (v.tree start).shape := fun kind hkind =>
      (hkeep.visit ⟨p, kind⟩ a.state h.shape hkind).trans h.shape
    simp only [entry, withAgenda_tree, withAgenda_visit]
    rw [Tree.kind?_of_shape h.shape]
    cases hkind : (v.tree start).kind? cwd p with
    | error e => exact hpop
    | ok kind =>
      cases kind with
      | none => exact hpop
      | some kind =>
        cases kind with
        | file => exact hpop.with_state (hvisit .file hkind)
        | directory =>
          have hvisited := hpop.with_state (hvisit .directory hkind)
          cases recursive with
          | false => exact hvisited
          | true =>
            simp only [if_true]
            rw [Tree.isLink_of_shape (hvisit .directory hkind)]
            cases hlink : (v.tree start).isLink cwd p with
            | error e => exact hvisited
            | ok link =>
              cases link with
              | true => exact hvisited
              | false =>
                obtain ⟨d, hd, hlists⟩ := h.meets p (by simp [hdue])
                have hdir := Tree.kind?_eq_directory_iff.mp hkind
                have hp := hd.tail ⟨hlists, rfl, hdir, hlink⟩
                exact orderly_schedule hkeep honce hvisited (h.admits hdue hp _)

/-- A traversal is in order when it starts. -/
theorem orderly_opening (hkeep : v.KeepsShape cwd start) (honce : (v.tree start).places.Nodup)
    (faults : Faults) (recursive : Bool) (root : Path) :
    (v.opening faults cwd root start).state.Orderly v (v.tree start) faults cwd recursive root := by
  have hnothing : (⟨start, [], [], []⟩ : Agenda σ).Orderly v (v.tree start) faults cwd recursive
      root := by
    refine ⟨rfl, ?_, ?_, List.Pairwise.nil, ?_, List.nodup_nil, List.nil_sublist _⟩ <;> simp
  simp only [opening, withAgenda_visit]
  cases hfile : (v.tree start).isFile cwd root with
  | error e => exact hnothing
  | ok file =>
    cases file with
    | true =>
      have hkind := Tree.kind?_eq_file_iff.mpr hfile
      exact hnothing.with_state (hkeep.visit ⟨root, .file⟩ start rfl hkind)
    | false =>
      exact orderly_schedule hkeep honce hnothing ⟨.refl, by simp, by simp, List.Sublist.refl _⟩

/-- A traversal is in order after any number of steps. -/
theorem orderly_after (hkeep : v.KeepsShape cwd start) (honce : (v.tree start).places.Nodup)
    (faults : Faults) (recursive : Bool) (root : Path) (count : Nat) :
    (v.after faults cwd recursive root start count).state.Orderly v (v.tree start) faults cwd
      recursive root := by
  induction count with
  | zero => exact orderly_opening hkeep honce faults recursive root
  | succ count ih =>
    rw [after, Function.iterate_succ_apply', ← after]
    unfold advance Progress.andThen
    split
    · exact ih
    · exact orderly_step hkeep honce ih

/-! ## The number of steps -/

theorem seen_schedule (p : Path) (a : Agenda σ) :
    (v.schedule faults cwd p a).state.seen = a.seen := by
  simp only [schedule, skip, withAgenda]
  split
  · cases v.unlisted? with
    | none => rfl
    | some pass =>
      simp only [Option.map_some]
      split <;> rfl
  · rfl

/-- Each step looks at one entry. -/
theorem seen_step (hdue : a.due = p :: due) :
    (v.step faults cwd recursive a).state.seen = a.seen ++ [p] := by
  simp only [step, hdue, entry]
  split
  · rfl
  · rfl
  · rfl
  · split
    · split
      · rfl
      · rfl
      · exact seen_schedule _ _
    · rfl

/-- As long as the traversal is not over, each step sees one entry more. -/
theorem length_seen_after {count : Nat}
    (h : ¬(v.after faults cwd recursive root start count).IsOver) :
    (v.after faults cwd recursive root start count).state.seen.length = count := by
  induction count with
  | zero =>
    simp only [after, Function.iterate_zero, id_eq, opening]
    split
    · rfl
    · rfl
    · exact congrArg List.length (seen_schedule root _)
  | succ count ih =>
    have hbefore : ¬(v.after faults cwd recursive root start count).IsOver := fun hover =>
      h (after_of_isOver hover (Nat.le_succ count) ▸ hover)
    have hseen := ih hbefore
    rw [after, Function.iterate_succ_apply', ← after] at h ⊢
    generalize v.after faults cwd recursive root start count = x at *
    obtain ⟨a, stopped⟩ := x
    cases stopped with
    | some e => exact (hbefore (Or.inl rfl)).elim
    | none =>
      cases hdue : a.due with
      | nil => exact (hbefore (Or.inr hdue)).elim
      | cons p due =>
        simp only [advance, Progress.andThen, seen_step hdue, List.length_append]
        exact congrArg (· + 1) hseen

/-- A traversal is over when it has looked at as many entries as there are. -/
theorem isOver_after (hkeep : v.KeepsShape cwd start) (hproper : (v.tree start).Proper)
    (faults : Faults) (recursive : Bool) (root : Path) :
    (v.after faults cwd recursive root start (v.tree start).entries.length).IsOver := by
  by_contra hmore
  have hseen := length_seen_after hmore
  obtain ⟨hstopped, hdue⟩ := not_or.mp hmore
  have horderly := orderly_after hkeep hproper.once faults recursive root
    (v.tree start).entries.length
  generalize v.after faults cwd recursive root start (v.tree start).entries.length = x at *
  -- what is due would be one entry more than there are
  have hfew := Tree.length_le_of_meets hproper horderly.nodup horderly.meets
  have hpos := List.length_pos_iff.mpr hdue
  rw [List.length_append] at hfew
  omega

/-- A traversal comes to an end, whatever its visitor does: told step by step, without recursion and
without a limit on its depth, it is over at some time, with the result that it has level by level.
If the shape of the tree is left alone, it is over when it has looked at as many entries as the tree
has. At any time before, the directories that were listed, or refused to be, have different places,
and the way to each of them leads from the root through directories that are no links. So it stands
as many levels below the real place of the root as its path has more names. -/
theorem run_lists_once (v : Visitor σ) (faults : Faults) (cwd : Location) (recursive : Bool)
    (root : Path) (start : σ) :
    let t := v.tree start
    let after := v.after faults cwd recursive root start
    (∃ count, (after count).IsOver ∧
      ⟨(after count).state.state, (after count).stopped⟩ =
        v.run faults cwd recursive root start) ∧
      (v.KeepsShape cwd start → t.Proper → (after t.entries.length).IsOver ∧
        ∀ count, let listed := (after count).state.listed
          listed.Nodup ∧ (listed.filterMap (t.realPlace? cwd)).Nodup ∧
          ∀ d ∈ listed, ∃ names, d = root.extend names ∧
            (∀ way, way <+: names → way ≠ [] → t.isDir cwd (root.extend way) = .ok true ∧
              t.isLink cwd (root.extend way) = .ok false) ∧
            ∀ top, t.realPlace? cwd root = some top → t.realPlace? cwd d = some (top ++ names)) := by
  refine ⟨exists_after_eq v faults cwd recursive root start, fun hkeep hproper => ?_⟩
  refine ⟨isOver_after hkeep hproper faults recursive root, fun count => ?_⟩
  have horderly := orderly_after hkeep hproper.once faults recursive root count
  refine ⟨horderly.nodup_listed, ?_, fun d hd => ?_⟩
  · refine List.pairwise_filterMap.mpr (horderly.nodup_listed.imp_of_mem ?_)
    rintro d q hd hq hne place hdplace _ hqplace rfl
    have hreaches := horderly.reaches d hd
    exact hne (hreaches.eq_of_realPlace? (horderly.reaches q hq) hproper hdplace hqplace)
  · have hreaches := horderly.reaches d hd
    obtain ⟨names, rfl, hway⟩ := hreaches.exists_way
    refine ⟨names, rfl, hway, fun top htop => ?_⟩
    obtain ⟨entry, hentry⟩ := Tree.realPlace?_eq_some_iff.mp htop
    exact Tree.realPlace?_eq_some_iff.mpr (hreaches.entryAt?_extend hproper hentry)

def loopedTree : Tree :=
  ⟨[(["d"], .dir 0o755), (["d", "l"], .link "../d"), (["d", "s"], .dir 0o755)]⟩

theorem loopedTree_proper : loopedTree.Proper := ⟨by decide, by decide⟩

/-- The link leads back to the directory that holds it. -/
theorem loopedTree_walk {follow : Bool} {rest : List String}
    (hmore : ¬(rest = [] ∧ (!follow) = true)) :
    loopedTree.walk follow Tree.linkLimit [] ("d" :: "l" :: rest) =
      loopedTree.walk follow 39 ["d"] rest := by
  have hd : Tree.IsName "d" := by decide
  have hl : Tree.IsName "l" := by decide
  have hpieces : Path.pieces "../d" = ["..", "d"] := by decide
  refine (Tree.walk_through hd rfl).trans ((Tree.walk_onward hl rfl hmore).trans ?_)
  rw [hpieces]
  exact Tree.walk_up.trans (Tree.walk_through hd rfl)

theorem loopedTree_root :
    loopedTree.entryAt? [] true ⟨.relative, ["d", "l"]⟩ = .ok (["d"], .dir 0o755) :=
  Tree.entryAt?_eq_ok_iff.mpr ⟨by decide, by decide,
    (loopedTree_walk (by simp)).trans Tree.walk_nil⟩

theorem loopedTree_isLink : loopedTree.isLink [] ⟨.relative, ["d", "l", "l"]⟩ = .ok true := by
  have hentry : loopedTree.entryAt? [] false ⟨.relative, ["d", "l", "l"]⟩ =
      .ok (["d", "l"], .link "../d") :=
    Tree.entryAt?_eq_ok_iff.mpr ⟨by decide, by decide,
      (loopedTree_walk (by simp)).trans (Tree.walk_link_last (by decide) rfl)⟩
  simp [Tree.isLink, Tree.probe, hentry, Except.map, Entry.isLink]

/-- The root is a link to the directory that holds it. What it holds is listed through it once, and
the link that stands there again is not. -/
theorem run_lists_once_of_loopedTree :
    let v := Survey.visitor loopedTree true
    let root : Path := ⟨.relative, ["d", "l"]⟩
    let after := v.after .none [] true root ⟨[], []⟩
    v.KeepsShape [] ⟨[], []⟩ ∧ loopedTree.Proper ∧ loopedTree.realPlace? [] root = some ["d"] ∧
      (after 3).IsOver ∧ ∀ count, let listed := (after count).state.listed
        (listed.filterMap (loopedTree.realPlace? [])).Nodup ∧ root.child "l" ∉ listed := by
  have hkeep : (Survey.visitor loopedTree true).KeepsShape [] ⟨[], []⟩ :=
    ⟨fun _ _ h _ => h, fun _ _ _ _ _ => rfl⟩
  have hroot := Tree.realPlace?_eq_some_iff.mpr ⟨_, loopedTree_root⟩
  obtain ⟨hover, hlisted⟩ :=
    (run_lists_once (Survey.visitor loopedTree true) .none [] true ⟨.relative, ["d", "l"]⟩
      ⟨[], []⟩).2 hkeep loopedTree_proper
  refine ⟨hkeep, loopedTree_proper, hroot, hover, fun count => ?_⟩
  obtain ⟨-, honce, hway⟩ := hlisted count
  refine ⟨honce, fun hinner => ?_⟩
  obtain ⟨names, heq, hnoLink, -⟩ := hway _ hinner
  obtain rfl : names = ["l"] := by simpa [Path.child, Path.extend] using heq.symm
  obtain ⟨-, hlink⟩ := hnoLink ["l"] List.prefix_rfl (by simp)
  cases loopedTree_isLink.symm.trans hlink

end Visitor
end BatchFormat
