import BatchFormat.Proofs.Traverse.Once

/-!
# Directories that cannot be listed

A directory that fails to be listed hides what lies below it, and nothing else: a traversal with
failing listings meets what one without them meets, but for what lies below such directories.
-/
namespace BatchFormat

namespace Path

variable {p q : Path} {name : String}

/-- What lies within something and holds it is the same. -/
theorem Within.antisymm (h : p.Within q) (h' : q.Within p) : p = q := by
  obtain ⟨names, rfl⟩ := h
  obtain ⟨names', heq⟩ := h'
  have hparts := congrArg (fun path => path.parts.length) heq
  have hnil : names = [] := by
    simp only [List.length_append] at hparts
    exact List.eq_nil_of_length_eq_zero (by omega)
  simp [hnil]

theorem within_child (p : Path) (name : String) : p.Within (p.child name) := ⟨[name], rfl⟩

/-- What holds an entry of a directory is the entry, or holds the directory. -/
theorem Within.of_child (h : p.Within (q.child name)) : p = q.child name ∨ p.Within q := by
  obtain ⟨names, heq⟩ := h
  rcases List.eq_nil_or_concat names with rfl | ⟨front, last, rfl⟩
  · left
    rw [heq]
    simp
  · right
    refine ⟨front, ?_⟩
    cases q
    simp only [child, Path.mk.injEq] at heq ⊢
    refine ⟨heq.1, ?_⟩
    rw [List.concat_eq_append, ← List.append_assoc] at heq
    exact (List.append_inj' heq.2 rfl).1

theorem Below.within_of_child (h : p.Below (q.child name)) : p.Within q := by
  rcases h.within.of_child with heq | hwithin
  · exact (h.ne heq.symm).elim
  · exact hwithin

theorem Within.below_of_child (h : p.Within q) (name : String) : p.Below (q.child name) := by
  obtain ⟨names, rfl⟩ := h
  cases names with
  | nil => exact ⟨name, by simpa using Within.refl _⟩
  | cons first rest => exact ⟨first, rest ++ [name], by simp [child]⟩

end Path

namespace Tree

variable {t : Tree} {faults : Faults} {cwd : Location} {recursive : Bool} {root p q d : Path}
  {names : List String} {e : SystemError}

/-! ## A tree without faults -/

/-- What can be listed under faults can be listed without them. -/
theorem list_of_faults (h : t.list faults cwd p = .ok names) : t.list .none cwd p = .ok names := by
  unfold list at h ⊢
  split at h
  · cases h
  · exact h

theorem Lists.of_faults (h : t.Lists faults cwd p q) : t.Lists .none cwd p q := by
  obtain ⟨names, hlist, hname⟩ := h
  exact ⟨names, list_of_faults hlist, hname⟩

theorem Enters.of_faults (h : t.Enters faults cwd recursive p q) :
    t.Enters .none cwd recursive p q := ⟨h.lists.of_faults, h.deep, h.isDir, h.isLink⟩

theorem Reaches.of_faults (h : t.Reaches faults cwd recursive p q) :
    t.Reaches .none cwd recursive p q :=
  Relation.ReflTransGen.mono (fun _ _ => Enters.of_faults) _ _ h

theorem Meets.of_faults (h : t.Meets faults cwd recursive p q) :
    t.Meets .none cwd recursive p q := by
  obtain ⟨d, hreaches, hlists⟩ := h
  exact ⟨d, hreaches.of_faults, hlists.of_faults⟩

/-! ## What lies below a directory that cannot be listed -/

theorem Reaches.within (h : t.Reaches faults cwd recursive root d) : root.Within d := by
  induction h with
  | refl => exact .refl root
  | tail _ henters ih =>
    obtain ⟨_, _, name, _, rfl⟩ := henters.lists
    exact ih.trans (Path.within_child _ _)

/-- The way to a directory leads through nothing that cannot be listed. -/
theorem Reaches.eq_of_unlisted (h : t.Reaches faults cwd recursive root d)
    (hroot : root.Within p) (hwithin : p.Within d) (hlist : t.list faults cwd p = .error e) :
    p = d := by
  induction h with
  | refl => exact hwithin.antisymm hroot
  | tail _ henters ih =>
    obtain ⟨names, hnames, name, _, rfl⟩ := henters.lists
    rcases hwithin.of_child with heq | habove
    · exact heq
    · -- the directory before it could be listed
      rw [ih habove, hnames] at hlist
      cases hlist

/-- What lies below a directory that cannot be listed is not met. -/
theorem not_meets_of_unlisted (hreaches : t.Reaches faults cwd recursive root d)
    (hlist : t.list faults cwd d = .error e) (hbelow : d.Below q) :
    ¬t.Meets faults cwd recursive root q := by
  rintro ⟨d', hreaches', names, hnames, name, -, rfl⟩
  have heq := hreaches'.eq_of_unlisted hreaches.within hbelow.within_of_child hlist
  rw [heq, hnames] at hlist
  cases hlist

/-- What is reached without faults is reached with them too, unless it lies below a directory that
cannot be listed. -/
theorem Reaches.of_none (h : t.Reaches .none cwd recursive root q) :
    t.Reaches faults cwd recursive root q ∨
      ∃ d e, t.Reaches faults cwd recursive root d ∧ t.list faults cwd d = .error e ∧
        d.Below q := by
  induction h with
  | refl => exact Or.inl .refl
  | @tail b c _ henters ih =>
    obtain ⟨names, hnames, name, hname, rfl⟩ := henters.lists
    rcases ih with hreaches | ⟨d, e, hreaches, hlist, hbelow⟩
    · cases hlist : t.list faults cwd b with
      | error e => exact Or.inr ⟨b, e, hreaches, hlist, (Path.Within.refl b).below_of_child name⟩
      | ok found =>
        obtain rfl := Except.ok.inj ((list_of_faults hlist).symm.trans hnames)
        refine Or.inl (hreaches.tail ⟨⟨found, hlist, name, hname, rfl⟩, ?_, ?_, ?_⟩)
        · exact henters.deep
        · exact henters.isDir
        · exact henters.isLink
    · exact Or.inr ⟨d, e, hreaches, hlist, hbelow.within.below_of_child name⟩

/-- What would be met without refused listings is met, or lies below a directory that is refused. -/
theorem Meets.of_none (h : t.Meets .none cwd recursive root q) :
    t.Meets faults cwd recursive root q ∨
      ∃ d e, t.Reaches faults cwd recursive root d ∧ t.list faults cwd d = .error e ∧
        d.Below q := by
  obtain ⟨b, hb, names, hnames, name, hname, rfl⟩ := h
  rcases hb.of_none with hreaches | ⟨d, e, hreaches, hlist, hbelow⟩
  · cases hlist : t.list faults cwd b with
    | error e => exact Or.inr ⟨b, e, hreaches, hlist, (Path.Within.refl b).below_of_child name⟩
    | ok found =>
      obtain rfl := Except.ok.inj ((list_of_faults hlist).symm.trans hnames)
      exact Or.inl ⟨b, hreaches, found, hlist, name, hname, rfl⟩
  · exact Or.inr ⟨d, e, hreaches, hlist, hbelow.within.below_of_child name⟩

/-! ## The events of a traversal -/

/-- A directory that a traversal comes to and that cannot be listed. -/
structure Unlisted (t : Tree) (faults : Faults) (cwd : Location) (recursive : Bool)
    (root d : Path) (e : SystemError) : Prop where
  deep : t.isFile cwd root = .ok false
  reaches : t.Reaches faults cwd recursive root d
  list : t.list faults cwd d = .error e

/-- If the root cannot be listed nothing is met, and the handler is called for the root alone. -/
theorem events_of_unlisted (hfile : t.isFile cwd root = .ok false)
    (hlist : t.list faults cwd root = .error e) :
    t.events faults cwd root recursive true =
      if e.isRefusal then ⟨[.missed root e], none⟩ else ⟨[], some e⟩ := by
  simp [events, Visitor.run, Visitor.depthLimit, Visitor.below, Visitor.skip, Event.recorder, hfile,
    hlist]

/-- Where nothing is there is nothing to meet. -/
theorem events_of_not_exists (h : t.pathExists cwd root ≠ .ok true) :
    ∀ event ∈ (t.events faults cwd root recursive true).state, ∃ e, event = .missed root e := by
  have hlist : ∃ e, t.list faults cwd root = .error e := by
    unfold list
    split
    · exact ⟨_, rfl⟩
    · cases hentry : t.entryAt? cwd true root with
      | error e => exact ⟨e, rfl⟩
      | ok found => exact (h (by simp [pathExists, test, probe, hentry, Except.map])).elim
  obtain ⟨e, he⟩ := hlist
  cases hfile : t.isFile cwd root with
  | error e' => simp [events, Visitor.run, Event.recorder, hfile]
  | ok isFile =>
    cases isFile with
    | true => exact (h (pathExists_of_isFile hfile)).elim
    | false =>
      rw [events_of_unlisted hfile he]
      split <;> simp

theorem missed_mem_events (hroot : t.pathExists cwd root = .ok true)
    (hnone : (t.events faults cwd root recursive true).stopped = none)
    (h : t.Unlisted faults cwd recursive root d e) :
    .missed d e ∈ (t.events faults cwd root recursive true).state :=
  (explored_events h.deep hroot faults recursive).missed hnone d h.reaches e h.list

/-- A traversal that is not stopped notes each entry it comes to, with its kind. -/
theorem met_mem_events_iff (hroot : t.pathExists cwd root = .ok true)
    (hnone : (t.events faults cwd root recursive true).stopped = none) {c : Candidate} :
    .met c ∈ (t.events faults cwd root recursive true).state ↔
      t.ComesTo faults cwd recursive root c.path ∧ t.kind? cwd c.path = .ok (some c.kind) := by
  refine ⟨fun hmet => ⟨?_, kind?_of_met hroot hmet⟩, fun ⟨hcomes, hkind⟩ =>
    met_mem_events hroot hnone hcomes hkind⟩
  obtain ⟨file, hfile⟩ : ∃ b, t.isFile cwd root = .ok b := test_ok hroot _
  cases file with
  | true =>
    rw [events_of_file hfile, List.mem_singleton] at hmet
    cases hmet
    exact Or.inl ⟨hfile, rfl⟩
  | false =>
    have hexplored := explored_events hfile hroot faults recursive
    exact Or.inr ⟨hfile, ((hexplored.sound _ hmet).resolve_left (by simp)).1⟩

/-- What the traversal comes to is what it would come to if all could be listed, less what lies
below a directory that is refused. -/
theorem comesTo_iff_of_none : t.ComesTo faults cwd recursive root q ↔
    t.ComesTo .none cwd recursive root q ∧
      ¬∃ d e, t.Unlisted faults cwd recursive root d e ∧ d.Below q := by
  constructor
  · rintro (⟨hfile, rfl⟩ | ⟨hfile, hmeets⟩)
    · refine ⟨Or.inl ⟨hfile, rfl⟩, ?_⟩
      rintro ⟨d, e, hunlisted, -⟩
      have hdeep := hunlisted.deep
      rw [hfile] at hdeep
      cases hdeep
    · refine ⟨Or.inr ⟨hfile, hmeets.of_faults⟩, ?_⟩
      rintro ⟨d, e, hunlisted, hbelow⟩
      exact not_meets_of_unlisted hunlisted.reaches hunlisted.list hbelow hmeets
  · rintro ⟨⟨hfile, rfl⟩ | ⟨hfile, hmeets⟩, hclear⟩
    · exact Or.inl ⟨hfile, rfl⟩
    · rcases hmeets.of_none with hmet | ⟨d, e, hreaches, hlist, hbelow⟩
      · exact Or.inr ⟨hfile, hmet⟩
      · exact (hclear ⟨d, e, ⟨hfile, hreaches, hlist⟩, hbelow⟩).elim

/-- What a traversal under faults fails to meet lies below a directory that cannot be listed. -/
theorem met_mem_events_iff_of_none (hroot : t.pathExists cwd root = .ok true)
    (hnone : (t.events faults cwd root recursive true).stopped = none)
    (hcalm : (t.events .none cwd root recursive true).stopped = none) {c : Candidate} :
    .met c ∈ (t.events faults cwd root recursive true).state ↔
      .met c ∈ (t.events .none cwd root recursive true).state ∧
        ¬∃ d e, t.Unlisted faults cwd recursive root d e ∧ d.Below c.path := by
  rw [met_mem_events_iff hroot hnone, met_mem_events_iff hroot hcalm, comesTo_iff_of_none]
  exact and_right_comm

end Tree
end BatchFormat
