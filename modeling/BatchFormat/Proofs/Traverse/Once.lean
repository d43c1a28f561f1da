import Mathlib.Data.List.Nodup
import BatchFormat.Proofs.Traverse.Reach

/-!
# Nothing is met twice

Each part of a traversal has paths of its own: what is met below one entry of a directory lies
below that entry, and the entries of a directory have different names. So no candidate is met
twice, and no directory is missed twice.
-/
namespace BatchFormat

namespace Path

def Within (p q : Path) : Prop := ∃ names, q = { p with parts := p.parts ++ names }

def Below (p q : Path) : Prop := ∃ name, (p.child name).Within q

variable {p q : Path} {name other : String}

theorem Within.refl (p : Path) : p.Within p := ⟨[], by simp⟩

theorem Below.within (h : p.Below q) : p.Within q := by
  obtain ⟨name, names, rfl⟩ := h
  exact ⟨name :: names, by simp [child]⟩

theorem Within.below_child (h : (p.child name).Within q) : p.Below q := ⟨name, h⟩

theorem Within.trans {r : Path} (h : p.Within q) (h' : q.Within r) : p.Within r := by
  obtain ⟨names, rfl⟩ := h
  obtain ⟨more, rfl⟩ := h'
  exact ⟨names ++ more, by simp⟩

theorem Below.ne (h : p.Below q) : q ≠ p := by
  obtain ⟨name, names, rfl⟩ := h
  intro heq
  have hlength := congrArg (fun path => path.parts.length) heq
  simp [child] at hlength

/-- What lies within an entry of a directory tells which entry it is. -/
theorem Within.child_inj (h : (p.child name).Within q) (h' : (p.child other).Within q) :
    name = other := by
  obtain ⟨names, rfl⟩ := h
  obtain ⟨names', heq⟩ := h'
  have hparts := congrArg Path.parts heq
  simp only [child, List.append_assoc, List.singleton_append, List.append_cancel_left_eq,
    List.cons.injEq] at hparts
  exact hparts.1

end Path

namespace Tree

variable {t : Tree} {faults : Faults} {cwd place : Location} {p q : Path} {names : List String}

/-- The names in a directory are different if no place is kept twice. -/
theorem nodup_names (h : t.places.Nodup) (place : Location) : (t.names place).Nodup := by
  have hname : ∀ x y name, nameIn? place x = some name → nameIn? place y = some name → x = y := by
    have hwhole : ∀ x name, nameIn? place x = some name → x = place ++ [name] := by
      intro x name hx
      unfold nameIn? at hx
      split at hx
      · next last hlast =>
        split at hx
        · next hparent =>
          cases hx
          obtain ⟨front, rfl⟩ := List.getLast?_eq_some_iff.mp hlast
          simpa using hparent
        · cases hx
      · cases hx
    intro x y name hx hy
    rw [hwhole x name hx, hwhole y name hy]
  have hfound : (t.entries.filterMap fun e => nameIn? place e.1) =
      t.places.filterMap (nameIn? place) := by
    rw [places, List.filterMap_map]
    rfl
  refine (List.mergeSort_perm _ _).nodup_iff.mpr ?_
  rw [hfound]
  exact h.filterMap hname

theorem nodup_of_list (h : t.places.Nodup) (hlist : t.list faults cwd p = .ok names) :
    names.Nodup := by
  unfold list at hlist
  split at hlist
  · cases hlist
  · split at hlist
    · cases hlist
    · cases hlist
      exact nodup_names h _
    · cases hlist

end Tree

namespace Event

/-- What an event is known by. A directory that is met may be missed afterwards, so its path alone
would not tell the two apart. -/
def heading : Event → Path × Bool
  | met ⟨p, .directory⟩ => (p, false)
  | met ⟨p, .file⟩ => (p, true)
  | missed p _ => (p, true)

end Event

/-- Whatever the visitor does, no place of its tree is kept twice. -/
structure Visitor.KeepsNodup {σ : Type} (v : Visitor σ) : Prop where
  visit : ∀ c s, (v.tree s).places.Nodup → (v.tree (v.visit c s)).places.Nodup
  unlisted : ∀ pass ∈ v.unlisted?, ∀ p e s, (v.tree s).places.Nodup →
    (v.tree (pass p e s)).places.Nodup

namespace Event

/-- What a part of a traversal adds to the notes: events of its own, no two with one heading. -/
def Adds {σ : Type} (v : Visitor σ) (before : List Event) (after : Progress (σ × List Event))
    (scope : Path × Bool → Prop) : Prop :=
  (v.tree after.state.1).places.Nodup ∧
    ∃ new, after.state.2 = before ++ new ∧ (new.map heading).Nodup ∧
      ∀ event ∈ new, scope event.heading

variable {σ : Type} {v : Visitor σ} {s : σ} {faults : Faults} {cwd : Location} {recursive : Bool}
  {before : List Event} {after : Progress (σ × List Event)} {scope scope' : Path × Bool → Prop}
  {p q : Path} {stopped : Option SystemError}

theorem Adds.nothing (hplaces : (v.tree s).places.Nodup) (before : List Event)
    (stopped : Option SystemError) (scope : Path × Bool → Prop) :
    Adds v before ⟨(s, before), stopped⟩ scope :=
  ⟨hplaces, [], by simp, List.nodup_nil, fun _ h => nomatch h⟩

theorem Adds.one (hplaces : (v.tree s).places.Nodup) (event : Event) (before : List Event)
    (stopped : Option SystemError) :
    Adds v before ⟨(s, before ++ [event]), stopped⟩ fun k => k = event.heading :=
  ⟨hplaces, [event], rfl, List.nodup_singleton _, fun _ hmem => by
    rw [List.mem_singleton.mp hmem]⟩

theorem Adds.mono (h : Adds v before after scope) (hscope : ∀ k, scope k → scope' k) :
    Adds v before after scope' := by
  obtain ⟨hplaces, new, hstate, hnodup, hall⟩ := h
  exact ⟨hplaces, new, hstate, hnodup, fun event hevent => hscope _ (hall event hevent)⟩

/-- Parts that have nothing in common add up. -/
theorem Adds.andThen {f : σ × List Event → Progress (σ × List Event)}
    (h : Adds v before after scope)
    (hnext : ∀ s events, (v.tree s).places.Nodup → Adds v events (f (s, events)) scope')
    (hapart : ∀ k, scope k → ¬scope' k) :
    Adds v before (after.andThen f) fun k => scope k ∨ scope' k := by
  obtain ⟨hplaces, new, hstate, hnodup, hall⟩ := h
  unfold Progress.andThen
  split
  · exact ⟨hplaces, new, hstate, hnodup, fun event hevent => Or.inl (hall event hevent)⟩
  · obtain ⟨hplaces', more, hmore, hnodup', hall'⟩ := hnext after.state.1 after.state.2 hplaces
    refine ⟨hplaces', new ++ more, by rw [hmore, hstate, List.append_assoc], ?_, ?_⟩
    · rw [List.map_append]
      refine List.nodup_append.mpr ⟨hnodup, hnodup', ?_⟩
      rintro _ hnew _ hold rfl
      obtain ⟨event, hevent, rfl⟩ := List.mem_map.mp hnew
      obtain ⟨other, hother, heq⟩ := List.mem_map.mp hold
      exact hapart event.heading (hall event hevent) (heq ▸ hall' other hother)
    · intro event hevent
      rcases List.mem_append.mp hevent with hnew | hold
      · exact Or.inl (hall event hnew)
      · exact Or.inr (hall' event hold)

/-- The turns of several entries add what each of them adds, and no two of them the same. -/
theorem Adds.foldl {f : String → σ × List Event → Progress (σ × List Event)}
    (scopeOf : String → Path × Bool → Prop) (names : List String) (hnames : names.Nodup)
    (hnext : ∀ name s events, (v.tree s).places.Nodup →
      Adds v events (f name (s, events)) (scopeOf name))
    (hapart : ∀ name other k, scopeOf name k → scopeOf other k → name = other)
    (hbefore : ∀ name ∈ names, ∀ k, scope k → ¬scopeOf name k)
    (h : Adds v before after scope) :
    Adds v before (names.foldl (fun progress name => progress.andThen (f name)) after)
      fun k => scope k ∨ ∃ name ∈ names, scopeOf name k := by
  induction names generalizing after scope with
  | nil => exact h.mono fun k hk => Or.inl hk
  | cons name names ih =>
    obtain ⟨hfresh, hrest⟩ := List.nodup_cons.mp hnames
    have hstep := h.andThen (hnext name) (hbefore name List.mem_cons_self)
    refine (ih hrest ?_ hstep).mono ?_
    · rintro other hother k (hold | hnew) hlater
      · exact hbefore other (List.mem_cons_of_mem _ hother) k hold hlater
      · exact hfresh (hapart name other k hnew hlater ▸ hother)
    · intro k hk
      simpa [or_assoc] using hk

/-- The headings of a directory: those of what is met below it, and that it cannot be listed. -/
def About (p : Path) (k : Path × Bool) : Prop := p.Below k.1 ∨ k = (p, true)

theorem Adds.visit (h : v.KeepsNodup) (hplaces : (v.tree s).places.Nodup) (c : Candidate)
    (before : List Event) (stopped : Option SystemError) :
    Adds v before ⟨v.traced.visit c (s, before), stopped⟩ fun k => k = (met c).heading :=
  .one (h.visit c s hplaces) (met c) before stopped

/-- What the turn of an entry adds concerns that entry, and what lies below it. -/
theorem Adds.entry (h : v.KeepsNodup) (hplaces : (v.tree s).places.Nodup)
    {enter : Path → σ × List Event → Progress (σ × List Event)}
    (henter : ∀ s events, (v.tree s).places.Nodup → Adds v events (enter q (s, events)) (About q)) :
    Adds v before (v.traced.entry cwd recursive enter q (s, before)) fun k => q.Within k.1 := by
  have hmet : ∀ kind k, k = (met ⟨q, kind⟩).heading → q.Within k.1 := by
    rintro (_ | _) _ rfl <;> exact .refl q
  have hdirectory : ∀ stopped, Adds v before ⟨v.traced.visit ⟨q, .directory⟩ (s, before), stopped⟩
      fun k => q.Within k.1 := fun stopped =>
    (Adds.visit h hplaces _ before stopped).mono (hmet .directory)
  unfold Visitor.entry
  split
  · exact .nothing hplaces _ _ _
  · exact .nothing hplaces _ _ _
  · exact (Adds.visit h hplaces ⟨q, .file⟩ before none).mono (hmet .file)
  · simp only
    split
    · split
      · exact hdirectory _
      · exact hdirectory _
      · have hboth := (Adds.visit h hplaces ⟨q, .directory⟩ before none).andThen henter ?_
        · refine hboth.mono ?_
          rintro k (hself | hbelow | rfl)
          · exact hmet .directory k hself
          · exact hbelow.within
          · exact .refl q
        · rintro k rfl (hbelow | hmissed)
          · exact hbelow.ne rfl
          · cases hmissed
    · exact hdirectory _

/-- What the exploration of a directory adds concerns what lies below it. -/
theorem Adds.below (h : v.KeepsNodup) (depth : Nat) (p : Path) (hplaces : (v.tree s).places.Nodup)
    (before : List Event) :
    Adds v before (v.traced.below faults cwd recursive depth p (s, before)) (About p) := by
  induction depth generalizing p s before with
  | zero => exact .nothing hplaces _ _ _
  | succ depth ih =>
    unfold Visitor.below
    split
    · next e _ =>
      unfold Visitor.skip Visitor.traced
      cases hpass : v.unlisted? with
      | none => exact .nothing hplaces _ _ _
      | some pass =>
        simp only [Option.map_some]
        split
        · refine (Adds.one (h.unlisted pass hpass p e s hplaces) (missed p e) before none).mono ?_
          rintro _ rfl
          exact Or.inr rfl
        · exact .nothing hplaces _ _ _
    · next names hlist =>
      have hnothing : Adds v before ⟨(s, before), none⟩ fun _ => False :=
        .nothing hplaces before none _
      have hfold := hnothing.foldl
        (f := fun name => v.traced.entry cwd recursive
          (v.traced.below faults cwd recursive depth) (p.child name))
        (fun name k => (p.child name).Within k.1) names (Tree.nodup_of_list hplaces hlist)
        (fun name s events hplaces =>
          .entry h hplaces fun s events hplaces => ih (p.child name) hplaces events)
        (fun name other k h h' => h.child_inj h') (fun _ _ _ h => h.elim)
      refine hfold.mono ?_
      rintro k (hfalse | ⟨name, -, hname⟩)
      · exact hfalse.elim
      · exact Or.inl hname.below_child

end Event

/-- Whatever a visitor changes on its way, no two events of its traversal have one heading. -/
theorem Visitor.nodup_headings {σ : Type} {v : Visitor σ} {s : σ} (h : v.KeepsNodup)
    (hplaces : (v.tree s).places.Nodup) (faults : Faults) (cwd : Location) (recursive : Bool)
    (root : Path) :
    ((v.traced.run faults cwd recursive root (s, [])).state.2.map Event.heading).Nodup := by
  have hadds : Event.Adds v [] (v.traced.run faults cwd recursive root (s, [])) fun _ => True := by
    unfold run
    split
    · exact .nothing hplaces _ _ _
    · exact (Event.Adds.visit h hplaces _ _ _).mono fun _ _ => trivial
    · exact (Event.Adds.below h _ root hplaces []).mono fun _ _ => trivial
  obtain ⟨-, new, hnotes, hnodup, -⟩ := hadds
  rw [hnotes]
  exact hnodup

namespace Tree

/-- Nothing happens twice on a traversal of a tree that does not change. -/
theorem nodup_headings {t : Tree} (hplaces : t.places.Nodup) (faults : Faults) (cwd : Location)
    (recursive : Bool) (root : Path) :
    ((t.events faults cwd root recursive true).state.map Event.heading).Nodup := by
  have hkeep : (Event.recorder t true).KeepsNodup := ⟨fun _ _ h => h, fun _ _ _ _ _ h => h⟩
  have hnotes : ((Event.recorder t true).traced.run faults cwd recursive root ([], [])).state.1 =
      ((Event.recorder t true).traced.run faults cwd recursive root ([], [])).state.2 := by
    refine Visitor.run_invariant (I := fun noted : List Event × List Event => noted.1 = noted.2)
      ?_ ?_ root rfl
    · intro c noted heq
      exact congrArg (· ++ [Event.met c]) heq
    · intro pass hpass p e noted heq
      cases hpass
      exact congrArg (· ++ [Event.missed p e]) heq
  have hsame := ((Event.recorder t true).traced_run_fst faults cwd recursive root [] []).1
  rw [events, ← hsame, hnotes]
  exact Visitor.nodup_headings hkeep hplaces faults cwd recursive root

end Tree
end BatchFormat
