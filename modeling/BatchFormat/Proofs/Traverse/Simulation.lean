import BatchFormat.Proofs.Traverse.Questions

/-!
# Traversals side by side

Two visitors whose trees keep the same shape, and whose states keep a relation whatever they are
made to do, go through a traversal in step. With a visitor that only takes notes in a tree that
does not change, this says what any traversal does: it replays what there is to meet in the tree it
began with.
-/
namespace BatchFormat

variable {σ σ' : Type} {v : Visitor σ} {v' : Visitor σ'} {R : σ → σ' → Prop} {cwd : Location}
  {faults : Faults} {recursive : Bool} {s : σ} {s' : σ'} {p : Path} {e : SystemError}

/-! ## Two visitors -/

/-- Whatever happens to the states of two visitors, a relation between them stays. A candidate is
only visited where the tree says that it is one. -/
structure InStep (v : Visitor σ) (v' : Visitor σ') (cwd : Location) (R : σ → σ' → Prop) : Prop where
  shape : ∀ {s s'}, R s s' → (v.tree s).shape = (v'.tree s').shape
  visit : ∀ {s s' c}, R s s' → (v'.tree s').kind? cwd c.path = .ok (some c.kind) →
    R (v.visit c s) (v'.visit c s')
  unlisted : Option.Rel (fun pass pass' => ∀ p e s s', R s s' → R (pass p e s) (pass' p e s'))
    v.unlisted? v'.unlisted?

/-- Two traversals have come equally far. -/
def Progress.Abreast (R : σ → σ' → Prop) (a : Progress σ) (b : Progress σ') : Prop :=
  R a.state b.state ∧ a.stopped = b.stopped

theorem Progress.Abreast.andThen {a : Progress σ} {b : Progress σ'} {f : σ → Progress σ}
    {g : σ' → Progress σ'} (h : Progress.Abreast R a b)
    (hnext : ∀ s s', R s s' → Progress.Abreast R (f s) (g s')) :
    Progress.Abreast R (a.andThen f) (b.andThen g) := by
  unfold Progress.andThen
  rw [h.2]
  split
  · exact h
  · exact hnext _ _ h.1

theorem Progress.Abreast.foldl {f : String → σ → Progress σ} {g : String → σ' → Progress σ'}
    (hnext : ∀ name s s', R s s' → Progress.Abreast R (f name s) (g name s')) (names : List String)
    {a : Progress σ} {b : Progress σ'} (h : Progress.Abreast R a b) :
    Progress.Abreast R (names.foldl (fun progress name => progress.andThen (f name)) a)
      (names.foldl (fun progress name => progress.andThen (g name)) b) := by
  induction names generalizing a b with
  | nil => exact h
  | cons name names ih => exact ih (h.andThen (hnext name))

namespace InStep

/-- A directory that cannot be listed takes both traversals the same way. -/
theorem skip (h : InStep v v' cwd R) (hR : R s s') :
    Progress.Abreast R (v.skip p e s) (v'.skip p e s') := by
  unfold Visitor.skip
  cases hv : v.unlisted? with
  | none =>
    cases hv' : v'.unlisted? with
    | none => exact ⟨hR, rfl⟩
    | some pass' =>
      have hrel := h.unlisted
      rw [hv, hv'] at hrel
      cases hrel
  | some pass =>
    have hrel := h.unlisted
    rw [hv] at hrel
    cases hv' : v'.unlisted? with
    | none =>
      rw [hv'] at hrel
      cases hrel
    | some pass' =>
      rw [hv'] at hrel
      cases hrel with
      | some hpass =>
        simp only
        split
        · exact ⟨hpass p e s s' hR, rfl⟩
        · exact ⟨hR, rfl⟩

/-- An entry takes both traversals the same way, if what lies below it does. -/
theorem entry (h : InStep v v' cwd R) (hR : R s s') {enter : Path → σ → Progress σ}
    {enter' : Path → σ' → Progress σ'}
    (henter : ∀ p s s', R s s' → Progress.Abreast R (enter p s) (enter' p s')) :
    Progress.Abreast R (v.entry cwd recursive enter p s) (v'.entry cwd recursive enter' p s') := by
  unfold Visitor.entry
  rw [Tree.kind?_of_shape (h.shape hR)]
  cases hkind : (v'.tree s').kind? cwd p with
  | error e => exact ⟨hR, rfl⟩
  | ok kind =>
    cases kind with
    | none => exact ⟨hR, rfl⟩
    | some kind =>
      cases kind with
      | file => exact ⟨h.visit hR hkind, rfl⟩
      | directory =>
        have hvisit : R (v.visit ⟨p, .directory⟩ s) (v'.visit ⟨p, .directory⟩ s') :=
          h.visit hR hkind
        simp only
        split
        · rw [Tree.isLink_of_shape (h.shape hvisit)]
          split
          · exact ⟨hvisit, rfl⟩
          · exact ⟨hvisit, rfl⟩
          · exact henter p _ _ hvisit
        · exact ⟨hvisit, rfl⟩

/-- What lies below a directory takes both traversals the same way. -/
theorem below (h : InStep v v' cwd R) (depth : Nat) (hR : R s s') :
    Progress.Abreast R (v.below faults cwd recursive depth p s)
      (v'.below faults cwd recursive depth p s') := by
  induction depth generalizing p s s' with
  | zero => exact ⟨hR, rfl⟩
  | succ depth ih =>
    unfold Visitor.below
    rw [Tree.list_of_shape (h.shape hR)]
    split
    · exact h.skip hR
    · next names _ =>
      exact Progress.Abreast.foldl
        (f := fun name => v.entry cwd recursive (v.below faults cwd recursive depth) (p.child name))
        (g := fun name =>
          v'.entry cwd recursive (v'.below faults cwd recursive depth) (p.child name))
        (fun name s s' hR => h.entry hR fun q s s' hR => ih hR) names ⟨hR, rfl⟩

/-- Visitors in step go through a whole traversal together, and are stopped by the same error. -/
theorem run (h : InStep v v' cwd R) (root : Path) (hR : R s s') :
    Progress.Abreast R (v.run faults cwd recursive root s)
      (v'.run faults cwd recursive root s') := by
  unfold Visitor.run
  rw [Tree.isFile_of_shape (h.shape hR)]
  cases hfile : (v'.tree s').isFile cwd root with
  | error e => exact ⟨hR, rfl⟩
  | ok file =>
    cases file with
    | true => exact ⟨h.visit hR (Tree.kind?_eq_file_iff.mpr hfile), rfl⟩
    | false => exact h.below _ hR

end InStep

/-- What no visit changes holds at the end if it held at the beginning. -/
theorem Visitor.run_invariant {I : σ → Prop} (hvisit : ∀ c s, I s → I (v.visit c s))
    (hunlisted : ∀ pass ∈ v.unlisted?, ∀ p e s, I s → I (pass p e s)) (root : Path) (h : I s) :
    I (v.run faults cwd recursive root s).state := by
  have hstep : InStep v v cwd fun s s' => s = s' ∧ I s := by
    refine ⟨?_, ?_, ?_⟩
    · rintro s s' ⟨rfl, -⟩
      rfl
    · rintro s s' c ⟨rfl, hs⟩ -
      exact ⟨rfl, hvisit c s hs⟩
    · cases hv : v.unlisted? with
      | none => exact .none
      | some pass =>
        refine .some ?_
        rintro p e s s' ⟨rfl, hs⟩
        exact ⟨rfl, hunlisted pass hv p e s hs⟩
  exact (hstep.run root ⟨rfl, h⟩).1.2

/-! ## What there is to meet -/

/-- What happens on a traversal: a candidate is met, or a directory cannot be listed. -/
inductive Event where
  | met (c : Candidate)
  | missed (p : Path) (e : SystemError)
  deriving DecidableEq, Repr

namespace Event

/-- Takes notes in a tree that does not change. -/
def recorder (t : Tree) (handled : Bool) : Visitor (List Event) where
  tree := fun _ => t
  visit := fun c events => events ++ [met c]
  unlisted? := if handled then some fun p e events => events ++ [missed p e] else none

def candidate? : Event → Option Candidate
  | met c => some c
  | missed .. => none

def missed? : Event → Option (Path × SystemError)
  | met _ => none
  | missed p e => some (p, e)

end Event

/-- All that happens on a traversal of a tree that does not change. -/
def Tree.events (t : Tree) (faults : Faults) (cwd : Location) (root : Path)
    (recursive handled : Bool) : Progress (List Event) :=
  (Event.recorder t handled).run faults cwd recursive root []

/-- Trees of the same shape hold the same events. -/
theorem Tree.events_of_shape {t u : Tree} {handled : Bool} (h : t.shape = u.shape) (root : Path) :
    t.events faults cwd root recursive handled = u.events faults cwd root recursive handled := by
  have hstep : InStep (Event.recorder t handled) (Event.recorder u handled) cwd Eq := by
    refine ⟨fun _ => h, ?_, ?_⟩
    · rintro events _ c rfl -
      rfl
    · unfold Event.recorder
      cases handled with
      | false => exact .none
      | true => exact .some fun p e events _ heq => heq ▸ rfl
  obtain ⟨hstate, hstopped⟩ : Progress.Abreast Eq
      ((Event.recorder t handled).run faults cwd recursive root [])
      ((Event.recorder u handled).run faults cwd recursive root []) := hstep.run root rfl
  unfold Tree.events
  cases ht : (Event.recorder t handled).run faults cwd recursive root []
  cases hu : (Event.recorder u handled).run faults cwd recursive root []
  simp_all

namespace Visitor

def act (v : Visitor σ) (s : σ) : Event → σ
  | .met c => v.visit c s
  | .missed p e =>
    match v.unlisted? with
    | some pass => pass p e s
    | none => s

/-- A visitor that remembers what happened to it. -/
def traced (v : Visitor σ) : Visitor (σ × List Event) where
  tree := fun s => v.tree s.1
  visit := fun c s => (v.visit c s.1, s.2 ++ [.met c])
  unlisted? := v.unlisted?.map fun pass p e s => (pass p e s.1, s.2 ++ [.missed p e])

/-- Nothing that the visitor does changes the shape of the tree it began with. -/
structure KeepsShape (v : Visitor σ) (cwd : Location) (start : σ) : Prop where
  visit : ∀ c s, (v.tree s).shape = (v.tree start).shape →
    (v.tree start).kind? cwd c.path = .ok (some c.kind) →
    (v.tree (v.visit c s)).shape = (v.tree s).shape
  unlisted : ∀ pass ∈ v.unlisted?, ∀ p e s, (v.tree (pass p e s)).shape = (v.tree s).shape

/-- The notes of a visitor do not change what it does. -/
theorem traced_run_fst (v : Visitor σ) (faults : Faults) (cwd : Location) (recursive : Bool)
    (root : Path) (s : σ) (events : List Event) :
    (v.traced.run faults cwd recursive root (s, events)).state.1 =
        (v.run faults cwd recursive root s).state ∧
      (v.traced.run faults cwd recursive root (s, events)).stopped =
        (v.run faults cwd recursive root s).stopped := by
  have hstep : InStep v.traced v cwd fun noted s => noted.1 = s := by
    refine ⟨?_, ?_, ?_⟩
    · rintro noted s rfl
      rfl
    · rintro noted s c rfl -
      rfl
    · unfold traced
      cases v.unlisted? with
      | none => exact .none
      | some pass => exact .some fun p e noted s h => h ▸ rfl
  exact hstep.run root rfl

/-- What a visitor did about each event that it noted makes up all that it did. -/
theorem traced_run_state (v : Visitor σ) (faults : Faults) (cwd : Location) (recursive : Bool)
    (root : Path) (s : σ) :
    let noted := (v.traced.run faults cwd recursive root (s, [])).state
    noted.1 = noted.2.foldl v.act s := by
  refine run_invariant (I := fun noted : σ × List Event => noted.1 = noted.2.foldl v.act s)
    ?_ ?_ root rfl
  · intro c noted heq
    simp [traced, act, heq]
  · intro pass hpass p e noted heq
    obtain ⟨own, hown, rfl⟩ := Option.map_eq_some_iff.mp hpass
    simp [act, hown, heq]

/-- A visitor that keeps the shape of the tree meets what there was to meet at the beginning, and
ends as if it had been told so. -/
theorem traced_run_eq (faults : Faults) (recursive : Bool) (root : Path)
    (hkeep : v.KeepsShape cwd s) :
    let events := (v.tree s).events faults cwd root recursive v.unlisted?.isSome
    (v.traced.run faults cwd recursive root (s, [])).state =
        (events.state.foldl v.act s, events.state) ∧
      (v.traced.run faults cwd recursive root (s, [])).stopped = events.stopped := by
  have hstep : InStep v.traced (Event.recorder (v.tree s) v.unlisted?.isSome) cwd
      fun noted events => noted = (events.foldl v.act s, events) ∧
        (v.tree noted.1).shape = (v.tree s).shape := by
    refine ⟨?_, ?_, ?_⟩
    · rintro noted events ⟨-, hshape⟩
      exact hshape
    · rintro noted events c ⟨rfl, hshape⟩ hkind
      refine ⟨by simp [traced, Event.recorder, act], ?_⟩
      exact (hkeep.visit c _ hshape hkind).trans hshape
    · unfold traced Event.recorder
      cases hv : v.unlisted? with
      | none => exact .none
      | some pass =>
        refine .some ?_
        rintro p e noted events ⟨rfl, hshape⟩
        refine ⟨by simp [act, hv], ?_⟩
        exact (hkeep.unlisted pass hv p e _).trans hshape
  obtain ⟨⟨hstate, -⟩, hstopped⟩ : Progress.Abreast _
      (v.traced.run faults cwd recursive root (s, []))
      ((v.tree s).events faults cwd root recursive v.unlisted?.isSome) :=
    hstep.run root ⟨rfl, rfl⟩
  exact ⟨hstate, hstopped⟩

end Visitor

/-- A survey is what the events say, sorted by their kind. -/
theorem Survey.take_eq_events (t : Tree) (faults : Faults) (cwd : Location) (root : Path)
    (recursive handled : Bool) :
    let events := t.events faults cwd root recursive handled
    Survey.take t faults cwd root recursive handled =
      ⟨⟨events.state.filterMap Event.candidate?, events.state.filterMap Event.missed?⟩,
        events.stopped⟩ := by
  have hstep : InStep (Survey.visitor t handled) (Event.recorder t handled) cwd fun survey events =>
      survey = ⟨events.filterMap Event.candidate?, events.filterMap Event.missed?⟩ := by
    refine ⟨fun _ => rfl, ?_, ?_⟩
    · rintro survey events c rfl -
      simp [Survey.visitor, Event.recorder, Event.candidate?, Event.missed?]
    · unfold Survey.visitor Event.recorder
      cases handled with
      | false => exact .none
      | true =>
        refine .some ?_
        rintro p e survey events rfl
        simp [Event.candidate?, Event.missed?]
  obtain ⟨hstate, hstopped⟩ : Progress.Abreast _
      ((Survey.visitor t handled).run faults cwd recursive root ⟨[], []⟩)
      ((Event.recorder t handled).run faults cwd recursive root []) := hstep.run root rfl
  unfold Survey.take Tree.events
  simp only [← hstate, ← hstopped]

end BatchFormat
