import Mathlib.Logic.Function.Iterate
import BatchFormat.Proofs.Traverse.Emptied

/-!
# A traversal step by step

A traversal can be told without recursion and without a limit on its depth: an agenda holds the
entries that are due, and each step looks at the first of them, putting what is listed in front of
the others. Such a run comes to an end, and it is the one that goes level by level.
-/
namespace BatchFormat

/-- A traversal under way: the entries that are due, the next one first, those that were looked at,
and the directories that were listed or refused to be. -/
structure Agenda (σ : Type) where
  state : σ
  due : List Path
  seen : List Path
  listed : List Path

/-- A path that leads to a directory has fewer names than a traversal goes down. -/
theorem Tree.length_parts_lt_of_isDir {t : Tree} {cwd : Location} {p : Path}
    (h : t.isDir cwd p = .ok true) : p.parts.length < Visitor.depthLimit := by
  obtain ⟨place, entry, hentry, -⟩ := entryAt?_of_test h
  have hshort := (entryAt?_eq_ok_iff.mp hentry).2.1
  have hlong := p.length_parts_le
  unfold Visitor.depthLimit
  omega

variable {σ : Type}

/-- Nothing is left to do, or nothing can be done any more. -/
def Progress.IsOver (progress : Progress (Agenda σ)) : Prop :=
  progress.stopped.isSome ∨ progress.state.due = []

namespace Visitor

variable (v : Visitor σ) (faults : Faults) (cwd : Location) (recursive : Bool)

/-- A visitor does not look at the agenda. -/
def withAgenda : Visitor (Agenda σ) where
  tree := fun a => v.tree a.state
  visit := fun c a => { a with state := v.visit c a.state }
  unlisted? := v.unlisted?.map fun pass p e a => { a with state := pass p e a.state }

def schedule (p : Path) (a : Agenda σ) : Progress (Agenda σ) :=
  let a := { a with listed := a.listed ++ [p] }
  match (v.tree a.state).list faults cwd p with
  | .error e => v.withAgenda.skip p e a
  | .ok names => ⟨{ a with due := names.map p.child ++ a.due }, none⟩

def step (a : Agenda σ) : Progress (Agenda σ) :=
  match a.due with
  | [] => ⟨a, none⟩
  | p :: due =>
    v.withAgenda.entry cwd recursive (v.schedule faults cwd) p
      { a with due := due, seen := a.seen ++ [p] }

def advance (progress : Progress (Agenda σ)) : Progress (Agenda σ) :=
  progress.andThen (v.step faults cwd recursive)

/-- The root is a file, or it is listed. -/
def opening (root : Path) (state : σ) : Progress (Agenda σ) :=
  let a : Agenda σ := ⟨state, [], [], []⟩
  match (v.tree state).isFile cwd root with
  | .error e => ⟨a, some e⟩
  | .ok true => ⟨v.withAgenda.visit ⟨root, .file⟩ a, none⟩
  | .ok false => v.schedule faults cwd root a

/-- How far a traversal has come when it has looked at `count` entries. -/
def after (root : Path) (state : σ) (count : Nat) : Progress (Agenda σ) :=
  (v.advance faults cwd recursive)^[count] (v.opening faults cwd root state)

variable {v faults cwd recursive}

@[simp] theorem withAgenda_tree (a : Agenda σ) : v.withAgenda.tree a = v.tree a.state := rfl

@[simp] theorem withAgenda_visit (c : Candidate) (a : Agenda σ) :
    v.withAgenda.visit c a = { a with state := v.visit c a.state } := rfl

theorem advance_of_isOver {x : Progress (Agenda σ)} (h : x.IsOver) :
    v.advance faults cwd recursive x = x := by
  obtain ⟨a, stopped⟩ := x
  cases stopped with
  | some e => rfl
  | none =>
    have hdue : a.due = [] := h.resolve_left (by simp)
    simp [advance, Progress.andThen, step, hdue]

theorem after_of_isOver {root : Path} {state : σ} {count count' : Nat}
    (h : (v.after faults cwd recursive root state count).IsOver) (hle : count ≤ count') :
    v.after faults cwd recursive root state count' =
      v.after faults cwd recursive root state count := by
  obtain ⟨more, rfl⟩ := Nat.exists_eq_add_of_le' hle
  unfold after at h ⊢
  rw [Function.iterate_add_apply]
  exact Function.iterate_fixed (advance_of_isOver h) more

/-! ## Steps and levels -/

/-- Some steps from `x` on, a part of the traversal is over with this result, and nothing is due but
what is due behind it. -/
def Arrives (v : Visitor σ) (faults : Faults) (cwd : Location) (recursive : Bool)
    (x : Progress (Agenda σ)) (due : List Path) (result : Progress σ) : Prop :=
  ∃ count, let y := (v.advance faults cwd recursive)^[count] x
    y.state.state = result.state ∧ y.stopped = result.stopped ∧
      (result.stopped = none → y.state.due = due)

section

variable {x : Progress (Agenda σ)} {a : Agenda σ} {due due' : List Path} {result : Progress σ}
  {f : σ → Progress σ} {enter : Path → σ → Progress σ} {p q : Path}

theorem Arrives.here (hstate : x.state.state = result.state) (hstopped : x.stopped = result.stopped)
    (hdue : result.stopped = none → x.state.due = due) :
    v.Arrives faults cwd recursive x due result := ⟨0, hstate, hstopped, hdue⟩

theorem Arrives.of_step (h : v.Arrives faults cwd recursive (v.step faults cwd recursive a) due
    result) : v.Arrives faults cwd recursive ⟨a, none⟩ due result := by
  obtain ⟨count, hcount⟩ := h
  refine ⟨count + 1, ?_⟩
  rw [Function.iterate_succ_apply]
  exact hcount

/-- What is due first is worked off first, and the rest is due after it. -/
theorem Arrives.andThen (h : v.Arrives faults cwd recursive x due result)
    (hnext : ∀ a : Agenda σ, a.due = due → a.state = result.state →
      v.Arrives faults cwd recursive ⟨a, none⟩ due' (f result.state)) :
    v.Arrives faults cwd recursive x due' (result.andThen f) := by
  obtain ⟨count, hstate, hstopped, hdue⟩ := h
  unfold Progress.andThen
  split
  · next e he => exact ⟨count, hstate, hstopped, fun hnone => nomatch he.symm.trans hnone⟩
  · next hnone =>
    rw [hnone] at hstopped
    obtain ⟨more, hmore⟩ := hnext _ (hdue hnone) hstate
    refine ⟨more + count, ?_⟩
    rw [Function.iterate_add_apply]
    generalize (v.advance faults cwd recursive)^[count] x = y at hstopped hmore ⊢
    obtain ⟨b, stopped⟩ := y
    obtain rfl : stopped = none := hstopped
    exact hmore

/-- Entry by entry, a directory is done. -/
theorem Arrives.foldl (names : List String)
    (hentry : ∀ name ∈ names, ∀ (a : Agenda σ) due, a.due = p.child name :: due →
      v.Arrives faults cwd recursive ⟨a, none⟩ due
        (v.entry cwd recursive enter (p.child name) a.state))
    (h : v.Arrives faults cwd recursive x (names.map p.child ++ due) result) :
    v.Arrives faults cwd recursive x due
      (names.foldl (fun progress name =>
        progress.andThen (v.entry cwd recursive enter (p.child name))) result) := by
  induction names generalizing result with
  | nil => exact h
  | cons name names ih =>
    refine ih (fun other hother => hentry other (List.mem_cons_of_mem _ hother)) ?_
    refine h.andThen fun a hdue hstate => ?_
    rw [← hstate]
    exact hentry name List.mem_cons_self a _ hdue

theorem Arrives.skip (e : SystemError) :
    v.Arrives faults cwd recursive (v.withAgenda.skip p e a) a.due (v.skip p e a.state) := by
  unfold Visitor.skip withAgenda
  cases v.unlisted? with
  | none => exact .here rfl rfl fun _ => rfl
  | some pass =>
    simp only [Option.map_some]
    split
    · exact .here rfl rfl fun _ => rfl
    · exact .here rfl rfl fun _ => rfl

/-- An entry is looked at in one step, and if it is entered, so is what lies below it. -/
theorem Arrives.entry (hdue : a.due = q :: due)
    (henter : q.parts.length < depthLimit → ∀ b : Agenda σ, b.due = due →
      v.Arrives faults cwd recursive (v.schedule faults cwd q b) due (enter q b.state)) :
    v.Arrives faults cwd recursive ⟨a, none⟩ due (v.entry cwd recursive enter q a.state) := by
  refine .of_step ?_
  simp only [step, hdue, Visitor.entry, withAgenda_tree]
  cases hkind : (v.tree a.state).kind? cwd q with
  | error e => exact .here rfl rfl fun _ => rfl
  | ok kind =>
    cases kind with
    | none => exact .here rfl rfl fun _ => rfl
    | some kind =>
      cases kind with
      | file => exact .here rfl rfl fun _ => rfl
      | directory =>
        cases recursive with
        | false => exact .here rfl rfl fun _ => rfl
        | true =>
          simp only [if_true, withAgenda_visit]
          cases (v.tree (v.visit ⟨q, .directory⟩ a.state)).isLink cwd q with
          | error e => exact .here rfl rfl fun _ => rfl
          | ok link =>
            cases link with
            | true => exact .here rfl rfl fun _ => rfl
            | false =>
              have hdir := Tree.kind?_eq_directory_iff.mp hkind
              exact henter (Tree.length_parts_lt_of_isDir hdir) _ rfl

/-- A directory is done by steps as it is done level by level. There is always depth left for it,
since its path would be too long otherwise. -/
theorem Arrives.below (depth : Nat) (p : Path) (a : Agenda σ) (hpos : 0 < depth)
    (hdepth : depthLimit ≤ p.parts.length + depth) :
    v.Arrives faults cwd recursive (v.schedule faults cwd p a) a.due
      (v.below faults cwd recursive depth p a.state) := by
  induction depth generalizing p a with
  | zero => cases hpos
  | succ depth ih =>
    simp only [schedule, Visitor.below]
    cases (v.tree a.state).list faults cwd p with
    | error e => exact .skip e
    | ok names =>
      refine .foldl names ?_ (.here rfl rfl fun _ => rfl)
      intro name _ b due hdue
      refine .entry hdue fun hshort c hc => ?_
      have hlength : (p.child name).parts.length = p.parts.length + 1 := by simp [Path.child]
      exact hc ▸ ih (p.child name) c (by omega) (by omega)

end

/-- Step by step, a traversal comes to the end that it has level by level. -/
theorem exists_after_eq (v : Visitor σ) (faults : Faults) (cwd : Location) (recursive : Bool)
    (root : Path) (state : σ) :
    ∃ count, let done := v.after faults cwd recursive root state count
      done.IsOver ∧
        ⟨done.state.state, done.stopped⟩ = v.run faults cwd recursive root state := by
  have harrives : v.Arrives faults cwd recursive (v.opening faults cwd root state) []
      (v.run faults cwd recursive root state) := by
    simp only [opening, Visitor.run]
    cases (v.tree state).isFile cwd root with
    | error e => exact .here rfl rfl fun _ => rfl
    | ok file =>
      cases file with
      | true => exact .here rfl rfl fun _ => rfl
      | false => exact .below _ root _ (by decide) (Nat.le_add_left _ _)
  obtain ⟨count, hstate, hstopped, hdue⟩ := harrives
  refine ⟨count, ?_, ?_⟩
  · cases hresult : (v.run faults cwd recursive root state).stopped with
    | some e => exact Or.inl (by simp [after, hstopped, hresult])
    | none => exact Or.inr (hdue hresult)
  · simp only [after, hstate, hstopped]

end Visitor
end BatchFormat
