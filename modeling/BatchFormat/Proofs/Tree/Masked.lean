import BatchFormat.Proofs.Traverse.Questions
import BatchFormat.Proofs.Tree.Replace
import BatchFormat.Tree.Read

/-!
# Trees that agree but for some files

Log files grow while other files are formatted. A tree without the bytes of such files still says
all that a replacement depends on, and all that can be read from the others.
-/
namespace BatchFormat

theorem Entry.blank_blank (e : Entry) : e.blank.blank = e.blank := by
  cases e <;> rfl

theorem Entry.mode_blank (e : Entry) : e.blank.mode = e.mode := by
  cases e <;> rfl

namespace Tree

def masked (t : Tree) (logs : List Location) : Tree :=
  ⟨t.entries.map fun e => (e.1, if e.1 ∈ logs then e.2.blank else e.2)⟩

variable {t u : Tree} {logs : List Location} {cwd place dir : Location} {entry old : Entry}
  {p : Path} {faults : Faults} {marks : List String} {content : String} {d : Draft}

@[simp] theorem masked_nil : t.masked [] = t := by simp [masked]

@[simp] theorem shape_masked : (t.masked logs).shape = t.shape := by
  simp only [masked, shape, List.map_map, Tree.mk.injEq]
  refine List.map_congr_left fun e _ => ?_
  simp only [Function.comp_apply]
  split
  · rw [Entry.blank_blank]
  · rfl

theorem shape_of_masked (h : t.masked logs = u.masked logs) : t.shape = u.shape := by
  rw [← shape_masked, h, shape_masked]

/-- A masked tree is the tree with the texts of its logs blanked. -/
theorem get?_masked : (t.masked logs).get? place =
    (t.get? place).map fun e => if place ∈ logs then e.blank else e := by
  unfold get?
  split
  · simp [Entry.blank]
  · simp only [masked]
    induction t.entries with
    | nil => rfl
    | cons head rest ih =>
      obtain ⟨key, value⟩ := head
      by_cases heq : place = key
      · simp [heq]
      · simpa [List.lookup_cons, beq_false_of_ne heq] using ih

theorem get?_eq_of_masked (h : t.masked logs = u.masked logs) (hplace : place ∉ logs) :
    t.get? place = u.get? place := by
  have hget := congrArg (fun s => get? s place) h
  simpa [get?_masked, hplace] using hget

theorem masked_put : (t.put place entry).masked logs =
    (t.masked logs).put place (if place ∈ logs then entry.blank else entry) := by
  simp only [masked, put, putIn_map fun place entry => if place ∈ logs then entry.blank else entry]
  cases putIn place entry t.entries <;> simp

theorem masked_erase : (t.erase place).masked logs = (t.masked logs).erase place := by
  simp [masked, erase, List.filter_map, Function.comp_def]

theorem masked_put_congr (h : t.masked logs = u.masked logs) :
    (t.put place entry).masked logs = (u.put place entry).masked logs := by
  rw [masked_put, masked_put, h]

theorem masked_erase_congr (h : t.masked logs = u.masked logs) :
    (t.erase place).masked logs = (u.erase place).masked logs := by
  rw [masked_erase, masked_erase, h]

/-- New bytes in a log do not show. -/
theorem masked_put_of_mem (hlog : place ∈ logs) (hplace : place ≠ [])
    (hold : t.get? place = some old) (hblank : entry.blank = old.blank) :
    (t.put place entry).masked logs = t.masked logs := by
  have hget : (t.masked logs).entries.lookup place = some entry.blank := by
    rw [← get?_eq_lookup hplace, get?_masked, hold, hblank]
    simp [hlog]
  rw [masked_put, if_pos hlog, put, putIn_eq_self hget]
  rfl

/-! ## What is read -/

/-- A path that leads to a file which is not a log. -/
structure IsSource (t : Tree) (logs : List Location) (cwd : Location) (p : Path) : Prop where
  isFile : t.isFile cwd p = .ok true
  apart : ∀ found, t.entryAt? cwd true p = .ok found → found.1 ∉ logs

theorem IsSource.of_shape (h : t.shape = u.shape) (hp : t.IsSource logs cwd p) :
    u.IsSource logs cwd p where
  isFile := (isFile_of_shape h).symm.trans hp.isFile
  apart := by
    intro found hfound
    rcases entryAt?_cases_of_shape h cwd true p with
      ⟨e, -, hu⟩ | ⟨place, entry, entry', ht, hu, -⟩
    · rw [hu] at hfound
      cases hfound
    · rw [hu] at hfound
      cases hfound
      exact hp.apart (place, entry) ht

theorem IsSource.entryAt?_eq (h : t.masked logs = u.masked logs) (hp : t.IsSource logs cwd p) :
    u.entryAt? cwd true p = t.entryAt? cwd true p := by
  rcases entryAt?_cases_of_shape (shape_of_masked h) cwd true p with
    ⟨e, ht, hu⟩ | ⟨place, entry, entry', ht, hu, -⟩
  · rw [ht, hu]
  · have hget := get?_eq_of_masked h (hp.apart _ ht)
    rw [ht, hu, ← get?_of_entryAt? ht, ← get?_of_entryAt? hu, hget]

theorem IsSource.readText_eq (h : t.masked logs = u.masked logs) (hp : t.IsSource logs cwd p) :
    u.readText faults cwd p = t.readText faults cwd p := by
  unfold readText readBytes
  rw [hp.entryAt?_eq h]

/-! ## What is replaced -/

theorem freePlace_of_shape (h : t.shape = u.shape) :
    Draft.freePlace t dir p marks = Draft.freePlace u dir p marks := by
  have hsome : ∀ place, (t.get? place).isSome = (u.get? place).isSome := by
    intro place
    have hget := congrArg (fun s => (get? s place).isSome) h
    simpa [get?_shape] using hget
  induction marks with
  | nil => rfl
  | cons mark marks ih => simp only [Draft.freePlace, hsome, ih]

theorem resolve_of_shape (h : t.shape = u.shape) : t.resolve cwd p = u.resolve cwd p := by
  refine (Parallel.of_shape_eq h.symm).resolve_eq ?_
  rw [← places_shape, h, places_shape]

/-- A plan for a replacement looks into no file. -/
theorem draft_of_shape (h : t.shape = u.shape) :
    t.draft faults marks cwd p content = u.draft faults marks cwd p content := by
  simp only [draft, resolve_of_shape h, bind, Except.bind]
  split
  · rfl
  · next real hreal =>
    rcases entryAt?_cases_of_shape h [] true (Path.ofNames real) with
      ⟨e, ht, hu⟩ | ⟨last, entry, entry', ht, hu, hblank⟩
    · simp only [ht, hu]
    · have hmode : entry.mode = entry'.mode := by
        rw [← Entry.mode_blank, hblank, Entry.mode_blank]
      rcases entryAt?_cases_of_shape h [] false (Path.ofNames real) with
        ⟨e, ht', hu'⟩ | ⟨target, old, old', ht', hu', -⟩
      · simp only [ht, hu, ht', hu']
      · simp only [ht, hu, ht', hu', hmode, freePlace_of_shape h]

theorem refusal?_of_shape (h : t.shape = u.shape) : d.refusal? faults t = d.refusal? faults u := by
  have hdir : (t.get? d.target).any Entry.isDir = (u.get? d.target).any Entry.isDir := by
    have hget := congrArg (fun s => (get? s d.target).any Entry.isDir) h
    simpa [get?_shape, Option.any_map, Function.comp_def] using hget
  unfold Draft.refusal?
  rw [hdir]

/-- Replacing a file is the same whatever the logs say, and does the same to what is beside them. -/
theorem carryOut_of_masked (h : t.masked logs = u.masked logs) :
    (d.carryOut faults t).1 = (d.carryOut faults u).1 ∧
      (d.carryOut faults t).2.masked logs = (d.carryOut faults u).2.masked logs := by
  have hready : (d.setMode (d.finish (d.create t))).masked logs =
      (d.setMode (d.finish (d.create u))).masked logs :=
    masked_put_congr (masked_put_congr (masked_put_congr h))
  unfold Draft.carryOut
  split
  · exact ⟨rfl, masked_erase_congr (masked_put_congr (masked_put_congr h))⟩
  · split
    · exact ⟨rfl, masked_erase_congr (masked_put_congr (masked_put_congr h))⟩
    · simp only [refusal?_of_shape (shape_of_masked hready)]
      split
      · exact ⟨rfl, masked_erase_congr hready⟩
      · exact ⟨rfl, masked_put_congr (masked_erase_congr hready)⟩

/-- How a replacement ends, and what it leaves outside of the logs, does not depend on the logs. -/
theorem replace_of_masked (h : t.masked logs = u.masked logs) :
    (t.replace faults marks cwd p content).1 = (u.replace faults marks cwd p content).1 ∧
      (t.replace faults marks cwd p content).2.masked logs =
        (u.replace faults marks cwd p content).2.masked logs := by
  unfold replace
  rw [draft_of_shape (shape_of_masked h)]
  split
  · exact ⟨rfl, h⟩
  · next d _ =>
    obtain ⟨houtcome, hafter⟩ : (d.carryOut faults t).1 = (d.carryOut faults u).1 ∧ _ :=
      carryOut_of_masked h
    exact ⟨congrArg (Except.map fun _ => d.target) houtcome, hafter⟩

end Tree
end BatchFormat
