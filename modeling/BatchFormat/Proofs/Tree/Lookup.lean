import BatchFormat.Proofs.Tree.Entries
import BatchFormat.Tree.Locate

/-!
# What a look-up depends on

A look-up turns at directories and links and ends at anything else; it sees neither bytes nor
modes. So trees that turn it the same way everywhere lead it to the same place.
-/
namespace BatchFormat

/-- What a look-up does at an entry: it goes on below, it goes on where a link says, or it ends. -/
inductive Passage where
  | through
  | onward (target : String)
  | halt
  deriving DecidableEq, Repr

def Entry.passage : Entry → Passage
  | .dir _ => .through
  | .link target => .onward target
  | .file .. | .fifo _ => .halt

@[simp] theorem Entry.passage_blank (e : Entry) : e.blank.passage = e.passage := by
  cases e <;> rfl

namespace Tree

variable {t u : Tree} {follow : Bool} {links : Nat} {here place : Location}
  {steps rest : List String} {step target : String} {entry : Entry} {mode : Nat}

/-- A step that names an entry of a directory, and that the system takes. -/
structure IsName (step : String) : Prop where
  spoken : ¬(step = "" ∨ step = ".")
  down : ¬step = ".."
  short : ¬step.utf8ByteSize > nameLimit

instance (name : String) : Decidable (IsName name) :=
  decidable_of_iff (¬(name = "" ∨ name = ".") ∧ ¬name = ".." ∧ ¬name.utf8ByteSize > nameLimit)
    ⟨fun h => ⟨h.1, h.2.1, h.2.2⟩, fun h => ⟨h.spoken, h.down, h.short⟩⟩

/-! ## The steps of a look-up -/

theorem walk_nil :
    t.walk follow links here [] = .ok (.found here ((t.get? here).getD (.dir 0o755))) := by
  rw [walk]

theorem walk_skip (h : step = "" ∨ step = ".") :
    t.walk follow links here (step :: rest) = t.walk follow links here rest := by
  rw [walk, if_pos h]

theorem walk_up :
    t.walk follow links here (".." :: rest) = t.walk follow links here.dropLast rest := by
  rw [walk, if_neg (by decide), if_pos rfl]

theorem walk_long (hskip : ¬(step = "" ∨ step = ".")) (hup : ¬step = "..")
    (hlong : step.utf8ByteSize > nameLimit) :
    t.walk follow links here (step :: rest) = .error .nameTooLong := by
  rw [walk, if_neg hskip, if_neg hup, if_pos hlong]

theorem walk_absent (h : IsName step) (hget : t.get? (here ++ [step]) = none) :
    t.walk follow links here (step :: rest) =
      if rest = [] then .ok (.vacant (here ++ [step])) else .error .noEntry := by
  simp only [walk, if_neg h.spoken, if_neg h.down, if_neg h.short, hget]

theorem walk_through (h : IsName step) (hget : t.get? (here ++ [step]) = some (.dir mode)) :
    t.walk follow links here (step :: rest) = t.walk follow links (here ++ [step]) rest := by
  simp only [walk, if_neg h.spoken, if_neg h.down, if_neg h.short, hget]

/-- A link at the very end stands for itself unless it is to be followed. -/
theorem walk_link_last (h : IsName step) (hget : t.get? (here ++ [step]) = some (.link target)) :
    t.walk false links here [step] = .ok (.found (here ++ [step]) (.link target)) := by
  simp [walk, h.spoken, h.down, h.short, hget]

theorem walk_onward (h : IsName step) (hget : t.get? (here ++ [step]) = some (.link target))
    (hmore : ¬(rest = [] ∧ (!follow) = true)) :
    t.walk follow (links + 1) here (step :: rest) =
      t.walk follow links (linkStart target here) (Path.pieces target ++ rest) := by
  simp only [walk, if_neg h.spoken, if_neg h.down, if_neg h.short, hget, if_neg hmore]

theorem walk_spent (h : IsName step) (hget : t.get? (here ++ [step]) = some (.link target))
    (hmore : ¬(rest = [] ∧ (!follow) = true)) :
    t.walk follow 0 here (step :: rest) = .error .tooManyLinks := by
  simp only [walk, if_neg h.spoken, if_neg h.down, if_neg h.short, hget, if_neg hmore]

theorem walk_halt (h : IsName step) (hget : t.get? (here ++ [step]) = some entry)
    (hhalt : entry.passage = .halt) :
    t.walk follow links here (step :: rest) =
      if rest = [] then .ok (.found (here ++ [step]) entry) else .error .notDirectory := by
  cases entry with
  | dir _ => cases hhalt
  | link _ => cases hhalt
  | file _ _ => simp only [walk, if_neg h.spoken, if_neg h.down, if_neg h.short, hget]
  | fifo _ => simp only [walk, if_neg h.spoken, if_neg h.down, if_neg h.short, hget]

/-- What neither is a directory nor a link ends a look-up. -/
theorem passage_eq_halt (hdir : ∀ mode, entry = .dir mode → False)
    (hlink : ∀ target, entry = .link target → False) : entry.passage = .halt := by
  cases entry with
  | dir mode => exact (hdir mode rfl).elim
  | link target => exact (hlink target rfl).elim
  | file _ _ => rfl
  | fifo _ => rfl

theorem passage_halt_of_not (hdir : entry.isDir = false) (hlink : entry.isLink = false) :
    entry.passage = .halt := by
  cases entry <;> simp_all [Entry.isDir, Entry.isLink, Entry.passage]

/-! ## Trees that turn look-ups the same way -/

/-- Trees that turn every look-up the same way. -/
def Parallel (t u : Tree) : Prop :=
  ∀ place, (t.get? place).map Entry.passage = (u.get? place).map Entry.passage

theorem Parallel.symm (h : Parallel t u) : Parallel u t := fun place => (h place).symm

theorem Parallel.of_shape_eq (h : t.shape = u.shape) : Parallel t u := by
  intro place
  have hget := congrArg (fun s => (get? s place).map Entry.passage) h
  simpa [get?_shape, Function.comp_def] using hget

theorem Parallel.get?_none (h : Parallel t u) (hget : t.get? place = none) :
    u.get? place = none := by
  have hp := h place
  rw [hget] at hp
  exact Option.map_eq_none_iff.mp hp.symm

theorem Parallel.get?_dir (h : Parallel t u) (hget : t.get? place = some (.dir mode)) :
    ∃ m, u.get? place = some (.dir m) := by
  have hp := h place
  rw [hget] at hp
  obtain ⟨e, he, hpass⟩ := Option.map_eq_some_iff.mp hp.symm
  cases e <;> simp_all [Entry.passage]

theorem Parallel.get?_link (h : Parallel t u) (hget : t.get? place = some (.link target)) :
    u.get? place = some (.link target) := by
  have hp := h place
  rw [hget] at hp
  obtain ⟨e, he, hpass⟩ := Option.map_eq_some_iff.mp hp.symm
  cases e <;> simp_all [Entry.passage]

theorem Parallel.get?_halt (h : Parallel t u) (hget : t.get? place = some entry)
    (hhalt : entry.passage = .halt) : ∃ e, u.get? place = some e ∧ e.passage = .halt := by
  have hp := h place
  rw [hget] at hp
  obtain ⟨e, he, hpass⟩ := Option.map_eq_some_iff.mp hp.symm
  exact ⟨e, he, hpass.trans hhalt⟩

/-- The end of a look-up as another tree shows it. -/
def Place.seenIn (u : Tree) : Place → Place
  | .found place _ => .found place ((u.get? place).getD (.dir 0o755))
  | .vacant place => .vacant place

/-- Parallel trees lead a look-up to the same place, or refuse it for the same cause. -/
theorem Parallel.walk_eq (h : Parallel t u) :
    u.walk follow links here steps = (t.walk follow links here steps).map (Place.seenIn u) := by
  fun_induction walk t follow links here steps with
  | case1 links here => rw [walk]; rfl
  | case2 links here step rest hskip ih => rw [walk, if_pos hskip, ih]
  | case3 links here rest hskip ih => rw [walk, if_neg hskip, if_pos rfl, ih]
  | case4 links here step rest hskip hup hlong =>
    rw [walk, if_neg hskip, if_neg hup, if_pos hlong]
    rfl
  | case5 links here step hskip hup hlong next hget =>
    rw [walk_absent ⟨hskip, hup, hlong⟩ (h.get?_none hget)]
    rfl
  | case6 links here step rest hskip hup hlong next hget hrest =>
    rw [walk_absent ⟨hskip, hup, hlong⟩ (h.get?_none hget), if_neg hrest]
    rfl
  | case7 links here step rest hskip hup hlong next mode hget ih =>
    obtain ⟨m, hu⟩ := h.get?_dir hget
    rw [walk_through ⟨hskip, hup, hlong⟩ hu, ih]
  | case8 links here step rest hskip hup hlong next target hget hlast =>
    obtain ⟨rfl, hstay⟩ := hlast
    have hfollow : follow = false := by simpa using hstay
    have hu := h.get?_link hget
    subst hfollow
    rw [walk_link_last ⟨hskip, hup, hlong⟩ hu]
    simp [Except.map, Place.seenIn, hu, next]
  | case9 here step rest hskip hup hlong next target hget hmore =>
    rw [walk_spent ⟨hskip, hup, hlong⟩ (h.get?_link hget) hmore]
    rfl
  | case10 here step rest hskip hup hlong next target hget hmore links ih =>
    rw [walk_onward ⟨hskip, hup, hlong⟩ (h.get?_link hget) hmore, ih]
  | case11 links here step hskip hup hlong next entry hdir hlink hget =>
    obtain ⟨e, hu, hhalt⟩ := h.get?_halt hget (passage_eq_halt hdir hlink)
    rw [walk_halt ⟨hskip, hup, hlong⟩ hu hhalt]
    simp [Except.map, Place.seenIn, hu, next]
  | case12 links here step rest hskip hup hlong next entry hdir hlink hget hrest =>
    obtain ⟨e, hu, hhalt⟩ := h.get?_halt hget (passage_eq_halt hdir hlink)
    rw [walk_halt ⟨hskip, hup, hlong⟩ hu hhalt, if_neg hrest]
    rfl

/-! ## Places that are reached without a link -/

/-- An entry that is reached from the top by its own names, every one before the last being that of
a directory. -/
inductive Stands (t : Tree) : Location → Entry → Prop
  | top : Stands t [] (.dir 0o755)
  | child {here : Location} {mode : Nat} {step : String} {entry : Entry}
      (parent : Stands t here (.dir mode)) (name : IsName step)
      (found : t.get? (here ++ [step]) = some entry) : Stands t (here ++ [step]) entry

theorem Stands.get?_eq (h : Stands t place entry) : t.get? place = some entry := by
  cases h with
  | top => rfl
  | child _ _ found => exact found

theorem Stands.parent_dir (h : Stands t place entry) :
    ∃ mode, Stands t place.dropLast (.dir mode) := by
  cases h with
  | top => exact ⟨_, .top⟩
  | child parent _ _ => exact ⟨_, by simpa using parent⟩

theorem Stands.walk_append (h : Stands t here (.dir mode)) :
    t.walk follow links [] (here ++ steps) = t.walk follow links here steps := by
  generalize hentry : Entry.dir mode = entry at h
  induction h generalizing mode steps with
  | top => rfl
  | child parent name found ih =>
    subst hentry
    rw [List.append_assoc, ih rfl, List.singleton_append, walk_through name found]

/-- Its own names lead a look-up to it, unless it is a link that is followed. -/
theorem Stands.walk_eq (h : Stands t place entry) (hlink : follow = true → entry.isLink = false) :
    t.walk follow links [] place = .ok (.found place entry) := by
  cases h with
  | top => exact walk_nil
  | child parent name found =>
    rw [parent.walk_append]
    cases entry with
    | dir _ => rw [walk_through name found, walk_nil, found]; rfl
    | file _ _ => rw [walk_halt name found rfl, if_pos rfl]
    | fifo _ => rw [walk_halt name found rfl, if_pos rfl]
    | link target =>
      cases follow with
      | false => exact walk_link_last name found
      | true => cases hlink rfl

/-- What a look-up finds is reached without a link, however the look-up got there. -/
theorem Stands.of_walk (hhere : ∃ mode, Stands t here (.dir mode))
    (h : t.walk follow links here steps = .ok (.found place entry)) :
    Stands t place entry ∧ (follow = true → entry.isLink = false) := by
  fun_induction walk t follow links here steps with
  | case1 links here =>
    obtain ⟨m, hm⟩ := hhere
    simp only [hm.get?_eq, Except.ok.injEq, Place.found.injEq] at h
    obtain ⟨rfl, rfl⟩ := h
    exact ⟨hm, fun _ => rfl⟩
  | case2 links here step rest hskip ih => exact ih hhere h
  | case3 links here rest hskip ih =>
    obtain ⟨m, hm⟩ := hhere
    exact ih hm.parent_dir h
  | case7 links here step rest hskip hup hlong next mode hget ih =>
    obtain ⟨m, hm⟩ := hhere
    exact ih ⟨mode, hm.child ⟨hskip, hup, hlong⟩ hget⟩ h
  | case8 links here step rest hskip hup hlong next target hget hlast =>
    obtain ⟨m, hm⟩ := hhere
    simp only [Except.ok.injEq, Place.found.injEq] at h
    obtain ⟨rfl, rfl⟩ := h
    exact ⟨hm.child ⟨hskip, hup, hlong⟩ hget, fun hf => by simp [hf] at hlast⟩
  | case10 here step rest hskip hup hlong next target hget hmore links ih =>
    refine ih ?_ h
    unfold linkStart
    split
    · exact ⟨_, .top⟩
    · exact hhere
  | case11 links here step hskip hup hlong next found hdir hlink hget =>
    obtain ⟨m, hm⟩ := hhere
    simp only [Except.ok.injEq, Place.found.injEq] at h
    obtain ⟨rfl, rfl⟩ := h
    have hhalt := passage_eq_halt hdir hlink
    refine ⟨hm.child ⟨hskip, hup, hlong⟩ hget, fun _ => ?_⟩
    cases found <;> simp_all [Entry.passage, Entry.isLink]
  | case4 | case5 | case6 | case9 | case12 => cases h

/-- A look-up that ends well without following a last link ends well too. -/
theorem walk_false_of_true (h : t.walk true links here steps = .ok (.found place entry)) :
    ∃ p e, t.walk false links here steps = .ok (.found p e) := by
  fun_induction walk t true links here steps with
  | case1 => exact ⟨_, _, walk_nil⟩
  | case2 links here step rest hskip ih => rw [walk_skip hskip]; exact ih h
  | case3 links here rest hskip ih => rw [walk_up]; exact ih h
  | case7 links here step rest hskip hup hlong next m hget ih =>
    rw [walk_through ⟨hskip, hup, hlong⟩ hget]
    exact ih h
  | case8 _ _ _ _ _ _ _ _ _ _ hlast => simp at hlast
  | case10 here step rest hskip hup hlong next target hget hmore links ih =>
    by_cases hrest : rest = []
    · subst hrest
      exact ⟨_, _, walk_link_last ⟨hskip, hup, hlong⟩ hget⟩
    · rw [walk_onward ⟨hskip, hup, hlong⟩ hget (by simp [hrest])]
      exact ih h
  | case11 links here step hskip hup hlong next entry hdir hlink hget =>
    exact ⟨_, _, (walk_halt ⟨hskip, hup, hlong⟩ hget (passage_eq_halt hdir hlink)).trans
      (if_pos rfl)⟩
  | case4 | case5 | case6 | case9 | case12 => cases h

/-- Whether a last link is followed makes no difference where there is none. -/
theorem walk_true_of_false (h : t.walk false links here steps = .ok (.found place entry))
    (hlink : entry.isLink = false) :
    t.walk true links here steps = .ok (.found place entry) := by
  fun_induction walk t false links here steps with
  | case1 => rw [walk_nil]; exact h
  | case2 links here step rest hskip ih => rw [walk_skip hskip]; exact ih h
  | case3 links here rest hskip ih => rw [walk_up]; exact ih h
  | case7 links here step rest hskip hup hlong next m hget ih =>
    rw [walk_through ⟨hskip, hup, hlong⟩ hget]
    exact ih h
  | case8 =>
    simp only [Except.ok.injEq, Place.found.injEq] at h
    obtain ⟨rfl, rfl⟩ := h
    cases hlink
  | case10 here step rest hskip hup hlong next target hget hmore links ih =>
    rw [walk_onward ⟨hskip, hup, hlong⟩ hget (by simp)]
    exact ih h
  | case11 links here step hskip hup hlong next entry hdir hlink' hget =>
    rw [walk_halt ⟨hskip, hup, hlong⟩ hget (passage_eq_halt hdir hlink')]
    exact h
  | case4 | case5 | case6 | case9 | case12 => cases h

/-! ## Trees with more entries -/

def Extends (t u : Tree) : Prop := ∀ place entry, t.get? place = some entry →
  u.get? place = some entry

theorem Extends.refl (t : Tree) : Extends t t := fun _ _ h => h

theorem Extends.trans {v : Tree} (h : Extends t u) (h' : Extends u v) : Extends t v :=
  fun place entry hget => h' place entry (h place entry hget)

theorem Extends.put (hfree : t.get? place = none) (entry : Entry) :
    Extends t (t.put place entry) := by
  intro other old hget
  rw [get?_put_of_ne, hget]
  rintro rfl
  rw [hfree] at hget
  cases hget

/-- More entries do not turn a look-up that found something. -/
theorem Extends.walk_eq (h : Extends t u) (hget : t.get? place = some entry)
    (hwalk : t.walk follow links here steps = .ok (.found place entry)) :
    u.walk follow links here steps = .ok (.found place entry) := by
  fun_induction walk t follow links here steps with
  | case1 links here =>
    simp only [Except.ok.injEq, Place.found.injEq] at hwalk
    obtain ⟨rfl, -⟩ := hwalk
    rw [walk_nil, h _ _ hget]
    rfl
  | case2 links here step rest hskip ih => rw [walk_skip hskip]; exact ih hwalk
  | case3 links here rest hskip ih => rw [walk_up]; exact ih hwalk
  | case7 links here step rest hskip hup hlong next mode hnext ih =>
    rw [walk_through ⟨hskip, hup, hlong⟩ (h _ _ hnext)]
    exact ih hwalk
  | case8 links here step rest hskip hup hlong next target hnext hlast =>
    obtain ⟨rfl, hstay⟩ := hlast
    have hfollow : follow = false := by simpa using hstay
    subst hfollow
    rw [walk_link_last ⟨hskip, hup, hlong⟩ (h _ _ hnext)]
    exact hwalk
  | case10 here step rest hskip hup hlong next target hnext hmore links ih =>
    rw [walk_onward ⟨hskip, hup, hlong⟩ (h _ _ hnext) hmore]
    exact ih hwalk
  | case11 links here step hskip hup hlong next found hdir hlink hnext =>
    rw [walk_halt ⟨hskip, hup, hlong⟩ (h _ _ hnext) (passage_eq_halt hdir hlink), if_pos rfl]
    exact hwalk
  | case4 | case5 | case6 | case9 | case12 => cases hwalk

theorem Extends.stands (h : Extends t u) (hplace : Stands t place entry) :
    Stands u place entry := by
  induction hplace with
  | top => exact .top
  | child _ name found ih => exact ih.child name (h _ _ found)

/-! ## The entry that a path names -/

variable {cwd : Location} {p : Path}

/-- A path leads to an entry exactly if the system accepts its spelling and the walk along its names
ends there. -/
theorem entryAt?_eq_ok_iff :
    t.entryAt? cwd follow p = .ok (place, entry) ↔
      Path.holdsNul p.text = false ∧ p.text.utf8ByteSize ≤ pathLimit ∧
        t.walk follow linkLimit (p.origin cwd) p.parts = .ok (.found place entry) := by
  unfold entryAt? locate
  by_cases hnul : Path.holdsNul p.text
  · simp [hnul]
  · by_cases hlong : p.text.utf8ByteSize > pathLimit
    · simp [hnul, hlong, Nat.not_le.mpr hlong]
    · simp only [hnul, hlong, Nat.not_lt.mp hlong, if_false, true_and]
      cases t.walk follow linkLimit (p.origin cwd) p.parts with
      | error cause => simp
      | ok found => cases found <;> simp

/-- Every look-up starts at a directory. -/
theorem Stands.origin (hcwd : ∃ mode, Stands t cwd (.dir mode)) (p : Path) :
    ∃ mode, Stands t (p.origin cwd) (.dir mode) := by
  unfold Path.origin
  split
  · exact hcwd
  · exact ⟨_, .top⟩

theorem Stands.of_entry (hcwd : ∃ mode, Stands t cwd (.dir mode))
    (h : t.entryAt? cwd follow p = .ok (place, entry)) :
    Stands t place entry ∧ (follow = true → entry.isLink = false) :=
  of_walk (Stands.origin hcwd p) (entryAt?_eq_ok_iff.mp h).2.2

end Tree
end BatchFormat
