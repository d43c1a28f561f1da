import BatchFormat.Proofs.Tree.Files

/-!
# Replacements that are cut short

A replacement is a list of effects, and every cut of the list leaves a tree. Before the last effect
nothing but the temporary file is new; with the last one it becomes the file itself. So whoever
reads the file, whenever the replacement was cut short, finds all of the old bytes or all of the
new ones.
-/
namespace BatchFormat

variable {t u : Tree} {d : Draft} {faults : Faults} {marks : List String} {cwd place : Location}
  {p : Path} {content : String} {bytes : Bytes} {mode : Nat}

namespace Draft

/-- What a replacement does to a tree, one thing after the other. -/
inductive Effect where
  | create
  | fill (count : Nat)
  | finish
  | setMode
  | publish
  | discard
  deriving DecidableEq, Repr

namespace Effect

def act (d : Draft) (t : Tree) : Effect → Tree
  | create => d.create t
  | fill count => d.fill count t
  | finish => d.finish t
  | setMode => d.setMode t
  | publish => d.publish t
  | discard => d.discard t

end Effect

def writing (count : Nat) : List Effect := (List.range count).map fun n => .fill (n + 1)

/-- The effects of a replacement up to its end, which is the way back if one of them fails. -/
def effects (d : Draft) (faults : Faults) (t : Tree) : List Effect :=
  match faults.write d.path with
  | some count => .create :: writing count ++ [.discard]
  | none =>
    let written := .create :: writing d.bytes.length ++ [.finish]
    if faults.mode d.path then written ++ [.discard]
    else
      match d.refusal? faults (d.setMode (d.finish (d.create t))) with
      | some _ => written ++ [.setMode, .discard]
      | none => written ++ [.setMode, .publish]

def after (d : Draft) (effects : List Effect) (t : Tree) : Tree :=
  effects.foldl (Effect.act d) t

/-- Nothing has happened yet but that there may be a temporary file with some of the bytes. -/
def Midway (d : Draft) (t u : Tree) : Prop :=
  u = t ∨ ∃ count mode, u = t.put d.temp (.file (d.bytes.take count) mode)

theorem Midway.put {entry : Entry} (h : d.Midway t u) :
    u.put d.temp entry = t.put d.temp entry := by
  rcases h with rfl | ⟨count, mode, rfl⟩
  · rfl
  · exact Tree.put_put

section

variable (htemp : d.temp ≠ []) (hfree : t.get? d.temp = none)
include htemp hfree

theorem Midway.discard (h : d.Midway t u) : d.discard u = t := by
  rcases h with rfl | ⟨count, mode, rfl⟩
  · exact Tree.erase_of_free htemp hfree
  · exact Tree.erase_put htemp hfree

theorem Midway.publish (h : d.Midway t u) :
    d.publish u = t.put d.target (.file d.bytes d.mode) := by
  have hback : u.erase d.temp = t := h.discard htemp hfree
  rw [Draft.publish, hback]

/-- Every effect but the move into place goes no further than midway. -/
theorem Midway.act {effect : Effect} (h : d.Midway t u) (hinner : effect ≠ .publish) :
    d.Midway t (effect.act d u) := by
  have hwhole : d.bytes = d.bytes.take d.bytes.length := List.take_length.symm
  cases effect with
  | create => exact Or.inr ⟨0, privateMode, h.put⟩
  | fill count => exact Or.inr ⟨count, privateMode, h.put⟩
  | finish => exact Or.inr ⟨d.bytes.length, privateMode, h.put.trans (by rw [← hwhole])⟩
  | setMode => exact Or.inr ⟨d.bytes.length, d.mode, h.put.trans (by rw [← hwhole])⟩
  | publish => exact (hinner rfl).elim
  | discard => exact Or.inl (h.discard htemp hfree)

theorem Midway.after {inner : List Effect} (h : d.Midway t u) (hinner : .publish ∉ inner) :
    d.Midway t (d.after inner u) := by
  induction inner generalizing u with
  | nil => exact h
  | cons effect inner ih =>
    obtain ⟨hne, hrest⟩ := not_or.mp (mt List.mem_cons.mpr hinner)
    exact ih (h.act htemp hfree (Ne.symm hne)) hrest

end

theorem freePlace_eq {dir : Location} (h : freePlace t dir p marks = .ok place) :
    ∃ mark ∈ marks, place = dir ++ [temporaryName p.name mark] := by
  induction marks with
  | nil => cases h
  | cons mark marks ih =>
    simp only [freePlace] at h
    split at h
    · cases h
    · split at h
      · obtain ⟨later, hlater, heq⟩ := ih h
        exact ⟨later, List.mem_cons_of_mem _ hlater, heq⟩
      · cases h
        exact ⟨mark, List.mem_cons_self, rfl⟩

end Draft

namespace Tree

/-- The temporary file of a draft stands beside the entry that it will be moved over. -/
theorem temp_of_draft {real : Location} (hreal : t.resolve cwd p = .ok real)
    (h : t.draft faults marks cwd p content = .ok d) :
    ∃ mark ∈ marks,
      d.temp = d.target.dropLast ++ [Draft.temporaryName (Path.ofNames real).name mark] := by
  simp only [draft, hreal, bind, Except.bind] at h
  split at h
  · cases h
  · split at h
    · cases h
    · split at h
      · cases h
      · next temp htemp =>
        split at h
        · cases h
        · cases h
          exact Draft.freePlace_eq htemp

/-! ## Where the path leads meanwhile -/

variable {links : Nat} {here : Location} {steps : List String}

/-- A file that is found has the last name of the steps that lead to it, where no last link was
followed. -/
theorem getLast?_of_walk (hhere : ∃ mode, t.Stands here (.dir mode))
    (h : t.walk false links here steps = .ok (.found place (.file bytes mode))) :
    place.getLast? = steps.getLast? := by
  have hplace : place ≠ [] :=
    place_ne_nil_of_file (Stands.of_walk hhere h).1.get?_eq
  obtain ⟨name, hname⟩ : ∃ name, place.getLast? = some name :=
    ⟨_, List.getLast?_eq_some_getLast hplace⟩
  have hcons : ∀ {step : String} {rest : List String}, place.getLast? = rest.getLast? →
      place.getLast? = (step :: rest).getLast? := by
    intro step rest heq
    rw [List.getLast?_cons, ← heq, hname]
    rfl
  fun_induction walk t false links here steps with
  | case1 links here =>
    obtain ⟨m, hm⟩ := hhere
    simp [hm.get?_eq] at h
  | case2 links here step rest hskip ih => exact hcons (ih hhere h)
  | case3 links here rest hskip ih =>
    obtain ⟨m, hm⟩ := hhere
    exact hcons (ih hm.parent_dir h)
  | case7 links here step rest hskip hup hlong next m hget ih =>
    obtain ⟨n, hn⟩ := hhere
    exact hcons (ih ⟨m, hn.child ⟨hskip, hup, hlong⟩ hget⟩ h)
  | case8 => simp at h
  | case10 here step rest hskip hup hlong next target hget hmore links ih =>
    have hstart : ∃ mode, t.Stands (linkStart target here) (.dir mode) := by
      unfold linkStart
      split
      · exact ⟨_, .top⟩
      · exact hhere
    have hrest : rest ≠ [] := by simpa using hmore
    refine hcons ((ih hstart h).trans ?_)
    rw [List.getLast?_append, List.getLast?_eq_some_getLast hrest]
    rfl
  | case11 links here step hskip hup hlong next found hdir hlink hget =>
    simp only [Except.ok.injEq, Place.found.injEq] at h
    obtain ⟨rfl, -⟩ := h
    simp [next]
  | case4 | case5 | case6 | case9 | case12 => cases h

/-- The real path of `p` is that of a regular file, and not of a link to one. -/
def RealFile (t : Tree) (cwd : Location) (p : Path) (place : Location) (bytes : Bytes)
    (mode : Nat) : Prop :=
  ∃ real, t.resolve cwd p = .ok real ∧
    t.walk false linkLimit [] real = .ok (.found place (.file bytes mode))

/-- So it is wherever the system finds a file. -/
theorem realFile_of_entry (hcwd : ∃ mode, t.Stands cwd (.dir mode))
    (h : t.entryAt? cwd true p = .ok (place, .file bytes mode)) :
    t.RealFile cwd p place bytes mode :=
  ⟨place, resolve_of_entry h, (Stands.of_entry hcwd h).1.walk_eq fun hf => nomatch hf⟩

theorem RealFile.get?_eq (h : t.RealFile cwd p place bytes mode) :
    t.get? place = some (.file bytes mode) := by
  obtain ⟨real, -, hwalk⟩ := h
  exact (Stands.of_walk ⟨_, .top⟩ hwalk).1.get?_eq

/-- What a replacement of a file does if it gets that far: the file there is moved over, and the
temporary file stands beside it under a name of its own. -/
theorem RealFile.draft (h : t.RealFile cwd p place bytes mode)
    (hdraft : t.draft faults marks cwd p content = .ok d) :
    d.target = place ∧ d.bytes = Text.encode content ∧ d.mode = mode ∧
      d.temp ≠ [] ∧ t.get? d.temp = none ∧
      ∃ name, place.getLast? = some name ∧
        ∃ mark ∈ marks, d.temp = place.dropLast ++ [Draft.temporaryName name mark] := by
  obtain ⟨real, hreal, hwalk⟩ := h
  obtain ⟨real', old, followed, last, hreal', hnamed, hreached, htemp, hfree, hbytes, hmode⟩ :=
    draft_spec hdraft
  obtain rfl : real = real' := Except.ok.inj (hreal.symm.trans hreal')
  have hnamed' := hwalk.symm.trans (entryAt?_eq_ok_iff.mp hnamed).2.2
  have hreached' := (walk_true_of_false hwalk rfl).symm.trans (entryAt?_eq_ok_iff.mp hreached).2.2
  simp only [Except.ok.injEq, Place.found.injEq] at hnamed' hreached'
  obtain ⟨rfl, rfl⟩ := hnamed'
  obtain ⟨rfl, rfl⟩ := hreached'
  have hlast := getLast?_of_walk ⟨_, .top⟩ hwalk
  have hplace : d.target ≠ [] :=
    place_ne_nil_of_file (Stands.of_walk ⟨_, .top⟩ hwalk).1.get?_eq
  have hname : d.target.getLast? = some (d.target.getLast hplace) :=
    List.getLast?_eq_some_getLast hplace
  obtain ⟨mark, hmark, hbeside⟩ := temp_of_draft hreal hdraft
  refine ⟨rfl, hbytes, hmode, htemp, hfree, _, hname, mark, hmark, ?_⟩
  rw [hbeside, Path.name, show (Path.ofNames real).parts = real from rfl, ← hlast, hname]
  rfl

/-- What a replacement leaves if it is cut short after some of its effects. If it fails before the
first of them, nothing has happened. -/
def cutShort (t : Tree) (faults : Faults) (marks : List String) (cwd : Location) (p : Path)
    (content : String) (count : Nat) : Tree :=
  match t.draft faults marks cwd p content with
  | .error _ => t
  | .ok d => d.after ((d.effects faults t).take count) t

theorem RealFile.walk_eq (h : t.RealFile cwd p place bytes mode) {real : Location}
    (hreal : t.resolve cwd p = .ok real) :
    t.walk false linkLimit [] real = .ok (.found place (.file bytes mode)) := by
  obtain ⟨there, hthere, hwalk⟩ := h
  rwa [Except.ok.inj (hreal.symm.trans hthere)]

end Tree
end BatchFormat
