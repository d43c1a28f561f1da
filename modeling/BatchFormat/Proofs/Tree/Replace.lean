import BatchFormat.Proofs.Tree.RealPath
import BatchFormat.Tree.Replace

/-!
# Replacing a file is all or nothing

A replacement that fails at any of its steps leaves the very same tree. One that succeeds changes
the entry at a single place. It is written through to the file that the path resolves to, unless
the real path still ends in a link, which takes a path that runs in a circle; such a link is
overwritten.
-/
namespace BatchFormat

namespace Draft

variable {t : Tree} {d : Draft} {faults : Faults} {dir place : Location} {p : Path}
  {marks : List String}

/-- A temporary file is never made in the place of something else. -/
theorem freePlace_spec (h : freePlace t dir p marks = .ok place) :
    place ≠ [] ∧ t.get? place = none := by
  induction marks with
  | nil => cases h
  | cons mark marks ih =>
    simp only [freePlace] at h
    split at h
    · cases h
    · split at h
      · exact ih h
      · next hfree =>
        cases h
        exact ⟨by simp, by simpa using hfree⟩

/-- The tree right before the new file is moved into place. -/
theorem setMode_eq : d.setMode (d.finish (d.create t)) = t.put d.temp (.file d.bytes d.mode) := by
  rw [setMode, finish, create, Tree.put_put, Tree.put_put]

theorem of_refusal?_eq_none (h : d.refusal? faults t = none) :
    d.target ≠ [] ∧ (t.get? d.target).any Entry.isDir = false := by
  simp only [refusal?] at h
  split at h
  · cases h
  · split at h
    · cases h
    · next hplace =>
      split at h
      · cases h
      · next hdir => exact ⟨hplace, by simpa using hdir⟩

/-- Going through the effects either undoes them all or puts the new file in its place, which then
was neither the top nor that of a directory. -/
theorem carryOut_cases (faults : Faults) (htemp : d.temp ≠ []) (hfree : t.get? d.temp = none)
    (hne : d.target ≠ d.temp) :
    (∃ e, d.carryOut faults t = (.error e, t)) ∨
      (d.carryOut faults t = (.ok (), t.put d.target (.file d.bytes d.mode)) ∧
        d.target ≠ [] ∧ (t.get? d.target).any Entry.isDir = false) := by
  have hundo : ∀ e, (t.put d.temp e).erase d.temp = t := fun e => Tree.erase_put htemp hfree
  unfold carryOut
  split
  · next count hwrite =>
    left
    rw [discard, fill, create, Tree.put_put, hundo]
    exact ⟨_, rfl⟩
  · split
    · left
      rw [discard, finish, create, Tree.put_put, hundo]
      exact ⟨_, rfl⟩
    · rw [setMode_eq]
      cases hrefusal : d.refusal? faults (t.put d.temp (.file d.bytes d.mode)) with
      | some e =>
        left
        exact ⟨e, by simp only [hrefusal, discard, hundo]⟩
      | none =>
        right
        have hspec := of_refusal?_eq_none hrefusal
        rw [Tree.get?_put_of_ne hne] at hspec
        exact ⟨by simp only [hrefusal, publish, hundo], hspec⟩

end Draft

namespace Tree

variable {t u : Tree} {faults : Faults} {marks : List String} {cwd place : Location}
  {p : Path} {content : String} {entry old : Entry}

/-! ## What a replacement does -/

/-- What a successful replacement finds: the real path, the entry that has it, which is moved over,
and the entry that it leads to, which gives the mode. -/
structure Target (t : Tree) (cwd : Location) (p : Path) (real : Location) (place : Location)
    (old followed : Entry) : Prop where
  resolved : t.resolve cwd p = .ok real
  named : t.entryAt? [] false (Path.ofNames real) = .ok (place, old)
  reached : ∃ last, t.entryAt? [] true (Path.ofNames real) = .ok (last, followed)
  stands : t.Stands place old
  below : place ≠ []
  notDir : old.isDir = false

/-- What a draft has been drawn from: the real path, what stands there, a temporary name that is
free, and the mode of the file that the path leads to. -/
theorem draft_spec {d : Draft} (h : t.draft faults marks cwd p content = .ok d) :
    ∃ real old followed last, t.resolve cwd p = .ok real ∧
      t.entryAt? [] false (Path.ofNames real) = .ok (d.target, old) ∧
      t.entryAt? [] true (Path.ofNames real) = .ok (last, followed) ∧
      d.temp ≠ [] ∧ t.get? d.temp = none ∧
      d.bytes = Text.encode content ∧ d.mode = followed.mode := by
  simp only [draft, bind, Except.bind] at h
  split at h
  · cases h
  · next real hreal =>
    split at h
    · cases h
    · next found hfound =>
      split at h
      · cases h
      · next named hnamed =>
        split at h
        · cases h
        · next temp htemp =>
          split at h
          · cases h
          · cases h
            obtain ⟨hne, hfree⟩ := Draft.freePlace_spec htemp
            exact ⟨real, named.2, found.2, found.1, hreal, hnamed, hfound, hne, hfree, rfl, rfl⟩

/-- A replacement fails and changes nothing, or it changes the one entry that the real path
names. -/
theorem replace_cases (t : Tree) (faults : Faults) (marks : List String) (cwd : Location) (p : Path)
    (content : String) :
    (∃ e, t.replace faults marks cwd p content = (.error e, t)) ∨
      ∃ real place old followed, Target t cwd p real place old followed ∧
        t.replace faults marks cwd p content =
          (.ok place, t.put place (.file (Text.encode content) followed.mode)) := by
  unfold replace
  cases hdraft : t.draft faults marks cwd p content with
  | error e => exact Or.inl ⟨e, rfl⟩
  | ok d =>
    obtain ⟨real, old, followed, last, hreal, hnamed, hreached, htemp, hfree, hbytes, hmode⟩ :=
      draft_spec hdraft
    have hstands : t.Stands d.target old :=
      (Stands.of_entry ⟨_, .top⟩ hnamed).1
    have hget := hstands.get?_eq
    have hne : d.target ≠ d.temp := by
      intro heq
      rw [heq, hfree] at hget
      cases hget
    rcases Draft.carryOut_cases faults htemp hfree hne with ⟨e, hfail⟩ | ⟨hdone, hbelow, hdir⟩
    · exact Or.inl ⟨e, by simp [hfail, Except.map]⟩
    · refine Or.inr ⟨real, d.target, old, followed,
        ⟨hreal, hnamed, ⟨last, hreached⟩, hstands, hbelow, ?_⟩, ?_⟩
      · simpa [hget] using hdir
      · simp [hdone, hbytes, hmode, Except.map]

/-- The entry that a path resolves to: its real path is looked up, following every link. -/
def ResolvesTo (t : Tree) (cwd : Location) (p : Path) (place : Location) (entry : Entry) : Prop :=
  ∃ real, t.resolve cwd p = .ok real ∧ t.entryAt? [] true (Path.ofNames real) = .ok (place, entry)

/-- The file that a path resolves to has new content and its old mode, the path still resolves to
it, and nothing else is different: no entry is new, gone, or another. -/
def WrittenThrough (t after : Tree) (cwd : Location) (p : Path) (content : String) : Prop :=
  ∃ place old, t.ResolvesTo cwd p place old ∧
    after.ResolvesTo cwd p place (.file (Text.encode content) old.mode) ∧
    (∀ other, other ≠ place → after.get? other = t.get? other) ∧ after.places = t.places

variable {real : Location} {followed : Entry} {bytes : Bytes} {mode : Nat}

/-- A new file in the place of one does not turn any look-up. -/
theorem Parallel.put_file (h : place ≠ []) (hget : t.get? place = some old)
    (hhalt : old.passage = .halt) : Parallel t (t.put place (.file bytes mode)) := by
  intro other
  by_cases heq : other = place
  · subst heq
    rw [hget, get?_put_self h]
    exact congrArg some hhalt
  · rw [get?_put_of_ne heq]

/-- What is moved over is what the path resolves to, unless it is a link. -/
theorem Target.eq_followed (h : Target t cwd p real place old followed)
    (hlink : old.isLink = false) : t.ResolvesTo cwd p place old ∧ followed = old := by
  obtain ⟨hnul, hlong, hwalk⟩ := entryAt?_eq_ok_iff.mp h.named
  have htrue : t.entryAt? [] true (Path.ofNames real) = .ok (place, old) :=
    entryAt?_eq_ok_iff.mpr ⟨hnul, hlong, walk_true_of_false hwalk hlink⟩
  obtain ⟨last, hreached⟩ := h.reached
  rw [htrue] at hreached
  cases hreached
  exact ⟨⟨real, h.resolved, htrue⟩, rfl⟩

/-- Where the real path is no link, the new text is found through the path that was given. -/
theorem Target.writtenThrough (h : Target t cwd p real place old followed)
    (hlink : old.isLink = false) :
    WrittenThrough t (t.put place (.file (Text.encode content) followed.mode)) cwd p content := by
  obtain ⟨hbefore, rfl⟩ := h.eq_followed hlink
  have hget := h.stands.get?_eq
  have hpar : Parallel t (t.put place (.file (Text.encode content) followed.mode)) :=
    .put_file h.below hget (passage_halt_of_not h.notDir hlink)
  have hplaces : (t.put place (.file (Text.encode content) followed.mode)).places = t.places :=
    places_put h.below hget
  refine ⟨place, followed, hbefore, ⟨real, ?_, ?_⟩, fun other => get?_put_of_ne, hplaces⟩
  · rw [hpar.resolve_eq hplaces]
    exact h.resolved
  · obtain ⟨r, hr, hentry⟩ := hbefore
    have heq : real = r := Except.ok.inj (h.resolved.symm.trans hr)
    subst heq
    obtain ⟨hnul, hlong, hwalk⟩ := entryAt?_eq_ok_iff.mp hentry
    refine entryAt?_eq_ok_iff.mpr ⟨hnul, hlong, ?_⟩
    rw [hpar.walk_eq, show Path.origin [] (Path.ofNames real) = [] from rfl]
    rw [show Path.origin [] (Path.ofNames real) = [] from rfl] at hwalk
    simp [hwalk, Except.map, Place.seenIn, get?_put_self h.below]

/-- Looking for a link where the real path leads is looking at what is moved over. -/
theorem Target.isLink_eq (h : Target t cwd p real place old followed) :
    t.isLink [] (Path.ofNames real) = .ok old.isLink := by
  simp [isLink, probe, h.named, Except.map]

/-- Moving a file over a link is not writing through it. -/
theorem Target.not_writtenThrough (h : Target t cwd p real place old followed)
    (hlink : old.isLink = true) :
    ¬WrittenThrough t (t.put place (.file (Text.encode content) followed.mode)) cwd p content := by
  rintro ⟨other, entry, ⟨r, hr, hentry⟩, -, hframe, -⟩
  have hstands := Stands.of_entry ⟨_, .top⟩ hentry
  have hne : place ≠ other := by
    intro heq
    have hsame : some old = some entry := by
      rw [← h.stands.get?_eq, heq, hstands.1.get?_eq]
    cases hsame
    rw [hstands.2 rfl] at hlink
    cases hlink
  have hover := hframe place hne
  rw [get?_put_self h.below, h.stands.get?_eq] at hover
  cases hover
  cases hlink

/-- The file is written through the path exactly if its real path is no link. -/
theorem Target.writtenThrough_iff (h : Target t cwd p real place old followed) :
    WrittenThrough t (t.put place (.file (Text.encode content) followed.mode)) cwd p content ↔
      ∀ real, t.resolve cwd p = .ok real → t.isLink [] (Path.ofNames real) = .ok false := by
  constructor
  · intro hthrough r hr
    rw [h.resolved] at hr
    cases hr
    rw [h.isLink_eq]
    cases hlink : old.isLink with
    | false => rfl
    | true => exact (h.not_writtenThrough hlink hthrough).elim
  · intro hall
    have hlink := hall real h.resolved
    rw [h.isLink_eq] at hlink
    exact h.writtenThrough (Except.ok.inj hlink)

/-- Where a look-up finds the path, what it finds is what the real path leads to. -/
theorem Target.of_entry (h : Target t cwd p real place old followed)
    (hcwd : ∃ mode, t.Stands cwd (.dir mode)) {found : Location × Entry}
    (hentry : t.entryAt? cwd true p = .ok found) :
    found.1 = place ∧ found.2 = old ∧ old.isLink = false := by
  obtain ⟨hstands, hlink⟩ := Stands.of_entry hcwd hentry
  have hreal : found.1 = real := by
    have hresolve : t.resolve cwd p = .ok found.1 := resolve_of_entry hentry
    exact Except.ok.inj (hresolve.symm.trans h.resolved)
  have hnamed := (entryAt?_eq_ok_iff.mp h.named).2.2
  have hwalk : t.walk false linkLimit [] found.1 = .ok (.found found.1 found.2) :=
    hstands.walk_eq fun hf => nomatch hf
  rw [hreal] at hwalk
  have hsame := hwalk.symm.trans hnamed
  simp only [Except.ok.injEq, Place.found.injEq] at hsame
  obtain ⟨rfl, hold⟩ := hsame
  exact ⟨hreal, hold, hold ▸ hlink rfl⟩

/-- The entry that was moved over is found where the path leads afterwards. -/
theorem entryAt?_put_file (hentry : t.entryAt? cwd true p = .ok (place, old)) (hbelow : place ≠ [])
    (hget : t.get? place = some old) (hhalt : old.passage = .halt) :
    (t.put place (.file bytes mode)).entryAt? cwd true p = .ok (place, .file bytes mode) := by
  obtain ⟨hnul, hlong, hwalk⟩ := entryAt?_eq_ok_iff.mp hentry
  refine entryAt?_eq_ok_iff.mpr ⟨hnul, hlong, ?_⟩
  rw [(Parallel.put_file hbelow hget hhalt).walk_eq, hwalk]
  simp [Except.map, Place.seenIn, get?_put_self hbelow]

/-- A replacement that fails leaves the tree as it was. One that succeeds changes the entry at a
single place and adds and removes none. It is written through exactly where the real path does not
end in a link; so it is for every path that a look-up can follow. -/
theorem replace_all_or_nothing (t : Tree) (faults : Faults) (marks : List String) (cwd : Location)
    (p : Path) (content : String) :
    match t.replace faults marks cwd p content with
    | (.error _, after) => after = t
    | (.ok place, after) =>
      (∀ other, other ≠ place → after.get? other = t.get? other) ∧ after.places = t.places ∧
      (∃ mode, after.get? place = some (.file (Text.encode content) mode)) ∧
      (WrittenThrough t after cwd p content ↔
        ∀ real, t.resolve cwd p = .ok real → t.isLink [] (Path.ofNames real) = .ok false) ∧
      ((∃ mode, t.Stands cwd (.dir mode)) → ∀ found, t.entryAt? cwd true p = .ok found →
        WrittenThrough t after cwd p content ∧ found.1 = place ∧
        after.entryAt? cwd true p = .ok (place, .file (Text.encode content) found.2.mode)) := by
  rcases replace_cases t faults marks cwd p content with
    ⟨e, hfail⟩ | ⟨real, place, old, followed, htarget, hdone⟩
  · rw [hfail]
  · rw [hdone]
    refine ⟨fun other => get?_put_of_ne, places_put htarget.below htarget.stands.get?_eq,
      ⟨_, get?_put_self htarget.below⟩, htarget.writtenThrough_iff, ?_⟩
    intro hcwd found hfound
    obtain ⟨hplace, hold, hlink⟩ := htarget.of_entry hcwd hfound
    have hfollowed := (htarget.eq_followed hlink).2
    have hentry : t.entryAt? cwd true p = .ok (place, old) := by
      rw [hfound, ← hplace, ← hold]
    refine ⟨htarget.writtenThrough hlink, hplace, ?_⟩
    rw [hold, hfollowed]
    exact entryAt?_put_file hentry htarget.below htarget.stands.get?_eq
      (passage_halt_of_not htarget.notDir hlink)

def loopAndLink : Tree :=
  ⟨[(["loop"], .link "loop"), (["link"], .link "t.txt"),
    (["t.txt"], .file (Text.encode "old") 0o640)]⟩

theorem loopAndLink_resolve :
    loopAndLink.resolve [] ⟨.relative, ["loop", "..", "link"]⟩ = .ok ["link"] := by
  have hloop : Path.pieces "loop" = ["loop"] := by decide
  have hshort : ¬4095 < "/link".utf8ByteSize ∧ ¬255 < "link".utf8ByteSize ∧
      ¬255 < "t.txt".utf8ByteSize := by decide
  have hfile : Path.pieces "t.txt" = ["t.txt"] := by decide
  simp [resolve, realFrom, loopAndLink, get?, placeOf, foldStep, unfoldLimit, linkLimit, locate,
    walk, linkStart, abandon, continueAs, pathLimit, nameLimit, Path.child, Path.isAnchored,
    Path.origin, Path.ofNames, Path.text, Path.Anchor.text, Path.holdsNul, List.lookup_cons, hloop,
    hfile, hshort]

theorem loopAndLink_replace :
    loopAndLink.replace .none ["x"] [] (Path.ofString "loop/../link") "new" =
      (.ok ["link"], loopAndLink.put ["link"] (.file (Text.encode "new") 0o640)) := by
  have hpath : Path.ofString "loop/../link" = ⟨.relative, ["loop", "..", "link"]⟩ := by decide
  have hget : loopAndLink.get? ["link"] = some (.link "t.txt") ∧
      loopAndLink.get? ["t.txt"] = some (.file (Text.encode "old") 0o640) := ⟨rfl, rfl⟩
  have hname : IsName "link" ∧ IsName "t.txt" :=
    ⟨⟨by decide, by decide, by decide⟩, by decide, by decide, by decide⟩
  have hnamed : loopAndLink.entryAt? [] false (Path.ofNames ["link"]) =
      .ok (["link"], .link "t.txt") :=
    entryAt?_eq_ok_iff.mpr ⟨by decide, by decide, walk_link_last hname.1 hget.1⟩
  have hreached : loopAndLink.entryAt? [] true (Path.ofNames ["link"]) =
      .ok (["t.txt"], .file (Text.encode "old") 0o640) := by
    refine entryAt?_eq_ok_iff.mpr ⟨by decide, by decide, ?_⟩
    exact (walk_onward hname.1 hget.1 (by decide)).trans (walk_halt hname.2 hget.2 rfl)
  have hdraft : loopAndLink.draft .none ["x"] [] ⟨.relative, ["loop", "..", "link"]⟩ "new" =
      .ok ⟨Path.ofNames ["link"], [".link.x.tmp"], ["link"], Text.encode "new", 0o640⟩ := by
    simp only [draft, loopAndLink_resolve, hnamed, hreached, bind, Except.bind]
    rfl
  rw [hpath, replace, hdraft]
  rfl

/-- After a path that runs in a circle a link may be left, and it is overwritten: it becomes a
file of its own, while what it pointed to stays as it was. -/
theorem replace_not_writtenThrough_of_circle :
    ∃ after, loopAndLink.replace .none ["x"] [] (Path.ofString "loop/../link") "new" =
        (.ok ["link"], after) ∧
      loopAndLink.get? ["link"] = some (.link "t.txt") ∧
      after.get? ["link"] = some (.file (Text.encode "new") 0o640) ∧
      after.get? ["t.txt"] = some (.file (Text.encode "old") 0o640) ∧
      ¬WrittenThrough loopAndLink after [] (Path.ofString "loop/../link") "new" := by
  refine ⟨_, loopAndLink_replace, rfl, rfl, rfl, ?_⟩
  rcases replace_cases loopAndLink .none ["x"] [] (Path.ofString "loop/../link") "new" with
    ⟨e, hfail⟩ | ⟨real, place, old, followed, htarget, hdone⟩
  · rw [loopAndLink_replace] at hfail
    cases hfail
  · rw [loopAndLink_replace] at hdone
    have hplace : ["link"] = place := Except.ok.inj (congrArg Prod.fst hdone)
    have hafter : loopAndLink.put ["link"] (.file (Text.encode "new") 0o640) =
        loopAndLink.put place (.file (Text.encode "new") followed.mode) := congrArg Prod.snd hdone
    rw [hafter]
    have hold := htarget.stands.get?_eq
    subst hplace
    refine htarget.not_writtenThrough ?_
    cases hold
    rfl

end Tree
end BatchFormat
