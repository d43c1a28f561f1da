import BatchFormat.Proofs.Tree.Lookup
import BatchFormat.Tree.Real

/-!
# Real paths and look-ups

The system follows links on its way; a real path is found by unfolding them beforehand, each link
once, with the way back kept on a stack. Both end at the same place: wherever a look-up finds an
entry, the path to it has a real path, which is the place of that entry. In particular such a path
never runs in a circle. The converse fails: a path that no look-up can walk may have a real path.
-/
namespace BatchFormat.Tree

variable {t : Tree} {cwd here there place : Location} {xs ys zs : List String} {j k n : Nat}
  {entry : Entry}

/-! ## Stages of one look-up -/

/-- Every look-up that has to take the steps `xs` from `here` comes to take `ys` from `there`,
following at least `k` links on the way; what comes after these steps does not matter. -/
def Leads (t : Tree) (k : Nat) (here : Location) (xs : List String) (there : Location)
    (ys : List String) : Prop :=
  ∀ n rest place entry, t.walk true n here (xs ++ rest) = .ok (.found place entry) →
    ∃ m, m + k ≤ n ∧ t.walk true m there (ys ++ rest) = .ok (.found place entry)

theorem Leads.trans {mid : Location} (h : Leads t j here xs mid ys)
    (h' : Leads t k mid ys there zs) : Leads t (j + k) here xs there zs := by
  intro n rest place entry hwalk
  obtain ⟨m, hm, hmid⟩ := h n rest place entry hwalk
  obtain ⟨l, hl, hthere⟩ := h' m rest place entry hmid
  exact ⟨l, by omega, hthere⟩

theorem Leads.append (h : Leads t k here xs there ys) (zs : List String) :
    Leads t k here (xs ++ zs) there (ys ++ zs) := by
  intro n rest place entry hwalk
  rw [List.append_assoc] at hwalk
  rw [List.append_assoc]
  exact h n (zs ++ rest) place entry hwalk

theorem Leads.weaken (h : Leads t k here xs there ys) (hj : j ≤ k) :
    Leads t j here xs there ys := by
  intro n rest place entry hwalk
  obtain ⟨m, hm, hthere⟩ := h n rest place entry hwalk
  exact ⟨m, by omega, hthere⟩

theorem Leads.of_walk_eq
    (h : ∀ n rest, t.walk true n here (xs ++ rest) = t.walk true n there (ys ++ rest)) :
    Leads t 0 here xs there ys :=
  fun n rest _ _ hwalk => ⟨n, Nat.le_refl n, (h n rest).symm.trans hwalk⟩

/-- A step that has to be taken again before it is done is never done: each round would use up
another link. -/
theorem Leads.not_found_of_circle {x : String} (h : Leads t 1 here [x] here (x :: xs)) :
    ∀ n rest place entry, t.walk true n here (x :: rest) ≠ .ok (.found place entry) := by
  intro n
  induction n using Nat.strongRecOn with
  | ind n ih =>
    intro rest place entry hwalk
    obtain ⟨m, hm, hagain⟩ := h n rest place entry hwalk
    exact ih m (by omega) (xs ++ rest) place entry hagain

theorem isName_of_walk {step : String} {rest : List String} (hskip : ¬(step = "" ∨ step = "."))
    (hup : ¬step = "..") (h : t.walk true n here (step :: rest) = .ok (.found place entry)) :
    IsName step := by
  refine ⟨hskip, hup, fun hlong => ?_⟩
  rw [walk_long hskip hup hlong] at h
  cases h

/-- A name of anything but a link. -/
theorem Leads.name {name : String} (hskip : ¬(name = "" ∨ name = ".")) (hup : ¬name = "..")
    (hlink : ∀ target, t.get? (here ++ [name]) = some (.link target) → False) :
    Leads t 0 here (name :: xs) (here ++ [name]) xs := by
  intro n rest place entry hwalk
  have hname := isName_of_walk hskip hup hwalk
  refine ⟨n, Nat.le_refl n, ?_⟩
  cases hget : t.get? (here ++ [name]) with
  | none =>
    rw [List.cons_append, walk_absent hname hget] at hwalk
    split at hwalk <;> cases hwalk
  | some e =>
    cases hpass : e.passage with
    | through =>
      cases e with
      | dir mode => rwa [List.cons_append, walk_through hname hget] at hwalk
      | file | fifo | link => cases hpass
    | onward target =>
      cases e with
      | link _ => exact (hlink _ hget).elim
      | file | fifo | dir => cases hpass
    | halt =>
      rw [List.cons_append, walk_halt hname hget hpass] at hwalk
      split at hwalk
      · next hend =>
        rw [hend, walk_nil, hget]
        exact hwalk
      · cases hwalk

/-- A name of a link. -/
theorem Leads.link {name target : String} (hskip : ¬(name = "" ∨ name = ".")) (hup : ¬name = "..")
    (hget : t.get? (here ++ [name]) = some (.link target)) :
    Leads t 1 here [name] (linkStart target here) (Path.pieces target) := by
  intro n rest place entry hwalk
  have hname := isName_of_walk hskip hup hwalk
  cases n with
  | zero =>
    rw [List.singleton_append, walk_spent hname hget (by simp)] at hwalk
    cases hwalk
  | succ n =>
    rw [List.singleton_append, walk_onward hname hget (by simp)] at hwalk
    exact ⟨n, Nat.le_refl _, hwalk⟩

/-! ## Places of settled paths -/

/-- A path without idle names whose double dots all lie beyond the current directory. -/
def IsSettled (p : Path) : Prop :=
  ∀ name ∈ p.parts, ¬(name = "" ∨ name = ".") ∧ (name = ".." → p.anchor = .relative)

theorem isSettled_of_parts_nil {p : Path} (h : p.parts = []) : IsSettled p := by
  intro name hname
  simp [h] at hname

theorem IsSettled.child {p : Path} {name : String} (h : IsSettled p)
    (hskip : ¬(name = "" ∨ name = ".")) (hup : ¬name = "..") : IsSettled (p.child name) := by
  intro other hother
  rcases List.mem_append.mp hother with hold | hnew
  · exact h other hold
  · rw [List.mem_singleton] at hnew
    subst hnew
    exact ⟨hskip, fun heq => (hup heq).elim⟩

theorem IsSettled.above {p : Path} (h : IsSettled p) : IsSettled (above p) := by
  unfold Tree.above
  split
  · next hout =>
    intro other hother
    rcases List.mem_append.mp hother with hold | hnew
    · exact h other hold
    · rw [List.mem_singleton] at hnew
      subst hnew
      exact ⟨by decide, fun _ => hout.1⟩
  · exact fun other hother => h other ((List.dropLast_subset _) hother)

theorem placeOf_child {p : Path} {name : String} (hskip : ¬(name = "" ∨ name = "."))
    (hup : ¬name = "..") : placeOf cwd (p.child name) = placeOf cwd p ++ [name] := by
  change (p.parts ++ [name]).foldl foldStep (p.origin cwd) = _
  rw [List.foldl_append, List.foldl_cons, List.foldl_nil, foldStep, if_neg hskip, if_neg hup]
  rfl

/-- Above a settled path is the directory that holds it. -/
theorem placeOf_above {p : Path} (h : IsSettled p) :
    placeOf cwd (above p) = (placeOf cwd p).dropLast := by
  unfold above
  split
  · change (p.parts ++ [".."]).foldl foldStep (p.origin cwd) = _
    rw [List.foldl_append]
    rfl
  · next hin =>
    change p.parts.dropLast.foldl foldStep (p.origin cwd) = _
    cases hlast : p.parts.getLast? with
    | none =>
      have hnil : p.parts = [] := List.getLast?_eq_none_iff.mp hlast
      have htop : p.anchor ≠ .relative := fun hrel => hin ⟨hrel, Or.inl hnil⟩
      simp [placeOf, Path.origin, hnil, htop]
    | some name =>
      obtain ⟨front, hparts⟩ := List.getLast?_eq_some_iff.mp hlast
      obtain ⟨hskip, hrel⟩ := h name (by simp [hparts])
      have hup : ¬name = ".." := fun heq =>
        hin ⟨hrel heq, Or.inr (by simp [Path.name, hparts, heq])⟩
      simp [placeOf, hparts, foldStep, hskip, hup]

/-- Where the walk takes up the target of a link that stands in `p`. -/
theorem isSettled_start {p : Path} (h : IsSettled p) (target : String) :
    IsSettled (if Path.isAnchored target then ⟨.top, []⟩ else p) := by
  split
  · exact isSettled_of_parts_nil rfl
  · exact h

theorem linkStart_eq_placeOf (target : String) (p : Path) :
    linkStart target (placeOf cwd p) =
      placeOf cwd (if Path.isAnchored target then ⟨.top, []⟩ else p) := by
  unfold linkStart
  split <;> rfl

/-! ## The walk that unfolds links -/

/-- The last name of a path is that of a link, from which a look-up comes to take `ys` from
`there`. -/
def Unfolds (t : Tree) (cwd : Location) (link : Path) (there : Location) (ys : List String) :
    Prop :=
  Leads t 1 (placeOf cwd link.parent) [link.name] there ys

/-- All the links that are being unfolded, the innermost first: each of them leads to where the
walk stands, with the pieces that are left inside of it still to take. -/
def AllUnfold (t : Tree) (cwd : Location) (here : Location) : List String → List Unfolding → Prop
  | _, [] => True
  | pieces, u :: outer =>
    Unfolds t cwd u.link here pieces ∧ AllUnfold t cwd here (pieces ++ u.rest) outer

theorem AllUnfold.step {outer : List Unfolding} (h : AllUnfold t cwd here xs outer)
    (hlead : Leads t 0 here xs there ys) : AllUnfold t cwd there ys outer := by
  induction outer generalizing xs ys with
  | nil => trivial
  | cons u outer ih => exact ⟨h.1.trans hlead, ih h.2 (hlead.append u.rest)⟩

theorem AllUnfold.of_mem {outer : List Unfolding} (h : AllUnfold t cwd here xs outer)
    {u : Unfolding} (hu : u ∈ outer) : ∃ zs, Unfolds t cwd u.link here (xs ++ zs) := by
  induction outer generalizing xs with
  | nil => cases hu
  | cons v outer ih =>
    rcases List.mem_cons.mp hu with rfl | hmem
    · exact ⟨[], by simpa using h.1⟩
    · obtain ⟨zs, hzs⟩ := ih h.2 hmem
      exact ⟨v.rest ++ zs, by simpa using hzs⟩

/-- What a walk knows on its way: the links it has resolved lead where it says, and those it has
not are being unfolded. -/
structure Underway (t : Tree) (cwd : Location) (seen : List (Path × Option Path)) (here : Path)
    (pieces : List String) (outer : List Unfolding) : Prop where
  settled : IsSettled here
  known : ∀ link there, seen.lookup link = some (some there) →
    IsSettled there ∧ Unfolds t cwd link (placeOf cwd there) []
  unknown : ∀ link, seen.lookup link = some none → ∃ u ∈ outer, u.link = link
  unfolding : AllUnfold t cwd (placeOf cwd here) pieces outer

variable {seen : List (Path × Option Path)} {p q : Path} {outer : List Unfolding}

theorem Underway.move (h : Underway t cwd seen p xs outer) (hq : IsSettled q)
    (hlead : Leads t 0 (placeOf cwd p) xs (placeOf cwd q) ys) : Underway t cwd seen q ys outer :=
  ⟨hq, h.known, h.unknown, h.unfolding.step hlead⟩

/-- The link in front is resolved: it leads to where the walk stands. -/
theorem Underway.resolved {u : Unfolding} (h : Underway t cwd seen p [] (u :: outer)) :
    Underway t cwd ((u.link, some p) :: seen) p u.rest outer where
  settled := h.settled
  known := by
    intro link there hlookup
    by_cases heq : link = u.link
    · subst heq
      have hthere : p = there := by simpa using hlookup
      exact hthere ▸ ⟨h.settled, h.unfolding.1⟩
    · rw [List.lookup_cons, beq_false_of_ne heq] at hlookup
      exact h.known link there hlookup
  unknown := by
    intro link hlookup
    by_cases heq : link = u.link
    · simp [heq] at hlookup
    · rw [List.lookup_cons, beq_false_of_ne heq] at hlookup
      obtain ⟨v, hv, hlink⟩ := h.unknown link hlookup
      rcases List.mem_cons.mp hv with rfl | hmem
      · exact (heq hlink.symm).elim
      · exact ⟨v, hmem, hlink⟩
  unfolding := h.unfolding.2

/-- A link is met for the first time and its target is taken up. -/
theorem Underway.unfold {name : String} (h : Underway t cwd seen p (name :: xs) outer)
    (hq : IsSettled q) (hlead : Leads t 1 (placeOf cwd p) [name] (placeOf cwd q) ys) :
    Underway t cwd ((p.child name, none) :: seen) q ys (⟨p.child name, xs⟩ :: outer) where
  settled := hq
  known := by
    intro link there hlookup
    by_cases heq : link = p.child name
    · simp [heq] at hlookup
    · rw [List.lookup_cons, beq_false_of_ne heq] at hlookup
      exact h.known link there hlookup
  unknown := by
    intro link hlookup
    by_cases heq : link = p.child name
    · exact ⟨_, List.mem_cons_self, heq.symm⟩
    · rw [List.lookup_cons, beq_false_of_ne heq] at hlookup
      obtain ⟨v, hv, hlink⟩ := h.unknown link hlookup
      exact ⟨v, List.mem_cons_of_mem _ hv, hlink⟩
  unfolding := by
    refine ⟨?_, h.unfolding.step ((hlead.weaken (Nat.zero_le 1)).append xs)⟩
    simpa [Unfolds, Path.child, Path.parent, Path.name] using hlead

/-- On the way to something that a look-up finds, no link is met again while it is unfolded. -/
theorem Underway.not_circle {name : String} (h : Underway t cwd seen p (name :: xs) outer)
    (hseen : seen.lookup (p.child name) = some none) {rest : List String} :
    t.walk true n (placeOf cwd p) (name :: rest) ≠ .ok (.found place entry) := by
  obtain ⟨u, hu, hlink⟩ := h.unknown _ hseen
  obtain ⟨zs, hzs⟩ := h.unfolding.of_mem hu
  have hcircle : Leads t 1 (placeOf cwd p) [name] (placeOf cwd p) (name :: (xs ++ zs)) := by
    simpa [Unfolds, hlink, Path.child, Path.parent, Path.name] using hzs
  exact hcircle.not_found_of_circle n rest place entry

/-- The steps that are left to a look-up where the walk stands. -/
def remaining (pieces : List String) (outer : List Unfolding) : List String :=
  pieces ++ outer.flatMap Unfolding.rest

theorem Leads.use {m : Nat} (h : Leads t k here xs there ys) (hk : m ≤ n + k)
    (hwalk : t.walk true m here (remaining xs outer) = .ok (.found place entry)) :
    ∃ l, l ≤ n ∧ t.walk true l there (remaining ys outer) = .ok (.found place entry) := by
  obtain ⟨l, hl, hthere⟩ := h m _ place entry hwalk
  exact ⟨l, by omega, hthere⟩

/-- Where a look-up finds an entry, the walk that unfolds links ends at the same place. The walk
may unfold as many links as the look-up follows, so it is not stopped before. -/
theorem realFrom_of_walk {links : Nat} {pieces : List String}
    (hway : Underway t cwd seen p pieces outer)
    (hwalk : ∃ n, n ≤ links ∧
      t.walk true n (placeOf cwd p) (remaining pieces outer) = .ok (.found place entry)) :
    ∃ there, t.realFrom cwd links seen p pieces outer = .ok there ∧ placeOf cwd there = place := by
  fun_induction realFrom t cwd links seen p pieces outer with
  | case1 links seen here =>
    obtain ⟨n, -, hend⟩ := hwalk
    simp only [remaining, List.flatMap_nil, List.append_nil, walk_nil, Except.ok.injEq,
      Place.found.injEq] at hend
    exact ⟨here, rfl, hend.1⟩
  | case2 links seen here u outer ih => exact ih hway.resolved hwalk
  | case3 links seen here outer name rest hskip ih =>
    obtain ⟨n, hn, hfound⟩ := hwalk
    have hlead : Leads t 0 (placeOf cwd here) (name :: rest) (placeOf cwd here) rest :=
      .of_walk_eq fun _ _ => walk_skip hskip
    exact ih (hway.move hway.settled hlead) (hlead.use hn hfound)
  | case4 links seen here outer rest hskip ih =>
    obtain ⟨n, hn, hfound⟩ := hwalk
    have hlead : Leads t 0 (placeOf cwd here) (".." :: rest) (placeOf cwd (above here)) rest := by
      rw [placeOf_above hway.settled]
      exact .of_walk_eq fun _ _ => walk_up
    exact ih (hway.move hway.settled.above hlead) (hlead.use hn hfound)
  | case5 links seen here outer name rest hskip hup next target hget known hseen ih =>
    obtain ⟨n, hn, hfound⟩ := hwalk
    obtain ⟨hknown, hunfold⟩ := hway.known next known hseen
    have hlead : Leads t 0 (placeOf cwd here) (name :: rest) (placeOf cwd known) rest := by
      have hname : Leads t 1 (placeOf cwd here) [name] (placeOf cwd known) [] := by
        simpa [Unfolds, Path.child, Path.parent, Path.name, next] using hunfold
      exact (hname.weaken (Nat.zero_le 1)).append rest
    exact ih (hway.move hknown hlead) (hlead.use hn hfound)
  | case6 links seen here outer name rest hskip hup next target hget hseen =>
    -- a link that is met inside its own target would turn the look-up round for ever
    obtain ⟨n, -, hfound⟩ := hwalk
    exact (hway.not_circle hseen hfound).elim
  | case7 seen here outer name rest hskip hup next target hget hseen =>
    -- the look-up has to follow this link too, and has none left to follow either
    obtain ⟨n, hn, hfound⟩ := hwalk
    rw [placeOf_child hskip hup] at hget
    obtain ⟨m, hm, -⟩ := (Leads.link hskip hup hget).append rest n _ place entry hfound
    omega
  | case8 seen here outer name rest hskip hup next target hget hseen links ih =>
    obtain ⟨n, hn, hfound⟩ := hwalk
    rw [placeOf_child hskip hup] at hget
    have hlink := Leads.link hskip hup hget
    rw [linkStart_eq_placeOf] at hlink
    have hnext := (hlink.append rest).use hn hfound
    exact ih (hway.unfold (isSettled_start hway.settled target) hlink)
      (by simpa [remaining] using hnext)
  | case9 links seen here outer name rest hskip hup next hlink ih =>
    obtain ⟨n, hn, hfound⟩ := hwalk
    have hlead : Leads t 0 (placeOf cwd here) (name :: rest) (placeOf cwd next) rest := by
      have hplace : placeOf cwd next = placeOf cwd here ++ [name] := placeOf_child hskip hup
      rw [hplace]
      exact .name hskip hup (hplace ▸ hlink)
    exact ih (hway.move (hway.settled.child hskip hup) hlead) (hlead.use hn hfound)

/-! ## Trees with the same links -/

def SameLinks (t u : Tree) : Prop :=
  ∀ place target, t.get? place = some (.link target) ↔ u.get? place = some (.link target)

theorem SameLinks.refl (t : Tree) : SameLinks t t := fun _ _ => Iff.rfl

theorem SameLinks.trans {u v : Tree} (h : SameLinks t u) (h' : SameLinks u v) : SameLinks t v :=
  fun place target => (h place target).trans (h' place target)

theorem Parallel.sameLinks {u : Tree} (h : Parallel t u) : SameLinks t u :=
  fun _ _ => ⟨h.get?_link, h.symm.get?_link⟩

/-- Nothing that was added is a link. -/
theorem Extends.sameLinks {u : Tree} (h : Extends t u)
    (hadded : ∀ place target, t.get? place = none → u.get? place ≠ some (.link target)) :
    SameLinks t u := by
  intro place target
  refine ⟨h place (.link target), fun hlink => ?_⟩
  cases hget : t.get? place with
  | none => exact (hadded place target hget hlink).elim
  | some old => exact (h place old hget).symm.trans hlink

/-- Something new that is no link. -/
theorem SameLinks.put (hplace : place ≠ []) (hfree : t.get? place = none)
    (hlink : entry.isLink = false) : SameLinks t (t.put place entry) := by
  refine (Extends.put hfree entry).sameLinks fun other target hnone hget => ?_
  by_cases heq : other = place
  · rw [heq, get?_put_self hplace] at hget
    cases hget
    cases hlink
  · rw [get?_put_of_ne heq, hnone] at hget
    cases hget

/-- The walk that unfolds links sees nothing else of the tree. -/
theorem SameLinks.realFrom_eq {u : Tree} {links : Nat} {pieces : List String} (h : SameLinks t u) :
    u.realFrom cwd links seen p pieces outer = t.realFrom cwd links seen p pieces outer := by
  fun_induction realFrom t cwd links seen p pieces outer with
  | case1 => rw [realFrom]
  | case2 links seen here v outer ih => rw [realFrom, ih]
  | case3 links seen here outer name rest hskip ih => rw [realFrom, if_pos hskip, ih]
  | case4 links seen here outer rest hskip ih => rw [realFrom, if_neg hskip, if_pos rfl, ih]
  | case5 links seen here outer name rest hskip hup next target hget known hseen ih =>
    simp only [realFrom, if_neg hskip, if_neg hup, (h _ _).mp hget, hseen, next, ih]
  | case6 links seen here outer name rest hskip hup next target hget hseen =>
    simp only [realFrom, if_neg hskip, if_neg hup, (h _ _).mp hget, hseen, next]
  | case7 seen here outer name rest hskip hup next target hget hseen =>
    simp only [realFrom, if_neg hskip, if_neg hup, (h _ _).mp hget, hseen, next]
  | case8 seen here outer name rest hskip hup next target hget hseen links ih =>
    simp only [realFrom, if_neg hskip, if_neg hup, (h _ _).mp hget, hseen, next]
    exact ih
  | case9 links seen here outer name rest hskip hup next hlink ih =>
    cases hu : u.get? (placeOf cwd next) with
    | none => simp only [realFrom, if_neg hskip, if_neg hup, hu, next, ih]
    | some e =>
      cases e with
      | link target => exact (hlink target ((h _ _).mpr hu)).elim
      | dir _ => simp only [realFrom, if_neg hskip, if_neg hup, hu, next, ih]
      | file _ _ => simp only [realFrom, if_neg hskip, if_neg hup, hu, next, ih]
      | fifo _ => simp only [realFrom, if_neg hskip, if_neg hup, hu, next, ih]

/-- The system and the real path of a path agree: where a look-up finds an entry, the real path is
the place of that entry, even in a tree in which the entry is still missing. -/
theorem resolve_of_walk {u : Tree} {p : Path} (hsame : SameLinks t u)
    (hnul : Path.holdsNul p.text = false)
    (hwalk : u.walk true linkLimit (p.origin cwd) p.parts = .ok (.found place entry)) :
    t.resolve cwd p = .ok place := by
  unfold resolve
  simp only [hnul, Bool.false_eq_true, if_false]
  generalize hstart : (if p.anchor = .relative then ⟨.relative, []⟩ else ⟨.top, []⟩ : Path) = start
  obtain ⟨hparts, horigin⟩ : start.parts = [] ∧ placeOf cwd start = p.origin cwd := by
    unfold Path.origin
    split at hstart
    · next hrel => exact hstart ▸ ⟨rfl, by rw [if_pos hrel]; rfl⟩
    · next hrel => exact hstart ▸ ⟨rfl, by rw [if_neg hrel]; rfl⟩
  have hway : Underway u cwd [] start p.parts [] :=
    ⟨isSettled_of_parts_nil hparts, by simp, by simp, trivial⟩
  have hfound : ∃ there, u.realFrom cwd (t.unfoldLimit cwd p) [] start p.parts [] = .ok there ∧
      placeOf cwd there = place :=
    realFrom_of_walk hway
      ⟨linkLimit, Nat.le_add_right _ _, by simpa [remaining, horigin] using hwalk⟩
  obtain ⟨there, hreal, hplace⟩ := hfound
  rw [hsame.realFrom_eq] at hreal
  rw [hreal]
  exact congrArg Except.ok hplace

theorem resolve_of_entry {p : Path} (h : t.entryAt? cwd true p = .ok (place, entry)) :
    t.resolve cwd p = .ok place := by
  obtain ⟨hnul, -, hwalk⟩ := entryAt?_eq_ok_iff.mp h
  exact resolve_of_walk (.refl t) hnul hwalk

/-- Real paths depend on nothing but where links are and where they point. -/
theorem Parallel.resolve_eq {u : Tree} {p : Path} (h : Parallel t u)
    (hplaces : u.places = t.places) : u.resolve cwd p = t.resolve cwd p := by
  have hlength : u.entries.length = t.entries.length := by
    simpa [places] using congrArg List.length hplaces
  have hlocate : ∀ q, u.locate [] true q = (t.locate [] true q).map (Place.seenIn u) := by
    intro q
    unfold locate
    split
    · rfl
    · exact h.walk_eq
  unfold resolve unfoldLimit
  rw [h.sameLinks.realFrom_eq, hlength]
  split
  · rfl
  · split
    · rfl
    · next there hstopped =>
      simp only [hlocate]
      cases t.locate [] true (Path.ofNames (placeOf cwd there)) with
      | error cause => rfl
      | ok found => rfl

end BatchFormat.Tree
