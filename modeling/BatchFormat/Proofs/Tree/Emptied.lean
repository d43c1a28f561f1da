import BatchFormat.Proofs.Pairs
import BatchFormat.Proofs.Traverse.Questions

/-!
# Trees with emptied directories

When directories are emptied, what lay below them is gone, and every other entry stays as it is. A
look-up then comes to nothing, or to the place to which it led before; and one that starts beside
what is gone ends beside it.
-/
namespace BatchFormat.Tree

variable {t u : Tree} {cwd here place above : Location} {follow : Bool} {links : Nat}
  {xs rest steps : List String} {name : String} {entry : Entry} {mode : Nat} {dirs : List Path}
  {p d : Path}

/-- No place is kept twice, and the names are such as a system gives to entries. -/
structure Proper (t : Tree) : Prop where
  once : t.places.Nodup
  names : ∀ place ∈ t.places, ∀ name ∈ place, IsName name

/-- Whether a place lies below the one that a path leads to. -/
def isBelow (t : Tree) (cwd place : Location) (d : Path) : Bool :=
  match t.entryAt? cwd true d with
  | .ok (above, _) => above.isPrefixOf place && above != place
  | .error _ => false

/-- The tree with the directories emptied that some paths lead to. -/
def emptied (t : Tree) (cwd : Location) (dirs : List Path) : Tree :=
  ⟨t.entries.filter fun e => !dirs.any (t.isBelow cwd e.1)⟩

/-- A place that does not lie in any of these directories. -/
def Spares (t : Tree) (cwd : Location) (dirs : List Path) (place : Location) : Prop :=
  ∀ d ∈ dirs, t.isBelow cwd place d = false

theorem isBelow_iff (h : t.entryAt? cwd true d = .ok (above, entry)) :
    t.isBelow cwd place d = true ↔ above <+: place ∧ above ≠ place := by
  simp [isBelow, h]

/-! ## What is left -/

theorem spares_iff : t.Spares cwd dirs place ↔ dirs.any (t.isBelow cwd place) = false := by
  simp [Spares]

theorem isBelow_of_dropLast (h : t.isBelow cwd place.dropLast d = true) :
    t.isBelow cwd place d = true := by
  unfold isBelow at h ⊢
  split at h
  · next above _ _ =>
    simp only [Bool.and_eq_true, List.isPrefixOf_iff_prefix, bne_iff_ne, ne_eq] at h ⊢
    refine ⟨h.1.trans (List.dropLast_prefix place), ?_⟩
    rintro rfl
    exact h.2 (h.1.eq_of_length_le (by simp))
  · cases h

theorem Spares.dropLast (h : t.Spares cwd dirs place) : t.Spares cwd dirs place.dropLast :=
  fun d hd => Bool.eq_false_iff.mpr fun hbelow =>
    Bool.eq_false_iff.mp (h d hd) (isBelow_of_dropLast hbelow)

/-- The top lies in no directory. -/
theorem spares_top : t.Spares cwd dirs [] := by
  intro d hd
  unfold isBelow
  split
  · next above _ _ => cases above <;> rfl
  · rfl

theorem get?_emptied : (t.emptied cwd dirs).get? place =
    if dirs.any (t.isBelow cwd place) then none else t.get? place := by
  by_cases htop : place = []
  · subst htop
    rw [spares_iff.mp spares_top]
    rfl
  · rw [get?_eq_lookup htop, get?_eq_lookup htop]
    have hlookup :=
      lookup_filter_fst (fun place => !dirs.any (t.isBelow cwd place)) place t.entries
    rw [emptied, hlookup]
    cases dirs.any (t.isBelow cwd place) <;> rfl

theorem Spares.get?_eq (h : t.Spares cwd dirs place) :
    (t.emptied cwd dirs).get? place = t.get? place := by
  rw [get?_emptied, spares_iff.mp h]
  rfl

theorem spares_of_get? (h : (t.emptied cwd dirs).get? place = some entry) :
    t.Spares cwd dirs place := by
  rw [get?_emptied] at h
  split at h
  · cases h
  · next hnot => exact spares_iff.mpr (Bool.eq_false_iff.mpr hnot)

theorem emptied_extends (t : Tree) (cwd : Location) (dirs : List Path) :
    Extends (t.emptied cwd dirs) t := fun _ _ hget =>
  (spares_of_get? hget).get?_eq.symm.trans hget

theorem emptied_nil : t.emptied cwd [] = t := by
  simp [emptied]

theorem Proper.emptied (h : t.Proper) (cwd : Location) (dirs : List Path) :
    (t.emptied cwd dirs).places.Nodup :=
  h.once.sublist (List.filter_sublist.map Prod.fst)

/-! ## Look-ups -/

def Absent (result : Except Cause Place) : Prop :=
  result = .error .noEntry ∨ ∃ free, result = .ok (.vacant free)

/-- With fewer entries a look-up comes to nothing, or to the same place. -/
theorem Extends.walk_cases (h : Extends u t) :
    Absent (u.walk follow links here steps) ∨
      u.walk follow links here steps =
        (t.walk follow links here steps).map (Place.seenIn u) := by
  fun_induction walk u follow links here steps with
  | case1 links here =>
    right
    rw [walk_nil]
    rfl
  | case2 links here step rest hskip ih => rwa [walk_skip hskip]
  | case3 links here rest hskip ih => rwa [walk_up]
  | case4 links here step rest hskip hup hlong =>
    right
    rw [walk_long hskip hup hlong]
    rfl
  | case5 => exact Or.inl (Or.inr ⟨_, rfl⟩)
  | case6 => exact Or.inl (Or.inl rfl)
  | case7 links here step rest hskip hup hlong next mode hget ih =>
    rwa [walk_through ⟨hskip, hup, hlong⟩ (h _ _ hget)]
  | case8 links here step rest hskip hup hlong next target hget hlast =>
    obtain ⟨rfl, hstay⟩ := hlast
    obtain rfl : follow = false := by simpa using hstay
    right
    rw [walk_link_last ⟨hskip, hup, hlong⟩ (h _ _ hget)]
    simp [Except.map, Place.seenIn, next, hget]
  | case9 here step rest hskip hup hlong next target hget hmore =>
    right
    rw [walk_spent ⟨hskip, hup, hlong⟩ (h _ _ hget) hmore]
    rfl
  | case10 here step rest hskip hup hlong next target hget hmore links ih =>
    rwa [walk_onward ⟨hskip, hup, hlong⟩ (h _ _ hget) hmore]
  | case11 links here step hskip hup hlong next found hdir hlink hget =>
    right
    rw [walk_halt ⟨hskip, hup, hlong⟩ (h _ _ hget) (passage_eq_halt hdir hlink), if_pos rfl]
    simp [Except.map, Place.seenIn, next, hget]
  | case12 links here step rest hskip hup hlong next found hdir hlink hget hmore =>
    right
    rw [walk_halt ⟨hskip, hup, hlong⟩ (h _ _ hget) (passage_eq_halt hdir hlink), if_neg hmore]
    rfl

theorem spares_linkStart (h : t.Spares cwd dirs here) (target : String) :
    t.Spares cwd dirs (linkStart target here) := by
  unfold linkStart
  split
  · exact spares_top
  · exact h

/-- A look-up that starts beside what is gone ends beside it. -/
theorem Spares.of_walk (hhere : t.Spares cwd dirs here)
    (h : (t.emptied cwd dirs).walk follow links here steps = .ok (.found place entry)) :
    t.Spares cwd dirs place := by
  fun_induction walk (t.emptied cwd dirs) follow links here steps with
  | case1 links here =>
    simp only [Except.ok.injEq, Place.found.injEq] at h
    exact h.1 ▸ hhere
  | case2 links here step rest hskip ih => exact ih hhere h
  | case3 links here rest hskip ih => exact ih hhere.dropLast h
  | case7 links here step rest hskip hup hlong next mode hget ih => exact ih (spares_of_get? hget) h
  | case8 links here step rest hskip hup hlong next target hget hlast =>
    simp only [Except.ok.injEq, Place.found.injEq] at h
    exact h.1 ▸ spares_of_get? hget
  | case10 here step rest hskip hup hlong next target hget hmore links ih =>
    exact ih (spares_linkStart hhere target) h
  | case11 links here step hskip hup hlong next found hdir hlink hget =>
    simp only [Except.ok.injEq, Place.found.injEq] at h
    exact h.1 ▸ spares_of_get? hget
  | case4 | case5 | case6 | case9 | case12 => cases h

/-- From a directory that two trees both have, look-ups in them go on with the same number of
links. -/
theorem Extends.walk_append (h : Extends u t)
    (hwalk : u.walk true links here xs = .ok (.found place (.dir mode))) :
    ∃ n, ∀ follow rest, rest ≠ [] →
      u.walk follow links here (xs ++ rest) = u.walk follow n place rest ∧
        t.walk follow links here (xs ++ rest) = t.walk follow n place rest := by
  have hmore : ∀ (follow : Bool) (xs rest : List String), rest ≠ [] →
      ¬(xs ++ rest = [] ∧ (!follow) = true) := by
    rintro follow xs rest hrest ⟨hnil, -⟩
    exact hrest (List.append_eq_nil_iff.mp hnil).2
  fun_induction walk u true links here xs with
  | case1 links here =>
    simp only [Except.ok.injEq, Place.found.injEq] at hwalk
    obtain ⟨rfl, -⟩ := hwalk
    exact ⟨links, fun _ _ _ => ⟨rfl, rfl⟩⟩
  | case2 links here step xs hskip ih =>
    obtain ⟨n, hn⟩ := ih hwalk
    refine ⟨n, fun follow rest hrest => ?_⟩
    rw [List.cons_append, walk_skip hskip, walk_skip hskip]
    exact hn follow rest hrest
  | case3 links here xs hskip ih =>
    obtain ⟨n, hn⟩ := ih hwalk
    refine ⟨n, fun follow rest hrest => ?_⟩
    rw [List.cons_append, walk_up, walk_up]
    exact hn follow rest hrest
  | case7 links here step xs hskip hup hlong next m hget ih =>
    obtain ⟨n, hn⟩ := ih hwalk
    refine ⟨n, fun follow rest hrest => ?_⟩
    rw [List.cons_append, walk_through ⟨hskip, hup, hlong⟩ hget,
      walk_through ⟨hskip, hup, hlong⟩ (h _ _ hget)]
    exact hn follow rest hrest
  | case8 _ _ _ _ _ _ _ _ _ _ hlast => simp at hlast
  | case10 here step xs hskip hup hlong next target hget hlast links ih =>
    obtain ⟨n, hn⟩ := ih hwalk
    refine ⟨n, fun follow rest hrest => ?_⟩
    rw [List.cons_append, walk_onward ⟨hskip, hup, hlong⟩ hget (hmore follow xs rest hrest),
      walk_onward ⟨hskip, hup, hlong⟩ (h _ _ hget) (hmore follow xs rest hrest),
      ← List.append_assoc]
    exact hn follow rest hrest
  | case11 links here step hskip hup hlong next found hdir hlink hget =>
    simp only [Except.ok.injEq, Place.found.injEq] at hwalk
    exact (hdir mode hwalk.2).elim
  | case4 | case5 | case6 | case9 | case12 => cases hwalk

/-- What lies on the way to something that is found is found. -/
theorem walk_of_append (h : t.walk true links here (xs ++ rest) = .ok (.found place entry)) :
    ∃ place entry, t.walk true links here xs = .ok (.found place entry) := by
  fun_induction walk t true links here xs with
  | case1 links here => exact ⟨_, _, rfl⟩
  | case2 links here step xs hskip ih =>
    rw [List.cons_append, walk_skip hskip] at h
    exact ih h
  | case3 links here xs hskip ih =>
    rw [List.cons_append, walk_up] at h
    exact ih h
  | case4 links here step xs hskip hup hlong =>
    rw [List.cons_append, walk_long hskip hup hlong] at h
    cases h
  | case5 links here step hskip hup hlong next hget
  | case6 links here step xs hskip hup hlong next hget =>
    rw [List.cons_append, walk_absent ⟨hskip, hup, hlong⟩ hget] at h
    split at h <;> cases h
  | case7 links here step xs hskip hup hlong next m hget ih =>
    rw [List.cons_append, walk_through ⟨hskip, hup, hlong⟩ hget] at h
    exact ih h
  | case8 | case11 => exact ⟨_, _, rfl⟩
  | case9 here step xs hskip hup hlong next target hget hmore =>
    rw [List.cons_append, walk_spent ⟨hskip, hup, hlong⟩ hget (by simp)] at h
    cases h
  | case10 here step xs hskip hup hlong next target hget hmore links ih =>
    rw [List.cons_append, walk_onward ⟨hskip, hup, hlong⟩ hget (by simp), ← List.append_assoc] at h
    exact ih h
  | case12 links here step xs hskip hup hlong next found hdir hlink hget hmore =>
    rw [List.cons_append, walk_halt ⟨hskip, hup, hlong⟩ hget (passage_eq_halt hdir hlink),
      if_neg fun hnil => hmore (List.append_eq_nil_iff.mp hnil).1] at h
    cases h

/-! ## The entries that paths name -/

/-- The names in a directory are the last names of the places directly below it. -/
theorem mem_names_iff : name ∈ t.names place ↔ place ++ [name] ∈ t.places := by
  have hwhole : ∀ other, nameIn? place other = some name ↔ other = place ++ [name] := by
    intro other
    unfold nameIn?
    constructor
    · intro h
      split at h
      · next last hlast =>
        split at h
        · next hparent =>
          cases h
          rw [← hparent, List.dropLast_append_getLast? _ hlast]
        · cases h
      · cases h
    · rintro rfl
      simp
  unfold names places
  rw [List.mem_mergeSort, List.mem_filterMap]
  simp only [hwhole, List.mem_map]

theorem get?_of_mem_names (h : name ∈ t.names place) :
    ∃ entry, t.get? (place ++ [name]) = some entry := by
  rw [get?_eq_lookup (by simp)]
  exact Option.isSome_iff_exists.mp (lookup_isSome_iff_mem.mpr (mem_names_iff.mp h))

theorem mem_names_of_get? (h : t.get? (place ++ [name]) = some entry) : name ∈ t.names place := by
  rw [get?_eq_lookup (by simp)] at h
  exact mem_names_iff.mpr (lookup_isSome_iff_mem.mp (Option.isSome_of_eq_some h))

theorem Proper.isName (h : t.Proper) (hname : name ∈ t.names place) : IsName name :=
  h.names _ (mem_names_iff.mp hname) name (by simp)

/-- With fewer entries a path leads to nothing, or to the same place. -/
theorem Extends.entryAt?_cases (h : Extends u t) (cwd : Location) (follow : Bool) (p : Path) :
    u.entryAt? cwd follow p = .error (.refused .noEntry p.text) ∨
      u.entryAt? cwd follow p = (t.entryAt? cwd follow p).map fun found =>
        (found.1, (u.get? found.1).getD (.dir 0o755)) := by
  by_cases hnul : Path.holdsNul p.text
  · simp [entryAt?, hnul, Except.map]
  · by_cases hlong : p.text.utf8ByteSize > pathLimit
    · simp [entryAt?, locate, hnul, hlong, Except.map]
    · have hlocate : ∀ v : Tree, v.locate cwd follow p =
          v.walk follow linkLimit (p.origin cwd) p.parts := fun v => if_neg hlong
      unfold entryAt?
      rw [if_neg hnul, if_neg hnul, hlocate, hlocate]
      have hcases : Absent (u.walk follow linkLimit (p.origin cwd) p.parts) ∨ _ := h.walk_cases
      rcases hcases with (habsent | ⟨free, hfree⟩) | hsame
      · left
        rw [habsent]
      · left
        rw [hfree]
      · right
        rw [hsame]
        cases t.walk follow linkLimit (p.origin cwd) p.parts with
        | error cause => rfl
        | ok found => cases found <;> rfl

/-- In a directory that is still there an entry is gone, or its path leads where it led before. -/
theorem entryAt?_emptied_child
    (hd : (t.emptied cwd dirs).entryAt? cwd true d = .ok (place, .dir mode))
    (hplace : t.Spares cwd dirs place) (name : String) :
    (t.emptied cwd dirs).entryAt? cwd true (d.child name) =
        .error (.refused .noEntry (d.child name).text) ∨
      (t.emptied cwd dirs).entryAt? cwd true (d.child name) =
        t.entryAt? cwd true (d.child name) := by
  have hextends := emptied_extends t cwd dirs
  rcases hextends.entryAt?_cases cwd true (d.child name) with hgone | hsame
  · exact Or.inl hgone
  · right
    rw [hsame]
    cases ht : t.entryAt? cwd true (d.child name) with
    | error e => rfl
    | ok found =>
      obtain ⟨there, entry⟩ := found
      rw [ht] at hsame
      obtain ⟨n, hn⟩ := hextends.walk_append (entryAt?_eq_ok_iff.mp hd).2.2
      have hwalk := (entryAt?_eq_ok_iff.mp hsame).2.2
      have hthere := hplace.of_walk ((hn true [name] (by simp)).1.symm.trans hwalk)
      have hget := get?_of_entryAt? ht
      simp [Except.map, hthere.get?_eq, hget]

/-- An entry of a directory is what its path names, unless it is a link that is followed. -/
theorem entryAt?_child (hd : t.entryAt? cwd true d = .ok (place, .dir mode)) (hname : IsName name)
    (hget : t.get? (place ++ [name]) = some entry)
    (hnul : Path.holdsNul (d.child name).text = false)
    (hshort : (d.child name).text.utf8ByteSize ≤ pathLimit)
    (hlink : follow = true → entry.isLink = false) :
    t.entryAt? cwd follow (d.child name) = .ok (place ++ [name], entry) := by
  obtain ⟨-, -, hwalk⟩ := entryAt?_eq_ok_iff.mp hd
  obtain ⟨n, hn⟩ := (Extends.refl t).walk_append hwalk
  refine entryAt?_eq_ok_iff.mpr ⟨hnul, hshort, ?_⟩
  change t.walk follow linkLimit (d.origin cwd) (d.parts ++ [name]) = _
  rw [(hn follow [name] (by simp)).1]
  cases entry with
  | dir m =>
    rw [walk_through hname hget, walk_nil, hget]
    rfl
  | link target =>
    cases follow with
    | false => exact walk_link_last hname hget
    | true => cases hlink rfl
  | file | fifo => rw [walk_halt hname hget rfl, if_pos rfl]

section

variable (hd : t.entryAt? cwd true d = .ok (place, .dir mode)) (hname : IsName name)
  (hget : t.get? (place ++ [name]) = some entry)
include hd hname hget

theorem isLink_child (hnul : Path.holdsNul (d.child name).text = false)
    (hshort : (d.child name).text.utf8ByteSize ≤ pathLimit) :
    t.isLink cwd (d.child name) = .ok entry.isLink := by
  have hentry : t.entryAt? cwd false (d.child name) = _ :=
    entryAt?_child hd hname hget hnul hshort (by simp)
  simp [isLink, probe, hentry, Except.map]

/-- Which entries of a directory are directories in it, and not just links to some. -/
theorem isDir_child_iff :
    (t.isDir cwd (d.child name) = .ok true ∧ t.isLink cwd (d.child name) = .ok false) ↔
      entry.isDir = true ∧ Path.holdsNul (d.child name).text = false ∧
        (d.child name).text.utf8ByteSize ≤ pathLimit := by
  constructor
  · rintro ⟨hdir, hlink⟩
    obtain ⟨there, found, hfound, hisDir⟩ := entryAt?_of_test hdir
    obtain ⟨hnul, hshort, -⟩ := entryAt?_eq_ok_iff.mp hfound
    rw [isLink_child hd hname hget hnul hshort, Except.ok.injEq] at hlink
    rw [entryAt?_child hd hname hget hnul hshort fun _ => hlink] at hfound
    cases hfound
    exact ⟨hisDir, hnul, hshort⟩
  · rintro ⟨hisDir, hnul, hshort⟩
    have hlink : entry.isLink = false := by
      cases entry with
      | dir => rfl
      | file | link | fifo => cases hisDir
    refine ⟨?_, by rw [isLink_child hd hname hget hnul hshort, hlink]⟩
    have hentry : t.entryAt? cwd true (d.child name) = _ :=
      entryAt?_child hd hname hget hnul hshort fun _ => hlink
    simp [isDir, test, probe, hentry, Except.map, hisDir]

end

/-- An emptied directory lists nothing. -/
theorem eq_nil_of_list_emptied {names : List String} (hmem : d ∈ dirs)
    (h : (t.emptied cwd dirs).list .none cwd d = .ok names) : names = [] := by
  unfold list at h
  rw [if_neg (by simp [Faults.none])] at h
  split at h
  · cases h
  · next place mode hentry =>
    cases h
    rcases (emptied_extends t cwd dirs).entryAt?_cases cwd true d with hgone | hsame
    · cases hgone.symm.trans hentry
    · cases ht : t.entryAt? cwd true d with
      | error e =>
        rw [ht] at hsame
        cases hsame.symm.trans hentry
      | ok found =>
        rw [ht] at hsame
        obtain rfl : found.1 = place := congrArg Prod.fst (Except.ok.inj (hsame.symm.trans hentry))
        refine List.eq_nil_iff_forall_not_mem.mpr fun name hname => ?_
        obtain ⟨entry, hget⟩ := get?_of_mem_names hname
        have hbelow : t.isBelow cwd (found.1 ++ [name]) d = true :=
          (isBelow_iff ht).mpr ⟨List.prefix_append _ _, by simp⟩
        cases hbelow.symm.trans (spares_of_get? hget d hmem)
  · cases h

end BatchFormat.Tree
