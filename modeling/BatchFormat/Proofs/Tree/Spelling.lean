import BatchFormat.Engine.Home
import BatchFormat.Engine.Lookup
import BatchFormat.Proofs.Tree.Lookup

/-!
# Paths as they are written

A program is started by the text of a path, and the system takes this text apart again. For a path
that was read from a text, or that begins in a home directory, it comes to the very names of the
path, and so to the same entry. What is there can be executed if it is no directory and has an
execute bit.
-/
namespace BatchFormat

namespace Path

variable {p q : Path} {parts : List String} {part text : String} {host : Host}

/-- The names of a path are such as can stand between slashes. -/
def IsPlain (p : Path) : Prop := ∀ part ∈ p.parts, part ≠ "" ∧ '/' ∉ part.toList

theorem not_mem_of_mem_splitOn {sep : Char} {piece cs : List Char} (h : piece ∈ cs.splitOn sep) :
    sep ∉ piece := by
  induction cs generalizing piece with
  | nil =>
    obtain rfl := List.mem_singleton.mp h
    exact List.not_mem_nil
  | cons c cs ih =>
    rw [List.splitOn_cons_eq_if_modifyHead] at h
    split at h
    · rcases List.mem_cons.mp h with rfl | hrest
      · exact List.not_mem_nil
      · exact ih hrest
    · next hc =>
      cases hsplit : cs.splitOn sep with
      | nil => exact (List.splitOn_ne_nil sep cs hsplit).elim
      | cons first rest =>
        rw [hsplit] at h
        rcases List.mem_cons.mp h with rfl | hrest
        · have hfirst : sep ∉ first := ih (hsplit ▸ List.mem_cons_self)
          simpa [hfirst] using Ne.symm (by simpa using hc)
        · exact ih (hsplit ▸ List.mem_cons_of_mem _ hrest)

theorem isPlain_ofString (text : String) : (ofString text).IsPlain := by
  intro part hpart
  obtain ⟨hpiece, hkept⟩ := List.mem_filter.mp hpart
  obtain ⟨piece, hsplit, rfl⟩ := List.mem_map.mp hpiece
  rw [Bool.and_eq_true, bne_iff_ne] at hkept
  refine ⟨hkept.1, ?_⟩
  rw [String.toList_ofList]
  exact not_mem_of_mem_splitOn hsplit

theorem IsPlain.expandHome (hp : p.IsPlain) (h : host.expandHome p = .ok q) : q.IsPlain := by
  unfold Host.expandHome at h
  split at h
  · next first rest _ hparts =>
    split at h
    · split at h
      · cases h
      · split at h
        · cases h
        · dsimp only at h
          split at h
          · cases h
          · obtain rfl := Except.ok.inj h
            intro part hpart
            rcases List.mem_append.mp hpart with hstart | hrest
            · exact isPlain_ofString _ part hstart
            · exact hp part (hparts ▸ List.mem_cons_of_mem _ hrest)
    · cases h
      exact hp
  · cases h
    exact hp

/-- Names that were joined by slashes are taken apart again. -/
theorem pieces_intercalate (hne : parts ≠ []) (h : ∀ part ∈ parts, '/' ∉ part.toList) :
    pieces (String.intercalate "/" parts) = parts := by
  have hsplit : (['/'].intercalate (parts.map String.toList)).splitOn '/' =
      parts.map String.toList :=
    List.splitOn_intercalate '/' (by simpa using h) (by simpa using hne)
  rw [pieces, String.toList_intercalate]
  change ((['/'].intercalate (parts.map String.toList)).splitOn '/').map String.ofList = parts
  rw [hsplit, List.map_map]
  simp [Function.comp_def]

theorem pieces_slash_append (text : String) : pieces ("/" ++ text) = "" :: pieces text := by
  rw [pieces, String.toList_append]
  simp [pieces, List.splitOn_cons_eq_if_modifyHead]

theorem intercalate_cons (part : String) (rest : List String) :
    ∃ tail, String.intercalate "/" (part :: rest) = part ++ tail := by
  cases rest with
  | nil => exact ⟨"", by simp⟩
  | cons next rest =>
    exact ⟨"/" ++ String.intercalate "/" (next :: rest),
      by rw [String.intercalate_cons_cons, String.append_assoc]⟩

/-- The text of a path that leads on from the current directory begins with a character other than
a slash. -/
theorem IsPlain.text_relative (hp : IsPlain ⟨.relative, parts⟩) :
    ∃ c cs, (Path.text ⟨.relative, parts⟩).toList = c :: cs ∧ c ≠ '/' := by
  cases parts with
  | nil => exact ⟨'.', [], by decide, by decide⟩
  | cons part rest =>
    obtain ⟨hne, hslash⟩ := hp part List.mem_cons_self
    obtain ⟨tail, htail⟩ := intercalate_cons part rest
    obtain ⟨c, cs, hpart⟩ :=
      List.exists_cons_of_ne_nil fun hnil => hne (String.toList_eq_nil_iff.mp hnil)
    refine ⟨c, cs ++ tail.toList, ?_, fun hc => hslash (hpart ▸ hc ▸ List.mem_cons_self)⟩
    rw [text, if_neg (by simp), htail, String.toList_append, String.toList_append, hpart]
    rfl

theorem IsPlain.text_ne_empty (hp : p.IsPlain) : p.text ≠ "" := by
  obtain ⟨anchor, parts⟩ := p
  intro hempty
  cases anchor with
  | relative =>
    obtain ⟨c, cs, htext, -⟩ := hp.text_relative
    simp [hempty] at htext
  | top | doubled => simp [text, Anchor.text] at hempty

end Path

namespace Tree

variable {t : Tree} {cwd here : Location} {follow : Bool} {links : Nat} {parts : List String}
  {p : Path} {place : Location} {path : String} {bytes : Bytes} {mode : Nat}

theorem walk_pieces_intercalate (h : ∀ part ∈ parts, '/' ∉ part.toList) :
    t.walk follow links here (Path.pieces (String.intercalate "/" parts)) =
      t.walk follow links here parts := by
  by_cases hne : parts = []
  · subst hne
    exact walk_skip (Or.inl rfl)
  · rw [Path.pieces_intercalate hne h]

theorem linkStart_text (h : p.IsPlain) : linkStart p.text cwd = p.origin cwd := by
  obtain ⟨anchor, parts⟩ := p
  cases anchor with
  | relative =>
    obtain ⟨c, cs, htext, hc⟩ := h.text_relative
    simp [linkStart, Path.isAnchored, htext, hc, Path.origin]
  | top | doubled => simp [linkStart, Path.isAnchored, Path.text, Path.Anchor.text, Path.origin]

/-- A plain path, spelled out and cut at its slashes again, leads where it led. -/
theorem walk_pieces_text (h : p.IsPlain) :
    t.walk follow links here (Path.pieces p.text) = t.walk follow links here p.parts := by
  obtain ⟨anchor, parts⟩ := p
  have hparts : t.walk follow links here (Path.pieces (String.intercalate "/" parts)) =
      t.walk follow links here parts :=
    walk_pieces_intercalate fun part hpart => (h part hpart).2
  cases anchor with
  | relative =>
    by_cases hnil : parts = []
    · subst hnil
      exact walk_skip (Or.inr rfl)
    · simpa [Path.text, Path.Anchor.text, hnil] using hparts
  | top =>
    rw [Path.text, if_neg (by simp), Path.Anchor.text, Path.pieces_slash_append,
      walk_skip (Or.inl rfl)]
    exact hparts
  | doubled =>
    have hslashes : "//" = "/" ++ "/" := rfl
    rw [Path.text, if_neg (by simp), Path.Anchor.text, hslashes, String.append_assoc,
      Path.pieces_slash_append, walk_skip (Or.inl rfl), Path.pieces_slash_append,
      walk_skip (Or.inl rfl)]
    exact hparts

/-- The system's look-up of a path as it is written is the look-up of the path. -/
theorem locateText_text (h : p.IsPlain) : t.locateText cwd p.text = t.locate cwd true p := by
  rw [locateText, if_neg h.text_ne_empty, locate, linkStart_text h, walk_pieces_text h]

/-! ## Programs -/

/-- A path as written leads to an entry that is no directory and has an execute bit. -/
def LeadsToProgram (t : Tree) (cwd : Location) (path : String) : Prop :=
  Path.holdsNul path = false ∧ ∃ place entry, t.locateText cwd path = .ok (.found place entry) ∧
    entry.isDir = false ∧ isExecutableMode entry.mode = true

/-- A path can be run exactly if it leads to a file with an execute bit. -/
theorem runnable_iff : t.runnable cwd path = true ↔ t.LeadsToProgram cwd path := by
  unfold runnable LeadsToProgram
  split
  · next place entry hlocate =>
    constructor
    · intro h
      simp only [Bool.and_eq_true, Bool.not_eq_true'] at h
      exact ⟨h.1, place, entry, hlocate, h.2⟩
    · rintro ⟨hnul, place', entry', hfound, hdir, hmode⟩
      cases hlocate.symm.trans hfound
      simp [hnul, hdir, hmode]
  · next hlocate =>
    refine iff_of_false (by simp) ?_
    rintro ⟨-, place, entry, hfound, -⟩
    exact hlocate place entry hfound

theorem locateText_of_entry {entry : Entry} (hplain : p.IsPlain)
    (hentry : t.entryAt? cwd true p = .ok (place, entry)) :
    t.locateText cwd p.text = .ok (.found place entry) := by
  obtain ⟨-, hshort, hwalk⟩ := entryAt?_eq_ok_iff.mp hentry
  rw [locateText_text hplain, locate, if_neg (Nat.not_lt.mpr hshort), hwalk]

/-- A file that is started by the text of its path can be executed if it has an execute bit. -/
theorem leadsToProgram_iff_of_file (hplain : p.IsPlain)
    (hentry : t.entryAt? cwd true p = .ok (place, .file bytes mode)) :
    t.LeadsToProgram cwd p.text ↔ isExecutableMode mode = true := by
  have hlocate := locateText_of_entry hplain hentry
  have hnul := (entryAt?_eq_ok_iff.mp hentry).1
  constructor
  · rintro ⟨-, place', entry', hfound, -, hmode⟩
    cases hlocate.symm.trans hfound
    exact hmode
  · exact fun hmode => ⟨hnul, place, _, hlocate, rfl, hmode⟩

end Tree
end BatchFormat
