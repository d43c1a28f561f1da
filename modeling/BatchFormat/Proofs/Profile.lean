import BatchFormat.Proofs.Session.Prepare
import BatchFormat.Proofs.Values
import BatchFormat.Proofs.Xml.Order

/-!
# What a profile says

Of the settings in a document that give one name a value, the last counts, wherever they stand. A
default counts only for a name that no setting gives a value, be it an empty one.
-/
namespace BatchFormat.Profile

open Xml (Element)

variable {key value : String} {root : Element} {position : List Nat}

/-- A setting stands at a position of the document and gives a name a value: an element named
`setting`, with no namespace, whose attributes hold the name and the value. One that is missing
counts as empty. -/
def Sets (root : Element) (position : List Nat) (key value : String) : Prop :=
  ∃ e, root.at? position = some e ∧ e.name = ⟨none, "setting"⟩ ∧
    (e.attributes.lookup ⟨none, "id"⟩).getD "" = key ∧
    (e.attributes.lookup ⟨none, "value"⟩).getD "" = value

def placedSettings (root : Element) : List (List Nat × Element) :=
  root.placed.filter fun pair => isSetting pair.2

theorem settings_eq (root : Element) :
    settings root = Values.ofList ((placedSettings root).map fun pair => entry pair.2) := by
  rw [settings, ← Element.placed_snd, List.filter_map, List.map_map]
  rfl

/-- A setting stands at a position exactly if one of the elements of the profile puts it there. -/
theorem sets_iff :
    Sets root position key value ↔
      ∃ pair ∈ placedSettings root, pair.1 = position ∧ entry pair.2 = (key, value) := by
  constructor
  · rintro ⟨e, hat, hname, hid, hvalue⟩
    refine ⟨(position, e), List.mem_filter.mpr ⟨(Element.mem_placed_iff root position e).mpr hat, ?_⟩,
      rfl, Prod.ext hid hvalue⟩
    exact beq_iff_eq.mpr hname
  · rintro ⟨⟨place, e⟩, hmem, rfl, hentry⟩
    obtain ⟨hplaced, hsetting⟩ := List.mem_filter.mp hmem
    exact ⟨e, (Element.mem_placed_iff root place e).mp hplaced, beq_iff_eq.mp hsetting,
      congrArg Prod.fst hentry, congrArg Prod.snd hentry⟩

/-- A name has the value of the last setting that gives it one. -/
theorem get?_settings_iff :
    (settings root).get? key = some value ↔
      ∃ position, Sets root position key value ∧
        ∀ other v, Sets root other key v → other ≤ position := by
  have hsorted : (placedSettings root).Pairwise fun a b => a.1 < b.1 :=
    (Element.placed_sorted root).filter _
  rw [settings_eq, Values.get?_ofList, lookup_reverse_iff hsorted]
  constructor
  · rintro ⟨pair, hmem, hentry, hlast⟩
    refine ⟨pair.1, sets_iff.mpr ⟨pair, hmem, rfl, hentry⟩, fun other v hother => ?_⟩
    obtain ⟨pair', hmem', rfl, hentry'⟩ := sets_iff.mp hother
    exact hlast pair' hmem' (congrArg Prod.fst hentry')
  · rintro ⟨position, hsets, hlast⟩
    obtain ⟨pair, hmem, rfl, hentry⟩ := sets_iff.mp hsets
    refine ⟨pair, hmem, hentry, fun other hother hkey => ?_⟩
    exact hlast _ _ (sets_iff.mpr ⟨other, hother, rfl, Prod.ext hkey rfl⟩)

theorem mem_settings_iff :
    key ∈ (settings root).map Prod.fst ↔ ∃ position value, Sets root position key value := by
  rw [settings_eq, Values.mem_keys_ofList]
  simp only [List.map_map, List.mem_map, sets_iff]
  constructor
  · rintro ⟨pair, hmem, hkey⟩
    exact ⟨pair.1, (entry pair.2).2, pair, hmem, rfl, Prod.ext hkey rfl⟩
  · rintro ⟨_, _, pair, hmem, -, hentry⟩
    exact ⟨pair, hmem, congrArg Prod.fst hentry⟩

theorem nodup_defaults : (defaults.map Prod.fst).Nodup := by decide

/-- The settings that are loaded from a well-formed document have for each name the value of the
last setting in the order of the document that gives it one, whichever elements it stands in, or
else the default, or else none. So there are as many as the document has names of settings, and one
more for each default whose name is not among these. -/
theorem load_merges (host : Host) (p : Path) (w : World)
    (hroot : readRoot host p w.tree = .ok root) :
    ∃ settings, (load host p w).1 = .ok settings ∧ settings.source = some p ∧
      (∀ key value, settings.get? key = some value ↔
        (∃ position, Sets root position key value ∧
          ∀ other v, Sets root other key v → other ≤ position) ∨
        ((∀ position v, ¬Sets root position key v) ∧ defaults.lookup key = some value)) ∧
      (settings.values.map Prod.fst).Nodup ∧
      ∃ names : List String, names.Nodup ∧
        (∀ key, key ∈ names ↔ ∃ position value, Sets root position key value) ∧
        settings.values.length =
          names.length + (defaults.filter fun pair => pair.1 ∉ names).length := by
  have hnodup : ((settings root).map Prod.fst).Nodup := Values.nodup_ofList _
  refine ⟨loadedSettings p root, by simp only [load_eq, hroot], rfl,
    fun key value => ?_, Values.nodup_fill hnodup defaults, (settings root).map Prod.fst, hnodup,
    fun key => mem_settings_iff, ?_⟩
  · change ((settings root).fill defaults).get? key = some value ↔ _
    rw [Values.get?_fill, Option.or_eq_some_iff, get?_settings_iff]
    refine or_congr_right (and_congr_left fun _ => ?_)
    rw [Values.get?, ← Option.not_isSome_iff_eq_none, lookup_isSome_iff_mem, mem_settings_iff]
    simp only [not_exists]
  · rw [List.length_map]
    exact Values.length_fill _ nodup_defaults

/-- Which settings a document has can be read off its elements with their positions. -/
theorem sets_iff_of_placed {rows : List (List Nat × Xml.Name × String × String)}
    (h : root.placed.map (fun pair => (pair.1, pair.2.name, entry pair.2)) = rows) :
    Sets root position key value ↔ (position, settingName, key, value) ∈ rows := by
  rw [sets_iff, ← h, List.mem_map]
  constructor
  · rintro ⟨pair, hmem, rfl, hentry⟩
    obtain ⟨hplaced, hsetting⟩ := List.mem_filter.mp hmem
    exact ⟨pair, hplaced, by rw [beq_iff_eq.mp hsetting, hentry]⟩
  · rintro ⟨pair, hmem, heq⟩
    obtain ⟨hposition, hrest⟩ := Prod.mk.inj heq
    obtain ⟨hname, hentry⟩ := Prod.mk.inj hrest
    exact ⟨pair, List.mem_filter.mpr ⟨hmem, beq_iff_eq.mpr hname⟩, hposition, hentry⟩

/-- A setting as the root, with a setting of another namespace and an empty one inside. -/
def nestedProfile : String :=
  "<setting id='a' value='1'><x:setting xmlns:x='u' id='b'/><setting id='a'/></setting>"

def nestedTree : Tree := ⟨[(["c.xml"], .file (Text.encode nestedProfile) 0o644)]⟩

theorem nestedTree_holds :
    ∃ root, Holds nestedTree [] ⟨.relative, ["c.xml"]⟩ root ∧
      root.placed.map (fun pair => (pair.1, pair.2.name, entry pair.2)) =
        [([], settingName, "a", "1"), ([0], ⟨some "u", "setting"⟩, "b", ""),
          ([1], settingName, "a", "")] := by
  have hname : Tree.IsName "c.xml" := by decide
  have hrows : (Compressed.contents (Text.encode nestedProfile) >>= Xml.readDocument).map
      (fun root => root.placed.map fun pair => (pair.1, pair.2.name, entry pair.2)) =
        some [([], settingName, "a", "1"), ([0], ⟨some "u", "setting"⟩, "b", ""),
          ([1], settingName, "a", "")] := by decide +kernel
  obtain ⟨root, hdocument, hplaced⟩ := Option.map_eq_some_iff.mp hrows
  refine ⟨root, ⟨["c.xml"], Text.encode nestedProfile, 0o644, ?_, hdocument⟩, hplaced⟩
  exact Tree.entryAt?_eq_ok_iff.mpr ⟨by decide, by decide, Tree.walk_halt hname rfl rfl⟩

/-- The empty value of the setting inside counts, and the other namespace does not. -/
theorem load_merges_of_nested :
    ∃ settings, (load Walker.calmHost ⟨.relative, ["c.xml"]⟩ (.ofTree nestedTree)).1 =
        .ok settings ∧
      settings.get? "a" = some "" ∧ settings.get? "b" = none ∧ settings.values.length = 4 := by
  obtain ⟨root, hholds, hplaced⟩ := nestedTree_holds
  have hroot : readRoot Walker.calmHost ⟨.relative, ["c.xml"]⟩ (World.ofTree nestedTree).tree =
      .ok root := (readRoot_ok_iff (by decide +kernel)).mpr hholds
  obtain ⟨settings, hload, -, hget, -, names, hnodup, hnames, hcount⟩ :=
    load_merges Walker.calmHost ⟨.relative, ["c.xml"]⟩ (.ofTree nestedTree) hroot
  simp only [sets_iff_of_placed hplaced] at hget hnames
  have hsame : names = ["a"] := by
    refine List.perm_singleton.mp ((List.perm_ext_iff_of_nodup hnodup (by decide)).mpr fun key => ?_)
    rw [hnames]
    simp [settingName, exists_or]
  refine ⟨settings, hload, (hget _ _).mpr (Or.inl ⟨[1], by simp, ?_⟩), ?_, ?_⟩
  · intro other v hother
    simp only [settingName, List.mem_cons, Prod.mk.injEq, List.not_mem_nil, or_false] at hother
    rcases hother with ⟨rfl, -⟩ | ⟨-, hspace, -⟩ | ⟨rfl, -⟩
    · decide
    · simp at hspace
    · decide
  · refine Option.eq_none_iff_forall_ne_some.mpr fun v hv => ?_
    rcases (hget _ _).mp hv with ⟨position, hsets, -⟩ | ⟨-, hdefault⟩
    · simp [settingName] at hsets
    · have hnone : defaults.lookup "b" = none := by decide
      cases hnone.symm.trans hdefault
  · rw [hcount, hsame]
    decide

end BatchFormat.Profile
