import BatchFormat.Proofs.Engine.Soft
import BatchFormat.Proofs.Tree.Masked

/-!
# What passes through the scratch directory

The text goes to Eclipse in a file of a directory that was not there before, comes back from that
file, and takes the directory with it when it leaves. A program that touches nothing else therefore
leaves nothing behind, however the call ends: whatever was made in the directory is removed with it,
and what was outside was never changed.
-/
namespace BatchFormat

namespace Tree

variable {t u : Tree} {above place : Location} {entry : Entry} {logs : List Location}

/-- Nothing is removed from where nothing is. -/
theorem prune_eq_self (h : ∀ place, above <+: place → t.get? place = none) : t.prune above = t := by
  refine congrArg Tree.mk (List.filter_eq_self.mpr fun e he => ?_)
  rw [Bool.not_eq_true', Bool.eq_false_iff]
  intro hprefix
  have hnone := h e.1 (List.isPrefixOf_iff_prefix.mp hprefix)
  have hplace : e.1 ≠ [] := fun heq => by simp [heq, get?] at hnone
  rw [get?_eq_lookup hplace] at hnone
  simpa using List.lookup_eq_none_iff.mp hnone e he

/-- What is put below a place goes when the place is removed. -/
theorem prune_put (h : above <+: place) : (t.put place entry).prune above = t.prune above := by
  have hgone : (!above.isPrefixOf place) = false := by
    simp [List.isPrefixOf_iff_prefix.mpr h]
  have hentries : ∀ entries : List (Location × Entry),
      ((putIn place entry entries).getD (entries ++ [(place, entry)])).filter
        (fun e => !above.isPrefixOf e.1) = entries.filter fun e => !above.isPrefixOf e.1 := by
    intro entries
    induction entries with
    | nil => simp [putIn, hgone]
    | cons e rest ih =>
      by_cases heq : e.1 = place
      · simp [putIn, heq, hgone]
      · cases hput : putIn place entry rest <;>
          simp_all [putIn, List.filter_cons]
  exact congrArg Tree.mk (hentries t.entries)

theorem masked_prune : (t.prune above).masked logs = (t.masked logs).prune above := by
  simp [masked, prune, List.filter_map, Function.comp_def]

/-- The directories on the way to a place are all that it takes to stand there. -/
theorem Stands.of_agree (hsame : ∀ other, other <+: place → u.get? other = t.get? other)
    (h : t.Stands place entry) : u.Stands place entry := by
  induction h with
  | top => exact .top
  | child parent name found ih =>
    have habove := ih fun other hother => hsame other (hother.trans (List.prefix_append _ _))
    exact .child habove name ((hsame _ (List.prefix_refl _)).trans found)

end Tree

namespace Eclipse

variable {e : Eclipse} {host : Host} {w : World} {t : Tree} {settings : Settings}
  {content : String} {words : List String} {scratch : Location} {logs : List Location}

/-- The files that the program finds when it is started. -/
def found (host : Host) (settings : Settings) (content : String) (w : World)
    (words : List String) : Tree :=
  let line := String.intercalate " " words
  (({ w with tree := unpack host.scratch settings content w.tree }).say host
    (.debug s!"Executing Eclipse formatter: {line}")).tree

theorem launched_eq (e : Eclipse) (host : Host) (settings : Settings) (content : String) (w : World)
    (words : List String) : e.launched host settings content w words =
      host.launch ⟨words, [], e.limit⟩ (found host settings content w words) := rfl

/-! ## What the program finds -/

/-- A scratch directory can be made: nothing is at its place or below, it stands in a directory that
is there, and the path of the text in it is one that the system takes. -/
structure HasScratch (host : Host) (t : Tree) : Prop where
  fresh : ∀ place, host.scratch <+: place → t.get? place = none
  parent : ∃ mode, t.Stands host.scratch.dropLast (.dir mode)
  name : ∀ name ∈ host.scratch.getLast?, Tree.IsName name
  plain : Path.holdsNul (sourcePath host).text = false
  short : (sourcePath host).text.utf8ByteSize ≤ Tree.pathLimit

def sourcePlace (host : Host) : Location := host.scratch ++ [sourceName]

theorem get?_unpack_self (h : scratch ≠ []) (settings : Settings) (content : String) (t : Tree) :
    (unpack scratch settings content t).get? scratch = some (.dir scratchMode) := by
  rw [unpack, Tree.get?_put_of_ne (by simp), Tree.get?_put_of_ne (by simp), Tree.get?_put_self h]

theorem get?_unpack_source (scratch : Location) (settings : Settings) (content : String)
    (t : Tree) : (unpack scratch settings content t).get? (scratch ++ [sourceName]) =
      some (.file (Text.encode content) fileMode) := by
  have hne : scratch ++ [sourceName] ≠ scratch ++ [prefsName] := by simp [sourceName, prefsName]
  rw [unpack, Tree.get?_put_of_ne hne, Tree.get?_put_self (by simp)]

theorem HasScratch.stands_unpack (h : HasScratch host t) (settings : Settings) (content : String) :
    (unpack host.scratch settings content t).Stands host.scratch (.dir scratchMode) := by
  rcases List.eq_nil_or_concat host.scratch with hnil | ⟨dir, name, hscratch⟩
  · have hfresh := h.fresh [] (by simp [hnil])
    simp [Tree.get?] at hfresh
  · rw [List.concat_eq_append] at hscratch
    obtain ⟨mode, hparent⟩ := h.parent
    rw [hscratch, List.dropLast_concat] at hparent
    have hname : Tree.IsName name := h.name name (by simp [hscratch])
    have hself : (unpack host.scratch settings content t).get? host.scratch =
        some (.dir scratchMode) := get?_unpack_self (by simp [hscratch]) settings content t
    have hdir : (unpack host.scratch settings content t).Stands dir (.dir mode) := by
      refine hparent.of_agree fun other hother => get?_unpack fun hbelow => ?_
      have hlength := (hbelow.trans hother).length_le
      simp only [hscratch, List.length_append, List.length_singleton] at hlength
      omega
    rw [hscratch] at hself hdir ⊢
    exact .child hdir hname hself

section

variable (hecho : host.echo.StaysIn logs) (hlogs : ∀ place ∈ logs, ¬host.scratch <+: place)
include hecho

theorem masked_found (settings : Settings) (content : String) (w : World) (words : List String) :
    (found host settings content w words).masked logs =
      (unpack host.scratch settings content w.tree).masked logs :=
  World.masked_say hecho _

include hlogs

/-- The path that is given to the program leads it to the bytes of the text. -/
theorem HasScratch.entryAt?_found (h : HasScratch host w.tree) (settings : Settings)
    (content : String) (words : List String) :
    (found host settings content w words).entryAt? host.cwd true (sourcePath host) =
      .ok (sourcePlace host, .file (Text.encode content) fileMode) := by
  have hsame := masked_found hecho settings content w words
  have hsource : (found host settings content w words).get? (sourcePlace host) =
      some (.file (Text.encode content) fileMode) :=
    (Tree.get?_eq_of_masked hsame fun hlog => hlogs _ hlog (List.prefix_append _ _)).trans
      (get?_unpack_source host.scratch settings content w.tree)
  obtain ⟨mode, hscratch⟩ := Tree.Stands.dir_of_shape (Tree.shape_of_masked hsame).symm
    ⟨_, h.stands_unpack settings content⟩
  have hname : Tree.IsName sourceName := by decide
  refine Tree.entryAt?_eq_ok_iff.mpr ⟨h.plain, h.short, ?_⟩
  exact (hscratch.child hname hsource).walk_eq fun _ => rfl

end

/-! ## What is left -/

theorem prune_unpack (scratch : Location) (settings : Settings) (content : String) (t : Tree) :
    (unpack scratch settings content t).prune scratch = t.prune scratch := by
  rw [unpack, Tree.prune_put (List.prefix_append _ _), Tree.prune_put (List.prefix_append _ _),
    Tree.prune_put (List.prefix_refl _)]

theorem tree_transform_of_not_started {failure : Failure}
    (h : e.started host settings content w = .error failure) :
    (e.transform host settings content w).2.tree = w.tree.prune host.scratch := by
  unfold started sourcePath at h
  simp only [transform, work, h]
  exact prune_unpack _ _ _ _

/-- However the program ends and whatever is made of that, the scratch directory is removed. -/
theorem tree_transform_of_started (h : e.started host settings content w = .ok words) :
    (e.transform host settings content w).2.tree =
      (e.launched host settings content w words).2.prune host.scratch := by
  unfold started sourcePath at h
  simp only [transform, work, h, launched]
  generalize verdict e.limit _ = judged
  cases judged <;> rfl

/-- A program touches no more than the scratch directory. It leaves a directory there, which is
what can be removed, or nothing. -/
structure Confined (scratch : Location) (before after : Tree) : Prop where
  outside : after.prune scratch = before.prune scratch
  inside : after.get? scratch = none ∨ ∃ mode, after.get? scratch = some (.dir mode)

theorem masked_transform (hecho : host.echo.StaysIn logs)
    (hconfined : ∀ words, e.started host settings content w = .ok words →
      Confined host.scratch (found host settings content w words)
        (e.launched host settings content w words).2) :
    (e.transform host settings content w).2.tree.masked logs =
      (w.tree.prune host.scratch).masked logs := by
  cases hstarted : e.started host settings content w with
  | error failure => rw [tree_transform_of_not_started hstarted]
  | ok words =>
    calc
      (e.transform host settings content w).2.tree.masked logs
        = ((found host settings content w words).prune host.scratch).masked logs := by
          rw [tree_transform_of_started hstarted, (hconfined words hstarted).outside]
      _ = ((unpack host.scratch settings content w.tree).prune host.scratch).masked logs := by
          rw [Tree.masked_prune, masked_found hecho, Tree.masked_prune]
      _ = (w.tree.prune host.scratch).masked logs := by rw [prune_unpack]

theorem getLast?_of_started (h : e.started host settings content w = .ok words) :
    words.getLast? = some (sourcePath host).text := by
  unfold started commandLine at h
  cases hresolve : e.resolve host (unpack host.scratch settings content w.tree) with
  | error failure => simp [hresolve, Except.map] at h
  | ok program =>
    simp only [hresolve, Except.map, Except.ok.injEq] at h
    simp [← h]

/-- If the program is confined to the scratch directory, the text goes through unharmed. The
program is given the path of a file that holds the bytes of the text. If it ends in time and with
success, and prints nothing but text, then the answer is the text that it left in that file, to the
last line end; so a text that is left alone is its own answer. And however the call ends, the
scratch directory is gone with all that is in it, and the files are those before the call, but for
what was written to the logs. -/
theorem transform_through_scratch (e : Eclipse) (host : Host) (settings : Settings)
    (content : String) (w : World) (logs : List Location) (hecho : host.echo.StaysIn logs)
    (hlogs : ∀ place ∈ logs, ¬host.scratch <+: place) (hscratch : HasScratch host w.tree)
    (hconfined : ∀ words, e.started host settings content w = .ok words →
      Confined host.scratch (found host settings content w words)
        (e.launched host settings content w words).2) :
    let answer := (e.transform host settings content w).1
    let after := (e.transform host settings content w).2.tree
    let read := fun t : Tree => t.readBytes .none host.cwd (sourcePath host)
    (∀ words, e.started host settings content w = .ok words →
      let before := found host settings content w words
      let left := (e.launched host settings content w words).2
      words.getLast? = some (sourcePath host).text ∧
      before.get? (sourcePlace host) = some (.file (Text.encode content) fileMode) ∧
      read before = .ok (Text.encode content) ∧
      ∀ output errors, (e.launched host settings content w words).1 = .ended 0 output errors →
        Text.WellFormed output → Text.WellFormed errors →
        (∀ bytes, read left = .ok bytes → Text.WellFormed bytes →
          ∃ text, Text.decode bytes = .ok text ∧ bytes = Text.encode text ∧ answer = .ok text) ∧
        (read left = read before → answer = .ok content)) ∧
    after.masked logs = w.tree.masked logs ∧ (logs = [] → after = w.tree) ∧
    ∀ place, host.scratch <+: place → after.get? place = none := by
  intro answer after read
  have hsame : after.masked logs = w.tree.masked logs := by
    rw [show after.masked logs = _ from masked_transform hecho hconfined,
      Tree.prune_eq_self hscratch.fresh]
  refine ⟨?_, hsame, ?_, fun place hplace => ?_⟩
  · intro words hstarted before left
    have hentry : before.entryAt? host.cwd true (sourcePath host) = _ :=
      hscratch.entryAt?_found hecho hlogs settings content words
    have hread : read before = .ok (Text.encode content) := Tree.readBytes_of_file rfl hentry
    refine ⟨getLast?_of_started hstarted, Tree.get?_of_file hentry, hread, ?_⟩
    intro output errors hended houtput herrors
    have hanswer : ∀ text, read left = .ok (Text.encode text) → answer = .ok text :=
      fun text hleft => (transform_ok_iff_of_started hstarted).mpr
        ⟨output, errors, hended, houtput, herrors, hleft⟩
    refine ⟨fun bytes hleft hbytes => ?_, fun halone => hanswer content (halone.trans hread)⟩
    obtain ⟨text, rfl⟩ := hbytes.exists_encode
    exact ⟨text, Text.decode_eq_ok_iff.mpr rfl, rfl, hanswer text hleft⟩
  · rintro rfl
    simpa using hsame
  · rw [Tree.get?_eq_of_masked hsame fun hlog => hlogs place hlog hplace]
    exact hscratch.fresh place hplace

/-- A host on which every program leaves another text and a directory beside it. -/
def busyHost : Host :=
  { steadyHost .overtime with
    launch := fun _ t => (.ended 0 [] [], (t.put ["s", sourceName]
      (.file (Text.encode "y\r\n") 0o644)).put ["s", "workspace"] (.dir 0o755)) }

theorem busyHost_hasScratch : HasScratch busyHost programTree where
  fresh := by
    rintro place ⟨rest, rfl⟩
    simp [busyHost, steadyHost, programTree, Tree.get?, List.lookup_cons]
  parent := ⟨_, .top⟩
  name := by
    rintro name ⟨⟩
    decide
  plain := by decide
  short := by decide

theorem busyHost_get? (words : List String) :
    (launched ⟨"bin/ecl", .ofInt 120⟩ busyHost .empty "x" (.ofTree programTree) words).2.get? ["s"] =
      some (.dir scratchMode) :=
  (Tree.get?_put_of_ne (by decide)).trans
    ((Tree.get?_put_of_ne (by decide)).trans (get?_unpack_self (by decide) _ _ _))

/-- The program's text stands where the path of the source file leads. -/
theorem busyHost_readBytes (words : List String) :
    (launched ⟨"bin/ecl", .ofInt 120⟩ busyHost .empty "x" (.ofTree programTree) words).2.readBytes
      .none [] (sourcePath busyHost) = .ok (Text.encode "y\r\n") := by
  generalize hleft : (launched ⟨"bin/ecl", .ofInt 120⟩ busyHost .empty "x" (.ofTree programTree)
    words).2 = left
  have hdir : left.get? ["s"] = some (.dir scratchMode) := hleft ▸ busyHost_get? words
  have hfile : left.get? ["s", sourceName] = some (.file (Text.encode "y\r\n") 0o644) := by
    rw [← hleft]
    exact (Tree.get?_put_of_ne (by decide)).trans (Tree.get?_put_self (by decide))
  have hname : Tree.IsName "s" ∧ Tree.IsName sourceName :=
    by decide
  have hentry : left.entryAt? [] true (sourcePath busyHost) =
      .ok (["s", sourceName], .file (Text.encode "y\r\n") 0o644) :=
    Tree.entryAt?_eq_ok_iff.mpr ⟨by decide, by decide,
      (Tree.walk_through hname.1 hdir).trans (Tree.walk_halt hname.2 hfile rfl)⟩
  exact Tree.readBytes_of_file rfl hentry

/-- The new text is the answer, and nothing of the program's work is left. -/
theorem transform_through_scratch_of_busy :
    let done := Eclipse.transform ⟨"bin/ecl", .ofInt 120⟩ busyHost .empty "x" (.ofTree programTree)
    done.1 = .ok "y\r\n" ∧ done.2.tree = programTree := by
  obtain ⟨words, hstarted⟩ := steadyHost_started .overtime
  have hstarted' : Eclipse.started ⟨"bin/ecl", .ofInt 120⟩ busyHost .empty "x"
      (.ofTree programTree) = .ok words := hstarted
  obtain ⟨hthrough, -, hback, -⟩ := transform_through_scratch ⟨"bin/ecl", .ofInt 120⟩ busyHost
    .empty "x" (.ofTree programTree) [] (Echo.silent_staysIn []) (fun _ h => nomatch h)
    busyHost_hasScratch fun words _ => by
      rw [launched_eq]
      exact ⟨(Tree.prune_put ⟨["workspace"], rfl⟩).trans (Tree.prune_put ⟨[sourceName], rfl⟩),
        Or.inr ⟨_, busyHost_get? words⟩⟩
  obtain ⟨-, -, -, hended⟩ := hthrough words hstarted'
  obtain ⟨text, hdecode, -, hanswer⟩ := (hended [] [] rfl .nil .nil).1 _ (busyHost_readBytes words)
    (Text.wellFormed_encode _)
  have htext : text = "y\r\n" :=
    Except.ok.inj (hdecode.symm.trans (Text.decode_eq_ok_iff.mpr rfl))
  exact ⟨htext ▸ hanswer, hback rfl⟩

end Eclipse
end BatchFormat
