import BatchFormat.Engine.Command
import BatchFormat.Proofs.Engine.Soft
import BatchFormat.Proofs.Shell.Waiting
import BatchFormat.Proofs.Walk.Account

/-!
# How a command fails

A command is handed the bytes of the text and answers with what it printed, if it ended with success
and printed UTF-8. Every other way in which a program can end is a rejection, and so is a refused
start; what it prints on its error output is read leniently and never adds a failure of its own. On
a walk a rejected file is not written to, and is not counted as failed.
-/
namespace BatchFormat

variable {w : Walker} {host : Host} {world : World} {run : Run} {p root : Path}
  {recursive dryRun : Bool} {place : Location} {event : Event} {events : List Event}

/-! ## Which attempt changes a file -/

namespace Walker

/-- A place that copies of the log do not go to changes on an event only if the attempt at a file
changes it. -/
theorem get?_act_of_attempt
    (hecho : ∀ replaced r (t : Tree), (host.echo replaced r t).get? place = t.get? place)
    (hattempt : ∀ q ∈ w.taken? event,
      (w.attempt host dryRun q (opening host q run)).2.tree.get? place =
        (opening host q run).tree.get? place) :
    ((w.visitor host dryRun).act run event).world.tree.get? place =
      run.world.tree.get? place := by
  have hsay : ∀ (r : Record) (world : World),
      (world.say host r).tree.get? place = world.tree.get? place := fun _ _ => hecho _ _ _
  cases event with
  | missed q e => exact hsay _ _
  | met c =>
    change (w.meet host dryRun c run).world.tree.get? place = _
    unfold meet
    cases hfile : c.isFile with
    | false => rfl
    | true =>
      cases heligible : w.eligible c.path with
      | false => exact hsay _ _
      | true =>
        have hsame := hattempt c.path (by simp [taken?, hfile, heligible])
        have hopening : (opening host c.path run).tree.get? place = run.world.tree.get? place :=
          hsay _ _
        rw [hopening] at hsame
        unfold opening at hsame
        simp only [Bool.not_true, Bool.false_eq_true, if_false, if_true, processFile]
        split
        · next hfail => exact (hsay _ _).trans (by rwa [hfail] at hsame)
        · next hdone => exact (hsay _ _).trans (by rwa [hdone] at hsame)

/-- What some events change about such a place, one of the attempts has changed at its turn. -/
theorem exists_attempt_of_replay
    (hecho : ∀ replaced r (t : Tree), (host.echo replaced r t).get? place = t.get? place)
    (honce : (events.filterMap w.taken?).Nodup)
    (hdiffers : (w.replay host dryRun events run).world.tree.get? place ≠
      run.world.tree.get? place) :
    ∃ q ∈ events.filterMap w.taken?,
      (w.attempt host dryRun q (w.turnAmong host dryRun events run q)).2.tree.get? place ≠
        (w.turnAmong host dryRun events run q).tree.get? place := by
  induction events generalizing run with
  | nil => exact (hdiffers rfl).elim
  | cons event events ih =>
    have hrest : (events.filterMap w.taken?).Nodup :=
      honce.sublist ((List.sublist_cons_self _ _).filterMap _)
    by_cases hhead : ((w.visitor host dryRun).act run event).world.tree.get? place =
        run.world.tree.get? place
    · rw [replay_cons, ← hhead] at hdiffers
      obtain ⟨q, hq, hchanged⟩ := ih hrest hdiffers
      rw [← turnAmong_of_mem honce hq] at hchanged
      obtain ⟨later, hlater, htaken⟩ := List.mem_filterMap.mp hq
      exact ⟨q, List.mem_filterMap.mpr ⟨later, List.mem_cons_of_mem _ hlater, htaken⟩, hchanged⟩
    · by_contra hnone
      refine hhead (get?_act_of_attempt hecho fun q hq => ?_)
      obtain ⟨rfl, -⟩ := taken?_eq_some_iff.mp hq
      by_contra hchanged
      have hturn : w.turnAmong host dryRun (.met ⟨q, .file⟩ :: events) run q = _ := turnAmong_head
      rw [← hturn] at hchanged
      exact hnone ⟨q, List.mem_filterMap.mpr ⟨_, List.mem_cons_self, hq⟩, hchanged⟩

end Walker

namespace Command

variable {c : Command} {content text : String} {outcome : Outcome} {limit : Binary}

/-! ## The answer -/

def spoken (c : Command) (host : Host) (world : World) : World :=
  let line := String.intercalate " " c.words
  world.say host (.debug s!"Executing formatter command: {line}")

/-- What comes of a command that is handed a text, and the files afterwards. -/
def launched (c : Command) (host : Host) (content : String) (world : World) : Outcome × Tree :=
  host.launch ⟨c.words, Text.encode content, c.limit⟩ (c.spoken host world).tree

theorem transform_eq (hwords : c.words ≠ []) (host : Host) (content : String) (world : World) :
    c.transform host content world =
      (answer c.limit (c.launched host content world).1,
        { c.spoken host world with tree := (c.launched host content world).2 }) :=
  if_neg hwords

/-- There is an answer only if the command ends with status 0, and it is all of its output. -/
theorem answer_ok_iff :
    answer limit outcome = .ok text ↔ ∃ errors, outcome = .ended 0 (Text.encode text) errors := by
  cases outcome with
  | notStarted cause => cases hrefusal : cause.isRefusal <;> simp [answer, hrefusal]
  | badLimit | overtime => simp [answer]
  | ended status output errors =>
    by_cases hstatus : status = 0
    · subst hstatus
      cases hdecode : Text.decode output with
      | ok printed =>
        have hsame : printed = text ↔ output = Text.encode text := by
          rw [← Text.decode_eq_ok_iff, hdecode, Except.ok.injEq]
        simp [answer, hdecode, hsame]
      | error flaw =>
        refine iff_of_false (by simp [answer, hdecode]) ?_
        rintro ⟨_, hended⟩
        cases hended
        simp [Text.decode_encode] at hdecode
    · simp [answer, hstatus]

theorem eq_of_ended {new : String} {errors errors' : Bytes}
    (h : outcome = .ended 0 (Text.encode text) errors)
    (h' : outcome = .ended 0 (Text.encode new) errors') : new = text := by
  have hanswer : answer .nan outcome = .ok text := answer_ok_iff.mpr ⟨errors, h⟩
  have hanswer' : answer .nan outcome = .ok new := answer_ok_iff.mpr ⟨errors', h'⟩
  exact Except.ok.inj (hanswer'.symm.trans hanswer)

/-- Whatever has to be expected of a program is an answer or a rejection. -/
theorem isSoft_answer_iff : IsSoft (answer limit outcome) ↔ outcome.Expected := by
  cases outcome with
  | notStarted cause =>
    cases hrefusal : cause.isRefusal with
    | true =>
      exact iff_of_true (by simp [answer, hrefusal, isSoft_error_iff]) (.notStarted hrefusal)
    | false =>
      refine iff_of_false (by simp [answer, hrefusal, isSoft_error_iff]) ?_
      rintro ⟨h⟩
      exact nomatch hrefusal.symm.trans h
  | badLimit flaw => exact iff_of_false (by simp [answer, isSoft_error_iff]) (by rintro ⟨⟩)
  | overtime => exact iff_of_true (isSoft_error_iff.mpr ⟨_, rfl⟩) .overtime
  | ended status output errors =>
    refine iff_of_true ?_ .ended
    simp only [answer]
    split
    · exact isSoft_error_iff.mpr ⟨_, rfl⟩
    · split
      · exact isSoft_ok
      · exact isSoft_error_iff.mpr ⟨_, rfl⟩

/-! ## An attempt on a walk -/

/-- A file that is attempted has a text that is handed to the command. -/
structure Sends (host : Host) (p : Path) (world : World) (text : String) : Prop where
  read : world.tree.readText host.faults host.cwd p = .ok text
  filled : Text.isBlank text = false

theorem Sends.eq {other : String} (h : Sends host p world text) (h' : Sends host p world other) :
    other = text := Except.ok.inj (h'.read.symm.trans h.read)

/-- What an attempt at a file comes to with a command: how it ends, and the tree that it leaves. -/
inductive Attempted (c : Command) (w : Walker) (host : Host) (dryRun : Bool) (p : Path)
    (world : World) : Except Failure Transformed → Tree → Prop
  | unread {e : Failure} (hread : world.tree.readText host.faults host.cwd p = .error e) :
    Attempted c w host dryRun p world (.error e) world.tree
  | blank {text : String} (hread : world.tree.readText host.faults host.cwd p = .ok text)
    (hblank : Text.isBlank text = true) :
    Attempted c w host dryRun p world (.ok (.unchanged text)) world.tree
  | unexpected {text : String} {e : Failure} (hsends : Sends host p world text)
    (hunexpected : ¬(c.launched host text world).1.Expected) :
    Attempted c w host dryRun p world (.error e) (c.launched host text world).2
  | rejected {text : String} {r : Rejection} {after : World} (hsends : Sends host p world text)
    (hexpected : (c.launched host text world).1.Expected)
    (hfailed : ∀ new errors, (c.launched host text world).1 ≠ .ended 0 (Text.encode new) errors)
    (hafter : after.tree = (c.launched host text world).2) :
    Attempted c w host dryRun p world (.ok (.unchanged text)) (w.gateway.report r after).tree
  | kept {text new : String} {errors : Bytes} (hsends : Sends host p world text)
    (hended : (c.launched host text world).1 = .ended 0 (Text.encode new) errors)
    (hkept : (new != text && !dryRun) = false) :
    Attempted c w host dryRun p world (.ok (.compare text new)) (c.launched host text world).2
  | unwritten {text new : String} {errors : Bytes} {e : SystemError}
    (hsends : Sends host p world text)
    (hended : (c.launched host text world).1 = .ended 0 (Text.encode new) errors)
    (hchanged : (new != text && !dryRun) = true)
    (hreplace : (c.launched host text world).2.replace host.faults (host.draw p) host.cwd p new =
      (.error e, (c.launched host text world).2)) :
    Attempted c w host dryRun p world (.error (.system e)) (c.launched host text world).2
  | written {text new : String} {errors : Bytes} {place : Location} {entry : Entry}
    (hsends : Sends host p world text)
    (hended : (c.launched host text world).1 = .ended 0 (Text.encode new) errors)
    (hchanged : (new != text && !dryRun) = true)
    (hreplace : (c.launched host text world).2.replace host.faults (host.draw p) host.cwd p new =
      (.ok place, (c.launched host text world).2.put place entry)) :
    Attempted c w host dryRun p world (.ok (.compare text new))
      ((c.launched host text world).2.put place entry)

/-- A gateway asks the command in the world in which the text is noted as asked for. -/
theorem ask_eq {g : Gateway} (hengine : g.engine = c.engine host) (hwords : c.words ≠ [])
    (text : String) (world : World) : ∃ after : World,
      g.ask text world = (answer c.limit (c.launched host text world).1, after) ∧
        after.tree = (c.launched host text world).2 := by
  have hask : g.ask text world =
      c.transform host text { world with asked := world.asked ++ [text] } := by
    rw [Gateway.ask, hengine]
    rfl
  rw [hask, transform_eq hwords]
  exact ⟨_, rfl, rfl⟩

/-- Each attempt at a file ends in one of these ways. -/
theorem attempt_spec (hengine : w.gateway.engine = c.engine host) (hwords : c.words ≠ [])
    (dryRun : Bool) (p : Path) (world : World) :
    c.Attempted w host dryRun p world (w.attempt host dryRun p world).1
      (w.attempt host dryRun p world).2.tree := by
  unfold Walker.attempt
  cases hread : world.tree.readText host.faults host.cwd p with
  | error e => exact .unread hread
  | ok text =>
    simp only
    unfold Gateway.apply
    cases hblank : Text.isBlank text with
    | true => exact .blank hread hblank
    | false =>
      have hsends : Sends host p world text := ⟨hread, hblank⟩
      obtain ⟨after, hask, htree⟩ := ask_eq hengine hwords text world
      simp only [Bool.false_eq_true, if_false, hask]
      cases hanswer : answer c.limit (c.launched host text world).1 with
      | error failure =>
        by_cases hexpected : (c.launched host text world).1.Expected
        · obtain ⟨r, rfl⟩ :=
            isSoft_error_iff.mp (hanswer ▸ isSoft_answer_iff.mpr hexpected)
          refine .rejected hsends hexpected (fun new errors hended => ?_) htree
          cases hanswer.symm.trans (answer_ok_iff.mpr ⟨errors, hended⟩)
        · have hhard : ¬∃ r, failure = .rejected r := fun hsoft =>
            hexpected (isSoft_answer_iff.mp (hanswer ▸ isSoft_error_iff.mpr hsoft))
          cases failure with
          | rejected r => exact (hhard ⟨r, rfl⟩).elim
          | _ => exact htree ▸ .unexpected hsends hexpected
      | ok new =>
        obtain ⟨errors, hended⟩ := answer_ok_iff.mp hanswer
        simp only
        split
        · next hchanged =>
          unfold World.replaceFile
          rw [htree, show (Transformed.compare text new).content = new from rfl]
          rcases Tree.replace_cases (c.launched host text world).2 host.faults (host.draw p) host.cwd p
            new with ⟨e, hreplace⟩ | ⟨_, _, _, _, -, hreplace⟩
          · rw [hreplace]
            exact .unwritten hsends hended hchanged hreplace
          · rw [hreplace]
            exact .written hsends hended hchanged hreplace
        · next hkept => exact htree ▸ .kept hsends hended (Bool.eq_false_iff.mpr hkept)

/-- The reasons for which a file fails on a walk with a command. What becomes of a program that was
started is none of them, unless its limit cannot be measured or its words cannot be passed on. -/
inductive Fails (c : Command) (host : Host) (dryRun : Bool) (p : Path) (world : World) : Prop
  | unread {e : Failure} (hread : world.tree.readText host.faults host.cwd p = .error e)
  | unexpected {text : String} (hsends : Sends host p world text)
    (hunexpected : ¬(c.launched host text world).1.Expected)
  | unwritten {text new : String} {errors : Bytes} {e : SystemError}
    (hsends : Sends host p world text)
    (hended : (c.launched host text world).1 = .ended 0 (Text.encode new) errors)
    (hchanged : (new != text && !dryRun) = true)
    (hreplace : ((c.launched host text world).2.replace host.faults (host.draw p) host.cwd p new).1 =
      .error e)

theorem Fails.of_sends (h : c.Fails host dryRun p world) (hsends : Sends host p world text) :
    ¬(c.launched host text world).1.Expected ∨ ∃ new errors e,
      (c.launched host text world).1 = .ended 0 (Text.encode new) errors ∧
        (new != text && !dryRun) = true ∧
        ((c.launched host text world).2.replace host.faults (host.draw p) host.cwd p new).1 =
          .error e := by
  cases h with
  | unread hread => cases hread.symm.trans hsends.read
  | unexpected hsends' hunexpected => exact Or.inl (hsends.eq hsends' ▸ hunexpected)
  | unwritten hsends' hended hchanged hreplace =>
    obtain rfl := hsends.eq hsends'
    exact Or.inr ⟨_, _, _, hended, hchanged, hreplace⟩

/-- An attempt ends with an error exactly if the read, the command or the write fails. -/
theorem Attempted.fails_iff {ending : Except Failure Transformed} {after : Tree}
    (h : c.Attempted w host dryRun p world ending after) :
    (∃ e, ending = .error e) ↔ c.Fails host dryRun p world := by
  cases h with
  | unread hread => exact iff_of_true ⟨_, rfl⟩ (.unread hread)
  | unexpected hsends hunexpected => exact iff_of_true ⟨_, rfl⟩ (.unexpected hsends hunexpected)
  | unwritten hsends hended hchanged hreplace =>
    exact iff_of_true ⟨_, rfl⟩ (.unwritten hsends hended hchanged (congrArg Prod.fst hreplace))
  | blank hread hblank =>
    refine iff_of_false (by simp) fun hfails => ?_
    cases hfails with
    | unread hunread => cases hread.symm.trans hunread
    | unexpected hsends | unwritten hsends =>
      rw [Except.ok.inj (hread.symm.trans hsends.read), hsends.filled] at hblank
      cases hblank
  | rejected hsends hexpected hfailed hafter =>
    refine iff_of_false (by simp) fun hfails => ?_
    rcases hfails.of_sends hsends with hunexpected | ⟨new, errors, -, hended, -⟩
    · exact hunexpected hexpected
    · exact hfailed new errors hended
  | kept hsends hended hkept =>
    refine iff_of_false (by simp) fun hfails => ?_
    rcases hfails.of_sends hsends with hunexpected | ⟨new, errors, -, hended', hchanged, -⟩
    · exact hunexpected (hended ▸ .ended)
    · rw [eq_of_ended hended hended', hkept] at hchanged
      cases hchanged
  | written hsends hended hchanged hreplace =>
    refine iff_of_false (by simp) fun hfails => ?_
    rcases hfails.of_sends hsends with hunexpected | ⟨new, errors, e, hended', -, hrefused⟩
    · exact hunexpected (hended ▸ .ended)
    · rw [eq_of_ended hended hended', hreplace] at hrefused
      cases hrefused

/-- A file that changed got what a program printed that ended with success. -/
theorem Attempted.of_changes {ending : Except Failure Transformed} {after : Tree}
    (h : c.Attempted w host dryRun p world ending after) (hchanges : Walker.changes ending = true) :
    ∃ text new errors, Sends host p world text ∧ new ≠ text ∧
      (c.launched host text world).1 = .ended 0 (Text.encode new) errors := by
  cases h with
  | unread | blank | unexpected | rejected | unwritten => cases hchanges
  | @kept text new errors hsends hended | @written text new errors _ _ hsends hended =>
    exact ⟨text, new, errors, hsends, bne_iff_ne.mp hchanges, hended⟩

/-- Neither a program nor the sink nor a copy of the log touches what is at a place. -/
structure LeavesAlone (w : Walker) (host : Host) (place : Location) : Prop where
  launch : ∀ r (t : Tree), (host.launch r t).2.get? place = t.get? place
  sink : ∀ sink ∈ w.gateway.sink?, ∀ r (world : World),
    (sink r world).tree.get? place = world.tree.get? place
  echo : ∀ replaced r (t : Tree), (host.echo replaced r t).get? place = t.get? place

theorem LeavesAlone.launched (h : LeavesAlone w host place) (c : Command) (text : String)
    (world : World) : (c.launched host text world).2.get? place = world.tree.get? place :=
  (h.launch _ _).trans (h.echo _ _ _)

theorem LeavesAlone.report (h : LeavesAlone w host place) (r : Rejection) (world : World) :
    (w.gateway.report r world).tree.get? place = world.tree.get? place := by
  unfold Gateway.report
  cases hsink : w.gateway.sink? with
  | none => rfl
  | some sink => exact h.sink sink hsink r world

/-- An attempt changes what is at such a place only by writing there what a program printed that
ended with success. -/
theorem Attempted.changed {ending : Except Failure Transformed} {after : Tree}
    (h : c.Attempted w host dryRun p world ending after) (hleave : LeavesAlone w host place)
    (hdiffers : after.get? place ≠ world.tree.get? place) :
    ∃ text new errors, Sends host p world text ∧
      (c.launched host text world).1 = .ended 0 (Text.encode new) errors ∧
      (new != text && !dryRun) = true ∧
      ((c.launched host text world).2.replace host.faults (host.draw p) host.cwd p new).1 =
        .ok place := by
  cases h with
  | unread | blank => exact (hdiffers rfl).elim
  | unexpected | kept | unwritten => exact (hdiffers (hleave.launched c _ _)).elim
  | rejected _ _ _ hafter =>
    refine (hdiffers ((hleave.report _ _).trans ?_)).elim
    rw [hafter]
    exact hleave.launched c _ _
  | @written text new errors there _ hsends hended hchanged hreplace =>
    by_cases hplace : place = there
    · subst hplace
      exact ⟨text, new, errors, hsends, hended, hchanged, congrArg Prod.fst hreplace⟩
    · rw [Tree.get?_put_of_ne hplace] at hdiffers
      exact (hdiffers (hleave.launched c _ _)).elim

/-- A command is handed the bytes of the text and nothing else. It answers with a text exactly if
the program ends with success and what it printed is the bytes of that text, and it answers or
rejects exactly if what became of the program has to be expected: the start was refused, or the
program ran over its limit, or it ended, whatever its status and whatever it printed. On a walk the
files that fail are those that cannot be read, those whose program came to something unexpected, and
those whose new text cannot be put in their place; and what is at a place that neither the programs
nor the log touch changes only by a program that ended with success. -/
theorem transform_exact (c : Command) (host : Host) (hwords : c.words ≠ []) :
    (∀ content (world : World),
      let launched := host.launch ⟨c.words, Text.encode content, c.limit⟩ (c.spoken host world).tree
      let transformed := c.transform host content world
      transformed.2 = { c.spoken host world with tree := launched.2 } ∧
      (∀ text, transformed.1 = .ok text ↔
        ∃ errors, launched.1 = .ended 0 (Text.encode text) errors) ∧
      (IsSoft transformed.1 ↔ launched.1.Expected)) ∧
    ∀ (w : Walker) root recursive dryRun (world : World), w.gateway.engine = c.engine host →
      w.KeepsNodup host → world.tree.places.Nodup →
      world.tree.pathExists host.cwd root = .ok true →
      let after := (w.run host root recursive dryRun world).run
      let failed := after.summary.errors.map Prod.fst
      let files := w.taken host root recursive dryRun world
      let missed := (w.trace host root recursive dryRun world).filterMap Event.missed?
      let turn := w.turn host root recursive dryRun world
      after.summary.failed = (files.filter (· ∈ failed)).length + missed.length ∧
      (∀ p ∈ files, p ∈ failed ↔ c.Fails host dryRun p (turn p)) ∧
      (∀ p ∈ after.summary.changedFiles, ∃ text new errors, Sends host p (turn p) text ∧
        new ≠ text ∧ (c.launched host text (turn p)).1 = .ended 0 (Text.encode new) errors) ∧
      ∀ place, LeavesAlone w host place →
        after.world.tree.get? place ≠ world.tree.get? place →
        ∃ p ∈ files, ∃ text new errors, Sends host p (turn p) text ∧
          (c.launched host text (turn p)).1 = .ended 0 (Text.encode new) errors ∧
          (new != text && !dryRun) = true ∧
          ((c.launched host text (turn p)).2.replace host.faults (host.draw p) host.cwd p new).1 =
            .ok place := by
  refine ⟨fun content world => ⟨?_, fun text => ?_, ?_⟩,
    fun w root recursive dryRun world hengine hkeep hplaces hroot => ⟨?_, fun p hp => ?_,
      fun p hp => ?_, fun place hleave hdiffers => ?_⟩⟩
  · rw [transform_eq hwords]
    rfl
  · rw [transform_eq hwords]
    exact answer_ok_iff
  · rw [transform_eq hwords]
    exact isSoft_answer_iff
  · exact Walker.failed_run hkeep hplaces hroot recursive dryRun
  · rw [Summary.mem_keys_iff, Walker.lookup_run_of_taken hkeep hplaces hroot hp,
      ← (attempt_spec hengine hwords dryRun p _).fails_iff]
    unfold Walker.fate
    cases (w.attempt host dryRun p (w.turn host root recursive dryRun world p)).1 <;>
      simp [Walker.complaint?]
  · rw [Walker.changedFiles_run hkeep hplaces hroot, List.mem_filter] at hp
    obtain ⟨-, hchanges⟩ := hp
    have hspec := attempt_spec hengine hwords dryRun p (w.turn host root recursive dryRun world p)
    exact hspec.of_changes hchanges
  · have hstart : (Walker.start host root world).world.tree.get? place = world.tree.get? place := by
      unfold Walker.start Walker.announce
      split
      · exact hleave.echo _ _ _
      · rfl
    rw [Walker.run_eq_replay hroot, ← hstart] at hdiffers
    obtain ⟨p, hp, hchanged⟩ := Walker.exists_attempt_of_replay hleave.echo
      (Walker.nodup_taken hkeep hplaces root recursive dryRun) hdiffers
    obtain ⟨text, new, errors, hsends, hended, hwrites, hreplace⟩ :=
      (attempt_spec hengine hwords dryRun p _).changed hleave hchanged
    exact ⟨p, hp, text, new, errors, hsends, hended, hwrites, hreplace⟩

def pipeWalker (c : Command) (host : Host) : Walker :=
  ⟨⟨c.engine host, .empty, none⟩, fun _ => true⟩

/-- A program that fails and prints no text is rejected, and the file stays as it is. -/
theorem transform_exact_of_failure :
    let host := Eclipse.steadyHost (.ended 3 [0xFF] [0xFF])
    let c : Command := ⟨["cat"], .ofInt 120⟩
    let root : Path := ⟨.relative, ["p", "a", "X.java"]⟩
    let after := ((pipeWalker c host).run host root true false (.ofTree Walker.mixedTree)).run
    IsSoft (c.transform host "x" (.ofTree Walker.mixedTree)).1 ∧
      root ∉ after.summary.errors.map Prod.fst ∧
      ∀ place, after.world.tree.get? place = Walker.mixedTree.get? place := by
  intro host c root after
  obtain ⟨hanswers, hwalks⟩ := transform_exact c host (by decide)
  have hkeep : (pipeWalker c host).KeepsNodup host :=
    ⟨fun _ _ _ h => h, fun _ h => absurd h (Option.not_mem_none _), fun _ _ _ h => h⟩
  have hshape : (pipeWalker c host).KeepsShape host :=
    ⟨⟨fun _ _ _ => rfl, fun _ h => absurd h (Option.not_mem_none _)⟩, fun _ _ _ => rfl⟩
  have hentry : Walker.mixedTree.entryAt? [] true root = _ := Walker.mixedTree_file (by decide) true
  have hfile := Tree.isFile_of_file hentry
  obtain ⟨-, hfails, -, hchanges⟩ := hwalks (pipeWalker c host) root true false
    (.ofTree Walker.mixedTree) rfl hkeep (by decide) (Tree.pathExists_of_isFile hfile)
  have htrace : (pipeWalker c host).trace host root true false (.ofTree Walker.mixedTree) =
      [.met ⟨root, .file⟩] := Walker.trace_of_file hshape ⟨_, .top⟩ hfile true false
  have hlaunched (text : String) (world : World) :
      (c.launched host text world).1 = .ended 3 [0xFF] [0xFF] := rfl
  refine ⟨((hanswers _ _).2.2).mpr .ended, ?_, fun place => ?_⟩
  · have hmem : root ∈ (pipeWalker c host).taken host root true false (.ofTree Walker.mixedTree) := by
      rw [Walker.taken, htrace]
      exact List.mem_singleton_self _
    rw [hfails _ hmem]
    -- the file can be read at its turn, since nothing happened before it
    have htree : ((pipeWalker c host).turn host root true false (.ofTree Walker.mixedTree)
        root).tree = Walker.mixedTree := by
      rw [Walker.turn, htrace, Walker.turnAmong_head]
      unfold Walker.opening Walker.start Walker.announce
      split <;> rfl
    have hread : Walker.mixedTree.readText host.faults host.cwd root = .ok "x" :=
      Tree.readText_eq_ok_iff.mpr (Tree.readBytes_of_file rfl hentry)
    rintro (hunread | ⟨-, hunexpected⟩ | ⟨-, hended⟩)
    · rw [htree] at hunread
      cases hread.symm.trans hunread
    · exact hunexpected (hlaunched _ _ ▸ .ended)
    · cases (hlaunched _ _).symm.trans hended
  · by_contra hdiffers
    obtain ⟨p, -, text, new, errors, -, hended, -⟩ :=
      hchanges place ⟨fun _ _ => rfl, fun _ h => absurd h (Option.not_mem_none _),
        fun _ _ _ => rfl⟩ hdiffers
    cases (hlaunched _ _).symm.trans hended

open Shell.Launch (launcher)

def machineHost : Host := { Walker.calmHost with launch := launcher [] [] }

def catTree : Tree :=
  ⟨[(["bin"], .dir 0o755), (["bin", "cat"], .file (Shell.Known.image "cat").bytes 0o755)]⟩

theorem catTree_sound : Shell.Run.Sound catTree [] Shell.Run.interpreterLimit
    (Octets.ofString "bin/cat") := by
  have hbin : Tree.IsName "bin" := by decide
  have hcat : Tree.IsName "cat" := by decide
  have hentry : catTree.entryAt? [] true (.ofString "bin/cat") =
      .ok (["bin", "cat"], .file (Shell.Known.image "cat").bytes 0o755) := by
    refine Tree.entryAt?_eq_ok_iff.mpr ⟨by decide, by decide, ?_⟩
    exact (Tree.walk_through hbin rfl).trans (Tree.walk_halt hcat rfl rfl)
  have hlocate : Shell.Files.locate catTree [] (Octets.ofString "bin/cat") =
      .ok (.found ["bin", "cat"] (.file (Shell.Known.image "cat").bytes 0o755)) := by
    rw [Shell.Files.locate, Octets.text_ofString]
    exact Tree.locateText_of_entry (Path.isPlain_ofString "bin/cat") hentry
  have hnamed : Shell.Known.named? (.ofBytes (Shell.Known.image "cat").bytes) = some "cat" := by
    decide
  exact .program hlocate (by decide) hnamed (Or.inr (Or.inr ⟨_, rfl⟩))

/-- Under a limit of four months the clock stops a program that would end at once. -/
theorem transform_not_expected :
    (Command.transform ⟨["bin/cat"], .ofInt 10000000⟩ machineHost "x" (.ofTree catTree)).1 =
      .error (.clock .tooLong) := by
  let r : Request := ⟨["bin/cat"], Text.encode "x", .ofInt 10000000⟩
  have hnul : r.words.any Path.holdsNul = false := by decide
  have hflaw : Shell.Launch.nanoseconds r.limit = .error .tooLong := by decide
  have hpath : "bin/cat" ∈ Lookup.attempts [] "bin/cat" := by decide
  have hstarted := Shell.Launch.started_of_sound (r := r) hnul hpath catTree_sound
  rw [transform_eq (by decide)]
  exact congrArg (answer _) (Shell.Launch.launcher_of_flaw hflaw hnul hstarted)

end Command
end BatchFormat
