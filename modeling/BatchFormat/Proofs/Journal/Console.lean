import BatchFormat.Proofs.Journal.LogFiles

/-!
# What the console shows

Records go to a list of handlers: the console and the log files, in the order in which they were
added. The first set-up adds the console, a later one only changes how much it shows, and either may
add a log file, from which on nothing is held back from the handlers as a whole. So there is one
console after any number of set-ups, and it follows the last of them: what the journal lets pass
beyond that is for the log files alone.
-/
namespace BatchFormat

inductive Handler where
  | console (c : Console)
  | file (f : LogFile)
  deriving DecidableEq, Repr

namespace Handler

def isConsole : Handler → Bool
  | console _ => true
  | file _ => false

/-- The handler with another console in the place of the old one. A log file stays as it is. -/
def withConsole (c : Console) : Handler → Handler
  | console _ => console c
  | file f => file f

/-- What a handler puts on the console for a record. -/
def line? (r : Record) : Handler → Option String
  | console c => if r.level.reaches c.level then some (c.line r) else none
  | file _ => none

theorem isConsole_withConsole (c : Console) (h : Handler) :
    (h.withConsole c).isConsole = h.isConsole := by
  cases h <;> rfl

theorem filter_map_withConsole (c : Console) (handlers : List Handler) :
    (handlers.map (withConsole c)).filter isConsole =
      (handlers.filter isConsole).map (withConsole c) := by
  rw [List.filter_map]
  exact congrArg (List.map _) (List.filter_congr fun h _ => isConsole_withConsole c h)

/-- Only the console puts lines on the console. -/
theorem filterMap_line? (r : Record) (handlers : List Handler) :
    handlers.filterMap (line? r) = (handlers.filter isConsole).filterMap (line? r) := by
  induction handlers with
  | nil => rfl
  | cons h rest ih =>
    cases h with
    | console c => rw [List.filter_cons_of_pos rfl, List.filterMap_cons, List.filterMap_cons, ih]
    | file f => exact ih

end Handler

/-- The handlers, and the level below which a record comes to none of them. -/
structure Outlets where
  level : Level
  handlers : List Handler
  deriving DecidableEq, Repr

namespace Outlets

variable {o : Outlets} {c : Console} {r : Record} {place : Location} {detail : Int}

/-- Sets how much the console shows; it is added if there are no handlers yet. -/
def setDetail (o : Outlets) (detail : Int) : Outlets :=
  let c := Console.ofDetail detail
  match o.handlers with
  | [] => ⟨c.level, [.console c]⟩
  | handlers => ⟨c.level, handlers.map (.withConsole c)⟩

def addFile (o : Outlets) (place : Location) : Outlets :=
  ⟨Journal.fileLevel, o.handlers ++ [.file ⟨place, true⟩]⟩

/-- Does what a set-up asks for, with the log file that it opened, if any. -/
def setUp (o : Outlets) (s : Journal.Setting) (opened? : Option Location) : Outlets :=
  let o := o.setDetail s.shown
  opened?.elim o o.addFile

def consoleLines (o : Outlets) (r : Record) : List String :=
  if r.level.reaches o.level then o.handlers.filterMap (Handler.line? r) else []

/-- There is one console, and every record that it would show comes to it. -/
structure Shows (o : Outlets) (c : Console) : Prop where
  one : o.handlers.filter Handler.isConsole = [.console c]
  passes : ∀ l : Level, l.reaches c.level = true → l.reaches o.level = true

/-- A set-up finds no handlers, or one console among them. -/
def IsSetUp (o : Outlets) : Prop := o.handlers = [] ∨ ∃ c, o.Shows c

/-- What the console shows follows the detail that was set last. -/
theorem Shows.setDetail (h : o.IsSetUp) (detail : Int) :
    (o.setDetail detail).Shows (.ofDetail detail) := by
  unfold Outlets.setDetail
  rcases h with hnone | ⟨old, hold⟩
  · rw [hnone]
    exact ⟨rfl, fun _ hreaches => hreaches⟩
  · have hone : (o.handlers.map (.withConsole (.ofDetail detail))).filter Handler.isConsole =
        [.console (.ofDetail detail)] := by
      rw [Handler.filter_map_withConsole, hold.one]
      rfl
    split
    · next hnone =>
      have hempty := hold.one
      rw [hnone] at hempty
      cases hempty
    · exact ⟨hone, fun _ hreaches => hreaches⟩

/-- A log file is no console, and holds nothing back from the one that there is. -/
theorem Shows.addFile (h : o.Shows c) (place : Location) : (o.addFile place).Shows c where
  one := by
    rw [Outlets.addFile, List.filter_append, h.one]
    rfl
  passes := fun l _ => Journal.reaches_fileLevel l

theorem Shows.setUp (h : o.IsSetUp) (s : Journal.Setting) (opened? : Option Location) :
    (o.setUp s opened?).Shows (.ofDetail s.shown) := by
  have hdetail := Shows.setDetail h s.shown
  cases opened? with
  | none => exact hdetail
  | some place => exact hdetail.addFile place

/-- After any number of set-ups the console is what the last of them made it. -/
theorem Shows.setUpAll (h : o.IsSetUp) (asked : List (Journal.Setting × Option Location))
    (hne : asked ≠ []) :
    (asked.foldl (fun o s => o.setUp s.1 s.2) o).Shows (.ofDetail (asked.getLast hne).1.shown) := by
  induction asked generalizing o with
  | nil => exact (hne rfl).elim
  | cons s rest ih =>
    have hfirst := Shows.setUp h s.1 s.2
    cases rest with
    | nil => exact hfirst
    | cons next rest => exact ih (Or.inr ⟨_, hfirst⟩) (List.cons_ne_nil next rest)

/-- A record is shown once, if it reaches the level of the console. -/
theorem Shows.consoleLines (h : o.Shows c) (r : Record) :
    o.consoleLines r = if r.level.reaches c.level then [c.line r] else [] := by
  unfold Outlets.consoleLines
  rw [Handler.filterMap_line?, h.one]
  by_cases hreaches : r.level.reaches c.level = true
  · simp [Handler.line?, hreaches, h.passes _ hreaches]
  · simp [Handler.line?, hreaches]

end Outlets

namespace Journal

variable {j k : Journal} {t u : Tree} {cwd : Location} {settings : List Setting} {r : Record}

def outlets (j : Journal) : Outlets :=
  ⟨j.level, j.console?.toList.map .console ++ j.files.map .file⟩

/-- No log file was added before the console. -/
def IsOrdered (j : Journal) : Prop := j.console? = none → j.files = []

theorem isOrdered_setDetail (j : Journal) (detail : Int) : (j.setDetail detail).IsOrdered :=
  fun hnone => nomatch hnone

theorem outlets_setDetail (h : j.IsOrdered) (detail : Int) :
    (j.setDetail detail).outlets = j.outlets.setDetail detail := by
  cases hconsole : j.console? with
  | none => simp [outlets, setDetail, Outlets.setDetail, hconsole, h hconsole]
  | some c =>
    simp [outlets, setDetail, Outlets.setDetail, hconsole, Handler.withConsole, Function.comp_def]

theorem outlets_addFile (j : Journal) (place : Location) :
    (j.addFile place).outlets = j.outlets.addFile place := by
  simp [outlets, addFile, Outlets.addFile]

/-- Setting a journal up does to its handlers what setting them up as a list does. -/
theorem outlets_setUpAll (hj : j.IsOrdered) (h : setUpAll cwd settings j t = .ok (k, u)) :
    ∃ opened : List (Option Location), opened.length = settings.length ∧
      k.outlets = (settings.zip opened).foldl (fun o s => o.setUp s.1 s.2) j.outlets := by
  induction settings generalizing j t with
  | nil =>
    cases h
    exact ⟨[], rfl, rfl⟩
  | cons s rest ih =>
    cases hfile : s.file? with
    | none =>
      rw [setUpAll_cons_none hfile] at h
      obtain ⟨opened, hlength, houtlets⟩ := ih (isOrdered_setDetail j s.shown) h
      refine ⟨none :: opened, congrArg Nat.succ hlength, ?_⟩
      rw [houtlets, outlets_setDetail hj]
      rfl
    | some name =>
      cases hopen : openFile t (filePath cwd name) with
      | error e =>
        rw [setUpAll_cons_error hfile hopen] at h
        cases h
      | ok first =>
        rw [setUpAll_cons_file hfile hopen] at h
        have hordered : ((j.setDetail s.shown).addFile first.1).IsOrdered :=
          fun hnone => nomatch hnone
        obtain ⟨opened, hlength, houtlets⟩ := ih hordered h
        refine ⟨some first.1 :: opened, congrArg Nat.succ hlength, ?_⟩
        rw [houtlets, outlets_addFile, outlets_setDetail hj]
        rfl

/-- How much a set-up wants to be shown: everything, with the levels, or what a person wants to
know. -/
def Setting.wantsAll (s : Setting) : Bool := s.debug || s.detail ≥ 2

theorem Setting.ofDetail_shown (s : Setting) :
    Console.ofDetail s.shown = if s.wantsAll then ⟨.debug, true⟩ else ⟨.info, false⟩ := by
  unfold Console.ofDetail shown wantsAll
  cases s.debug <;> simp

theorem filter_isConsole_outlets (j : Journal) :
    j.outlets.handlers.filter Handler.isConsole = j.console?.toList.map .console := by
  have hfiles : (j.files.map Handler.file).filter Handler.isConsole = [] :=
    List.filter_eq_nil_iff.mpr (by simp [Handler.isConsole])
  rw [outlets, List.filter_append, hfiles, List.append_nil]
  cases j.console? <;> rfl

/-- The text on the console is the lines that the handlers put there, if a console is among them. -/
theorem shown_eq_join {c : Console} (h : j.outlets.Shows c) (r : Record) :
    j.shown r = String.join (j.outlets.consoleLines r) := by
  have hconsole : j.console? = some c := by
    have hone := (filter_isConsole_outlets j).symm.trans h.one
    cases hc : j.console? with
    | none => simp [hc] at hone
    | some d => simpa [hc] using hone
  have hpasses : r.level.reaches c.level = true → r.level.reaches j.level = true := h.passes _
  rw [h.consoleLines, shown, hconsole]
  by_cases hreaches : r.level.reaches c.level = true
  · simp [hreaches, hpasses hreaches, String.join]
  · simp [hreaches, String.join]

/-- The console after a sequence of set-ups shows what the last of them wants, once each. -/
theorem shows_of_setUpAll {first : Level}
    (h : setUpAll cwd settings ⟨first, none, []⟩ t = .ok (j, u)) (hne : settings ≠ []) :
    j.outlets.Shows (.ofDetail (settings.getLast hne).shown) := by
  obtain ⟨opened, hlength, houtlets⟩ := outlets_setUpAll (fun _ => rfl) h
  have hasked : settings.zip opened ≠ [] := by
    intro hnil
    rcases List.zip_eq_nil_iff.mp hnil with hnone | hnone
    · exact hne hnone
    · exact hne (List.eq_nil_of_length_eq_zero (by rw [← hlength, hnone]; rfl))
  have hlast : ((settings.zip opened).getLast hasked).1 = settings.getLast hne := by
    have hfst : (settings.zip opened).map Prod.fst = settings :=
      List.map_fst_zip (Nat.le_of_eq hlength.symm)
    rw [← List.getLast_map (f := Prod.fst) (by simpa using hasked)]
    simp only [hfst]
  have hstart : (outlets ⟨first, none, []⟩).IsSetUp := Or.inl rfl
  rw [houtlets, ← hlast]
  exact Outlets.Shows.setUpAll hstart _ hasked

/-- After a sequence of set-ups, whatever the level before the first of them, there is exactly one
console among the handlers, and it shows what the last set-up wants: a record is one line on it if
it reaches the level of that, and none otherwise, with its level in front only where everything is
wanted. The handlers are those that the same set-ups make of an empty list; which log files were
opened among them does not show on the console. -/
theorem console_follows_last (cwd : Location) (settings : List Setting) (first : Level) (t : Tree)
    (hne : settings ≠ []) (h : setUpAll cwd settings ⟨first, none, []⟩ t = .ok (j, u)) :
    let last := settings.getLast hne
    let level := if last.wantsAll then Level.debug else Level.info
    let line := fun r : Record =>
      (if last.wantsAll then s!"{r.level.name}: {r.message}" else r.message) ++ "\n"
    (∃ opened : List (Option Location), opened.length = settings.length ∧
      j.outlets = (settings.zip opened).foldl (fun o s => o.setUp s.1 s.2) ⟨first, []⟩) ∧
    j.outlets.handlers.filter Handler.isConsole = [.console ⟨level, last.wantsAll⟩] ∧
    (∀ r, j.outlets.consoleLines r = if r.level.reaches level then [line r] else []) ∧
    (∀ r, j.shown r = String.join (j.outlets.consoleLines r)) ∧
    ∀ cwd' settings' first' t' k v, (hne' : settings' ≠ []) →
      setUpAll cwd' settings' ⟨first', none, []⟩ t' = .ok (k, v) →
      (settings'.getLast hne').wantsAll = last.wantsAll →
      (∀ r, k.outlets.consoleLines r = j.outlets.consoleLines r) ∧
        ∀ records, k.transcript records = j.transcript records := by
  intro last level line
  have hconsole : Console.ofDetail last.shown = ⟨level, last.wantsAll⟩ := by
    rw [Setting.ofDetail_shown]
    by_cases hall : last.wantsAll = true <;> simp [level, hall]
  have hshows : j.outlets.Shows ⟨level, last.wantsAll⟩ := hconsole ▸ shows_of_setUpAll h hne
  have hlines : ∀ r, j.outlets.consoleLines r = if r.level.reaches level then [line r] else [] :=
    hshows.consoleLines
  refine ⟨outlets_setUpAll (fun _ => rfl) h, hshows.one, hlines, shown_eq_join hshows, ?_⟩
  intro cwd' settings' first' t' k v hne' h' hsame
  have hshows' : k.outlets.Shows ⟨level, last.wantsAll⟩ := by
    rw [← hconsole, Setting.ofDetail_shown, ← hsame, ← Setting.ofDetail_shown]
    exact shows_of_setUpAll h' hne'
  have hlines' : ∀ r, k.outlets.consoleLines r = j.outlets.consoleLines r := fun r =>
    (hshows'.consoleLines r).trans (hlines r).symm
  refine ⟨hlines', fun records => congrArg String.join (List.map_congr_left fun r _ => ?_)⟩
  rw [shown_eq_join hshows', shown_eq_join hshows, hlines']

/-- A set-up that wants everything and a log file, and then one that wants little: details are not
shown any more, and the rest is shown without its level. -/
theorem console_follows_last_of_two : ∃ j u,
    setUpAll [] [⟨true, some "a.log", 1⟩, brief none] start .empty = .ok (j, u) ∧
      j.outlets.consoleLines (.debug "x") = [] ∧
      j.outlets.consoleLines (.info "y") = ["y\n"] := by
  have hsetUp : ∃ j u, setUpAll [] [⟨true, some "a.log", 1⟩, brief none] start .empty =
      .ok (j, u) :=
    ⟨_, _, (setUpAll_cons_file rfl openFile_empty).trans ((setUpAll_cons_none rfl).trans rfl)⟩
  obtain ⟨j, u, hdone⟩ := hsetUp
  obtain ⟨-, -, hlines, -⟩ := console_follows_last [] _ .warning .empty (List.cons_ne_nil _ _) hdone
  exact ⟨j, u, hdone, hlines (.debug "x"), hlines (.info "y")⟩

end Journal
end BatchFormat
