import BatchFormat.Proofs.Walk.Asked

/-!
# Calls through a gateway

A gateway stands between those who have texts and an engine that may answer, reject or break down,
each time in another way. To say how often the engine is asked and what the sink is told, the work
of a gateway is told a second time for engines and sinks on states of any kind; on states that also
hold what a listener writes down, this shows every question and every report. Each call comes to one
of four outcomes, and as the gateway keeps nothing from one call to the next, so does each call of
any sequence.
-/
namespace BatchFormat

structure Exchange where
  settings : Settings
  content : String
  answer : Except Failure String

def Exchange.rejection? (x : Exchange) : Option Rejection :=
  match x.answer with
  | .error (.rejected r) => some r
  | _ => none

/-- A world, and what a listener wrote down in it: what the engine was asked, and what the sink
was told. -/
structure Overheard where
  world : World
  exchanges : List Exchange
  received : List Rejection

/-- One call of a gateway as a listener tells it. -/
structure Turn where
  content : String
  exchanges : List Exchange
  received : List Rejection
  result : Except Failure Transformed

namespace Gateway

variable {g : Gateway} {content : String} {contents : List String} {w : World} {e : Failure}

/-! ## A gateway with a listener -/

def tell {σ : Type} (sink? : Option (Rejection → σ → σ)) (r : Rejection) (s : σ) : σ :=
  match sink? with
  | some sink => sink r s
  | none => s

/-- What a gateway does, with an engine and a sink that act on states of any kind. -/
def mediate {σ : Type} (transform : Settings → String → σ → Except Failure String × σ)
    (sink? : Option (Rejection → σ → σ)) (note : String → σ → σ) (settings : Settings)
    (content : String) (s : σ) : Except Failure Transformed × σ :=
  if Text.isBlank content then (.ok (.unchanged content), s)
  else
    match transform settings content (note content s) with
    | (.ok answer, s) => (.ok (.compare content answer), s)
    | (.error (.rejected r), s) => (.ok (.unchanged content), tell sink? r s)
    | (.error e, s) => (.error e, s)

def noteAsked (content : String) (w : World) : World := { w with asked := w.asked ++ [content] }

theorem report_eq_tell (g : Gateway) (r : Rejection) (w : World) :
    g.report r w = tell g.sink? r w := by
  unfold report tell
  cases g.sink? <;> rfl

/-- The gateway is the mediation between its engine and its sink. -/
theorem apply_eq_mediate (g : Gateway) (content : String) (w : World) :
    g.apply content w =
      mediate g.engine.transform g.sink? noteAsked g.settings content w := by
  unfold apply mediate ask noteAsked
  split
  · rfl
  · generalize g.engine.transform g.settings content _ = answered
    obtain ⟨answer, after⟩ := answered
    cases answer with
    | ok answer => rfl
    | error e =>
      cases e with
      | rejected r => exact congrArg _ (report_eq_tell g r after)
      | _ => rfl

/-- The engine, with a listener who writes down each question and its answer. -/
def heardTransform (g : Gateway) (settings : Settings) (content : String) (o : Overheard) :
    Except Failure String × Overheard :=
  let (answer, world) := g.engine.transform settings content o.world
  (answer, ⟨world, o.exchanges ++ [⟨settings, content, answer⟩], o.received⟩)

def heardSink (sink : Sink) (r : Rejection) (o : Overheard) : Overheard :=
  ⟨sink r o.world, o.exchanges, o.received ++ [r]⟩

theorem world_tell (sink? : Option Sink) (r : Rejection) (o : Overheard) :
    (tell (sink?.map heardSink) r o).world = tell sink? r o.world := by
  cases sink? <;> rfl

theorem exchanges_tell (sink? : Option Sink) (r : Rejection) (o : Overheard) :
    (tell (sink?.map heardSink) r o).exchanges = o.exchanges := by
  cases sink? <;> rfl

theorem received_tell (sink? : Option Sink) (r : Rejection) (o : Overheard) :
    (tell (sink?.map heardSink) r o).received =
      o.received ++ if sink?.isSome then [r] else [] := by
  cases sink? with
  | none => exact (List.append_nil _).symm
  | some sink => rfl

def overhear (g : Gateway) (content : String) (o : Overheard) :
    Except Failure Transformed × Overheard :=
  mediate g.heardTransform (g.sink?.map heardSink)
    (fun content o => { o with world := noteAsked content o.world }) g.settings content o

/-- Listening changes nothing about a call. -/
theorem overhear_eq_apply (g : Gateway) (content : String) (o : Overheard) :
    (g.overhear content o).1 = (g.apply content o.world).1 ∧
      (g.overhear content o).2.world = (g.apply content o.world).2 := by
  cases hblank : Text.isBlank content with
  | true => simp [apply_eq_mediate, overhear, mediate, hblank]
  | false =>
    cases hasked : g.engine.transform g.settings content (noteAsked content o.world) with
    | mk answer after =>
      simp only [apply_eq_mediate, overhear, mediate, heardTransform, hblank, hasked]
      cases answer with
      | ok answer => exact ⟨rfl, rfl⟩
      | error e =>
        cases e with
        | rejected r => exact ⟨rfl, world_tell g.sink? r _⟩
        | _ => exact ⟨rfl, rfl⟩

/-! ## One call -/

/-- A call as somebody tells it who listens to nothing else. -/
def turn (g : Gateway) (content : String) (w : World) : Turn :=
  let (result, o) := g.overhear content ⟨w, [], []⟩
  ⟨content, o.exchanges, o.received, result⟩

/-- The outcomes of a call: a text with nothing in it is given back and nobody is asked; otherwise
the engine is asked once. An answer is passed on and compared, a rejection is told to the sink, if
there is one, and any other failure is passed on. -/
inductive Fair (g : Gateway) : Turn → Prop
  | blank {content : String} (hblank : Text.isBlank content = true) :
    Fair g ⟨content, [], [], .ok ⟨content, false⟩⟩
  | answered {content answer : String} (hfilled : Text.isBlank content = false) :
    Fair g ⟨content, [⟨g.settings, content, .ok answer⟩], [], .ok ⟨answer, answer != content⟩⟩
  | rejected {content : String} {r : Rejection} (hfilled : Text.isBlank content = false) :
    Fair g ⟨content, [⟨g.settings, content, .error (.rejected r)⟩],
      if g.sink?.isSome then [r] else [], .ok ⟨content, false⟩⟩
  | failed {content : String} {e : Failure} (hfilled : Text.isBlank content = false)
    (hother : ∀ r, e ≠ .rejected r) :
    Fair g ⟨content, [⟨g.settings, content, .error e⟩], [], .error e⟩

/-- A turn keeps to the rules of the gateway, whatever the engine does. -/
theorem fair_turn (g : Gateway) (content : String) (w : World) : Fair g (g.turn content w) := by
  cases hblank : Text.isBlank content with
  | true =>
    simp only [turn, overhear, mediate, hblank]
    exact .blank hblank
  | false =>
    cases hasked : g.engine.transform g.settings content (noteAsked content w) with
    | mk answer after =>
      simp only [turn, overhear, mediate, heardTransform, hblank, hasked, Bool.false_eq_true,
        if_false]
      cases answer with
      | ok answer => exact .answered hblank
      | error e =>
        cases e with
        | rejected r =>
          simp only [received_tell, exchanges_tell, List.nil_append]
          exact .rejected hblank
        | _ => exact .failed hblank fun r hr => nomatch hr

namespace Fair

variable {turn : Turn}

/-- The engine is asked the text if there is something in it, and nothing else. -/
theorem asked (h : Fair g turn) :
    turn.exchanges.map Exchange.content =
      if Text.isBlank turn.content then [] else [turn.content] := by
  cases h with
  | blank hblank => simp [hblank]
  | answered hfilled | rejected hfilled | failed hfilled => simp [hfilled]

theorem settings (h : Fair g turn) : ∀ x ∈ turn.exchanges, x.settings = g.settings := by
  cases h <;> simp

/-- The sink is told what was rejected, and nothing else. -/
theorem received (h : Fair g turn) : turn.received =
    if g.sink?.isSome then turn.exchanges.filterMap Exchange.rejection? else [] := by
  cases h with
  | blank => simp
  | answered => simp [Exchange.rejection?]
  | rejected => simp [Exchange.rejection?]
  | @failed content e hfilled hother =>
    cases e with
    | rejected r => exact (hother r rfl).elim
    | _ => simp [Exchange.rejection?]

theorem not_rejected (h : Fair g turn) (r : Rejection) : turn.result ≠ .error (.rejected r) := by
  cases h with
  | failed hfilled hother => exact fun heq => hother r (Except.error.inj heq)
  | _ => exact fun heq => nomatch heq

theorem changed (h : Fair g turn) {result : Transformed} (hresult : turn.result = .ok result) :
    result.changed = (result.content != turn.content) := by
  cases h with
  | failed => cases hresult
  | _ =>
    obtain rfl := Except.ok.inj hresult
    simp

end Fair

/-! ## Many calls -/

/-- Sends texts through a gateway, one after the other. -/
def applyAll (g : Gateway) : List String → World → List (Except Failure Transformed) × World
  | [], w => ([], w)
  | content :: rest, w =>
    let (result, w) := g.apply content w
    let (results, w) := g.applyAll rest w
    (result :: results, w)

def turns (g : Gateway) : List String → World → List Turn
  | [], _ => []
  | content :: rest, w =>
    g.turn content w :: g.turns rest (g.overhear content ⟨w, [], []⟩).2.world

theorem turns_cons (g : Gateway) (content : String) (rest : List String) (w : World) :
    g.turns (content :: rest) w =
      g.turn content w :: g.turns rest (g.apply content w).2 := by
  rw [turns, (g.overhear_eq_apply content ⟨w, [], []⟩).2]

theorem fair_turns (g : Gateway) (contents : List String) (w : World) :
    ∀ turn ∈ g.turns contents w, Fair g turn := by
  induction contents generalizing w with
  | nil => exact fun turn hturn => nomatch hturn
  | cons content rest ih =>
    rw [turns_cons]
    exact List.forall_mem_cons.mpr ⟨fair_turn g content w, ih _⟩

theorem content_turns (g : Gateway) (contents : List String) (w : World) :
    (g.turns contents w).map Turn.content = contents := by
  induction contents generalizing w with
  | nil => rfl
  | cons content rest ih => rw [turns_cons, List.map_cons, ih, turn]

/-- What a listener tells is what happens. -/
theorem result_turns (g : Gateway) (contents : List String) (w : World) :
    (g.turns contents w).map Turn.result = (g.applyAll contents w).1 := by
  induction contents generalizing w with
  | nil => rfl
  | cons content rest ih =>
    rw [turns_cons, List.map_cons, ih, applyAll]
    exact congrArg (· :: _) (g.overhear_eq_apply content ⟨w, [], []⟩).1

theorem applyAll_append (g : Gateway) (before after : List String) (w : World) :
    g.applyAll (before ++ after) w =
      ((g.applyAll before w).1 ++ (g.applyAll after (g.applyAll before w).2).1,
        (g.applyAll after (g.applyAll before w).2).2) := by
  induction before generalizing w with
  | nil => rfl
  | cons content rest ih => simp only [List.cons_append, applyAll, ih]

/-- What fails leaves the world as the engine left it. -/
theorem apply_of_error (h : (g.apply content w).1 = .error e) :
    (g.apply content w).2 = (g.ask content w).2 := by
  unfold apply at h ⊢
  split at h
  · cases h
  · next hfilled =>
    rw [if_neg hfilled]
    split at h
    · cases h
    · cases h
    · next hasked => rw [hasked]

/-- A text is sent to the engine if it has a character that is not white space. -/
theorem filled_eq_not_isBlank (content : String) :
    (content.toList.any fun c => !Text.isBlankChar c) = !Text.isBlank content := by
  rw [Text.isBlank, List.not_all_eq_any_not]

/-- The engine is asked each text once that has something in it, in their order, and no other. -/
theorem asked_turns (g : Gateway) (contents : List String) (w : World) :
    ((g.turns contents w).flatMap Turn.exchanges).map Exchange.content =
      contents.filter fun content => content.toList.any fun c => !Text.isBlankChar c := by
  induction contents generalizing w with
  | nil => rfl
  | cons content rest ih =>
    rw [turns_cons, List.flatMap_cons, List.map_append, (fair_turn g content w).asked, ih,
      List.filter_cons, filled_eq_not_isBlank]
    change (if Text.isBlank content then [] else [content]) ++ _ = _
    cases Text.isBlank content <;> rfl

/-- The sink is told each rejection once, in their order, and nothing else. -/
theorem received_turns (g : Gateway) (contents : List String) (w : World) :
    (g.turns contents w).flatMap Turn.received =
      if g.sink?.isSome then
        ((g.turns contents w).flatMap Turn.exchanges).filterMap Exchange.rejection?
      else [] := by
  rw [List.flatMap_congr fun turn hturn => (fair_turns g contents w turn hturn).received]
  cases g.sink?.isSome with
  | true => simp [List.filterMap_flatMap]
  | false => simp

/-- The list of what was asked, which the gateway keeps, is what a listener hears. -/
theorem KeepsAsked.applyAll (h : g.KeepsAsked) (contents : List String) (w : World) :
    (g.applyAll contents w).2.asked =
      w.asked ++
        contents.filter fun content => content.toList.any fun c => !Text.isBlankChar c := by
  induction contents generalizing w with
  | nil => exact (List.append_nil _).symm
  | cons content rest ih =>
    rw [Gateway.applyAll, ih, h.apply, List.append_assoc, List.filter_cons, filled_eq_not_isBlank]
    cases Text.isBlank content <;> rfl

/-- The sink keeps what it is told, and the engine has no business with what is kept. -/
structure KeepsReports (g : Gateway) : Prop where
  engine : ∀ settings content (w : World),
    (g.engine.transform settings content w).2.reported = w.reported
  sink : ∀ sink ∈ g.sink?, ∀ r (w : World), (sink r w).reported = w.reported ++ [r]

/-- What a call reports is added behind all that was reported before. -/
theorem KeepsReports.apply (h : g.KeepsReports) (content : String) (w : World) :
    (g.apply content w).2.reported = w.reported ++ (g.turn content w).received := by
  cases hblank : Text.isBlank content with
  | true => simp [Gateway.apply, turn, overhear, mediate, hblank]
  | false =>
    have hengine := h.engine g.settings content (noteAsked content w)
    cases hasked : g.engine.transform g.settings content (noteAsked content w) with
    | mk answer after =>
      rw [hasked] at hengine
      simp only [apply_eq_mediate, turn, overhear, mediate, heardTransform, hblank, hasked,
        Bool.false_eq_true, if_false]
      cases answer with
      | ok answer => exact hengine.trans (List.append_nil _).symm
      | error e =>
        cases e with
        | rejected r =>
          simp only [received_tell, List.nil_append]
          cases hsink : g.sink? with
          | none => exact hengine.trans (List.append_nil _).symm
          | some sink => exact (h.sink sink hsink r after).trans (congrArg (· ++ [r]) hengine)
        | _ => exact hengine.trans (List.append_nil _).symm

theorem KeepsReports.applyAll (h : g.KeepsReports) (contents : List String) (w : World) :
    (g.applyAll contents w).2.reported =
      w.reported ++ (g.turns contents w).flatMap Turn.received := by
  induction contents generalizing w with
  | nil => exact (List.append_nil _).symm
  | cons content rest ih =>
    rw [Gateway.applyAll, ih, h.apply, turns_cons, List.flatMap_cons, List.append_assoc]

/-- Texts that are sent through a gateway one after the other, to an engine that may answer in
another way each time: the engine is asked each text once that has a character outside of white
space, in their order, and no other. Each call comes to one of the outcomes that are fair, so it
never ends with a rejection, and a result is marked as changed just where its text differs. The
sink, if there is one, is told each rejection once, in their order, and nothing else. After a call
that failed the others go as if they were the first, in the world that the engine left. The lists of
what was asked and of what was reported, where they are kept, say the same. -/
theorem applyAll_overheard (g : Gateway) (contents : List String) (w : World) :
    let turns := g.turns contents w
    let exchanges := turns.flatMap Turn.exchanges
    let filled := fun content : String => content.toList.any fun c => !Text.isBlankChar c
    turns.map Turn.content = contents ∧ turns.map Turn.result = (g.applyAll contents w).1 ∧
    exchanges.map Exchange.content = contents.filter filled ∧
    (∀ x ∈ exchanges, x.settings = g.settings) ∧
    (∀ turn ∈ turns, Fair g turn ∧ (∀ r, turn.result ≠ .error (.rejected r)) ∧
      ∀ result, turn.result = .ok result → result.changed = (result.content != turn.content)) ∧
    turns.flatMap Turn.received =
      (if g.sink?.isSome then exchanges.filterMap Exchange.rejection? else []) ∧
    (∀ before content after e, contents = before ++ content :: after →
      let reached := (g.applyAll before w).2
      (g.apply content reached).1 = .error e →
        (g.applyAll contents w).1 = (g.applyAll before w).1 ++
          .error e :: (g.applyAll after (g.ask content reached).2).1) ∧
    (g.KeepsAsked → (g.applyAll contents w).2.asked = w.asked ++ contents.filter filled) ∧
    (g.KeepsReports → (g.applyAll contents w).2.reported =
      w.reported ++ turns.flatMap Turn.received) := by
  intro turns exchanges filled
  have hfair : ∀ turn ∈ turns, Fair g turn := fair_turns g contents w
  refine ⟨content_turns g contents w, result_turns g contents w, asked_turns g contents w, ?_,
    fun turn hturn => ?_, received_turns g contents w, ?_, fun h => h.applyAll contents w,
    fun h => h.applyAll contents w⟩
  · intro x hx
    obtain ⟨turn, hturn, hasked⟩ := List.mem_flatMap.mp hx
    exact (hfair turn hturn).settings x hasked
  · exact ⟨hfair turn hturn, (hfair turn hturn).not_rejected, fun _ => (hfair turn hturn).changed⟩
  · rintro before content after e rfl reached hfails
    rw [applyAll_append, ← apply_of_error hfails]
    simp only [applyAll, reached, hfails]

end Gateway
end BatchFormat
