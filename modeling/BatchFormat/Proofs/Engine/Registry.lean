import Mathlib.Data.String.Basic
import BatchFormat.Engine.Registry
import BatchFormat.Proofs.Pairs

/-!
# The registry keeps the latest maker of each name

Whatever calls were made, in whatever order and with whatever failures among them, the registry
holds for each name the maker that was registered last and not forgotten since, and it holds the
names in order. All that it can be asked follows from these two.
-/
namespace BatchFormat.Registry

variable {r : Registry} {name other : String} {m : Maker} {entries : List (String × Maker)}
  {known : String → Option Maker}

/-! ## One entry -/

/-- A name that is registered anew stands for its new maker, every other one for its old one. -/
theorem lookup_insertIn (name other : String) (m : Maker) (entries : List (String × Maker)) :
    (insertIn name m entries).lookup other =
      if other = name then some m else entries.lookup other := by
  induction entries with
  | nil =>
    by_cases h : other = name
    · simp [insertIn, h]
    · simp [insertIn, h, lookup_cons_of_ne h]
  | cons head rest ih =>
    obtain ⟨first, old⟩ := head
    simp only [insertIn]
    split
    · next hsame =>
      subst hsame
      by_cases h : other = name
      · simp [h]
      · simp [h, lookup_cons_of_ne h]
    · split
      · by_cases h : other = name
        · simp [h]
        · simp [h, lookup_cons_of_ne h]
      · next hne _ =>
        by_cases h : other = first
        · simp [h, Ne.symm hne]
        · rw [lookup_cons_of_ne h, lookup_cons_of_ne h, ih]

theorem mem_keys_insertIn (h : other ∈ (insertIn name m entries).map Prod.fst) :
    other = name ∨ other ∈ entries.map Prod.fst := by
  rw [← lookup_isSome_iff_mem, lookup_insertIn] at h
  split at h
  · next heq => exact Or.inl heq
  · exact Or.inr (lookup_isSome_iff_mem.mp h)

/-- A registry stays sorted by its names. -/
theorem sorted_insertIn (h : (entries.map Prod.fst).Pairwise (· < ·)) :
    ((insertIn name m entries).map Prod.fst).Pairwise (· < ·) := by
  induction entries with
  | nil => simp [insertIn]
  | cons head rest ih =>
    obtain ⟨first, old⟩ := head
    obtain ⟨hfirst, hrest⟩ := List.pairwise_cons.mp h
    simp only [insertIn]
    split
    · next hsame => exact hsame ▸ h
    · split
      · next hless =>
        refine List.pairwise_cons.mpr ⟨fun later hlater => ?_, h⟩
        rcases List.mem_cons.mp hlater with heq | hmem
        · exact heq ▸ hless
        · exact hless.trans (hfirst later hmem)
      · next hne hnot =>
        have hgreater : first < name := lt_of_le_of_ne (not_lt.mp hnot) (Ne.symm hne)
        refine List.pairwise_cons.mpr ⟨fun later hlater => ?_, ih hrest⟩
        rcases mem_keys_insertIn hlater with heq | hmem
        · exact heq ▸ hgreater
        · exact hfirst later hmem

/-! ## What the registry says of what is known -/

/-- The registry holds the makers that are known, in the order of their names. -/
structure Mirrors (r : Registry) (known : String → Option Maker) : Prop where
  sorted : r.names.Pairwise (· < ·)
  maker : ∀ name, r.maker? name = known name

theorem Mirrors.mem_names_iff (h : r.Mirrors known) :
    name ∈ r.names ↔ (known name).isSome = true := by
  rw [← h.maker]
  exact lookup_isSome_iff_mem.symm

theorem Mirrors.of_mem (h : r.Mirrors known) (hmem : (name, m) ∈ r.entries) :
    known name = some m := by
  have hnodup : r.names.Nodup := h.sorted.imp ne_of_lt
  rw [← h.maker]
  exact (lookup_eq_some_iff_mem hnodup).mpr hmem

/-- Asking for an engine is asking the maker that is known, or being told which names are. -/
theorem Mirrors.get_eq (h : r.Mirrors known) (environment : Environment) (name : String)
    (options : Options) :
    r.get environment name options =
      match known name with
      | some m => m.make environment options
      | none => .error (.unknownProvider name r.names) := by
  cases hknown : known name <;> simp [get, h.maker, hknown]

/-- Registering under a name that is not empty changes what is known under it. -/
theorem Mirrors.register (h : r.Mirrors known) (hname : name ≠ "") (m : Maker) :
    ∃ after, r.register name m = .ok after ∧
      after.Mirrors fun other => if other = name then some m else known other := by
  refine ⟨_, if_neg hname, sorted_insertIn h.sorted, fun other => ?_⟩
  rw [maker?, lookup_insertIn, ← h.maker]
  rfl

theorem Mirrors.unregister (h : r.Mirrors known) (name : String) :
    (r.unregister name).Mirrors fun other => if other = name then none else known other := by
  refine ⟨?_, fun other => ?_⟩
  · exact h.sorted.sublist ((List.filter_sublist (l := r.entries)).map Prod.fst)
  · have hkept := lookup_filter_fst (fun known => known != name) other r.entries
    simp only [maker?, Registry.unregister, hkept, ← h.maker]
    by_cases heq : other = name <;> simp [heq]

/-! ## A history of calls -/

inductive Request where
  | register (name : String) (m : Maker)
  | unregister (name : String)
  | get (environment : Environment) (name : String) (options : Options)
  | names
  | describe

inductive Answer where
  | done
  | made (provider : Provider)
  | names (names : List String)
  | described (pairs : List (String × String))

/-- Answers a call and tells what the registry is afterwards. -/
def serve (r : Registry) : Request → Except Failure Answer × Registry
  | .register name m =>
    match r.register name m with
    | .ok after => (.ok .done, after)
    | .error e => (.error e, r)
  | .unregister name => (.ok .done, r.unregister name)
  | .get environment name options => ((r.get environment name options).map .made, r)
  | .names => (.ok (.names r.names), r)
  | .describe => (.ok (.described r.describe), r)

def after (r : Registry) (history : List Request) : Registry :=
  history.foldl (fun r request => (r.serve request).2) r

/-- What a call decides about a name: to know a maker under it, to forget it, or nothing. A call
that fails decides nothing. -/
def Request.decides? (name : String) : Request → Option (Option Maker)
  | .register other m => if other = name ∧ other ≠ "" then some (some m) else none
  | .unregister other => if other = name then some none else none
  | .get .. | .names | .describe => none

def Request.isQuestion : Request → Bool
  | .get .. | .names | .describe => true
  | .register .. | .unregister _ => false

/-- The maker that the most recent decision about a name leaves it with. -/
def latest (history : List Request) (name : String) : Option Maker :=
  (history.reverse.findSome? (Request.decides? name)).join

/-- How the engines that are always there come to be known. -/
def firstCalls : List Request :=
  [.register Command.name Command.maker, .register Eclipse.name Eclipse.maker,
    .register Identity.name Identity.maker]

theorem latest_append_singleton (history : List Request) (request : Request) (name : String) :
    latest (history ++ [request]) name =
      match request.decides? name with
      | some decision => decision
      | none => latest history name := by
  unfold latest
  rw [List.reverse_append, List.reverse_singleton, List.singleton_append, List.findSome?_cons]
  cases request.decides? name <;> rfl

/-- A call keeps the registry in step with what was decided. -/
theorem Mirrors.serve {history : List Request} (h : r.Mirrors (latest history))
    (request : Request) : (r.serve request).2.Mirrors (latest (history ++ [request])) := by
  have hsame : (∀ name, request.decides? name = none) →
      latest (history ++ [request]) = latest history := by
    intro hnone
    funext name
    rw [latest_append_singleton, hnone]
  cases request with
  | register name m =>
    by_cases hname : name = ""
    · rw [hsame fun other => by simp [Request.decides?, hname]]
      simpa [Registry.serve, Registry.register, hname] using h
    · obtain ⟨after, hafter, hmirrors⟩ := h.register hname m
      simp only [Registry.serve, hafter]
      convert hmirrors using 1
      funext other
      rw [latest_append_singleton]
      by_cases hother : other = name
      · simp [Request.decides?, hother, hname]
      · simp [Request.decides?, hother, Ne.symm hother]
  | unregister name =>
    simp only [Registry.serve]
    convert h.unregister name using 1
    funext other
    rw [latest_append_singleton]
    by_cases hother : other = name
    · simp [Request.decides?, hother]
    · simp [Request.decides?, hother, Ne.symm hother]
  | get _ _ _ => rwa [hsame fun _ => rfl]
  | names => rwa [hsame fun _ => rfl]
  | describe => rwa [hsame fun _ => rfl]

theorem mirrors_empty : empty.Mirrors (latest []) := ⟨.nil, fun _ => rfl⟩

/-- So it is after any calls that follow earlier ones. -/
theorem Mirrors.after {earlier : List Request} (h : r.Mirrors (latest earlier))
    (history : List Request) : (r.after history).Mirrors (latest (earlier ++ history)) := by
  induction history generalizing r earlier with
  | nil => simpa [Registry.after] using h
  | cons request history ih =>
    have hrest := ih (h.serve request)
    rwa [List.append_assoc, List.singleton_append] at hrest

theorem mirrors_builtIn : builtIn.Mirrors (latest firstCalls) := mirrors_empty.after firstCalls

/-- A call that only asks does not touch the registry, and neither does one that fails. -/
theorem serve_snd_eq_self {request : Request}
    (h : request.isQuestion = true ∨ ∃ e, (r.serve request).1 = .error e) :
    (r.serve request).2 = r := by
  cases request with
  | get | names | describe => rfl
  | unregister name =>
    rcases h with hquestion | ⟨e, hfail⟩
    · cases hquestion
    · cases hfail
  | register name m =>
    rcases h with hquestion | ⟨e, hfail⟩
    · cases hquestion
    · simp only [serve] at hfail ⊢
      split at hfail
      · cases hfail
      · rfl

/-- Registering fails for an empty name alone. -/
theorem serve_register_fst (r : Registry) (name : String) (m : Maker) :
    (r.serve (.register name m)).1 =
      if name = "" then .error (.nameless m.origin) else .ok .done := by
  by_cases hname : name = "" <;> simp [serve, register, hname]

/-- After any calls to the registry with its first engines in it: the names are in strict order, and
they are those about which the latest decision was to know a maker; this maker makes the engine when
the name is asked for, and describes it where all are listed; and a name that is not known fails
with the list of those that are. Only an empty name cannot be registered. A call that fails or only
asks leaves the registry as it is. -/
theorem views_after_calls (history : List Request) :
    let r := builtIn.after history
    let known := latest (firstCalls ++ history)
    r.names.Pairwise (· < ·) ∧
    (∀ name, name ∈ r.names ↔ (known name).isSome = true) ∧
    (∀ environment name options,
      (∀ m, known name = some m →
        r.get environment name options = m.make environment options) ∧
      (known name = none →
        r.get environment name options = .error (.unknownProvider name r.names) ∧
        (Failure.unknownProvider name r.names).message =
          "Unknown provider: " ++ name ++ " (available: " ++ String.intercalate ", " r.names ++
            ")")) ∧
    r.describe.map Prod.fst = r.names ∧
    (∀ pair ∈ r.describe, ∃ m, known pair.1 = some m ∧ pair.2 = m.description) ∧
    (∀ name m, (r.serve (.register name m)).1 =
      if name = "" then .error (.nameless m.origin) else .ok .done) ∧
    ∀ request, (request.isQuestion = true ∨ ∃ e, (r.serve request).1 = .error e) →
      (r.serve request).2 = r := by
  intro r known
  have hmirrors : r.Mirrors known := mirrors_builtIn.after history
  refine ⟨hmirrors.sorted, fun _ => hmirrors.mem_names_iff, fun environment name options => ?_,
    ?_, ?_, serve_register_fst r, fun _ => serve_snd_eq_self⟩
  · rw [hmirrors.get_eq]
    exact ⟨fun m hm => by rw [hm], fun hnone => ⟨by rw [hnone], rfl⟩⟩
  · simp [describe, names]
  · intro pair hpair
    obtain ⟨entry, hentry, rfl⟩ := List.mem_map.mp hpair
    exact ⟨entry.2, hmirrors.of_mem hentry, rfl⟩

end BatchFormat.Registry
