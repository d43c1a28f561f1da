import BatchFormat.Proofs.Walk.Account

/-!
# What a walk does to the files

A walk changes nothing but the bytes of files, and those only of files that paths which it notes as
changed lead to. Such a file ends with what the gateway makes of its text if it is sent through once
for each of these paths, one after the other. A path that is noted as failed contributes nothing.
-/
namespace BatchFormat

variable {w : Walker} {host : Host} {world : World} {run : Run} {root : Path} {logs : List Location}
  {place : Location} {event : Event} {events : List Event} {g : Gateway} {paths more : List Path}
  {before middle after : Option Entry}

namespace Gateway

/-- A text is sent through the gateway once for each of some paths, one after the other. -/
def sendAll (g : Gateway) (world : World) (paths : List Path) (text : String) :
    Except Failure String :=
  paths.foldlM (fun text _ => (g.apply text world).1.map Transformed.content) text

theorem sendAll_append {text sent : String} (h : g.sendAll world paths text = .ok sent) :
    g.sendAll world (paths ++ more) text = g.sendAll world more sent := by
  simp only [sendAll, List.foldlM_append] at h ⊢
  rw [h]
  rfl

/-- What happens to an entry if its text is sent through the gateway once for each of some paths.
Where there is no such path the entry stays as it is, and need not hold a text. -/
inductive Rewrites (g : Gateway) (world : World) :
    List Path → Option Entry → Option Entry → Prop
  | kept (entry : Option Entry) : Rewrites g world [] entry entry
  | sent {paths : List Path} {bytes : Bytes} {mode : Nat} {text sent : String}
    (hsome : paths ≠ []) (hdecode : Text.decode bytes = .ok text)
    (hsend : g.sendAll world paths text = .ok sent) :
    Rewrites g world paths (some (.file bytes mode)) (some (.file (Text.encode sent) mode))

/-- A text that is sent along some paths and then along more is sent along all of them. -/
theorem Rewrites.trans (h : g.Rewrites world paths before middle)
    (h' : g.Rewrites world more middle after) : g.Rewrites world (paths ++ more) before after := by
  cases h with
  | kept => exact h'
  | sent hsome hdecode hsend =>
    cases h' with
    | kept => simpa using Rewrites.sent hsome hdecode hsend
    | sent hsome' hdecode' hsend' =>
      -- the text that the next path finds is the one that was written
      rw [Text.decode_encode] at hdecode'
      cases hdecode'
      exact .sent (by simp [hsome]) hdecode ((sendAll_append hsend).trans hsend')

end Gateway

namespace Walker

/-! ## What the turns do -/

end Walker
end BatchFormat
