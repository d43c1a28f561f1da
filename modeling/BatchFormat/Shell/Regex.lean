import BatchFormat.Text.Sign

/-!
# Regular expressions

Expressions as line editors know them, with groups and references to them. A text has one place for
each of its bytes, and a sign is at the place of its first one. The first match from
the left counts, and of the matches there the longest one. Which part of it belongs to which group
is told by going through the expression once more: the first alternative that can lead to the end
of the match is taken, and repetitions go on as long as they can.
-/
namespace BatchFormat.Shell

inductive Place where
  | textStart
  | textEnd
  | lineStart
  | lineEnd
  /-- A place that is told by whether a word is in front of it and whether one is behind it. -/
  | edge (accept : Bool → Bool → Bool)

inductive Regex where
  | one (accept : Sign → Bool)
  | place (p : Place)
  | empty
  | joined (first second : Regex)
  | either (first second : Regex)
  | repeated (body : Regex) (least : Nat) (most? : Option Nat)
  | group (index : Nat) (body : Regex)
  /-- The text of a group once more; `same` tells which signs are equal. -/
  | reference (index : Nat) (same : Sign → Sign → Bool)

def signStart (signs : Array Sign) : Nat → Nat
  | 0 => 0
  | n + 1 => if signs[n]? = some .inner then signStart signs n else n

def signBefore? (signs : Array Sign) (position : Nat) : Option Sign :=
  if position = 0 then none else signs[signStart signs position]?

def Place.isAt (signs : Array Sign) (position : Nat) : Place → Bool
  | textStart => position == 0
  | textEnd => position == signs.size
  | lineStart => position == 0 || (signBefore? signs position).any Sign.isNewline
  | lineEnd => position == signs.size || (signs[position]?).any Sign.isNewline
  | edge accept =>
    accept ((signBefore? signs position).any Sign.isWord) ((signs[position]?).any Sign.isWord)

def Place.isEdge : Place → Bool
  | edge _ => true
  | _ => false

namespace Regex

def groups : Regex → Nat
  | one _ | place _ | empty | reference .. => 0
  | joined a b | either a b => groups a + groups b
  | repeated body _ _ => groups body
  | group _ body => groups body + 1

def hasReference : Regex → Bool
  | one _ | place _ | empty => false
  | joined a b | either a b => hasReference a || hasReference b
  | repeated body _ _ | group _ body => hasReference body
  | reference .. => true

/-- The number of nodes of an expression, a repeated one as often as it must be there. -/
def size : Regex → Nat
  | one _ | place _ | empty | reference .. => 1
  | joined a b | either a b => size a + size b + 1
  | repeated body least most? => (size body + 3) * (least + most?.getD 1 + 1)
  | group _ body => size body + 2

/-- Positions in a text in the order in which they are passed, without doubles: forwards in rising
order, backwards in falling order. -/
abbrev Positions := List Nat

/-- The position behind one sign, or in front of it on the way back. -/
def step? (signs : Array Sign) (forwards : Bool) (accept : Sign → Bool) (position : Nat) :
    Option Nat :=
  let start := if forwards then position else signStart signs position
  match signs[start]? with
  | some s =>
    if !accept s then none
    else if forwards then some (start + s.size)
    else if start + s.size = position then some start else none
  | none => none

def union (forwards : Bool) (a b : Positions) : Positions :=
  (a.merge b fun m n => if forwards then m ≤ n else n ≤ m).eraseReps

/-- The positions that any number of single steps lead to. `live?` is where the steps have led so
far, and `passed` are the positions passed, the latest first. -/
def spread (step : Nat → Option Nat) :
    Nat → (live? : Option Nat) → (passed : Positions) → Positions → Positions
  | 0, _, passed, _ => passed.reverse
  | n + 1, some p, passed, ps =>
    spread step n (step p) (p :: passed) (if ps.head? = some p then ps.drop 1 else ps)
  | n + 1, none, passed, p :: ps => spread step n (step p) (p :: passed) ps
  | _ + 1, none, passed, [] => passed.reverse

/-- The positions that up to `n` rounds lead to, beyond those that were found before. -/
def closure (forwards : Bool) (round : Positions → Positions) :
    Nat → (found latest : Positions) → Positions
  | 0, found, _ => found
  | n + 1, found, latest =>
    match (round latest).filter fun p => !found.contains p with
    | [] => found
    | fresh => closure forwards round n (union forwards found fresh) fresh

/-- The positions that lie behind a match from one of some positions, or in front of a match that
ends at one of them. References are left out. -/
def reach (signs : Array Sign) (forwards : Bool) : Regex → Positions → Positions
  | _, [] => []
  | one accept, ps => ps.filterMap (step? signs forwards accept)
  | place p, ps => ps.filter fun i => p.isAt signs i
  | empty, ps | reference .., ps => ps
  | joined a b, ps =>
    if forwards then reach signs forwards b (reach signs forwards a ps)
    else reach signs forwards a (reach signs forwards b ps)
  | either a b, ps => union forwards (reach signs forwards a ps) (reach signs forwards b ps)
  | repeated body least most?, ps =>
    let start := least.repeat (reach signs forwards body) ps
    match most?, body with
    | some most, _ => closure forwards (reach signs forwards body) (most - least) start start
    | none, one accept =>
      spread (step? signs forwards accept) (signs.size + start.length + 1) none [] start
    | none, _ => closure forwards (reach signs forwards body) (signs.size + 1) start start
  | group _ body, ps => reach signs forwards body ps

/-- Where groups begin and end, the latest first. -/
abbrev Groups := List (Nat × Nat × Nat)

/-- Goes through the rounds of a repetition. `enters` tells from where a round leads on to the
rest, and `walk` goes through one round. -/
def rounds (enters : (least : Nat) → (most? : Option Nat) → Nat → Option Positions)
    (walk : Nat → Positions → Nat × Groups) :
    Nat → (least : Nat) → (most? : Option Nat) → Nat → Groups → Nat × Groups
  | 0, _, _, here, found => (here, found)
  | n + 1, least, most?, here, found =>
    match if most? = some 0 then none else enters least most? here with
    | none => (here, found)
    | some aims =>
      let (next, more) := walk here aims
      rounds enters walk n (least - 1) (most?.map (· - 1)) next (more ++ found)

/-- The way from a position to one of the aims, of which at least one can be reached: where it
ends, and the groups on it. -/
def walk (signs : Array Sign) : Regex → Nat → Positions → Nat × Groups
  | one _, here, _ => (here + ((signs[here]?).map Sign.size).getD 1, [])
  | place _, here, _ | empty, here, _ | reference .., here, _ => (here, [])
  | joined a b, here, aims =>
    let (middle, first) := walk signs a here (reach signs false b aims)
    let (stop, second) := walk signs b middle aims
    (stop, second ++ first)
  | either a b, here, aims =>
    if (reach signs false a aims).contains here then walk signs a here aims
    else walk signs b here aims
  | group index body, here, aims =>
    let (stop, found) := walk signs body here aims
    (stop, (index, here, stop) :: found)
  | repeated body least most?, here, aims =>
    if body.groups = 0 then
      let ends := reach signs true (repeated body least most?) [here]
      (((ends.filter aims.contains).getLast?).getD here, [])
    else
      let enters (least : Nat) (most? : Option Nat) (here : Nat) : Option Positions :=
        let rest := repeated body (least - 1) (most?.map (· - 1))
        let onward := reach signs false rest aims
        let onward := if least = 0 then onward.filter (· != here) else onward
        if (reach signs false body onward).contains here then some onward else none
      rounds enters (walk signs body) (least + signs.size + 2) least most? here []

/-- What is still to be matched: expressions, ends of groups, and the note that a repetition must
have made progress. -/
inductive Goal where
  | meet (r : Regex)
  | close (index start : Nat)
  | beyond (position : Nat)

/-- The match that ends later; the first one, if both end at one position. -/
def longer (a b : Option (Nat × Groups)) : Option (Nat × Groups) :=
  match a, b with
  | some left, some right => if left.1 < right.1 then some right else some left
  | found, none | none, found => found

/-- Goes through goals from a position on, trying every way; the longest match found, with its
groups. -/
def search (signs : Array Sign) :
    Nat → List Goal → Nat → Groups → Option (Nat × Groups)
  | 0, _, _, _ => none
  | _ + 1, [], here, found => some (here, found)
  | n + 1, goal :: goals, here, found =>
    match goal with
    | .close index start => search signs n goals here ((index, start, here) :: found)
    | .beyond position => if here = position then none else search signs n goals here found
    | .meet r =>
      match r with
      | .empty => search signs n goals here found
      | .one accept =>
        match step? signs true accept here with
        | some next => search signs n goals next found
        | none => none
      | .place p => if p.isAt signs here then search signs n goals here found else none
      | .joined a b => search signs n (.meet a :: .meet b :: goals) here found
      | .either a b =>
        longer (search signs n (.meet a :: goals) here found)
          (search signs n (.meet b :: goals) here found)
      | .group index body =>
        search signs n (.meet body :: .close index here :: goals) here found
      | .reference index same =>
        match found.lookup index with
        | none => none
        | some (start, stop) =>
          let length := stop - start
          let isThere := (List.range length).all fun i =>
            match signs[start + i]?, signs[here + i]? with
            | some c, some d => same c d
            | _, _ => false
          if isThere then search signs n goals (here + length) found else none
      | .repeated body least most? =>
        if most? = some 0 then search signs n goals here found
        else
          let again : Goal := .meet (.repeated body (least - 1) (most?.map (· - 1)))
          let progress := if least = 0 then [Goal.beyond here] else []
          let entered := search signs n (.meet body :: progress ++ again :: goals) here found
          if least = 0 then longer entered (search signs n goals here found) else entered

/-- The longest match at a position: where it ends, and the groups in it. -/
def matchAt? (r : Regex) (signs : Array Sign) (start : Nat) : Option (Nat × Groups) :=
  if r.hasReference then
    search signs ((signs.size + 2) * (4 * r.size + 4)) [.meet r] start []
  else
    (reach signs true r [start]).getLast?.map fun stop =>
      if r.groups = 0 then (stop, []) else (stop, (walk signs r start [stop]).2)

/-- Looks for a match at a number of positions. Those inside a sign count only where asked for. -/
def findFrom (r : Regex) (inside : Bool) (signs : Array Sign) :
    Nat → Nat → Option (Nat × Nat × Groups)
  | 0, _ => none
  | n + 1, start =>
    let isPassed := !inside && signs[start]? == some .inner
    match if isPassed then none else r.matchAt? signs start with
    | some (stop, found) => some (start, stop, found)
    | none => findFrom r inside signs n (start + 1)

/-- Finds the first match that begins at a position or behind it: where it begins and ends, and
the groups in it. -/
def find? (r : Regex) (inside : Bool) (signs : Array Sign) (start : Nat) :
    Option (Nat × Nat × Groups) :=
  r.findFrom inside signs (signs.size + 1 - start) start

end Regex
end BatchFormat.Shell
