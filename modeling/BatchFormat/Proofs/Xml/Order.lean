import Mathlib.Data.List.Basic
import BatchFormat.Xml.Element

/-!
# The order of a document

An element has a position in a document: the numbers of the children on the way down to it from the
root. Positions in lexicographic order are the order in which elements begin, each before its own
children and these before what follows it. Listing the elements in order meets each position once,
and in this order.
-/
namespace BatchFormat.Xml.Element

variable {e x : Element} {rest : List Nat} {i : Nat}

def at? (e : Element) : List Nat → Option Element
  | [] => some e
  | i :: rest =>
    match e.children[i]? with
    | some child => child.at? rest
    | none => none

theorem at?_cons_iff : e.at? (i :: rest) = some x ↔
    ∃ child, e.children[i]? = some child ∧ child.at? rest = some x := by
  rw [at?]
  split
  · next child hchild => simp [hchild]
  · next hnone => simp [hnone]

mutual

/-- The element and all below it with their positions, in the order in which they are listed. -/
def placed : Element → List (List Nat × Element)
  | node name attributes children => ([], node name attributes children) :: allPlaced 0 children

/-- The same for children in a row, the first of which has the number `first`. -/
def allPlaced (first : Nat) : List Element → List (List Nat × Element)
  | [] => []
  | e :: rest => (placed e).map (fun pair => (first :: pair.1, pair.2)) ++ allPlaced (first + 1) rest

end

mutual

theorem placed_snd : (e : Element) → e.placed.map Prod.snd = e.inOrder
  | node name attributes children => by
    rw [placed, inOrder, List.map_cons, allPlaced_snd 0 children]

theorem allPlaced_snd (first : Nat) :
    (es : List Element) → (allPlaced first es).map Prod.snd = allInOrder es
  | [] => rfl
  | e :: rest => by
    rw [allPlaced, allInOrder, List.map_append, List.map_map, ← placed_snd e,
      allPlaced_snd (first + 1) rest]
    rfl

end

mutual

/-- An element is listed with a position exactly if that position leads to it. -/
theorem mem_placed_iff : (e : Element) → (position : List Nat) → (x : Element) →
    ((position, x) ∈ e.placed ↔ e.at? position = some x)
  | node name attributes children, position, x => by
    rw [placed, List.mem_cons, mem_allPlaced_iff 0 children]
    cases position with
    | nil => simp [at?, eq_comm]
    | cons i rest =>
      rw [at?_cons_iff]
      simp only [Prod.mk.injEq, reduceCtorEq, false_and, false_or, List.cons.injEq, Nat.zero_add]
      constructor
      · rintro ⟨_, _, child, ⟨rfl, rfl⟩, hchild, hx⟩
        exact ⟨child, hchild, hx⟩
      · rintro ⟨child, hchild, hx⟩
        exact ⟨i, rest, child, ⟨rfl, rfl⟩, hchild, hx⟩

theorem mem_allPlaced_iff (first : Nat) : (es : List Element) → (position : List Nat) →
    (x : Element) → ((position, x) ∈ allPlaced first es ↔
      ∃ i rest child, position = (first + i) :: rest ∧ es[i]? = some child ∧
        child.at? rest = some x)
  | [], position, x => by simp [allPlaced]
  | e :: es, position, x => by
    rw [allPlaced, List.mem_append, mem_allPlaced_iff (first + 1) es, List.mem_map]
    constructor
    · rintro (⟨⟨below, y⟩, hmem, heq⟩ | ⟨i, below, child, rfl, hchild, hx⟩)
      · obtain ⟨rfl, rfl⟩ := Prod.mk.inj heq
        exact ⟨0, below, e, rfl, rfl, (mem_placed_iff e below y).mp hmem⟩
      · exact ⟨i + 1, below, child, by rw [Nat.add_assoc, Nat.add_comm 1], hchild, hx⟩
    · rintro ⟨i, below, child, rfl, hchild, hx⟩
      cases i with
      | zero =>
        cases hchild
        exact Or.inl ⟨(below, x), (mem_placed_iff e below x).mpr hx, rfl⟩
      | succ i =>
        exact Or.inr ⟨i, below, child, by rw [Nat.add_assoc, Nat.add_comm 1], hchild, hx⟩

end

mutual

/-- Elements are listed in the order of their positions. -/
theorem placed_sorted : (e : Element) → e.placed.Pairwise fun a b => a.1 < b.1
  | node name attributes children => by
    rw [placed, List.pairwise_cons]
    refine ⟨fun ⟨position, x⟩ hmem => ?_, allPlaced_sorted 0 children⟩
    obtain ⟨i, rest, child, rfl, -⟩ := (mem_allPlaced_iff 0 children position x).mp hmem
    exact List.nil_lt_cons _ _

/-- The elements are listed in the order of their positions, so in document order. -/
theorem allPlaced_sorted (first : Nat) :
    (es : List Element) → (allPlaced first es).Pairwise fun a b => a.1 < b.1
  | [] => List.Pairwise.nil
  | e :: es => by
    rw [allPlaced, List.pairwise_append]
    refine ⟨List.pairwise_map.mpr ((placed_sorted e).imp fun hlt => ?_),
      allPlaced_sorted (first + 1) es, ?_⟩
    · exact List.cons_lt_cons_iff.mpr (Or.inr ⟨rfl, hlt⟩)
    · rintro a ha ⟨position, x⟩ hb
      obtain ⟨⟨below, y⟩, -, rfl⟩ := List.mem_map.mp ha
      obtain ⟨i, rest, child, rfl, -⟩ := (mem_allPlaced_iff (first + 1) es position x).mp hb
      exact List.cons_lt_cons_iff.mpr (Or.inl (by omega))

end

end BatchFormat.Xml.Element
