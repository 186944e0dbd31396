import IndexWatch.KeyMap
import IndexWatch.Json.Number

namespace IndexWatch.Json

-- A value with the members of its objects in written order.
inductive Tree where
  | null
  | bool (b : Bool)
  | number (n : Number)
  | string (s : String)
  | array (items : List Tree)
  | object (members : List (String × Tree))
  deriving Inhabited

namespace Tree

mutual

-- Whether the keys of every object rise strictly.
def Canonical : Tree → Prop
  | .array items => CanonicalItems items
  | .object members => (members.Pairwise fun a b => a.1 < b.1) ∧ CanonicalMembers members
  | _ => True

-- Whether all items of an array are canonical.
def CanonicalItems : List Tree → Prop
  | [] => True
  | t :: rest => t.Canonical ∧ CanonicalItems rest

-- Whether all values of an object are canonical.
def CanonicalMembers : List (String × Tree) → Prop
  | [] => True
  | (_, t) :: rest => t.Canonical ∧ CanonicalMembers rest

end

theorem canonicalItems_iff {items : List Tree} :
    CanonicalItems items ↔ ∀ t ∈ items, t.Canonical := by
  induction items with
  | nil => simp [CanonicalItems]
  | cons t rest ih => simp [CanonicalItems, ih]

theorem canonicalMembers_iff {members : List (String × Tree)} :
    CanonicalMembers members ↔ ∀ m ∈ members, m.2.Canonical := by
  induction members with
  | nil => simp [CanonicalMembers]
  | cons m rest ih => obtain ⟨k, t⟩ := m; simp [CanonicalMembers, ih]

end Tree

end IndexWatch.Json

namespace IndexWatch

open Json (Tree Number)

-- A JSON value whose objects are maps.
structure Json where
  tree : Tree
  canonical : tree.Canonical

namespace Json

theorem ext : {a b : Json} → a.tree = b.tree → a = b
  | ⟨_, _⟩, ⟨_, _⟩, rfl => rfl

def null : Json := ⟨.null, trivial⟩

def bool (b : Bool) : Json := ⟨.bool b, trivial⟩

def number (n : Number) : Json := ⟨.number n, trivial⟩

def string (s : String) : Json := ⟨.string s, trivial⟩

def array (items : List Json) : Json :=
  ⟨.array (items.map tree), Tree.canonicalItems_iff.2 fun _ h =>
    have ⟨j, _, e⟩ := List.mem_map.1 h
    e ▸ j.canonical⟩

def object (m : KeyMap Json) : Json :=
  ⟨.object (m.map tree).entries, (m.map tree).sorted, Tree.canonicalMembers_iff.2 fun _ h =>
    have ⟨e, _, he⟩ := List.mem_map.1 h
    he ▸ e.2.canonical⟩

instance : Inhabited Json := ⟨null⟩

-- An object from members in any order. Of two members with one key the later counts.
def ofMembers (members : List (String × Json)) : Json := object (.ofList members)

-- A text, or null where there is none.
def ofString? : Option String → Json
  | some s => string s
  | none => null

-- An integer. What does not fit into 64 bits is rounded to a floating value.
def ofInt (i : Int) : Json :=
  number ((Number.ofInt? i).getD (.float (Float.ofInt i)))

def asString? (j : Json) : Option String :=
  match j.tree with
  | .string s => some s
  | _ => none

def asBool? (j : Json) : Option Bool :=
  match j.tree with
  | .bool b => some b
  | _ => none

def asInt? (j : Json) : Option Int :=
  match j.tree with
  | .number (.int i) => some i.val
  | _ => none

def asArray? : Json → Option (List Json)
  | ⟨.array items, h⟩ =>
    some (items.pmap Json.mk (Tree.canonicalItems_iff.1 h))
  | _ => none

def asObject? : Json → Option (KeyMap Json)
  | ⟨.object members, h⟩ =>
    some {
      entries := members.pmap (fun m hm => (m.1, ⟨m.2, hm⟩))
        (Tree.canonicalMembers_iff.1 h.2)
      sorted := (List.pairwise_pmap _).2 (h.1.imp fun hlt _ _ => hlt) }
  | _ => none

def get? (j : Json) (k : String) : Option Json := j.asObject?.bind (·.get? k)

end Json

end IndexWatch
