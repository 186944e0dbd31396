import IndexWatch.Json.Basic

namespace IndexWatch.Json.Tree

-- Induction over a value by its items and by the values of its members.
theorem induct {motive : Tree → Prop} (null : motive .null) (bool : ∀ b, motive (.bool b))
    (number : ∀ n, motive (.number n)) (string : ∀ s, motive (.string s))
    (array : ∀ items, (∀ t ∈ items, motive t) → motive (.array items))
    (object : ∀ members, (∀ m ∈ members, motive m.2) → motive (.object members)) (t : Tree) :
    motive t :=
  @Tree.rec motive (fun items => ∀ t ∈ items, motive t) (fun members => ∀ m ∈ members, motive m.2)
    (fun m => motive m.2) null bool number string array object
    (fun _ h => nomatch h) (fun _ _ ht hi => List.forall_mem_cons.2 ⟨ht, hi⟩)
    (fun _ h => nomatch h) (fun _ _ hm hi => List.forall_mem_cons.2 ⟨hm, hi⟩) (fun _ _ ht => ht) t

mutual

-- How many brackets are open at a time at most.
def depth : Tree → Nat
  | .array items => depthOfItems items + 1
  | .object members => depthOfMembers members + 1
  | _ => 0

def depthOfItems : List Tree → Nat
  | [] => 0
  | t :: rest => max t.depth (depthOfItems rest)

def depthOfMembers : List (String × Tree) → Nat
  | [] => 0
  | (_, t) :: rest => max t.depth (depthOfMembers rest)

end

@[simp]
theorem depth_string {s : String} : (string s).depth = 0 := rfl

@[simp]
theorem depth_number {n : Number} : (number n).depth = 0 := rfl

theorem depthOfItems_le_iff {items : List Tree} {n : Nat} :
    depthOfItems items ≤ n ↔ ∀ t ∈ items, t.depth ≤ n := by
  induction items
  case nil => simp [depthOfItems]
  case cons t rest hi => simp only [depthOfItems, Nat.max_le, hi, List.forall_mem_cons]

theorem depthOfMembers_le_iff {members : List (String × Tree)} {n : Nat} :
    depthOfMembers members ≤ n ↔ ∀ m ∈ members, m.2.depth ≤ n := by
  induction members
  case nil => simp [depthOfMembers]
  case cons m rest hi =>
    have ⟨k, t⟩ := m
    simp only [depthOfMembers, Nat.max_le, hi, List.forall_mem_cons]

theorem depth_array_le_iff {items : List Tree} {n : Nat} :
    (array items).depth ≤ n + 1 ↔ ∀ t ∈ items, t.depth ≤ n := by
  rw [depth, Nat.add_le_add_iff_right, depthOfItems_le_iff]

theorem depth_object_le_iff {members : List (String × Tree)} {n : Nat} :
    (object members).depth ≤ n + 1 ↔ ∀ m ∈ members, m.2.depth ≤ n := by
  rw [depth, Nat.add_le_add_iff_right, depthOfMembers_le_iff]

mutual

-- Whether all numbers of a value are integers.
def IsIntegral : Tree → Prop
  | .number (.float _) => False
  | .array items => AreIntegralItems items
  | .object members => AreIntegralMembers members
  | _ => True

def AreIntegralItems : List Tree → Prop
  | [] => True
  | t :: rest => t.IsIntegral ∧ AreIntegralItems rest

def AreIntegralMembers : List (String × Tree) → Prop
  | [] => True
  | (_, t) :: rest => t.IsIntegral ∧ AreIntegralMembers rest

end

@[simp]
theorem isIntegral_string {s : String} : (string s).IsIntegral := trivial

@[simp]
theorem isIntegral_ofInt64 {i : Int64} : (number (.ofInt64 i)).IsIntegral := trivial

theorem isIntegral_array_iff {items : List Tree} :
    (array items).IsIntegral ↔ ∀ t ∈ items, t.IsIntegral := by
  rw [IsIntegral]
  induction items
  case nil => simp [AreIntegralItems]
  case cons t rest hi => simp [AreIntegralItems, hi]

theorem isIntegral_object_iff {members : List (String × Tree)} :
    (object members).IsIntegral ↔ ∀ m ∈ members, m.2.IsIntegral := by
  rw [IsIntegral]
  induction members
  case nil => simp [AreIntegralMembers]
  case cons m rest hi =>
    have ⟨k, t⟩ := m
    simp only [AreIntegralMembers, hi, List.forall_mem_cons]

end IndexWatch.Json.Tree
