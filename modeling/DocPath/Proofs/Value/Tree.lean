import DocPath.Value.Basic

/-! # Documents as trees

A document is a tree of nodes with their children.  What holds of a node
whenever it holds of its children holds of every node (`children_induction`),
and a visit of all nodes goes through the children (`descendants_eq`).  `at?`
follows the positions of children down to a node. -/

namespace DocPath.Value

variable {v w : Value}

/-- A child is smaller than the value that holds it, which is what inductions
along children rest on. -/
theorem sizeOf_lt_of_mem_children (h : w ∈ v.children) : sizeOf w < sizeOf v := by
  cases v with
  | array items =>
    have hlt := List.sizeOf_lt_of_mem (show w ∈ items from h)
    simp only [array.sizeOf_spec]
    omega
  | object entries =>
    obtain ⟨⟨k, u⟩, he, rfl⟩ := List.mem_map.mp (show w ∈ entries.map (·.2) from h)
    have hlt := List.sizeOf_lt_of_mem he
    simp only [Prod.mk.sizeOf_spec] at hlt
    simp only [object.sizeOf_spec]
    omega
  | _ => cases h

/-- What holds of a node if it holds of its children holds of every node.
Elements of arrays and values of objects are treated alike in it. -/
theorem children_induction {P : Value → Prop} (step : ∀ v : Value, (∀ w ∈ v.children, P w) → P v)
    (v : Value) : P v :=
  step v fun w hw =>
    have := sizeOf_lt_of_mem_children hw
    children_induction step w
termination_by sizeOf v

/-- The nodes below the elements of an array, one element after the other. -/
theorem descendantsOfItems_eq {items : List Value} :
    descendantsOfItems items = items.flatMap descendants := by
  induction items with
  | nil => rfl
  | cons v rest ih => rw [descendantsOfItems, ih, List.flatMap_cons]

/-- The nodes below the entries of an object, one entry after the other. -/
theorem descendantsOfEntries_eq {entries : List (String × Value)} :
    descendantsOfEntries entries = (entries.map (·.2)).flatMap descendants := by
  induction entries with
  | nil => rfl
  | cons e rest ih => rw [descendantsOfEntries, ih, List.map_cons, List.flatMap_cons]

/-- The visit of a value begins with the value itself and goes on with the
visits of its children, in their order. -/
theorem descendants_eq (v : Value) : v.descendants = v :: v.children.flatMap descendants := by
  cases v with
  | array items => rw [descendants, descendantsOfItems_eq]; rfl
  | object entries => rw [descendants, descendantsOfEntries_eq]; rfl
  | _ => rfl

/-- The node that is reached from a node by the positions of the children on the
way down. -/
def at? : Value → List Nat → Option Value
  | v, [] => some v
  | v, i :: location => v.children[i]?.bind (·.at? location)

@[simp] theorem at?_nil : v.at? [] = some v := by rw [at?]

/-- The way to a node goes through a child first and then through the children
below it. -/
theorem at?_cons {i : Nat} {l : List Nat} : v.at? (i :: l) = v.children[i]?.bind (·.at? l) := by
  rw [at?]

/-- A location can be followed in two parts, from the node that the first part
leads to. -/
theorem at?_append {l m : List Nat} : v.at? (l ++ m) = (v.at? l).bind (·.at? m) := by
  induction l generalizing v with
  | nil => rw [List.nil_append, at?_nil, Option.bind_some]
  | cons i l ih =>
    rw [List.cons_append, at?_cons, at?_cons]
    cases v.children[i]? with
    | none => rfl
    | some w => exact ih

end DocPath.Value
