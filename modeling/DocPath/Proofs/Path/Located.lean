import DocPath.Proofs.Path.Evaluation
import DocPath.Proofs.Value.Tree
import Mathlib.Data.List.Nodup

/-! # Located nodes

Equal nodes of a document differ by their locations: the positions among the
children that are taken on the way down to them.  `CompiledPath.located` reads a
path as usual and keeps the locations of the nodes; `readList_eq_map_located`
says that the nodes are the matches.  `Located.descendants` visits a node and
all nodes below it, each before the nodes below it (`descendants_eq`), which are
the nodes that the first one is above (`mem_descendants_iff`), and no location
twice (`nodup_location_descendants`). -/

namespace DocPath

/-- A node of a document with its location, which is the row of positions that
lead to it from the root. -/
structure Located where
  location : List Nat
  node : Value

namespace Located

/-- A document as a node of itself, from which every path sets out. -/
def root (document : Value) : Located := ⟨[], document⟩

/-- The children of a node, in order, each one position further than the
node. -/
def children (n : Located) : List Located :=
  n.node.children.mapIdx fun i v => ⟨n.location ++ [i], v⟩

mutual

def below (location : List Nat) : Value → List Located
  | .array items => ⟨location, .array items⟩ :: belowItems location 0 items
  | .object entries => ⟨location, .object entries⟩ :: belowEntries location 0 entries
  | v => [⟨location, v⟩]

/-- The elements of an array from position `i` on, each of them before all nodes
below it, and these before the next element. -/
def belowItems (location : List Nat) (i : Nat) : List Value → List Located
  | [] => []
  | v :: rest => below (location ++ [i]) v ++ belowItems location (i + 1) rest

/-- The entries of an object from position `i` on, each value before all nodes
below it, and these before the next entry. -/
def belowEntries (location : List Nat) (i : Nat) : List (String × Value) → List Located
  | [] => []
  | (_, v) :: rest => below (location ++ [i]) v ++ belowEntries location (i + 1) rest

end

/-- A node and all nodes below it, each before the nodes below it.  This is the
order in which a descent visits them, and the order of the document. -/
def descendants (n : Located) : List Located := below n.location n.node

/-- What an object stores under a name, at the position of the first entry with
this name. -/
def member? (name : String) (n : Located) : Option Located :=
  match n.node with
  | .object entries => (entries.findIdx? (name == ·.1)).bind (n.children[·]?)
  | _ => none

/-- What an object stores under a name, or the objects among the elements of an
array if these are looked into. -/
def project (name : String) (projectArrays : Bool) (n : Located) : List Located :=
  match n.node with
  | .object _ => (n.member? name).toList
  | .array _ => if projectArrays then n.children.filterMap (member? name) else []
  | _ => []

/-- The element of an array at an index, which counts from the end if it is
negative. -/
def element? (n : Located) (index : Int64) : Option Located :=
  match n.node with
  | .array items =>
    let p := Value.place items.length index.toInt
    if p < 0 then none else n.children[p.toNat]?
  | _ => none

/-- The elements of an array within the bounds of a slice, which are a part of
its children without gaps. -/
def slice (start stop : Option Int64) (n : Located) : List Located :=
  match n.node with
  | .array items =>
    let (first, last) := Slice.bounds items.length start stop
    (n.children.take last).drop first
  | _ => []

/-- The nodes that a predicate is put to at a node: the elements of an array if
it is looked into, and the node itself otherwise. -/
def candidates (expandArrays : Bool) (n : Located) : List Located :=
  match n.node, expandArrays with
  | .array _, true => n.children
  | _, _ => [n]

end Located

namespace Step

/-- The located nodes that a step selects below a located node.  Without their
locations they are what the step selects (`map_node_located`). -/
def located (shelf : Shelf) (step : Step) (n : Located) : List Located :=
  match step with
  | root => [n]
  | property name projectArrays => n.project name projectArrays
  | wildcard => n.children
  | descent => n.descendants
  | index i => (n.element? i).toList
  | indices is => is.filterMap n.element?
  | slice start stop => n.slice start stop
  | predicate p expandArrays => (n.candidates expandArrays).filter fun c => p.accepts shelf c.node

/-- The located nodes that a row of steps selects below located nodes, the nodes
of one step after the other being put through the next one. -/
def locatedAfter (shelf : Shelf) (steps : List Step) (ns : List Located) : List Located :=
  steps.foldl (fun ns step => ns.flatMap (step.located shelf)) ns

end Step

/-- The matches of a path in a document with their locations, in the order in
which a read gives them. -/
def CompiledPath.located (shelf : Shelf) (path : CompiledPath) (document : Value) : List Located :=
  Step.locatedAfter shelf path.steps [.root document]

namespace Located

variable {n m c : Located}

/-! ## Children and descendants -/

theorem map_node_children : n.children.map node = n.node.children := by
  refine List.ext_getElem? fun i => ?_
  rw [children, List.getElem?_map, List.getElem?_mapIdx, Option.map_map]
  exact Option.map_id'

theorem getElem?_children {i : Nat} :
    n.children[i]? = n.node.children[i]?.map fun v => ⟨n.location ++ [i], v⟩ :=
  List.getElem?_mapIdx

theorem mem_children_iff :
    c ∈ n.children ↔ ∃ i, n.node.children[i]? = some c.node ∧ c.location = n.location ++ [i] := by
  rw [List.mem_iff_getElem?]
  refine exists_congr fun i => ?_
  rw [getElem?_children, Option.map_eq_some_iff]
  constructor
  · rintro ⟨v, hv, rfl⟩
    exact ⟨hv, rfl⟩
  · rintro ⟨hv, hl⟩
    exact ⟨c.node, hv, by rw [← hl]⟩

theorem belowItems_eq {location : List Nat} {i : Nat} {items : List Value} :
    belowItems location i items =
      (items.mapIdx fun j v => ⟨location ++ [i + j], v⟩).flatMap descendants := by
  induction items generalizing i with
  | nil => rfl
  | cons v rest ih =>
    rw [belowItems, ih, List.mapIdx_cons, List.flatMap_cons]
    simp only [Nat.add_zero, Nat.add_assoc, Nat.add_comm 1]
    rfl

theorem belowEntries_eq {location : List Nat} {i : Nat} {entries : List (String × Value)} :
    belowEntries location i entries =
      ((entries.map (·.2)).mapIdx fun j v => ⟨location ++ [i + j], v⟩).flatMap descendants := by
  induction entries generalizing i with
  | nil => rfl
  | cons e rest ih =>
    rw [belowEntries, ih, List.map_cons, List.mapIdx_cons, List.flatMap_cons]
    simp only [Nat.add_zero, Nat.add_assoc, Nat.add_comm 1]
    rfl

theorem descendants_eq (n : Located) : n.descendants = n :: n.children.flatMap descendants := by
  obtain ⟨location, v⟩ := n
  cases v with
  | array items => simp only [descendants, below, belowItems_eq, Nat.zero_add]; rfl
  | object entries => simp only [descendants, below, belowEntries_eq, Nat.zero_add]; rfl
  | _ => rfl

/-- What holds of a located node if it holds of its children holds of every
located node. -/
theorem children_induction {P : Located → Prop}
    (step : ∀ n : Located, (∀ c ∈ n.children, P c) → P n) (n : Located) : P n := by
  have hall : ∀ v location, P ⟨location, v⟩ := by
    intro v
    induction v using Value.children_induction with
    | step v ih =>
      intro location
      refine step _ fun c hc => ?_
      obtain ⟨i, hv, -⟩ := mem_children_iff.mp hc
      exact ih c.node (List.mem_of_getElem? hv) c.location
  exact hall n.node n.location

theorem map_node_descendants : n.descendants.map node = n.node.descendants := by
  induction n using children_induction with
  | step n ih =>
    rw [descendants_eq, Value.descendants_eq, List.map_cons, List.map_flatMap, ← map_node_children,
      List.flatMap_map, List.flatMap_congr ih]

/-! ## Nodes above nodes -/

/-- A node is above another one if the other one is found by going further down;
every node is above itself. -/
def Above (n m : Located) : Prop :=
  ∃ l, m.location = n.location ++ l ∧ n.node.at? l = some m.node

namespace Above

protected theorem refl (n : Located) : n.Above n := ⟨[], by simp, by simp⟩

protected theorem trans (h : n.Above m) (h' : m.Above c) : n.Above c := by
  obtain ⟨l, hl, hn⟩ := h
  obtain ⟨k, hk, hm⟩ := h'
  refine ⟨l ++ k, by rw [hk, hl, List.append_assoc], ?_⟩
  rw [Value.at?_append, hn]
  exact hm

theorem of_mem_children (h : c ∈ n.children) : n.Above c := by
  obtain ⟨i, hv, hl⟩ := mem_children_iff.mp h
  refine ⟨[i], hl, ?_⟩
  rw [Value.at?_cons, hv]
  rfl

/-- Of two nodes of a document the one at the beginning of the location of the
other one is above it. -/
theorem of_location (h : n.Above m) (h' : n.Above c) (hbelow : m.location <+: c.location) :
    m.Above c := by
  obtain ⟨l, hl, hn⟩ := h
  obtain ⟨k, hk, hc⟩ := h'
  obtain ⟨r, hr⟩ := hbelow
  have hsplit : k = l ++ r := by
    rw [hl, hk, List.append_assoc] at hr
    exact (List.append_cancel_left hr).symm
  refine ⟨r, hr.symm, ?_⟩
  rw [hsplit, Value.at?_append, hn] at hc
  exact hc

/-- Nothing else is at the location of a node. -/
theorem eq_self (hl : m.location = n.location ++ []) (hn : n.node.at? [] = some m.node) :
    m = n := by
  rw [List.append_nil] at hl
  rw [Value.at?_nil, Option.some.injEq] at hn
  obtain ⟨location, v⟩ := m
  cases hl
  cases hn
  rfl

/-- Below a node are the children and what they are above. -/
theorem cases_children (h : n.Above m) : m = n ∨ ∃ c ∈ n.children, c.Above m := by
  obtain ⟨l, hl, hn⟩ := h
  cases l with
  | nil => exact .inl (eq_self hl hn)
  | cons i l =>
    right
    rw [Value.at?_cons, Option.bind_eq_some_iff] at hn
    obtain ⟨w, hw, hm⟩ := hn
    refine ⟨⟨n.location ++ [i], w⟩, mem_children_iff.mpr ⟨i, hw, rfl⟩, l, ?_, hm⟩
    rw [hl]
    simp

/-- Below a node are the children of itself and of what it is above. -/
theorem cases_parent (h : n.Above m) : m = n ∨ ∃ c, n.Above c ∧ m ∈ c.children := by
  obtain ⟨l, hl, hn⟩ := h
  rcases List.eq_nil_or_concat l with rfl | ⟨k, i, rfl⟩
  · exact .inl (eq_self hl hn)
  · right
    rw [List.concat_eq_append] at hl hn
    rw [Value.at?_append, Option.bind_eq_some_iff] at hn
    obtain ⟨w, hw, hm⟩ := hn
    rw [Value.at?_cons, Option.bind_eq_some_iff] at hm
    obtain ⟨u, hu, hm⟩ := hm
    cases hm
    refine ⟨⟨n.location ++ k, w⟩, ⟨k, rfl, hw⟩, mem_children_iff.mpr ⟨i, hu, ?_⟩⟩
    rw [hl, List.append_assoc]

end Above

theorem mem_descendants_iff : m ∈ n.descendants ↔ n.Above m := by
  induction n using children_induction with
  | step n ih =>
    rw [descendants_eq, List.mem_cons, List.mem_flatMap]
    constructor
    · rintro (rfl | ⟨c, hc, hm⟩)
      · exact .refl _
      · exact (Above.of_mem_children hc).trans ((ih c hc).mp hm)
    · intro h
      rcases h.cases_children with rfl | ⟨c, hc, hm⟩
      · exact .inl rfl
      · exact .inr ⟨c, hc, (ih c hc).mpr hm⟩

/-- Children have locations of their own. -/
theorem pairwise_children :
    n.children.Pairwise fun c d => ∃ i j, i ≠ j ∧ c.location = n.location ++ [i] ∧
      d.location = n.location ++ [j] := by
  rw [List.pairwise_iff_getElem]
  intro i j hi hj hlt
  exact ⟨i, j, Nat.ne_of_lt hlt, by simp [children], by simp [children]⟩

/-- No location is visited twice, though equal nodes may stand at several
locations. -/
theorem nodup_location_descendants : (n.descendants.map location).Nodup := by
  induction n using children_induction with
  | step n ih =>
    rw [descendants_eq, List.map_cons, List.nodup_cons, List.map_flatMap, List.nodup_flatMap]
    refine ⟨?_, ih, pairwise_children.imp ?_⟩
    · -- a node below the children is further down than the node
      intro hmem
      obtain ⟨c, hc, hm⟩ := List.mem_flatMap.mp hmem
      obtain ⟨m, hm, heq⟩ := List.mem_map.mp hm
      obtain ⟨i, -, hl⟩ := mem_children_iff.mp hc
      obtain ⟨l, hlm, -⟩ := mem_descendants_iff.mp hm
      have hlen := congrArg List.length heq
      rw [hlm, hl] at hlen
      simp at hlen
    · rintro c d ⟨i, j, hne, hc, hd⟩ l hlc hld
      obtain ⟨m, hm, rfl⟩ := List.mem_map.mp hlc
      obtain ⟨k, hk, heq⟩ := List.mem_map.mp hld
      obtain ⟨lm, hlm, -⟩ := mem_descendants_iff.mp hm
      obtain ⟨lk, hlk, -⟩ := mem_descendants_iff.mp hk
      rw [hlm, hlk, hc, hd] at heq
      simp at heq
      exact hne heq.1.symm

/-! ## What is found among the children -/

theorem toList_getElem?_children_sublist (i : Nat) : n.children[i]?.toList.Sublist n.children := by
  cases h : n.children[i]? with
  | none => exact List.nil_sublist _
  | some c => exact List.singleton_sublist.mpr (List.mem_of_getElem? h)

theorem toList_member?_sublist (name : String) : (n.member? name).toList.Sublist n.children := by
  unfold member?
  split
  · next entries _ =>
    cases entries.findIdx? (name == ·.1) with
    | none => exact List.nil_sublist _
    | some i => exact toList_getElem?_children_sublist i
  · exact List.nil_sublist _

theorem toList_element?_sublist (index : Int64) :
    (n.element? index).toList.Sublist n.children := by
  unfold element?
  split
  · simp only
    split
    · exact List.nil_sublist _
    · exact toList_getElem?_children_sublist _
  · exact List.nil_sublist _

theorem slice_sublist (start stop : Option Int64) : (n.slice start stop).Sublist n.children := by
  unfold slice
  split
  · exact (List.drop_sublist _ _).trans (List.take_sublist _ _)
  · exact List.nil_sublist _

/-! ## The matches with their locations -/

theorem map_node_member? {name : String} : (n.member? name).map node = n.node.get? name := by
  obtain ⟨location, v⟩ := n
  cases v with
  | object entries =>
    have hfind : (entries.findIdx? (name == ·.1)).bind (fun i => (entries.map (·.2))[i]?) =
        entries.lookup name := by
      induction entries with
      | nil => rfl
      | cons e rest ih =>
        rw [List.findIdx?_cons, List.lookup_cons]
        cases name == e.1 with
        | true => rfl
        | false =>
          rw [← ih]
          cases rest.findIdx? (name == ·.1) <;> rfl
    show ((entries.findIdx? (name == ·.1)).bind _).map node = entries.lookup name
    rw [← hfind, Option.map_bind]
    refine Option.bind_congr fun i _ => ?_
    show ((children _)[i]?).map node = _
    rw [← List.getElem?_map, map_node_children]
    rfl
  | _ => rfl

theorem map_node_project {name : String} {projectArrays : Bool} :
    (n.project name projectArrays).map node = n.node.project name projectArrays := by
  obtain ⟨location, v⟩ := n
  cases v with
  | object entries =>
    show (Option.toList _).map node = (entries.lookup name).toList
    rw [← Option.toList_map, map_node_member?]
    rfl
  | array items =>
    cases projectArrays with
    | false => rfl
    | true =>
      show (List.filterMap (member? name) _).map node = items.filterMap (·.get? name)
      rw [List.map_filterMap]
      simp only [map_node_member?]
      have hitems : (children ⟨location, .array items⟩).map node = items := map_node_children
      conv_rhs => rw [← hitems, List.filterMap_map]
      rfl
  | _ => rfl

theorem map_node_element? {index : Int64} :
    (n.element? index).map node = n.node.getIndex? index := by
  obtain ⟨location, v⟩ := n
  cases v with
  | array items =>
    show (if Value.place items.length index.toInt < 0 then none else _).map node =
      if Value.place items.length index.toInt < 0 then none else _
    split
    · rfl
    · rw [← List.getElem?_map, map_node_children]
      rfl
  | _ => rfl

theorem map_node_slice {start stop : Option Int64} :
    (n.slice start stop).map node = n.node.slice start stop := by
  obtain ⟨location, v⟩ := n
  cases v with
  | array items =>
    show ((List.take _ _).drop _).map node = (List.take _ items).drop _
    rw [List.map_drop, List.map_take, map_node_children]
    rfl
  | _ => rfl

theorem map_node_candidates {expandArrays : Bool} :
    (n.candidates expandArrays).map node = n.node.candidates expandArrays := by
  obtain ⟨location, v⟩ := n
  cases v with
  | array items =>
    cases expandArrays with
    | false => rfl
    | true => exact map_node_children
  | _ => rfl

end Located

namespace Step

open Located (node)

variable {shelf : Shelf} {n : Located}

/-- A step selects the same nodes with and without their locations, in the same
order and each as often. -/
theorem map_node_located (step : Step) :
    (step.located shelf n).map node = step.nodes shelf n.node := by
  cases step with
  | root => rfl
  | property name projectArrays => exact Located.map_node_project
  | wildcard => exact Located.map_node_children
  | descent => exact Located.map_node_descendants
  | index i =>
    show (n.element? i).toList.map node = (n.node.getIndex? i).toList
    rw [← Option.toList_map, Located.map_node_element?]
  | indices is =>
    show (is.filterMap n.element?).map node = is.filterMap n.node.getIndex?
    rw [List.map_filterMap]
    simp only [Located.map_node_element?]
  | slice start stop => exact Located.map_node_slice
  | predicate p expandArrays =>
    show ((n.candidates expandArrays).filter fun c => p.accepts shelf c.node).map node =
      (p.select shelf expandArrays n.node).value
    rw [Predicate.value_select, ← Located.map_node_candidates, List.filter_map]
    rfl

theorem map_node_locatedAfter {steps : List Step} {ns : List Located} :
    (locatedAfter shelf steps ns).map node = nodesAfter shelf steps (ns.map node) := by
  induction steps generalizing ns with
  | nil => rfl
  | cons step steps ih =>
    have hstep : (ns.flatMap (step.located shelf)).map node =
        (ns.map node).flatMap (step.nodes shelf) := by
      rw [List.map_flatMap, List.flatMap_map]
      exact List.flatMap_congr fun n _ => map_node_located step
    show (locatedAfter shelf steps _).map node = _
    rw [ih, hstep, nodesAfter_cons]

end Step

/-- The located matches are the matches, once their locations are left out, so
what is proved of the former holds of what a read gives. -/
theorem CompiledPath.readList_eq_map_located (shelf : Shelf) (path : CompiledPath)
    (document : Value) :
    path.readList shelf document = (path.located shelf document).map Located.node := by
  rw [readList_eq_nodesAfter, CompiledPath.located, Step.map_node_locatedAfter]
  rfl

end DocPath
