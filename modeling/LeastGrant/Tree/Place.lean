import LeastGrant.Tree.Node

/-! Places in a source tree: a node together with the way up to the root. From a place one can go to
the children, to the parent and to the siblings before it. -/
namespace LeastGrant

/-- One step up from a node: its parent, and the siblings before the node, the nearest first. -/
structure Frame where
  parent : Node
  before : List Node

structure Place where
  node : Node
  /-- The steps up to the root, the nearest first. -/
  frames : List Frame

namespace Place

def ofRoot (root : Node) : Place := ⟨root, []⟩

def kind (place : Place) : Kind := place.node.kind

def text (place : Place) : String := place.node.text

/-- The places of some children, given what stands before them. -/
def childrenFrom (parent : Node) (frames : List Frame) (before : List Node) :
    List Node → List Place
  | [] => []
  | child :: rest =>
    ⟨child, ⟨parent, before⟩ :: frames⟩ :: childrenFrom parent frames (child :: before) rest

def children (place : Place) : List Place :=
  childrenFrom place.node place.frames [] place.node.children

theorem childrenFrom_map_node (parent : Node) (frames : List Frame) (before nodes : List Node) :
    (childrenFrom parent frames before nodes).map Place.node = nodes := by
  induction nodes generalizing before with
  | nil => rfl
  | cons node rest ih => simp [childrenFrom, ih]

theorem children_map_node (place : Place) : place.children.map Place.node = place.node.children :=
  childrenFrom_map_node ..

def child? (place : Place) (role : Role) : Option Place :=
  place.children.find? fun child => child.node.role == some role

def operands (place : Place) : List Place :=
  place.children.filter fun child => child.node.isOperand

def parent? (place : Place) : Option Place :=
  match place.frames with
  | [] => none
  | frame :: frames => some ⟨frame.parent, frames⟩

/-- The siblings before a place, the nearest first. -/
def before (place : Place) : List Node :=
  match place.frames with
  | [] => []
  | frame :: _ => frame.before

/-- The nodes above a place, the nearest first. -/
def ancestors (place : Place) : List Node := place.frames.map Frame.parent

/-- The nearest node above a place whose kind is wanted. -/
def enclosing? (place : Place) (wanted : Kind → Bool) : Option Node :=
  place.ancestors.find? fun node => wanted node.kind

/-- Whether a place is the first named child of its parent. -/
def isFirstNamed (place : Place) : Bool :=
  place.node.named && !place.before.any Node.named

/-- Whether a place is the first operand of its parent. -/
def isFirstOperand (place : Place) : Bool :=
  place.node.isOperand && !place.before.any Node.isOperand

/-- Takes places off a stack until none is left. The children of a place are put on the stack in its
stead, unless its node satisfies `stop`. -/
def drain (stop : Node → Bool) (stack : List Place) : List Place :=
  match stack with
  | [] => []
  | place :: rest =>
    if stop place.node then place :: drain stop rest
    else place :: drain stop (place.children ++ rest)
termination_by Node.sizeAll (stack.map Place.node)
decreasing_by
  all_goals
    have h := Node.size_eq place.node
    simp only [List.map_append, List.map_cons, Node.sizeAll, Node.sizeAll_append, children_map_node]
    omega

/-- All places of a tree in pre-order. -/
def all (root : Node) : List Place := drain (fun _ => false) [ofRoot root]

mutual
/-- The places of a tree, each before those below it. What lies below a node that satisfies `stop`
is left out. -/
def walk (stop : Node → Bool) (frames : List Frame) : Node → List Place
  | .mk label children =>
    ⟨.mk label children, frames⟩ ::
      if stop (.mk label children) then []
      else walkAll stop (.mk label children) frames [] children

/-- The places of the trees of some children, given what stands before them. -/
def walkAll (stop : Node → Bool) (parent : Node) (frames : List Frame) (before : List Node) :
    List Node → List Place
  | [] => []
  | child :: rest =>
    walk stop (⟨parent, before⟩ :: frames) child ++
      walkAll stop parent frames (child :: before) rest
end

mutual
theorem walk_map_node (frames : List Frame) (node : Node) :
    (walk (fun _ => false) frames node).map Place.node = node.preorder := by
  cases node with
  | mk label children =>
    simp only [walk, Bool.false_eq_true, if_false, List.map_cons, Node.preorder]
    rw [walkAll_map_node]

theorem walkAll_map_node (parent : Node) (frames : List Frame) (before nodes : List Node) :
    (walkAll (fun _ => false) parent frames before nodes).map Place.node =
      Node.preorderAll nodes := by
  cases nodes with
  | nil => simp [walkAll, Node.preorderAll]
  | cons node rest =>
    simp only [walkAll, List.map_append, Node.preorderAll]
    rw [walk_map_node, walkAll_map_node]
end

theorem walkAll_eq (stop : Node → Bool) (parent : Node) (frames : List Frame)
    (before nodes : List Node) :
    walkAll stop parent frames before nodes =
      (childrenFrom parent frames before nodes).flatMap fun place =>
        walk stop place.frames place.node := by
  induction nodes generalizing before with
  | nil => simp [walkAll, childrenFrom]
  | cons node rest ih => simp [walkAll, childrenFrom, ih]

/-- A place is visited before all that lies below it. -/
theorem walk_eq (stop : Node → Bool) (place : Place) :
    walk stop place.frames place.node =
      place :: if stop place.node then [] else
        place.children.flatMap fun child => walk stop child.frames child.node := by
  obtain ⟨⟨label, nodes⟩, frames⟩ := place
  simp only [walk, children, Node.children, walkAll_eq]

/-- The stack holds the roots of the trees that are still to be walked. -/
theorem drain_eq (stop : Node → Bool) (stack : List Place) :
    drain stop stack = stack.flatMap fun place => walk stop place.frames place.node := by
  fun_induction drain stop stack with
  | case1 => rfl
  | case2 place rest h ih =>
    rw [List.flatMap_cons, walk_eq, ih, if_pos h]
    rfl
  | case3 place rest h ih =>
    rw [List.flatMap_cons, walk_eq, ih, if_neg h, List.flatMap_append]
    rfl

theorem all_eq_walk (root : Node) : all root = walk (fun _ => false) [] root := by
  simp [all, drain_eq, ofRoot]

theorem all_map_node (root : Node) : (all root).map Place.node = root.preorder := by
  rw [all_eq_walk, walk_map_node]

end Place

end LeastGrant
