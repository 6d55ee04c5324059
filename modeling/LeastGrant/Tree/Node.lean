import LeastGrant.Tree.Kind
import LeastGrant.Text.Unwritable
import LeastGrant.Text.Utf8

/-! Source trees. Each node knows its kind, its role in its parent, the bytes it spans, where it
begins, and its text. A tree can be given as the list of its nodes in pre-order, each with the number
of its children. -/
namespace LeastGrant

open Text

/-- A node without its children. Lines and columns count from one, columns in bytes. -/
structure Label where
  kind : Kind
  named : Bool
  role : Option Role
  start : Nat
  stop : Nat
  line : Nat
  column : Nat
  text : String
  deriving DecidableEq, Repr

inductive Node where
  | mk (label : Label) (children : List Node)
  deriving Repr

namespace Node

def label : Node → Label
  | mk label _ => label

def children : Node → List Node
  | mk _ children => children

def kind (node : Node) : Kind := node.label.kind

def named (node : Node) : Bool := node.label.named

def role (node : Node) : Option Role := node.label.role

def start (node : Node) : Nat := node.label.start

def stop (node : Node) : Nat := node.label.stop

def text (node : Node) : String := node.label.text

/-- A named node of a source in one line. -/
def inLine (kind : Kind) (role : Option Role) (start : Nat) (text : String) (children : List Node) :
    Node :=
  mk ⟨kind, true, role, start, start + text.length, 1, start + 1, text⟩ children

/-- A node without children in a source in one line. -/
def word (kind : Kind) (role : Option Role) (start : Nat) (text : String) : Node :=
  inLine kind role start text []

/-- The child with a role. -/
def child? (node : Node) (role : Role) : Option Node :=
  node.children.find? fun child => child.role == some role

/-- The text of the child with a role, empty if there is none. -/
def childText (node : Node) (role : Role) : String :=
  match node.child? role with
  | some child => child.text
  | none => ""

def namedChildren (node : Node) : List Node := node.children.filter Node.named

/-- Whether a node counts among the operands of its parent: it is named and no comment. -/
def isOperand (node : Node) : Bool := node.named && node.kind != .comment

/-- The named children without the comments. -/
def operands (node : Node) : List Node := node.children.filter isOperand

mutual
/-- All nodes of a tree, each before its children. -/
def preorder : Node → List Node
  | mk label children => mk label children :: preorderAll children

/-- All nodes of several trees. -/
def preorderAll : List Node → List Node
  | [] => []
  | node :: rest => preorder node ++ preorderAll rest
end

theorem preorder_eq (node : Node) : node.preorder = node :: preorderAll node.children := by
  cases node
  simp [preorder, children]

theorem preorderAll_append (a b : List Node) :
    preorderAll (a ++ b) = preorderAll a ++ preorderAll b := by
  induction a with
  | nil => simp [preorderAll]
  | cons node rest ih => simp [preorderAll, ih]

mutual
/-- The number of nodes of a tree. -/
def size : Node → Nat
  | mk _ children => sizeAll children + 1

/-- The number of nodes of several trees. -/
def sizeAll : List Node → Nat
  | [] => 0
  | node :: rest => size node + sizeAll rest
end

theorem size_eq (node : Node) : node.size = sizeAll node.children + 1 := by
  cases node
  simp [size, children]

theorem sizeAll_append (a b : List Node) : sizeAll (a ++ b) = sizeAll a + sizeAll b := by
  induction a with
  | nil => simp [sizeAll]
  | cons node rest ih => simp [sizeAll, ih, Nat.add_assoc]

end Node

/-- One entry of a tree written in pre-order. -/
structure TreeEntry where
  kind : String
  named : Bool
  role : String
  start : Nat
  stop : Nat
  children : Nat
  deriving DecidableEq, Repr

/-- The line and the column of an offset, counted from one. -/
def lineAndColumn (source : ByteArray) (offset : Nat) : Nat × Nat :=
  let before := (source.extract 0 offset).toList
  (before.count 10 + 1, (before.reverse.takeWhile (· != 10)).length + 1)

/-- The label of an entry, with the text that it spans. -/
def TreeEntry.label (source : ByteArray) (entry : TreeEntry) : Label :=
  let (line, column) := lineAndColumn source entry.start
  { kind := .ofName entry.kind
    named := entry.named
    role := Role.ofText? entry.role
    start := entry.start
    stop := entry.stop
    line := line
    column := column
    text := String.ofList (ofCharacters (decodeLossy (source.extract entry.start entry.stop).toList)) }

/-- Puts an entry on top of the trees that follow it: the first of them become its children. -/
def TreeEntry.stack (source : ByteArray) (entry : TreeEntry) (following : List Node) : List Node :=
  .mk (entry.label source) (following.take entry.children) :: following.drop entry.children

/-- A source without any tree has a root that spans it. -/
def Node.bare (source : ByteArray) : Node :=
  .mk (TreeEntry.label source ⟨"program", true, "", 0, source.size, 0⟩) []

/-- The tree whose nodes in pre-order are given. -/
def Node.ofEntries (source : ByteArray) (entries : List TreeEntry) : Node :=
  match entries.foldr (TreeEntry.stack source) [] with
  | root :: _ => root
  | [] => .bare source

end LeastGrant
