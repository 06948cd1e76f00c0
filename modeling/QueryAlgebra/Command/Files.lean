/-
**Files.**

A tree of files, directories and symbolic links. They have numbers, and a file may have several
names. A path is followed component by component, an absolute one from the root and any other one
from the working directory. It leads to what has the last name, or to a vacancy, where a directory
that is there does not have the name. A file is read as a text where its bytes encode one.
-/
import QueryAlgebra.OrderedMap

namespace QueryAlgebra.Command

/-- What has a number. -/
inductive Node
  | file (readable writable : Bool) (bytes : ByteArray)
  /-- A directory with the one above it, which for the root is the root again, and its names. -/
  | directory (searchable writable : Bool) (parent : Nat) (names : OrderedMap String Nat)
  /-- A symbolic link, which stands for a path. -/
  | link (path : String)

namespace Node

/-- The directory above a directory, which must be searchable to be passed through. -/
def parent? : Node → Option Nat
  | directory true _ parent _ => some parent
  | _ => none

/-- What has a name in a directory. -/
def child? (name : String) : Node → Option Nat
  | directory _ _ _ names => names.find? name
  | _ => none

/-- The path of a symbolic link. -/
def target? : Node → Option String
  | link path => some path
  | _ => none

/-- The bytes of a file. -/
def bytes? : Node → Option ByteArray
  | file _ _ bytes => some bytes
  | _ => none

/-- Whether a file can be read. -/
def isReadable : Node → Bool
  | file readable _ _ => readable
  | _ => false

/-- Whether a file can be replaced. -/
def isReplaceable : Node → Bool
  | file _ writable _ => writable
  | _ => false

/-- Whether a directory takes a new name. -/
def isExtensible : Node → Bool
  | directory searchable writable _ _ => searchable && writable
  | _ => false

/-- The file with other bytes. -/
def withBytes (bytes : ByteArray) : Node → Node
  | file readable writable _ => file readable writable bytes
  | node => node

/-- The directory with a name for a number. -/
def withName (name : String) (number : Nat) : Node → Node
  | directory searchable writable parent names =>
    directory searchable writable parent (names.put name number)
  | node => node

/-- The directory without names below another one. -/
def emptyDirectory (parent : Nat) : Node := directory true true parent .empty

variable {node : Node} {name : String} {bytes : ByteArray} {number : Nat}

@[simp]
theorem parent?_withBytes : (node.withBytes bytes).parent? = node.parent? := by cases node <;> rfl

@[simp]
theorem child?_withBytes : (node.withBytes bytes).child? name = node.child? name := by
  cases node <;> rfl

@[simp]
theorem target?_withBytes : (node.withBytes bytes).target? = node.target? := by cases node <;> rfl

@[simp]
theorem parent?_withName : (node.withName name number).parent? = node.parent? := by
  cases node with
  | directory searchable => cases searchable <;> rfl
  | _ => rfl

@[simp]
theorem target?_withName : (node.withName name number).target? = node.target? := by
  cases node <;> rfl

@[simp]
theorem bytes?_withName : (node.withName name number).bytes? = node.bytes? := by cases node <;> rfl

theorem child?_withName {other : String} {child : Nat}
    (isChild : (node.withName name number).child? other = some child) :
    child = number ∨ node.child? other = some child := by
  cases node with
  | directory searchable writable parent names =>
    have found : (names.put name number).find? other = some child := isChild
    rw [OrderedMap.find?_put] at found
    split at found
    · exact .inl (Option.some.inj found).symm
    · exact .inr found
  | file => cases isChild
  | link => cases isChild

end Node

/-- Files with a root and a working directory; all numbers that are told of are in use. -/
structure Files where
  nodes : List Node
  root : Nat
  workingDirectory : Nat
  root_lt : root < nodes.length
  workingDirectory_lt : workingDirectory < nodes.length
  parent_lt : ∀ node ∈ nodes, ∀ parent, node.parent? = some parent → parent < nodes.length
  child_lt : ∀ node ∈ nodes, ∀ name child, node.child? name = some child → child < nodes.length

/-- Where a path leads. -/
inductive Place
  | node (number : Nat)
  /-- A name that a directory does not have. -/
  | vacancy (directory : Nat) (name : String)
  deriving DecidableEq, Repr

/-- How far components lead without the help of symbolic links. -/
inductive Course
  | nowhere
  | place (place : Place)
  /-- A symbolic link in a directory, with the components after it. -/
  | link (directory : Nat) (path : String) (rest : List (List Char))

namespace Files

/-- The directory above the one with a number. -/
def parent? (files : Files) (number : Nat) : Option Nat := files.nodes[number]?.bind Node.parent?

/-- What has a name in the directory with a number. -/
def child? (files : Files) (number : Nat) (name : String) : Option Nat :=
  files.nodes[number]?.bind (Node.child? name)

/-- The path of the symbolic link with a number. -/
def target? (files : Files) (number : Nat) : Option String := files.nodes[number]?.bind Node.target?

/-- The bytes of the file with a number. -/
def bytesOf? (files : Files) (number : Nat) : Option ByteArray :=
  files.nodes[number]?.bind Node.bytes?

/-- The components of a path. -/
def components : List Char → List (List Char)
  | [] => [[]]
  | c :: rest =>
    if c = '/' then [] :: components rest
    else
      match components rest with
      | [] => [[c]]
      | component :: others => (c :: component) :: others

/-- Where a path starts that is met in a directory. -/
def start (files : Files) (directory : Nat) (path : String) : Nat :=
  if path.toList.head? = some '/' then files.root else directory

/-- Follows components from a number to the next symbolic link or to their end. -/
def course (files : Files) : Nat → List (List Char) → Course
  | number, [] => .place (.node number)
  | number, component :: rest =>
    match files.parent? number with
    | none => .nowhere
    | some parent =>
      if component = [] ∨ component = ['.'] then files.course number rest
      else if component = ['.', '.'] then files.course parent rest
      else
        match files.child? number (String.ofList component) with
        | none =>
          if rest = [] then .place (.vacancy number (String.ofList component)) else .nowhere
        | some child =>
          match files.target? child with
          | some path => .link number path rest
          | none => files.course child rest

/-- Follows components through at most so many symbolic links. -/
def follow (files : Files) (links number : Nat) (names : List (List Char)) : Option Place :=
  match files.course number names with
  | .nowhere => none
  | .place place => some place
  | .link directory path rest =>
    match links with
    | 0 => none
    | links + 1 => files.follow links (files.start directory path) (components path.toList ++ rest)

/-- The greatest number of symbolic links on the way of a path. -/
def greatestLinks : Nat := 40

/-- The place that a path leads to. -/
def locate? (files : Files) (path : String) : Option Place :=
  files.follow greatestLinks (files.start files.workingDirectory path) (components path.toList)

/-- The bytes of a file. -/
def bytes? (files : Files) (path : String) : Option ByteArray :=
  match files.locate? path with
  | some (.node number) => files.bytesOf? number
  | _ => none

/-- The text in a file that can be read. -/
def read (files : Files) (path : String) : Option String :=
  match files.locate? path with
  | some (.node number) =>
    if files.nodes[number]?.any Node.isReadable then
      (files.bytesOf? number).bind String.fromUTF8?
    else none
  | _ => none

/-- Whether a file can be created or replaced. -/
def canCreate (files : Files) (path : String) : Bool :=
  match files.locate? path with
  | some (.node number) => files.nodes[number]?.any Node.isReplaceable
  | some (.vacancy directory _) => files.nodes[directory]?.any Node.isExtensible
  | none => false

/-- A change of one node keeps what it keeps of each. -/
theorem forall_mem_modify {nodes : List Node} {number : Nat} {change : Node → Node}
    {holds holdsAfter : Node → Prop} (each : ∀ node ∈ nodes, holds node)
    (still : ∀ node, holds node → holdsAfter node)
    (changed : ∀ node, holds node → holdsAfter (change node)) :
    ∀ node ∈ nodes.modify number change, holdsAfter node := by
  intro node member
  obtain ⟨place, within, rfl⟩ := List.getElem_of_mem member
  have there : place < nodes.length := by rwa [List.length_modify] at within
  have holdsThere := each _ (List.getElem_mem there)
  rw [List.getElem_modify]
  split
  · exact changed _ holdsThere
  · exact still _ holdsThere

/-- The files with other bytes in one of them. -/
def replace (files : Files) (number : Nat) (bytes : ByteArray) : Files where
  nodes := files.nodes.modify number (Node.withBytes bytes)
  root := files.root
  workingDirectory := files.workingDirectory
  root_lt := by
    rw [List.length_modify]
    exact files.root_lt
  workingDirectory_lt := by
    rw [List.length_modify]
    exact files.workingDirectory_lt
  parent_lt := by
    rw [List.length_modify]
    refine forall_mem_modify files.parent_lt (fun _ kept => kept) fun node kept => ?_
    rw [Node.parent?_withBytes]
    exact kept
  child_lt := by
    rw [List.length_modify]
    refine forall_mem_modify files.child_lt (fun _ kept => kept) fun node kept name => ?_
    rw [Node.child?_withBytes]
    exact kept name

/-- The files with a new one in a directory. -/
def create (files : Files) (directory : Nat) (name : String) (bytes : ByteArray) : Files where
  nodes := files.nodes.modify directory (Node.withName name files.nodes.length) ++
    [.file true true bytes]
  root := files.root
  workingDirectory := files.workingDirectory
  root_lt := by
    rw [List.length_append, List.length_modify]
    exact Nat.lt_add_right _ files.root_lt
  workingDirectory_lt := by
    rw [List.length_append, List.length_modify]
    exact Nat.lt_add_right _ files.workingDirectory_lt
  parent_lt := by
    rw [List.length_append, List.length_modify]
    refine List.forall_mem_append.mpr ⟨forall_mem_modify files.parent_lt
      (fun node kept parent isParent => Nat.lt_add_right _ (kept parent isParent))
      fun node kept parent isParent => ?_,
      List.forall_mem_singleton.mpr fun _ absent => nomatch absent⟩
    rw [Node.parent?_withName] at isParent
    exact Nat.lt_add_right _ (kept parent isParent)
  child_lt := by
    rw [List.length_append, List.length_modify]
    refine List.forall_mem_append.mpr ⟨forall_mem_modify files.child_lt
      (fun node kept other child isChild => Nat.lt_add_right _ (kept other child isChild))
      fun node kept other child isChild => ?_,
      List.forall_mem_singleton.mpr fun _ _ absent => nomatch absent⟩
    rcases Node.child?_withName isChild with rfl | isChild
    · exact Nat.lt_succ_self _
    · exact Nat.lt_add_right _ (kept other child isChild)

/-- Creates or replaces a file. -/
def write (files : Files) (path content : String) : Files :=
  match files.locate? path with
  | some (.node number) => files.replace number content.toUTF8
  | some (.vacancy directory name) => files.create directory name content.toUTF8
  | none => files

/-- A root with one directory in it, which has the empty working directory. -/
def workspace : Files where
  nodes := [
    (Node.emptyDirectory 0).withName "tmp" 1,
    (Node.emptyDirectory 0).withName "work" 2,
    Node.emptyDirectory 1]
  root := 0
  workingDirectory := 2
  root_lt := by decide
  workingDirectory_lt := by decide
  parent_lt := by
    simp only [List.forall_mem_cons]
    refine ⟨?_, ?_, ?_, List.forall_mem_nil _⟩ <;>
    · rintro parent isParent
      cases isParent
      decide
  child_lt := by
    simp only [List.forall_mem_cons]
    refine ⟨fun name child isChild => ?_, fun name child isChild => ?_,
      fun name child absent => ?_, List.forall_mem_nil _⟩
    · rcases Node.child?_withName isChild with rfl | absent
      · decide
      · cases absent
    · rcases Node.child?_withName isChild with rfl | absent
      · decide
      · cases absent
    · cases absent

/-- The working directory with files of paths with their contents. -/
def ofList (entries : List (String × String)) : Files :=
  entries.foldl (fun files entry => files.write entry.1 entry.2) workspace

end Files

end QueryAlgebra.Command
