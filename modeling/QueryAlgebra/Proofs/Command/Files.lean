/-
**Writing one file leaves the others alone.**

A file that is written gets other bytes, or it takes a vacancy and is new (`Filled`). Directories
and symbolic links are otherwise as they were. So every path leads where it led before, but for those
to the vacancy, which lead to the new file (`Filled.locate?_eq`). No path led to that file before, as
directories tell of numbers in use only (`locate?_fits`). What is found afterwards is what was
written, at each path to the place, and at all others what was there (`Filled.bytes?_eq`).
-/
import QueryAlgebra.Command.Files

namespace QueryAlgebra.Command

/-- The place that a place is when another one is filled with a file. -/
def Place.fill (filled : Place) (number : Nat) (place : Place) : Place :=
  if place = filled then .node number else place

/-- The course with another place at its end. -/
def Course.map (change : Place → Place) : Course → Course
  | .nowhere => .nowhere
  | .place other => .place (change other)
  | .link directory path rest => .link directory path rest

/-- Whether a place is there: its number is in use, or the directory does not have its name. -/
def Place.FitsIn (files : Files) : Place → Prop
  | .node number => number < files.nodes.length
  | .vacancy directory name => files.child? directory name = none

/-- Whether a course tells only of what is there. -/
def Course.FitsIn (files : Files) : Course → Prop
  | .nowhere => True
  | .place other => other.FitsIn files
  | .link directory _ _ => directory < files.nodes.length

namespace Files

/-! ### Changes of nodes -/

section Nodes

variable {α : Type} {view : Node → Option α} {nodes : List Node} {change : Node → Node}
  {node : Node}

/-- What is seen of nodes of which one has changed. -/
theorem view_modify (number other : Nat) :
    (nodes.modify number change)[other]?.bind view =
      if other = number then nodes[number]?.bind (view ∘ change) else nodes[other]?.bind view := by
  rw [List.getElem?_modify]
  by_cases here : other = number
  · rw [if_pos here, here]
    simp only [if_true]
    cases nodes[number]? <;> rfl
  · rw [if_neg here]
    simp only [Ne.symm here, if_false]
    cases nodes[other]? <;> rfl

/-- A change that a view does not show is not seen in it. -/
theorem view_modify_same (same : ∀ node, view (change node) = view node) (number other : Nat) :
    (nodes.modify number change)[other]?.bind view = nodes[other]?.bind view := by
  have unseen : view ∘ change = view := funext same
  rw [view_modify, unseen]
  split
  · rename_i here
    rw [here]
  · rfl

/-- What is seen of nodes with another one at the end. -/
theorem view_concat (other : Nat) :
    (nodes ++ [node])[other]?.bind view =
      if other = nodes.length then view node else nodes[other]?.bind view := by
  by_cases last : other = nodes.length
  · rw [if_pos last, last, List.getElem?_concat_length]
    rfl
  · rw [if_neg last]
    rcases Nat.lt_or_gt_of_ne last with within | beyond
    · rw [List.getElem?_append_left within]
    · rw [List.getElem?_eq_none (Nat.le_of_lt beyond),
        List.getElem?_eq_none (List.length_append ▸ Nat.succ_le_of_lt beyond)]

/-- A node that a view does not show is not seen at the end. -/
theorem view_concat_hidden (hidden : view node = none) (other : Nat) :
    (nodes ++ [node])[other]?.bind view = nodes[other]?.bind view := by
  rw [view_concat, hidden]
  split
  · rename_i last
    rw [last, List.getElem?_eq_none (Nat.le_refl _)]
    rfl
  · rfl

end Nodes

variable {files after : Files} {place : Place} {number directory : Nat} {name path : String}
  {bytes : ByteArray}

/-! ### Files with one more or another one -/

/-- Whether files are others with a file of some bytes at a place. -/
structure Filled (files after : Files) (place : Place) (number : Nat) (bytes : ByteArray) :
    Prop where
  root : after.root = files.root
  workingDirectory : after.workingDirectory = files.workingDirectory
  parent? : ∀ other, after.parent? other = files.parent? other
  target? : ∀ other, after.target? other = files.target? other
  child? : ∀ directory name, after.child? directory name =
    if place = .vacancy directory name then some number else files.child? directory name
  bytesOf? : ∀ other, after.bytesOf? other =
    if other = number then some bytes else files.bytesOf? other
  /-- Neither a directory nor a symbolic link had the number. -/
  noDirectory : files.parent? number = none
  noLink : files.target? number = none
  /-- The place is the file, or it was vacant and the file is new. -/
  isPlace : place = .node number ∨ files.nodes.length ≤ number ∧
    ∃ directory name, place = .vacancy directory name ∧ files.child? directory name = none

theorem filled_replace (replaceable : files.nodes[number]?.any Node.isReplaceable = true) :
    Filled files (files.replace number bytes) (.node number) number bytes := by
  obtain ⟨node, isNode, isReplaceable⟩ := (Option.any_eq_true _ _).mp replaceable
  obtain ⟨readable, writable, before, rfl⟩ :
      ∃ readable writable before, node = .file readable writable before := by
    cases node with
    | file readable writable before => exact ⟨_, _, _, rfl⟩
    | _ => cases isReplaceable
  refine ⟨rfl, rfl, view_modify_same (fun _ => Node.parent?_withBytes) number,
    view_modify_same (fun _ => Node.target?_withBytes) number, fun directory name => ?_,
    fun other => ?_, ?_, ?_, .inl rfl⟩
  · rw [if_neg nofun]
    exact view_modify_same (fun _ => Node.child?_withBytes) number directory
  · refine (view_modify number other).trans ?_
    rw [isNode]
    rfl
  · rw [Files.parent?, isNode]
    rfl
  · rw [Files.target?, isNode]
    rfl

theorem filled_create (extensible : files.nodes[directory]?.any Node.isExtensible = true)
    (absent : files.child? directory name = none) :
    Filled files (files.create directory name bytes) (.vacancy directory name) files.nodes.length
      bytes := by
  obtain ⟨node, isNode, isExtensible⟩ := (Option.any_eq_true _ _).mp extensible
  obtain ⟨searchable, writable, parent, names, rfl⟩ :
      ∃ searchable writable parent names, node = .directory searchable writable parent names := by
    cases node with
    | directory searchable writable parent names => exact ⟨_, _, _, _, rfl⟩
    | _ => cases isExtensible
  have isNew : files.nodes[files.nodes.length]? = none := List.getElem?_eq_none (Nat.le_refl _)
  refine ⟨rfl, rfl, fun other => ?_, fun other => ?_, fun other otherName => ?_, fun other => ?_,
    ?_, ?_, .inr ⟨Nat.le_refl _, _, _, rfl, absent⟩⟩
  · exact (view_concat_hidden rfl other).trans
      (view_modify_same (fun _ => Node.parent?_withName) directory other)
  · exact (view_concat_hidden rfl other).trans
      (view_modify_same (fun _ => Node.target?_withName) directory other)
  · refine ((view_concat_hidden rfl other).trans (view_modify directory other)).trans ?_
    rw [isNode]
    by_cases here : other = directory
    · subst here
      rw [if_pos rfl, child?, isNode]
      show (names.put name _).find? otherName = _
      rw [OrderedMap.find?_put]
      by_cases same : otherName = name
      · rw [if_pos same, same, if_pos rfl]
      · rw [if_neg same, if_neg fun equal => same (Place.vacancy.inj equal).2.symm]
        rfl
    · rw [if_neg here, if_neg fun equal => here (Place.vacancy.inj equal).1.symm, child?]
  · refine (view_concat other).trans ?_
    rw [List.length_modify, view_modify_same (fun _ => Node.bytes?_withName)]
    rfl
  · rw [Files.parent?, isNew]
    rfl
  · rw [Files.target?, isNew]
    rfl

/-! ### The same paths -/

namespace Filled

variable (filled : Filled files after place number bytes)

include filled

/-- The file stands at its place. -/
theorem eq_of_node {other : Nat} (here : .node other = place) : other = number := by
  rcases filled.isPlace with rfl | ⟨_, directory, name, rfl, _⟩
  · exact Place.node.inj here
  · cases here

/-- A name that was there has kept its number. -/
theorem child?_of_some {child : Nat} (isChild : files.child? directory name = some child) :
    after.child? directory name = some child := by
  rw [filled.child?, isChild, if_neg]
  rintro rfl
  rcases filled.isPlace with same | ⟨_, _, _, same, absent⟩
  · cases same
  · cases same
    rw [isChild] at absent
    cases absent

/-- **Components lead where they led before**, or to the file in place of the vacancy. -/
theorem course_eq (start : Nat) (names : List (List Char)) :
    after.course start names = (files.course start names).map (place.fill number) := by
  have throughFile : ∀ component rest, after.course number (component :: rest) = .nowhere := by
    intro component rest
    rw [course, filled.parent?, filled.noDirectory]
  fun_induction files.course start names with
  | case1 start =>
    show Course.place (.node start) = .place (if _ then _ else _)
    split
    · rename_i here
      rw [filled.eq_of_node here]
    · rfl
  | case2 start component rest blocked =>
    rw [course, filled.parent?, blocked]
    rfl
  | case3 start component rest parent isParent stays inRest =>
    rw [course, filled.parent?, isParent]
    simp only [stays, if_true]
    exact inRest
  | case4 start rest parent isParent moves inRest =>
    rw [course, filled.parent?, isParent]
    simp only [moves, if_true, if_false]
    exact inRest
  | case5 start component parent isParent moves down absent =>
    rw [course, filled.parent?, isParent, filled.child?, absent]
    simp only [moves, down, if_false]
    show _ = Course.place (if _ then _ else _)
    by_cases here : place = .vacancy start (String.ofList component)
    · rw [if_pos here.symm]
      simp only [here, if_true, filled.target?, filled.noLink, course]
    · rw [if_neg (Ne.symm here)]
      simp only [here, if_false, if_true]
  | case6 start component rest parent isParent moves down absent goesOn =>
    rw [course, filled.parent?, isParent, filled.child?, absent]
    simp only [moves, down, if_false]
    show _ = Course.nowhere
    by_cases here : place = .vacancy start (String.ofList component)
    · -- a file is no directory, so nothing is below the new one
      obtain ⟨next, others, rfl⟩ := List.exists_cons_of_ne_nil goesOn
      simp only [here, if_true, filled.target?, filled.noLink, throughFile]
    · simp only [here, goesOn, if_false]
  | case7 start component rest parent isParent moves down child isChild path isLink =>
    rw [course, filled.parent?, isParent, filled.child?_of_some isChild]
    simp only [moves, down, if_false, filled.target?, isLink]
    rfl
  | case8 start component rest parent isParent moves down child isChild noLink inRest =>
    rw [course, filled.parent?, isParent, filled.child?_of_some isChild]
    simp only [moves, down, if_false, filled.target?, noLink]
    exact inRest

theorem follow_eq (links start : Nat) (names : List (List Char)) :
    after.follow links start names = (files.follow links start names).map (place.fill number) := by
  fun_induction files.follow links start names with
  | case1 links start names led =>
    rw [follow, filled.course_eq, led]
    rfl
  | case2 links start names other led =>
    rw [follow, filled.course_eq, led]
    rfl
  | case3 start names directory path rest led =>
    rw [follow, filled.course_eq, led]
    rfl
  | case4 start names directory path rest led links inRest =>
    rw [follow, filled.course_eq, led]
    have sameStart : after.start directory path = files.start directory path := by
      rw [Files.start, Files.start, filled.root]
    simp only [Course.map, sameStart]
    exact inRest

/-- **Every path leads where it led before**, or to the file in place of the vacancy. -/
theorem locate?_eq (path : String) : after.locate? path =
    if files.locate? path = some place then some (.node number) else files.locate? path := by
  have sameStart : after.start after.workingDirectory path =
      files.start files.workingDirectory path := by
    rw [Files.start, Files.start, filled.root, filled.workingDirectory]
  rw [Files.locate?, sameStart, filled.follow_eq, ← Files.locate?]
  cases files.locate? path with
  | none => rfl
  | some other =>
    show some (if other = place then _ else other) = _
    simp only [Option.some.injEq]
    split <;> rfl

end Filled

/-! ### What paths lead to -/

theorem parent?_lt {parent : Nat} (isParent : files.parent? number = some parent) :
    parent < files.nodes.length := by
  obtain ⟨node, isNode, isParent⟩ := Option.bind_eq_some_iff.mp isParent
  exact files.parent_lt node (List.mem_of_getElem? isNode) parent isParent

theorem child?_lt {child : Nat} (isChild : files.child? directory name = some child) :
    child < files.nodes.length := by
  obtain ⟨node, isNode, isChild⟩ := Option.bind_eq_some_iff.mp isChild
  exact files.child_lt node (List.mem_of_getElem? isNode) name child isChild

theorem start_lt (inUse : directory < files.nodes.length) (path : String) :
    files.start directory path < files.nodes.length := by
  unfold start
  split
  · exact files.root_lt
  · exact inUse

theorem course_fits {start : Nat} (inUse : start < files.nodes.length)
    (names : List (List Char)) : (files.course start names).FitsIn files := by
  fun_induction files.course start names with
  | case1 => exact inUse
  | case2 => trivial
  | case3 start component rest parent isParent stays inRest => exact inRest inUse
  | case4 start rest parent isParent moves inRest => exact inRest (parent?_lt isParent)
  | case5 start component parent isParent moves down absent => exact absent
  | case6 => trivial
  | case7 => exact inUse
  | case8 start component rest parent isParent moves down child isChild noLink inRest =>
    exact inRest (child?_lt isChild)

theorem follow_fits {links start : Nat} {names : List (List Char)}
    (inUse : start < files.nodes.length) (leads : files.follow links start names = some place) :
    place.FitsIn files := by
  fun_induction files.follow links start names with
  | case1 => cases leads
  | case2 links start names other led =>
    cases leads
    have fits := course_fits inUse names
    rwa [led] at fits
  | case3 => cases leads
  | case4 start names directory path rest led links inRest =>
    have fits := course_fits inUse names
    rw [led] at fits
    exact inRest (start_lt fits path) leads

/-- **A path leads to what is there**, or to a name that is not. -/
theorem locate?_fits (leads : files.locate? path = some place) : place.FitsIn files :=
  follow_fits (start_lt files.workingDirectory_lt path) leads

/-! ### Writing -/

/-- A text is encoded in bytes that are read as it. -/
theorem fromUTF8?_toUTF8 (text : String) : String.fromUTF8? text.toUTF8 = some text :=
  dif_pos text.isValidUTF8

/-- **A file that can be created is written** at the place that its path leads to. -/
theorem exists_filled_of_canCreate {content : String} (creatable : files.canCreate path = true) :
    ∃ place number, files.locate? path = some place ∧
      Filled files (files.write path content) place number content.toUTF8 := by
  unfold canCreate at creatable
  unfold write
  split at creatable
  · rename_i number leads
    simp only [leads]
    exact ⟨_, _, rfl, filled_replace creatable⟩
  · rename_i directory name leads
    simp only [leads]
    exact ⟨_, _, rfl, filled_create creatable (locate?_fits leads)⟩
  · cases creatable

/-- **What is found after a file was written**: its bytes at each path to its place, and at every
other path what was there. -/
theorem Filled.bytes?_eq (filled : Filled files after place number bytes) (path : String) :
    after.bytes? path =
      if files.locate? path = some place then some bytes else files.bytes? path := by
  unfold bytes?
  rw [filled.locate?_eq]
  by_cases here : files.locate? path = some place
  · rw [if_pos here, if_pos here]
    exact (filled.bytesOf? number).trans (if_pos rfl)
  · rw [if_neg here, if_neg here]
    cases leads : files.locate? path with
    | none => rfl
    | some other =>
      cases other with
      | vacancy directory name => rfl
      | node other =>
        refine (filled.bytesOf? other).trans (if_neg ?_)
        rintro rfl
        rcases filled.isPlace with rfl | ⟨isNew, _⟩
        · exact here leads
        · exact Nat.lt_irrefl _ (Nat.lt_of_lt_of_le (locate?_fits leads) isNew)

end Files

end QueryAlgebra.Command
