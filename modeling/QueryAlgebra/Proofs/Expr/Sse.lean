/-
**S-expressions are read in one way.**

Within parentheses a term is followed by a space, by a closing parenthesis or by nothing. There the
end of a term can be found when its IRI is absolute and its name has neither of the two characters
(`Term.endsBefore_of_stops`). A text *tells* a value when the value and the place where its text ends
can be read off the text, whatever stands behind it (`Tells`). Operands that are told make a compound
that is told (`Tells.list`), so by induction on the tree the S-expression of an expression tells its
*skeleton*: the expression without the flags of its aggregates and with every variable as a variable
leaf. The S-expression of a pattern tells the pattern.
-/
import QueryAlgebra.Expr.Sse
import QueryAlgebra.Proofs.Expr.Occurrence
import QueryAlgebra.Proofs.Term.Display

namespace QueryAlgebra

/-! ### Terms within parentheses -/

/-- Whether a text stops what stands before it: it is empty or begins with a space or a closing
parenthesis. -/
def Stops (rest : List Char) : Prop := ∀ c, rest.head? = some c → c = ' ' ∨ c = ')'

theorem stops_nil : Stops [] := fun _ first => by cases first

/-- What follows an item of a list in parentheses stops it. -/
theorem stops_list (texts : List (List Char)) (rest : List Char) :
    Stops (texts.flatMap (' ' :: ·) ++ ')' :: rest) := by
  intro c first
  cases texts with
  | nil =>
    cases first
    exact .inr rfl
  | cons text texts =>
    cases first
    exact .inl rfl

/-- No closing bracket stands in an absolute IRI. -/
theorem Iri.IsAbsolute.ne_bracket {iri : Iri} (absolute : iri.IsAbsolute) :
    ∀ c ∈ iri.text.toList, (c != '>') = true := by
  intro c member
  have allowed := (Iri.parse_eq_ok_iff.mp absolute).2.2 c member
  rw [bne_iff_ne]
  rintro rfl
  exact absurd allowed (by decide)

namespace Term

/-- Whether a character belongs to a name within parentheses: it is neither a space nor a closing
parenthesis. -/
def isNameChar (c : Char) : Bool := c != ' ' && c != ')'

/-- Whether the end of a term can be found within parentheses: its IRI is absolute, and its label,
name or language tag has no space and no closing parenthesis. -/
structure IsReadable (term : Term) : Prop where
  iri : ∀ iri, term.lastIri? = some iri → iri.IsAbsolute
  name : ∀ name, term.lastName? = some name → name.toList.all isNameChar = true

instance (term : Term) : Decidable term.IsReadable :=
  decidable_of_iff ((∀ iri ∈ term.lastIri?, iri.IsAbsolute) ∧
      ∀ name ∈ term.lastName?, name.toList.all isNameChar = true)
    ⟨fun both => ⟨both.1, both.2⟩, fun readable => ⟨readable.iri, readable.name⟩⟩

/-- The ending of a term within parentheses. -/
def inParentheses : Ending where
  iri text := (text.takeWhile (· != '>'), (text.dropWhile (· != '>')).tail)
  name text := (text.takeWhile isNameChar, text.dropWhile isNameChar)

/-- **The end of a readable term is found** where something stops it. -/
theorem endsBefore_of_stops {term : Term} {rest : List Char} (readable : term.IsReadable)
    (stops : Stops rest) : term.EndsBefore inParentheses rest where
  iri iri last := by
    have closes : ∀ c, ('>' :: rest).head? = some c → (c != '>') = false := by
      intro c first
      cases first
      rfl
    obtain ⟨taken, dropped⟩ := takeWhile_stretch (readable.iri iri last).ne_bracket closes
    show (List.takeWhile _ _, (List.dropWhile _ _).tail) = _
    rw [taken, dropped, List.tail_cons]
  name name last := by
    have inside : ∀ c ∈ name.toList, isNameChar c = true :=
      List.all_eq_true.mp (readable.name name last)
    have outside : ∀ c, rest.head? = some c → isNameChar c = false := by
      intro c first
      rcases stops c first with rfl | rfl <;> rfl
    obtain ⟨taken, dropped⟩ := takeWhile_stretch inside outside
    show (List.takeWhile _ _, List.dropWhile _ _) = _
    rw [taken, dropped]
  clear c first := by
    rcases stops c first with rfl | rfl <;> decide

end Term

/-! ### Texts that tell values -/

section Tells

variable {α β : Type} {write : α → List Char} {told : α → β} {fits : α → Prop}

/-- Whether the text of a value tells something of it and where the text ends, among the texts of
values that fit and with anything behind it that stops it. -/
def Tells (write : α → List Char) (told : α → β) (fits : α → Prop) (value : α) : Prop :=
  ∀ other rest otherRest, fits other → Stops rest → Stops otherRest →
    write value ++ rest = write other ++ otherRest → told value = told other ∧ rest = otherRest

variable {items others : List α} {rest otherRest : List Char}

/-- **Items that are told make a list that is told**, up to the parenthesis that closes it. -/
theorem Tells.list (each : ∀ item ∈ items, Tells write told fits item)
    (otherFits : ∀ other ∈ others, fits other)
    (same : (items.map write).flatMap (' ' :: ·) ++ ')' :: rest =
      (others.map write).flatMap (' ' :: ·) ++ ')' :: otherRest) :
    items.map told = others.map told ∧ rest = otherRest := by
  induction items generalizing others with
  | nil =>
    cases others with
    | nil => exact ⟨rfl, (List.cons.inj same).2⟩
    | cons other others => cases (List.cons.inj same).1
  | cons item items inItems =>
    cases others with
    | nil => cases (List.cons.inj same).1
    | cons other others =>
      simp only [List.map_cons, List.flatMap_cons, List.cons_append, List.append_assoc] at same
      obtain ⟨sameItem, sameRest⟩ := each item List.mem_cons_self other _ _
        (otherFits other List.mem_cons_self) (stops_list _ _) (stops_list _ _)
        (List.cons.inj same).2
      obtain ⟨sameItems, sameEnd⟩ := inItems (fun item member => each item (.tail _ member))
        (fun other member => otherFits other (.tail _ member)) sameRest
      rw [List.map_cons, List.map_cons, sameItem, sameItems]
      exact ⟨rfl, sameEnd⟩

/-- Texts in parentheses are the first of them and the others with a space before each. -/
theorem parenthesized_append (first : List Char) (texts : List (List Char)) (rest : List Char) :
    parenthesized (first :: texts) ++ rest =
      '(' :: (first ++ (texts.flatMap (' ' :: ·) ++ ')' :: rest)) := by
  have spaced : [' '].intercalate (first :: texts) = first ++ texts.flatMap (' ' :: ·) := by
    induction texts generalizing first with
    | nil => simp
    | cons text texts inTexts =>
      rw [List.intercalate_cons_cons, inTexts, List.flatMap_cons, List.append_assoc]
      rfl
  rw [parenthesized, spaced]
  simp only [List.cons_append, List.append_assoc, List.nil_append]

/-- Items that are told are told behind a keyword. -/
theorem Tells.keyword (word : List Char) (each : ∀ item ∈ items, Tells write told fits item)
    (otherFits : ∀ other ∈ others, fits other)
    (same : parenthesized (word :: items.map write) ++ rest =
      parenthesized (word :: others.map write) ++ otherRest) :
    items.map told = others.map told ∧ rest = otherRest := by
  rw [parenthesized_append, parenthesized_append, List.cons_inj_right, List.append_right_inj] at same
  exact Tells.list each otherFits same

end Tells

/-- The text of a readable term tells the term. -/
theorem Term.display_tells {term : Term} (readable : term.IsReadable) :
    Tells display id IsReadable term := by
  intro other rest otherRest otherReadable stops otherStops same
  have found := read_display (endsBefore_of_stops readable stops)
  rw [same, read_display (endsBefore_of_stops otherReadable otherStops)] at found
  cases found
  exact ⟨rfl, rfl⟩

/-! ### Expressions -/

namespace Expr

/-- The term of a leaf, a variable included. -/
def leaf? : Expr → Option Term
  | constant term => some term
  | var reference => some (.var reference)
  | compound .. => none

mutual

/-- An expression with each variable as a variable leaf and without the flags of aggregates. -/
def skeleton : Expr → Expr
  | constant term => ofTerm term
  | var reference => var reference
  | compound tag args _ => compound tag.skeleton (skeletonList args) false

/-- The skeletons of a list. -/
def skeletonList : List Expr → List Expr
  | [] => []
  | expr :: rest => expr.skeleton :: skeletonList rest

end

theorem skeletonList_eq_map (exprs : List Expr) : skeletonList exprs = exprs.map skeleton := by
  induction exprs with
  | nil => rfl
  | cons expr rest inRest => rw [skeletonList, inRest, List.map_cons]

theorem sseList_eq_map (exprs : List Expr) : sseList exprs = exprs.map sse := by
  induction exprs with
  | nil => rfl
  | cons expr rest inRest => rw [sseList, inRest, List.map_cons]

theorem sse_compound (tag : Expr) (args : List Expr) (aggregate : Bool) :
    (compound tag args aggregate).sse = parenthesized (tag.sse :: args.map sse) := by
  rw [sse, sseList_eq_map]

theorem skeleton_compound (tag : Expr) (args : List Expr) (aggregate : Bool) :
    (compound tag args aggregate).skeleton =
      compound tag.skeleton (args.map skeleton) false := by
  rw [skeleton, skeletonList_eq_map]

section Leaf

variable {expr : Expr} {term : Term}

theorem sse_of_leaf (isLeaf : expr.leaf? = some term) : expr.sse = term.display := by
  cases expr with
  | constant value =>
    cases isLeaf
    rw [sse]
  | var reference =>
    cases isLeaf
    rw [sse, Term.display]
  | compound tag args aggregate => cases isLeaf

theorem skeleton_of_leaf (isLeaf : expr.leaf? = some term) : expr.skeleton = ofTerm term := by
  cases expr with
  | constant value =>
    cases isLeaf
    rw [skeleton]
  | var reference =>
    cases isLeaf
    rw [skeleton, ofTerm]
  | compound tag args aggregate => cases isLeaf

/-- An expression that is no leaf is a compound. -/
theorem exists_compound (noLeaf : expr.leaf? = none) :
    ∃ tag args aggregate, expr = compound tag args aggregate := by
  cases expr with
  | constant value => cases noLeaf
  | var reference => cases noLeaf
  | compound tag args aggregate => exact ⟨tag, args, aggregate, rfl⟩

end Leaf

/-- An expression is written as its skeleton. -/
theorem sse_skeleton (expr : Expr) : expr.skeleton.sse = expr.sse := by
  induction expr with
  | constant term =>
    rw [skeleton]
    cases term with
    | var reference => rw [ofTerm, sse, sse, Term.display]
    | iri value => rfl
    | literal value => rfl
    | blank value => rfl
  | var reference => rw [skeleton]
  | compound tag args aggregate inTag inArgs =>
    have sameArgs : (args.map skeleton).map sse = args.map sse := by
      rw [List.map_map]
      exact List.map_congr_left inArgs
    rw [skeleton_compound, sse_compound, sse_compound, inTag, sameArgs]

/-- Whether the end of every leaf can be found. -/
def IsReadable (expr : Expr) : Prop :=
  ∀ occurrence ∈ expr.occurrences, ∀ term, occurrence.2.leaf? = some term → term.IsReadable

instance (expr : Expr) : Decidable expr.IsReadable :=
  inferInstanceAs (Decidable (∀ occurrence ∈ expr.occurrences, ∀ term ∈ occurrence.2.leaf?,
    term.IsReadable))

theorem isReadable_iff (expr : Expr) :
    expr.IsReadable ↔ (∀ term, expr.leaf? = some term → term.IsReadable) ∧
      ∀ operand ∈ expr.operands, operand.IsReadable :=
  forall_mem_occurrences (fun node => ∀ term, node.leaf? = some term → term.IsReadable) expr

theorem isReadable_leaf {expr : Expr} {term : Term} (isLeaf : expr.leaf? = some term)
    (readable : expr.IsReadable) : term.IsReadable :=
  ((isReadable_iff expr).mp readable).1 term isLeaf

theorem isReadable_compound {tag : Expr} {args : List Expr} {aggregate : Bool} :
    (compound tag args aggregate).IsReadable ↔ tag.IsReadable ∧ ∀ arg ∈ args, arg.IsReadable := by
  rw [isReadable_iff]
  exact (and_iff_right fun _ same => by cases same).trans List.forall_mem_cons

/-- The text of a leaf tells its skeleton, and is not that of a compound. -/
theorem tells_of_leaf {expr : Expr} {term : Term} (isLeaf : expr.leaf? = some term)
    (readable : expr.IsReadable) : Tells sse skeleton IsReadable expr := by
  intro other rest otherRest otherReadable stops otherStops same
  have found := Term.read_display (Term.endsBefore_of_stops (isReadable_leaf isLeaf readable) stops)
  rw [← sse_of_leaf isLeaf, same] at found
  cases otherLeaf : other.leaf? with
  | some otherTerm =>
    have ends := Term.endsBefore_of_stops (isReadable_leaf otherLeaf otherReadable) otherStops
    rw [sse_of_leaf otherLeaf, Term.read_display ends] at found
    cases found
    rw [skeleton_of_leaf isLeaf, skeleton_of_leaf otherLeaf]
    exact ⟨rfl, rfl⟩
  | none =>
    obtain ⟨tag, args, aggregate, rfl⟩ := exists_compound otherLeaf
    rw [sse_compound, parenthesized_append] at found
    cases found

/-- **The text of an expression tells its skeleton.** -/
theorem sse_tells {expr : Expr} (readable : expr.IsReadable) :
    Tells sse skeleton IsReadable expr := by
  induction expr with
  | constant term => exact tells_of_leaf rfl readable
  | var reference => exact tells_of_leaf rfl readable
  | compound tag args aggregate inTag inArgs =>
    intro other rest otherRest otherReadable stops otherStops same
    cases otherLeaf : other.leaf? with
    -- a leaf is told from a compound by its own text
    | some term =>
      obtain ⟨sameSkeleton, sameEnd⟩ := tells_of_leaf otherLeaf otherReadable _ _ _ readable
        otherStops stops same.symm
      exact ⟨sameSkeleton.symm, sameEnd.symm⟩
    | none =>
      obtain ⟨otherTag, otherArgs, otherFlag, rfl⟩ := exists_compound otherLeaf
      obtain ⟨tagReadable, argsReadable⟩ := isReadable_compound.mp readable
      obtain ⟨otherTagReadable, otherArgsReadable⟩ := isReadable_compound.mp otherReadable
      rw [sse_compound, sse_compound, parenthesized_append, parenthesized_append,
        List.cons_inj_right] at same
      obtain ⟨sameTag, sameRest⟩ := inTag tagReadable otherTag _ _ otherTagReadable
        (stops_list _ _) (stops_list _ _) same
      have each : ∀ arg ∈ args, Tells sse skeleton IsReadable arg :=
        fun arg member => inArgs arg member (argsReadable arg member)
      obtain ⟨sameArgs, sameEnd⟩ := Tells.list each otherArgsReadable sameRest
      rw [skeleton_compound, skeleton_compound, sameTag, sameArgs]
      exact ⟨rfl, sameEnd⟩

end Expr

/-! ### Patterns -/

/-- Whether the end of every term of a triple pattern can be found. -/
def TriplePattern.IsReadable (pattern : TriplePattern) : Prop :=
  ∀ term ∈ pattern.terms, term.IsReadable

instance (pattern : TriplePattern) : Decidable pattern.IsReadable :=
  inferInstanceAs (Decidable (∀ term ∈ pattern.terms, term.IsReadable))

/-- The text of a triple pattern tells the triple pattern. -/
theorem TriplePattern.sse_tells {pattern : TriplePattern} (readable : pattern.IsReadable) :
    Tells sse id IsReadable pattern := by
  intro other rest otherRest otherReadable _ _ same
  have each : ∀ term ∈ pattern.terms, Tells Term.display id Term.IsReadable term :=
    fun term member => Term.display_tells (readable term member)
  obtain ⟨sameTerms, sameEnd⟩ := Tells.keyword _ each otherReadable same
  rw [List.map_id, List.map_id] at sameTerms
  cases pattern
  cases other
  cases sameTerms
  exact ⟨rfl, sameEnd⟩

namespace Pattern

/-- Whether the end of every term of a pattern can be found. -/
structure IsReadable (pattern : Pattern) : Prop where
  triples : ∀ triple ∈ pattern.triples, triple.IsReadable
  graph : ∀ graph, pattern.graph = some graph → graph.IsReadable

instance (pattern : Pattern) : Decidable pattern.IsReadable :=
  decidable_of_iff ((∀ triple ∈ pattern.triples, triple.IsReadable) ∧
      ∀ graph ∈ pattern.graph, graph.IsReadable)
    ⟨fun both => ⟨both.1, both.2⟩, fun readable => ⟨readable.triples, readable.graph⟩⟩

variable {pattern other : Pattern}

/-- The text of the triple patterns tells them. -/
theorem groupSse_tells (readable : pattern.IsReadable) :
    Tells groupSse triples IsReadable pattern := by
  intro other rest otherRest otherReadable _ _ same
  have each : ∀ triple ∈ pattern.triples,
      Tells TriplePattern.sse id TriplePattern.IsReadable triple :=
    fun triple member => TriplePattern.sse_tells (readable.triples triple member)
  obtain ⟨sameTriples, sameEnd⟩ := Tells.keyword _ each otherReadable.triples same
  rw [List.map_id, List.map_id] at sameTriples
  exact ⟨sameTriples, sameEnd⟩

theorem sse_graph {graph : Term} (isGraph : pattern.graph = some graph) :
    pattern.sse = '(' :: ("graph".toList ++ ' ' :: (graph.display ++
      ' ' :: (pattern.groupSse ++ [')']))) := by
  have text := parenthesized_append "graph".toList [graph.display, pattern.groupSse] []
  rw [List.append_nil] at text
  simp only [sse, isGraph, text, List.flatMap_cons, List.flatMap_nil, List.append_nil,
    List.cons_append, List.append_assoc]

theorem sse_plain (isPlain : pattern.graph = none) : pattern.sse = pattern.groupSse := by
  rw [sse, isPlain]

/-- A pattern of the default graph and one of a named graph differ in their first words. -/
theorem sse_plain_ne {graph : Term} (isPlain : pattern.graph = none)
    (isGraph : other.graph = some graph) : pattern.sse ≠ other.sse := by
  intro same
  have text := parenthesized_append "bgp".toList (pattern.triples.map TriplePattern.sse) []
  rw [List.append_nil] at text
  rw [sse_plain isPlain, groupSse, text, sse_graph isGraph, List.cons_inj_right] at same
  cases (List.cons.inj same).1

theorem eq_of_graph (sameTriples : pattern.triples = other.triples)
    (sameGraph : pattern.graph = other.graph) : pattern = other := by
  cases pattern
  cases other
  cases sameTriples
  cases sameGraph
  rfl

/-- The triple patterns are the same in two groups of the same text. -/
theorem triples_of_groupSse (readable : pattern.IsReadable) (otherReadable : other.IsReadable)
    (same : pattern.groupSse = other.groupSse) : pattern.triples = other.triples :=
  (groupSse_tells readable other [] [] otherReadable stops_nil stops_nil (by rw [same])).1

/-- **The text of a pattern tells the pattern.** -/
theorem eq_of_sse (readable : pattern.IsReadable) (otherReadable : other.IsReadable)
    (same : pattern.sse = other.sse) : pattern = other := by
  cases isGraph : pattern.graph with
  | none =>
    cases isOtherGraph : other.graph with
    | none =>
      rw [sse_plain isGraph, sse_plain isOtherGraph] at same
      exact eq_of_graph (triples_of_groupSse readable otherReadable same)
        (isGraph.trans isOtherGraph.symm)
    | some otherGraph => exact absurd same (sse_plain_ne isGraph isOtherGraph)
  | some graph =>
    cases isOtherGraph : other.graph with
    | none => exact absurd same.symm (sse_plain_ne isOtherGraph isGraph)
    | some otherGraph =>
      rw [sse_graph isGraph, sse_graph isOtherGraph, List.cons_inj_right, List.append_right_inj,
        List.cons_inj_right] at same
      have spaced : ∀ rest, Stops (' ' :: rest) := by
        intro rest c first
        cases first
        exact .inl rfl
      obtain ⟨sameGraph, sameRest⟩ := Term.display_tells (readable.graph graph isGraph) otherGraph
        _ _ (otherReadable.graph otherGraph isOtherGraph) (spaced _) (spaced _) same
      rw [List.cons_inj_right, List.append_left_inj] at sameRest
      refine eq_of_graph (triples_of_groupSse readable otherReadable sameRest) ?_
      rw [isGraph, isOtherGraph]
      exact congrArg some sameGraph

end Pattern

/-- **S-expressions are read in one way**, where the end of every term can be found: two expressions
have the same S-expression exactly when they have the same skeleton, and two patterns exactly when
they are the same. -/
theorem sseText_determines :
    (∀ first second : Expr, first.IsReadable → second.IsReadable →
      (first.sseText = second.sseText ↔ first.skeleton = second.skeleton)) ∧
    ∀ first second : Pattern, first.IsReadable → second.IsReadable →
      (first.sseText = second.sseText ↔ first = second) := by
  constructor
  · intro first second readable otherReadable
    constructor
    · intro same
      have texts : first.sse ++ [] = second.sse ++ [] := by
        rw [String.ofList_injective same]
      exact (Expr.sse_tells readable second [] [] otherReadable stops_nil stops_nil texts).1
    · intro same
      rw [Expr.sseText, Expr.sseText, ← Expr.sse_skeleton, same, Expr.sse_skeleton]
  · intro first second readable otherReadable
    constructor
    · exact fun same => Pattern.eq_of_sse readable otherReadable (String.ofList_injective same)
    · exact fun same => by rw [same]

/-- Two forms of one call, with parentheses and a quotation mark in its leaves, and a pattern of a
named graph without triple patterns. -/
theorem sseText_determines_nested :
    (Expr.compound (.constant (.iri ⟨"x:f(a)"⟩)) [.constant (.var ⟨"a"⟩),
        .compound (.constant (.literal (.tagged "1) \"(" "EN"))) [] true] false).sseText =
      (Expr.compound (.constant (.iri ⟨"x:f(a)"⟩)) [.var ⟨"a"⟩,
        .compound (.constant (.literal (.tagged "1) \"(" "en"))) [] false] true).sseText ∧
    (Expr.compound (.constant (.iri ⟨"x:f(a)"⟩)) [.constant (.var ⟨"a"⟩),
        .compound (.constant (.literal (.tagged "1) \"(" "EN"))) [] true] false).skeleton =
      (Expr.compound (.constant (.iri ⟨"x:f(a)"⟩)) [.var ⟨"a"⟩,
        .compound (.constant (.literal (.tagged "1) \"(" "en"))) [] false] true).skeleton ∧
    (⟨[], some (.iri ⟨"x:g(a)"⟩)⟩ : Pattern).sseText ≠ (⟨[], none⟩ : Pattern).sseText := by
  refine ⟨by decide, ?_, ?_⟩
  · exact (sseText_determines.1 _ _ (by decide) (by decide)).mp (by decide)
  · exact fun same => absurd ((sseText_determines.2 _ _ (by decide) (by decide)).mp same) (by decide)

/-- A label with a space is written as two labels. -/
example :
    (Expr.call Fn.contains [.constant (.blank ⟨"a _:b"⟩)]).sseText =
      (Expr.call Fn.contains [.constant (.blank ⟨"a"⟩), .constant (.blank ⟨"b"⟩)]).sseText := by
  decide

end QueryAlgebra
