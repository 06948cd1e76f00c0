/-
**Valid values.**

The types of the model hold more than documents may say: an IRI is any text, a tag may have capitals,
a constant may hold a variable. A value is *valid* when none of this is so at any position in it, and
*bare* when the name of no variable in it begins with a sigil, which would be dropped when the name is
read. For expressions both are properties of every occurrence; `Expr.isValid_iff` and
`Expr.isBare_iff` go from a node to its operands.
-/
import QueryAlgebra.Pattern.Basic
import QueryAlgebra.Proofs.Expr.Occurrence
import QueryAlgebra.Proofs.OrderedMap
import QueryAlgebra.Solution

namespace QueryAlgebra

/-! ### Valid terms -/

/-- Whether a literal is one that documents may hold. -/
structure Literal.IsValid (literal : Literal) : Prop where
  absolute : ∀ iri, literal.datatype? = some iri → iri.IsAbsolute
  lower : ∀ tag, literal.language? = some tag → ∀ c ∈ tag.toList, c.isUpper = false
  single : literal.datatype? = none ∨ literal.language? = none

namespace Literal

theorem isUpper_toLower (c : Char) : c.toLower.isUpper = false := by
  by_cases upper : c.val ≥ 'A'.val ∧ c.val ≤ 'Z'.val
  · have lowered : c.toLower.val = c.val + ('a'.val - 'A'.val) := congrArg Char.val (dif_pos upper)
    refine decide_eq_false ?_
    rintro ⟨_, small⟩
    rw [lowered, UInt32.le_iff_toNat_le, UInt32.toNat_add] at small
    simp only [ge_iff_le, UInt32.le_iff_toNat_le] at upper
    have first : 'A'.val.toNat = 65 := rfl
    have last : 'Z'.val.toNat = 90 := rfl
    have distance : ('a'.val - 'A'.val).toNat = 32 := rfl
    omega
  · have kept : c.toLower = c := dif_neg upper
    rw [kept]
    exact decide_eq_false upper

/-- A tag without capitals is kept as it is. -/
theorem lowerAscii_eq_self {text : List Char} (lower : ∀ c ∈ text, c.isUpper = false) :
    Text.lowerAscii text = text := by
  unfold Text.lowerAscii
  rw [List.map_congr_left fun c member => ?_, List.map_id]
  exact dif_neg (of_decide_eq_false (lower c member))

/-- A literal is valid when its datatype is and its language is the lower case of a tag. -/
theorem isValid_of_annotation {literal : Literal} {tag? : Option String}
    (absolute : ∀ iri, literal.datatype? = some iri → iri.IsAbsolute)
    (lowered : literal.language? =
      tag?.map fun tag => String.ofList (Text.lowerAscii tag.toList)) : literal.IsValid := by
  refine ⟨absolute, fun kept isKept c member => ?_, ?_⟩
  · rw [isKept] at lowered
    obtain ⟨tag, _, rfl⟩ := Option.map_eq_some_iff.mp lowered.symm
    rw [String.toList_ofList, Text.lowerAscii, List.mem_map] at member
    obtain ⟨source, _, rfl⟩ := member
    exact isUpper_toLower source
  · obtain ⟨_, annotation⟩ := literal
    cases annotation with
    | none => exact .inl rfl
    | datatype iri => exact .inr rfl
    | language tag => exact .inl rfl

end Literal

/-- Whether a term is one that documents may hold. -/
def Term.IsValid : Term → Prop
  | .iri value => value.IsAbsolute
  | .literal value => value.IsValid
  | .blank _ => True
  | .var _ => True

/-! ### Valid expressions, triples, patterns and solutions -/

namespace Expr

/-- Whether a node holds, apart from its operands, what documents may hold: a constant is a valid
term and no variable. -/
def HoldsValid : Expr → Prop
  | .constant term => term.IsValid ∧ term.var? = none
  | _ => True

/-- Whether all nodes hold what documents may hold. -/
def IsValid (expr : Expr) : Prop := ∀ occurrence ∈ expr.occurrences, occurrence.2.HoldsValid

theorem isValid_iff (expr : Expr) :
    expr.IsValid ↔ expr.HoldsValid ∧ ∀ operand ∈ expr.operands, operand.IsValid :=
  forall_mem_occurrences HoldsValid expr

theorem isValid_constant {term : Term} :
    (constant term).IsValid ↔ term.IsValid ∧ term.var? = none := by
  rw [isValid_iff]
  exact and_iff_left (List.forall_mem_nil _)

theorem isValid_var (reference : Variable) : (var reference).IsValid :=
  (isValid_iff _).mpr ⟨trivial, List.forall_mem_nil _⟩

theorem isValid_compound {tag : Expr} {args : List Expr} {aggregate : Bool} :
    (compound tag args aggregate).IsValid ↔ tag.IsValid ∧ ∀ arg ∈ args, arg.IsValid := by
  rw [isValid_iff]
  exact (and_iff_right trivial).trans List.forall_mem_cons

theorem isValid_ofTerm {term : Term} (valid : term.IsValid) : (ofTerm term).IsValid := by
  cases term with
  | var reference => exact isValid_var reference
  | iri value => exact isValid_constant.mpr ⟨valid, rfl⟩
  | literal value => exact isValid_constant.mpr ⟨valid, rfl⟩
  | blank node => exact isValid_constant.mpr ⟨valid, rfl⟩

end Expr

/-- Whether a triple is one that documents may hold. -/
structure Triple.IsValid (triple : Triple) : Prop where
  subject : triple.subject.IsValid
  predicate : triple.predicate.IsAbsolute
  object : triple.object.IsValid

/-- Whether a triple pattern is one that documents may hold. -/
structure TriplePattern.IsValid (pattern : TriplePattern) : Prop where
  subject : pattern.subject.IsValid
  predicate : pattern.predicate.IsValid
  object : pattern.object.IsValid

/-- Whether a pattern is one that documents may hold. -/
structure Pattern.IsValid (pattern : Pattern) : Prop where
  triples : ∀ triple ∈ pattern.triples, triple.IsValid
  graph : ∀ graph, pattern.graph = some graph → graph.IsValid

/-- Whether a solution is one that documents may hold. -/
def Solution.IsValid (solution : Solution) : Prop :=
  ∀ entry ∈ solution.map.entries, ∀ value, entry.2 = some value → value.IsValid

namespace Solution

variable {solution : Solution}

theorem isValid_empty : empty.IsValid := List.forall_mem_nil _

/-- A solution stays valid when a variable is put with nothing or with a valid value. -/
theorem isValid_put {reference : Variable} {value? : Option Term} (valid : solution.IsValid)
    (validValue : ∀ value, value? = some value → value.IsValid) :
    IsValid ⟨solution.map.put reference value?⟩ := by
  intro entry member
  rcases OrderedMap.eq_or_mem_of_mem_putEntry member with rfl | member
  · exact validValue
  · exact valid entry member

end Solution

/-- Whether the solutions are ones that documents may hold. -/
def Solutions.IsValid (solutions : Solutions) : Prop := ∀ solution ∈ solutions, solution.IsValid

/-! ### Bare names -/

namespace Variable

/-- Whether the name begins with no sigil. -/
def IsBare (reference : Variable) : Prop :=
  ∀ c, reference.name.toList.head? = some c → c ≠ '?' ∧ c ≠ '$'

theorem dropSigil_eq_self_iff (text : List Char) :
    dropSigil text = text ↔ ∀ c, text.head? = some c → c ≠ '?' ∧ c ≠ '$' := by
  unfold dropSigil
  split
  · rename_i rest
    exact iff_of_false (List.cons_ne_self _ rest).symm fun clean => (clean '?' rfl).1 rfl
  · rename_i rest
    exact iff_of_false (List.cons_ne_self _ rest).symm fun clean => (clean '$' rfl).2 rfl
  · rename_i noQuestion noDollar
    refine iff_of_true rfl fun c first => ?_
    obtain ⟨rest, rfl⟩ := List.head?_eq_some_iff.mp first
    exact ⟨fun same => noQuestion rest (same ▸ rfl), fun same => noDollar rest (same ▸ rfl)⟩

/-- The bare variables are those that their own name is read as. -/
theorem isBare_iff (reference : Variable) : reference.IsBare ↔ ofName reference.name = reference := by
  obtain ⟨name⟩ := reference
  unfold IsBare ofName
  rw [← dropSigil_eq_self_iff, Variable.mk.injEq, ← String.toList_inj, String.toList_ofList]

instance (reference : Variable) : Decidable reference.IsBare :=
  decidable_of_iff _ (isBare_iff reference).symm

end Variable

/-- Whether a term is no variable whose name begins with a sigil. -/
def Term.IsBare (term : Term) : Prop := ∀ reference, term.var? = some reference → reference.IsBare

namespace Expr

/-- Whether no node is a variable whose name begins with a sigil. -/
def IsBare (expr : Expr) : Prop :=
  ∀ occurrence ∈ expr.occurrences, ∀ reference, occurrence.2.var? = some reference →
    reference.IsBare

theorem isBare_iff (expr : Expr) :
    expr.IsBare ↔ (∀ reference, expr.var? = some reference → reference.IsBare) ∧
      ∀ operand ∈ expr.operands, operand.IsBare :=
  forall_mem_occurrences (fun node => ∀ reference, node.var? = some reference → reference.IsBare)
    expr

theorem isBare_compound {tag : Expr} {args : List Expr} {aggregate : Bool} :
    (compound tag args aggregate).IsBare ↔ tag.IsBare ∧ ∀ arg ∈ args, arg.IsBare := by
  rw [isBare_iff]
  exact (and_iff_right fun _ same => by cases same).trans List.forall_mem_cons

end Expr

/-- Whether no variable of a solution, listed or as a value, has a name that begins with a sigil. -/
structure Solution.IsBare (solution : Solution) : Prop where
  vars : ∀ reference ∈ solution.vars, reference.IsBare
  values : ∀ entry ∈ solution.map.entries, ∀ value, entry.2 = some value → value.IsBare

/-- Whether no variable of a pattern has a name that begins with a sigil. -/
structure Pattern.IsBare (pattern : Pattern) : Prop where
  triples : ∀ triple ∈ pattern.triples, ∀ term ∈ triple.terms, term.IsBare
  graph : ∀ graph, pattern.graph = some graph → graph.IsBare

end QueryAlgebra
