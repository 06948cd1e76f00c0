/-
**What the reader of expressions accepts.**

The object of an expression has one member, which says its form (`Expr.ofJson_eq_ok`); the tag and the
arguments of a compound are what stands in the document (`Expr.compoundOfJson_reads`). By induction
on the levels that are left, an expression that was read is valid at all of its nodes, and it is at
most half as deep as there are levels (`Expr.depth_of_ofJson`).
-/
import QueryAlgebra.Document.Expr
import QueryAlgebra.Proofs.Document.Term
import QueryAlgebra.Proofs.Expr.Depth

namespace QueryAlgebra.Expr

open Document

variable {levels : Nat} {value : Json} {expr : Expr}

/-- The names of the fields of a compound in documents. -/
abbrev fieldNames : List String := ["tag", "args", "aggregate"]

section Fields

variable {readTag : Json → Decoded Expr} {readArgs : Json → Decoded (List Expr)}

theorem fills_tag : Fills (readField readTag readArgs) "tag" Fields.tag readTag where
  fills taken := get_of_filled taken fun _ => rfl
  others other taken := by
    unfold readField at taken
    split at taken
    · exact absurd rfl other
    · exact get_of_filled_other taken fun _ => rfl
    · exact get_of_filled_other taken fun _ => rfl
    · rw [pass_eq_ok taken]

theorem fills_args : Fills (readField readTag readArgs) "args" Fields.args readArgs where
  fills taken := get_of_filled taken fun _ => rfl
  others other taken := by
    unfold readField at taken
    split at taken
    · exact get_of_filled_other taken fun _ => rfl
    · exact absurd rfl other
    · exact get_of_filled_other taken fun _ => rfl
    · rw [pass_eq_ok taken]

end Fields

/-- **The parts of a compound that was read** are those that stand in the document. -/
theorem compoundOfJson_reads (succeeds : compoundOfJson (levels + 1) value = .ok expr) :
    ∃ tag args aggregate, expr = .compound tag args aggregate ∧
      ReadAt (ofJson levels) fieldNames "tag" value tag ∧
      ReadAt (argsOfJson levels) fieldNames "args" value args := by
  unfold compoundOfJson at succeeds
  obtain ⟨members, fields, opens, _, isRead, accepted⟩ := record_eq_ok.mp succeeds
  unfold ofFields at accepted
  obtain ⟨tag, isTag, accepted⟩ := bind_eq_ok.mp accepted
  obtain ⟨args, areArgs, same⟩ := bind_eq_ok.mp accepted
  cases same
  exact ⟨tag, args, _, rfl, fills_tag.readAt opens isRead rfl (require_eq_ok.mp isTag),
    fills_args.readAt opens isRead rfl (require_eq_ok.mp areArgs)⟩

/-- What a member of the object of an expression is read as. -/
inductive Member (levels : Nat) : String → Json → Expr → Prop
  | constant {part : Json} {term : Term} (isTerm : Term.ofJson levels part = .ok term) :
    Member levels "Constant" part (ofTerm term)
  | var {part : Json} {reference : Variable} (isVar : Variable.ofJson part = .ok reference) :
    Member levels "Variable" part (.var reference)
  | compound {part : Json} {expr : Expr} (isCompound : compoundOfJson levels part = .ok expr) :
    Member levels "Compound" part expr

namespace Member

variable {form : String}

theorem exists_term (member : Member levels form value expr) (isConstant : form = "Constant") :
    ∃ term, Term.ofJson levels value = .ok term := by
  cases member with
  | constant isTerm => exact ⟨_, isTerm⟩
  | var => exact absurd isConstant (by decide)
  | compound => exact absurd isConstant (by decide)

theorem compoundOfJson_eq_ok (member : Member levels form value expr)
    (isCompound : form = "Compound") : compoundOfJson levels value = .ok expr := by
  cases member with
  | constant => exact absurd isCompound (by decide)
  | var => exact absurd isCompound (by decide)
  | compound isRead => exact isRead

end Member

/-- A member stands alone in an object when no other follows and the object is closed. -/
theorem alone_eq_ok {rest : List (Option String × Json)} {ending : Ending} {read : Expr} :
    (if rest.isEmpty && ending == .closed then Except.ok read
      else .error DecodeFault.malformed) = .ok expr ↔
      rest = [] ∧ ending = .closed ∧ read = expr := by
  cases rest <;> cases ending <;> simp

/-- **An expression is read** from an object with one member. -/
theorem ofJson_eq_ok : ofJson (levels + 1) value = .ok expr ↔
    ∃ form part, value = .ofMembers [(form, part)] ∧ Member levels form part expr := by
  constructor
  · intro succeeds
    unfold ofJson at succeeds
    split at succeeds
    · rename_i same
      cases same
    · rename_i form part rest ending same
      cases same
      dsimp only at succeeds
      split at succeeds
      · obtain ⟨read, isRead, alone⟩ := bind_eq_ok.mp succeeds
        obtain ⟨rfl, rfl, rfl⟩ := alone_eq_ok.mp alone
        obtain ⟨term, isTerm, rfl⟩ := map_eq_ok.mp isRead
        exact ⟨_, part, rfl, .constant isTerm⟩
      · obtain ⟨read, isRead, alone⟩ := bind_eq_ok.mp succeeds
        obtain ⟨rfl, rfl, rfl⟩ := alone_eq_ok.mp alone
        obtain ⟨reference, isVar, rfl⟩ := map_eq_ok.mp isRead
        exact ⟨_, part, rfl, .var isVar⟩
      · obtain ⟨read, isRead, alone⟩ := bind_eq_ok.mp succeeds
        obtain ⟨rfl, rfl, rfl⟩ := alone_eq_ok.mp alone
        exact ⟨_, part, rfl, .compound isRead⟩
      · obtain ⟨_, isRead, _⟩ := bind_eq_ok.mp succeeds
        cases isRead
    · cases succeeds
  · rintro ⟨_, part, rfl, member⟩
    cases member with
    | constant isTerm => exact bind_eq_ok.mpr ⟨_, map_eq_ok.mpr ⟨_, isTerm, rfl⟩, rfl⟩
    | var isVar => exact bind_eq_ok.mpr ⟨_, map_eq_ok.mpr ⟨_, isVar, rfl⟩, rfl⟩
    | compound isCompound => exact bind_eq_ok.mpr ⟨_, isCompound, rfl⟩

/-- An expression that was read is valid. -/
theorem isValid_of_ofJson (succeeds : ofJson levels value = .ok expr) : expr.IsValid := by
  induction levels using Nat.strongRecOn generalizing value expr with
  | ind levels inLevels =>
    cases levels with
    | zero => cases succeeds
    | succ levels =>
      obtain ⟨form, part, _, member⟩ := ofJson_eq_ok.mp succeeds
      cases member with
      | constant isTerm => exact isValid_ofTerm (Term.isValid_of_ofJson isTerm)
      | var => exact isValid_var _
      | compound isCompound =>
        cases levels with
        | zero => cases isCompound
        | succ levels =>
          -- the tag is read with one level less, the arguments with two
          obtain ⟨tag, args, aggregate, rfl, atTag, atArgs⟩ := compoundOfJson_reads isCompound
          obtain ⟨_, isTag⟩ := atTag.source
          obtain ⟨listed, areArgs⟩ := atArgs.source
          refine isValid_compound.mpr ⟨inLevels levels (by omega) isTag, fun arg isArg => ?_⟩
          cases levels with
          | zero => cases areArgs
          | succ levels =>
            obtain ⟨items, _, areItems⟩ := decodeList_eq_ok.mp areArgs
            obtain ⟨item, _, isItem⟩ := exists_item_of_mem areItems isArg
            exact inLevels levels (by omega) isItem

theorem operands_ofTerm (term : Term) : (ofTerm term).operands = [] := by
  cases term <;> rfl

/-- **Two levels are used up by each step into an expression that is read**, and one by its last
node: the tag of a compound stands below its object and its fields, an argument below a list too. -/
theorem depth_of_ofJson (succeeds : ofJson levels value = .ok expr) :
    2 * expr.depth ≤ levels + 1 := by
  induction levels using Nat.strongRecOn generalizing value expr with
  | ind levels inLevels =>
    cases levels with
    | zero => cases succeeds
    | succ levels =>
      obtain ⟨form, part, _, member⟩ := ofJson_eq_ok.mp succeeds
      cases member with
      | constant isTerm =>
        rw [depth_of_leaf (operands_ofTerm _)]
        omega
      | var =>
        rw [depth_of_leaf rfl]
        omega
      | compound isCompound =>
        cases levels with
        | zero => cases isCompound
        | succ levels =>
          obtain ⟨tag, args, aggregate, rfl, atTag, atArgs⟩ := compoundOfJson_reads isCompound
          obtain ⟨_, isTag⟩ := atTag.source
          obtain ⟨listed, areArgs⟩ := atArgs.source
          have tagFits : 2 * tag.depth ≤ levels + 1 := inLevels levels (by omega) isTag
          have argsFit : ∀ arg ∈ args, 2 * arg.depth ≤ levels + 1 := by
            intro arg isArg
            cases levels with
            | zero => cases areArgs
            | succ levels =>
              obtain ⟨items, _, areItems⟩ := decodeList_eq_ok.mp areArgs
              obtain ⟨item, _, isItem⟩ := exists_item_of_mem areItems isArg
              have argFits := inLevels levels (by omega) isItem
              omega
          have operandsFit : ∀ operand ∈ (compound tag args aggregate).operands,
              operand.depth ≤ (levels + 1) / 2 := by
            refine List.forall_mem_cons.mpr ⟨by omega, fun arg isArg => ?_⟩
            have argFits := argsFit arg isArg
            omega
          have fits := depth_le_succ_iff.mpr operandsFit
          omega

end QueryAlgebra.Expr
