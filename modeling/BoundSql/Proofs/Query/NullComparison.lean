import BoundSql.Proofs.Statement.Fragments
import BoundSql.Query.Builder

/-!
# Comparing with null

A comparison with null by one of three operators is meant as a test for null. The
operator is recognised before it is brought into its form, so it has to be
written in that form: with blanks around it, where every other use of it is the
same, the comparison stays one and null is bound for it. The main statement draws
the line for all spellings.
-/

namespace BoundSql

/-! ## Operators that are written with blanks -/

namespace Text

/-- Whether a character is one of the letters that others are folded to. Only ASCII letters are
folded. -/
def isSmallLetter (c : Char) : Bool := decide ('a' ≤ c ∧ c ≤ 'z')

/-- What becomes a character that is no small letter was that character. -/
theorem eq_of_lowerAscii {c d : Char} (other : isSmallLetter d = false) (same : lowerAscii c = d) :
    c = d := by
  unfold lowerAscii at same
  split at same
  · rename_i capital
    have reach : 65 ≤ c.toNat := capital.1
    have below : c.toNat ≤ 90 := capital.2
    have valid : (c.toNat + 32).isValidChar := Or.inl (by omega)
    have code : d.toNat = c.toNat + 32 := by
      rw [← same, Char.ofNat, dif_pos valid]
      rfl
    have small : 97 ≤ d.toNat ∧ d.toNat ≤ 122 := by omega
    exact absurd small (of_decide_eq_false other)
  · exact same

/-- A text that becomes one without small letters was that text. -/
theorem eq_of_map_lowerAscii {text other : List Char} (plain : other.any isSmallLetter = false)
    (same : text.map lowerAscii = other) : text = other := by
  subst same
  refine (List.map_id text).symm.trans (List.map_congr_left fun c member => ?_)
  have large : isSmallLetter (lowerAscii c) = false := by
    simpa using List.any_eq_false.mp plain _ (List.mem_map_of_mem member)
  exact eq_of_lowerAscii large rfl

end Text

namespace Operator

/-- The operators by which a comparison with null means a test for null. Every other comparison
with null is left to the database. -/
def equalities : List String := ["=", "!=", "<>"]

/-- Each of these operators is its own form. -/
theorem normalized_of_equality {operator : String} (equality : operator ∈ equalities) :
    normalized operator = operator := by
  have each : ∀ operator ∈ equalities, normalized operator = operator := by decide +kernel
  exact each operator equality

/-- Only blanks set a spelling of these operators apart from their form. -/
theorem trim_eq_of_render {operator meant : String} (accepted : render operator = .ok meant)
    (equality : meant ∈ equalities) : Text.trim operator = meant := by
  have plain : ∀ meant ∈ equalities, meant.toList.any Text.isSmallLetter = false := by decide
  have folded : (Text.trimChars operator.toList).map Text.lowerAscii = meant.toList := by
    rw [← normalized_of_render accepted, normalized, String.toList_ofList]
  rw [Text.trim, Text.eq_of_map_lowerAscii (plain meant equality) folded, String.ofList_toList]

end Operator

namespace Query

/-! ## One more condition -/

/-- One more condition adds its fragment, if it has one, behind those of the query. -/
theorem renderFragments_push (query : Query) (connector : Connector) (predicate : Predicate) :
    renderFragments (query.push connector predicate).conditions = (do
      let fragments ← renderFragments query.conditions
      let fragment ← predicate.render
      pure (fragments ++ (fragment.map (connector, ·)).toList)) := by
  unfold push
  rw [renderFragments_append, renderFragments, renderFragments]
  unfold Condition.render
  simp only [bind_assoc, pure_bind, List.append_nil]

/-! ## Tests and comparisons -/

/-- A column compared with null becomes a test for null, whichever way it is added to a query: one
more fragment behind those of the query, for which nothing is bound. -/
def TestsNull (column : Column) (operator : String) (test : String) : Prop :=
  ∀ query : Query,
    renderFragments (query.filter column operator (.bound .null)).conditions = (do
      let fragments ← renderFragments query.conditions
      pure (fragments ++ [(.and, test)])) ∧
    renderFragments (query.orFilter column operator (.bound .null)).conditions = (do
      let fragments ← renderFragments query.conditions
      pure (fragments ++ [(.or, test)]))

/-- A column compared with null stays a comparison, whichever way it is added to a query: null is
bound for the filter, and its token is compared. -/
def BindsNull (column : Column) (operator : String) (meant : String) : Prop :=
  ∀ query : Query,
    renderFragments (query.filter column operator (.bound .null)).conditions = (do
      let fragments ← renderFragments query.conditions
      let token ← Compile.bind .whereClause .null
      pure (fragments ++
        [(.and, Identifier.wrap column ++ " " ++ meant ++ " " ++ token.placeholder)])) ∧
    renderFragments (query.orFilter column operator (.bound .null)).conditions = (do
      let fragments ← renderFragments query.conditions
      let token ← Compile.bind .whereClause .null
      pure (fragments ++
        [(.or, Identifier.wrap column ++ " " ++ meant ++ " " ++ token.placeholder)]))

/-- The test for null that is meant by a comparison; one of the three operators asks for it, and
the two others for its contrary. -/
def nullTest (column : Column) (meant : String) : String :=
  (if meant = "=" then "isNull(" else "isNotNull(") ++ Identifier.wrap column ++ ")"

variable {column : Column} {operator meant : String}

/-- A comparison whose operator is one of the three as it stands is rendered as a test. -/
theorem render_comparison_of_equality (equality : operator ∈ Operator.equalities) :
    (comparison column operator (.bound .null)).render =
      pure (some (nullTest column operator)) := by
  have each : operator = "=" ∨ operator = "!=" ∨ operator = "<>" := by
    simpa [Operator.equalities] using equality
  rcases each with rfl | rfl | rfl
  · simp [comparison, Predicate.render, nullTest, nullFunction]
  · simp [comparison, Predicate.render, nullTest, nullFunction]
  · simp [comparison, Predicate.render, nullTest, nullFunction]

/-- Any other comparison is rendered as one, with null bound for it. Its operator must be
accepted, or nothing is rendered. -/
theorem render_comparison_of_other (accepted : Operator.render operator = .ok meant)
    (other : operator ∉ Operator.equalities) :
    (comparison column operator (.bound .null)).render = (do
      let token ← Compile.bind .whereClause .null
      pure (some (Identifier.wrap column ++ " " ++ meant ++ " " ++ token.placeholder))) := by
  have apart : ¬operator = "=" ∧ ¬operator = "!=" ∧ ¬operator = "<>" := by
    simpa [Operator.equalities] using other
  have plain : ∀ token : Token, token.standIn .null = token.placeholder := fun token => rfl
  simp [comparison, apart, Predicate.render, accepted, Compile.ofExcept, Operand.render, bound,
    plain]

/-- The three operators as they stand are tests, connected in either way. -/
theorem testsNull_of_equality (equality : operator ∈ Operator.equalities) :
    TestsNull column operator (nullTest column operator) := by
  intro query
  constructor
  · rw [filter, andWhere, renderFragments_push, render_comparison_of_equality equality]
    simp
  · rw [orFilter, orWhere, renderFragments_push, render_comparison_of_equality equality]
    simp

/-- Any other operator binds null, those that mean one of the three but are spelled differently
included. -/
theorem bindsNull_of_other (accepted : Operator.render operator = .ok meant)
    (other : operator ∉ Operator.equalities) : BindsNull column operator meant := by
  intro query
  constructor
  · rw [filter, andWhere, renderFragments_push, render_comparison_of_other accepted other]
    simp
  · rw [orFilter, orWhere, renderFragments_push, render_comparison_of_other accepted other]
    simp

/-- What binds null is no test: it does not leave an empty registry empty. -/
theorem BindsNull.not_testsNull (binds : BindsNull column operator meant) (test : String) :
    ¬TestsNull column operator test := by
  intro tests
  have same := (binds (ofTable "t")).1.symm.trans (tests (ofTable "t")).1
  have sizes := congrArg (fun action => (Compile.runOn action Registry.empty).2.size) same
  have bound : (Registry.empty.bind .whereClause .null).2.size = 1 := by decide +kernel
  have kept : Registry.empty.size = 0 := rfl
  exact absurd (bound.symm.trans (sizes.trans kept)) (by decide)

/-- Which comparisons with null are tests for null, of all whose operator is accepted as `=`, `!=`
or `<>`. The operator is one of these with blanks around it. The comparison is a test, for which
nothing is bound, exactly if there are none; with any blanks it stays a comparison, for which null
is bound.

Proof: whether it is a test is decided on the operator as it is given, and each of the three is its
own form. So a test asks that the operator be its form, and what is rendered follows from the two
ways of the decision, which exclude each other. -/
theorem null_comparison_tested_iff (column : Column) (operator meant : String)
    (accepted : Operator.render operator = .ok meant) (equality : meant ∈ Operator.equalities) :
    Text.trim operator = meant ∧
      (TestsNull column operator (nullTest column meant) ↔ operator = meant) ∧
      (BindsNull column operator meant ↔ operator ≠ meant) := by
  have tested : operator = meant → TestsNull column operator (nullTest column meant) := by
    rintro rfl
    exact testsNull_of_equality equality
  have compared : operator ≠ meant → BindsNull column operator meant := by
    intro blanks
    refine bindsNull_of_other accepted fun bare => blanks ?_
    exact (Operator.normalized_of_equality bare).symm.trans
      (Operator.normalized_of_render accepted)
  refine ⟨Operator.trim_eq_of_render accepted equality, ⟨fun tests => ?_, tested⟩, ?_, compared⟩
  · by_contra blanks
    exact (compared blanks).not_testsNull _ tests
  · rintro binds rfl
    exact binds.not_testsNull _ (tested rfl)

/-- Inequality as it stands is a test, and with blanks around it binds null. -/
theorem null_comparison_tested_iff_of_inequality :
    TestsNull (.name "a") "<>" "isNotNull(a)" ∧ BindsNull (.name "a") "\t<> " "<>" := by
  have wrapped : nullTest (.name "a") "<>" = "isNotNull(a)" := by decide +kernel
  have bare := null_comparison_tested_iff (.name "a") "<>" "<>" rfl (by decide)
  have blanks := null_comparison_tested_iff (.name "a") "\t<> " "<>" rfl (by decide)
  exact ⟨wrapped ▸ bare.2.1.mpr rfl, blanks.2.2.mpr (by decide)⟩

/-- Equality with blanks around it is accepted, and null is bound for the comparison. -/
theorem null_comparison_bound :
    let query := (ofTable "t").filter (.name "a") " = " (.bound .null)
    let (compiled, after) := query.compileSelect.runOn Registry.empty
    (Operator.render " = ").toOption = some "=" ∧
      compiled.toOption.map Statement.sql = some "select * from t where a = \x7ba\x7d" ∧
      after.values.map (fun (token, value) => (token.text, value.isNull)) = [("a", true)] := by
  decide +kernel

end Query

end BoundSql
