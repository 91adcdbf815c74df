import BoundSql.Proofs.Binding.Appearance
import BoundSql.Proofs.Statement.PlainTemplate
import BoundSql.Proofs.Statement.Soundness
import BoundSql.Statement.Placeholder

/-!
# The placeholders of a statement are its parameters

A reader of the finished text looks for words in braces and knows nothing of how
the text was made. Where the caller's texts have no braces it finds exactly the
holes, in reading order. On a fresh registry these are the values bound, so what
is found and what is carried agree.
-/

namespace BoundSql

open Text Registry

/-! ## Reading a filled text -/

namespace Statement

variable {word rest : List Char}

/-- Text without braces is passed over, if no brace is open. -/
theorem braced_bare {text : List Char} (bare : Bare text) (rest : List Char) :
    braced none (text ++ rest) = braced none rest := by
  induction text with
  | nil => rfl
  | cons c others inductionHypothesis =>
    obtain ⟨here, later⟩ := List.forall_mem_cons.mp bare
    rw [List.cons_append, braced, if_neg here.1]
    exact inductionHypothesis later

/-- Between braces everything up to the closing one is read. -/
theorem braced_inside (bare : Bare word) (inside : List Char) :
    braced (some inside) (word ++ '\x7d' :: rest) =
      (inside.reverse ++ word) :: braced none rest := by
  induction word generalizing inside with
  | nil => simp [braced]
  | cons c others inductionHypothesis =>
    obtain ⟨here, later⟩ := List.forall_mem_cons.mp bare
    rw [List.cons_append, braced, if_neg here.2, inductionHypothesis later]
    simp

/-- A placeholder is read as its word, also in quotes. -/
theorem braced_hole {naming : Value → Token} {value : Value}
    (bare : Bare (naming value).text.toList) :
    braced none (((Piece.hole value).fill naming).toList ++ rest) =
      (naming value).text.toList :: braced none rest := by
  have opened : ∀ behind, braced none ('\x7b' :: ((naming value).text.toList ++ '\x7d' :: behind)) =
      (naming value).text.toList :: braced none behind := by
    intro behind
    rw [braced, if_pos rfl, braced_inside bare]
    rfl
  have quote : Bare ['\''] := by decide
  unfold Piece.fill
  dsimp only
  split
  · have whole := (braced_bare quote _).trans (opened ('\'' :: rest))
    rw [← braced_bare quote rest]
    simpa using whole
  · simpa using opened rest

/-- What is read in a plain text with its holes filled are the words in the
holes, in reading order. -/
theorem braced_fill {naming : Value → Token} {template : Template} (plain : template.Plain)
    (bare : ∀ value ∈ template.holes, Bare (naming value).text.toList) :
    braced none (template.fill naming).toList =
      template.holes.map fun value => (naming value).text.toList := by
  induction template with
  | nil => rfl
  | cons piece rest inductionHypothesis =>
    have others : Template.Plain rest :=
      fun written member => plain written (List.mem_cons_of_mem piece member)
    rw [Template.fill, String.toList_append]
    cases piece with
    | text written =>
      have here : Bare written.toList := plain written List.mem_cons_self
      rw [Piece.fill, braced_bare here]
      exact inductionHypothesis others bare
    | hole value =>
      obtain ⟨here, later⟩ := List.forall_mem_cons.mp bare
      rw [braced_hole here, inductionHypothesis others later]
      rfl

/-- A word of small letters has no braces. -/
theorem bare_of_isWord {text : List Char} (small : isWord text = true) : Bare text := by
  unfold isWord at small
  rw [Bool.and_eq_true, List.all_eq_true] at small
  intro c member
  have letter := small.2 c member
  constructor
  · rintro rfl
    exact absurd letter (by decide)
  · rintro rfl
    exact absurd letter (by decide)

/-- Every token is a word of small letters, so a reader recognises it. -/
theorem isWord_nth (index : Nat) : isWord (Token.nth index).text.toList = true := by
  obtain ⟨some, small⟩ := Token.lettersBefore_areSmall index [] fun c member => by cases member
  unfold isWord Token.nth
  rw [String.toList_ofList, Bool.and_eq_true, List.all_eq_true]
  refine ⟨by simpa using some, ?_⟩
  intro c member
  simpa using small c member

/-- The tokens read in a plain text with its holes filled are those of the holes, where they
appear first. With braces in the text between them it would not hold. -/
theorem tokensIn_fill {naming : Value → Token} {template : Template} (plain : template.Plain)
    (words : ∀ value ∈ template.holes, isWord (naming value).text.toList = true) :
    tokensIn (template.fill naming).toList =
      ((template.holes.map naming).foldl appear []).map (·.text) := by
  have read := braced_fill plain fun value hole => bare_of_isWord (words value hole)
  have kept : (template.holes.map fun value => (naming value).text.toList).filter isWord =
      (template.holes.map naming).map fun token => token.text.toList := by
    rw [List.map_map]
    refine List.filter_eq_self.mpr ?_
    intro word member
    obtain ⟨value, hole, rfl⟩ := List.mem_map.mp member
    exact words value hole
  have apart : Function.Injective fun token : Token => token.text.toList :=
    fun first second same => Token.eq_of_text (String.toList_inj.mp same)
  have found : tokensIn (template.fill naming).toList =
      (((braced none (template.fill naming).toList).filter isWord).foldl appear []).map
        String.ofList := rfl
  have renamed : ((template.holes.map naming).map fun token => token.text.toList).foldl appear [] =
      ((template.holes.map naming).foldl appear []).map fun token => token.text.toList :=
    foldl_appear_map apart [] (template.holes.map naming)
  rw [found, read, kept, renamed, List.map_map]
  exact List.map_congr_left fun token _ => String.ofList_toList

end Statement

/-! ## Fresh registries -/

namespace Command

/-- What a command carries that was compiled on a fresh registry is all that is
bound there: every value was bound for the filter or is assigned. -/
theorem carried_fresh (command : Command) {filtered : List Value} {after : Registry}
    (complete : after = ((Registry.empty.withFilter filtered).assignAll command.assigned).2) :
    command.carried after = after.parameters := by
  have grown := command.grown_of_complete complete
  have settled : after.Consistent := Grows.consistent ⟨_, grown⟩ consistent_empty
  have carried : ∀ entry ∈ after.values, entry ∈ (command.carried after).entries := by
    intro entry listed
    have taken : entry.2 ∈ filtered ++ command.assigned :=
      (grown.listed listed).resolve_left List.not_mem_nil
    have token : after.tokenOf entry.2 = entry.1 := tokenOf_of_known (settled.lookup_of_mem listed)
    have own : (after.tokenOf entry.2, entry.2) ∈ after.values := by
      rw [token]
      exact listed
    have found := command.carried_of_listed complete
      (List.perm_append_comm.mem_iff.mp taken) own
    rw [token] at found
    exact found
  cases command with
  | select query => rfl
  | count query => rfl
  | delete query => rfl
  | update query assignments =>
    refine congrArg Parameters.mk (List.filter_eq_self.mpr ?_)
    intro entry listed
    exact (List.mem_filter.mp (carried entry listed)).2

/-- The holes of a command that was compiled on a fresh registry are filled with
words. -/
theorem isWord_fresh (command : Command) {filtered : List Value} {after : Registry}
    (complete : after = ((Registry.empty.withFilter filtered).assignAll command.assigned).2) :
    ∀ value ∈ command.assigned ++ filtered,
      Statement.isWord (after.tokenOf value).text.toList = true := by
  intro value hole
  have grown := command.grown_of_complete complete
  have settled : after.Consistent := Grows.consistent ⟨_, grown⟩ consistent_empty
  have known := grown.known_of_mem (List.perm_append_comm.mem_iff.mp hole)
  have given := settled.mem_tokens_of_lookup known
  rw [settled.numbered] at given
  obtain ⟨index, -, same⟩ := List.mem_map.mp given
  rw [← same]
  exact Statement.isWord_nth index

end Command

/-- An update ends with the filter of its query, and all its other holes are
those of its assignments. -/
theorem Query.filter_of_updateTemplate {query : Query} {assignments : Record} {template : Template}
    (drafted : query.updateTemplate assignments = .ok template) :
    ∃ front filter, query.filterTemplate = .ok filter ∧ template = front ++ filter ∧
      Template.holes front = assignments.values := by
  unfold updateTemplate at drafted
  split at drafted
  · cases drafted
  · cases filtering : query.filterTemplate with
    | error error =>
      rw [filtering] at drafted
      cases drafted
    | ok filter =>
      rw [filtering] at drafted
      cases drafted
      have holes := holes_updateTemplate
        ("alter table " ++ Identifier.wrapName query.table ++ " update ") assignments []
      rw [Template.holes_nil, List.append_nil] at holes
      exact ⟨_, filter, rfl, by simp, holes⟩

namespace Command

/-- A statement that is compiled on a fresh registry from texts without braces
carries tokens numbered from zero, and its placeholders are these tokens. A
select, a count and a delete have them in their order. An update has its
assignments first, but its filter was bound first: the placeholders of the
filter, in reading order, are the first tokens.

Proof: what a reader finds in the text are the holes of the statement that is
meant, since nothing else in it has braces. The tokens of a fresh registry are
those of the values bound, where they appear first, and the values bound are the
holes, those of the filter before the others. -/
theorem placeholders_are_parameters (command : Command)
    (texts : ∀ text ∈ command.texts, Plain text) {statement : Statement}
    (compiled : (command.compile.runOn Registry.empty).1 = .ok statement) :
    statement.parameters.tokens = (List.range statement.parameters.size).map Token.nth ∧
      statement.referencedTokens.Perm (statement.parameters.tokens.map (·.text)) ∧
      ((∀ query assignments, command ≠ .update query assignments) →
        statement.referencedTokens = statement.parameters.tokens.map (·.text)) ∧
      ∀ query assignments, command = .update query assignments →
        ∃ front filter, (query.mutationFilter.runOn Registry.empty).1 = .ok filter ∧
          statement.sql = front ++ filter ∧
          Statement.tokensIn filter.toList <+: statement.parameters.tokens.map (·.text) := by
  have ran := command.completes Registry.empty
  cases drafted : command.template with
  | error error =>
    rw [drafted] at ran
    obtain ⟨after, -, stopped⟩ := ran
    rw [stopped] at compiled
    cases compiled
  | ok template =>
    rw [drafted] at ran
    obtain ⟨filtered, after, holes, complete, done⟩ := ran
    rw [done] at compiled
    obtain rfl : _ = statement := Except.ok.inj compiled
    have grown := command.grown_of_complete complete
    have settled : after.Consistent := Grows.consistent ⟨_, grown⟩ consistent_empty
    have plain : template.Plain := command.plain_template texts template drafted
    have words := command.isWord_fresh complete
    have given : after.parameters.tokens =
        ((filtered ++ command.assigned).map after.tokenOf).foldl appear [] :=
      grown.tokens_eq consistent_empty
    have read : Statement.tokensIn (template.fill after.tokenOf).toList =
        (((command.assigned ++ filtered).map after.tokenOf).foldl appear []).map (·.text) := by
      rw [← holes]
      exact Statement.tokensIn_fill plain (holes ▸ words)
    unfold Statement.referencedTokens
    rw [command.carried_fresh complete]
    refine ⟨settled.numbered, ?_, ?_, ?_⟩
    · rw [read, given]
      exact (foldl_appear_perm (List.perm_append_comm.map _)).map _
    · intro others
      have unassigned : command.assigned = [] := by
        cases command with
        | update query assignments => exact absurd rfl (others query assignments)
        | select query => rfl
        | count query => rfl
        | delete query => rfl
      rw [read, given, unassigned, List.nil_append, List.append_nil]
    · rintro query assignments rfl
      obtain ⟨front, filter, filtering, rfl, inFront⟩ := Query.filter_of_updateTemplate drafted
      have inFilter : filter.holes = filtered := by
        rw [Template.holes_append, inFront] at holes
        exact List.append_cancel_left holes
      have filterRan := query.filter_realises Registry.empty
      rw [filtering] at filterRan
      have extended : (Registry.empty.withFilter filter.holes).Extends after := by
        rw [inFilter, complete]
        exact (growsBy_assignAll _ _).extends
      refine ⟨Template.fill after.tokenOf front, filter.fill after.tokenOf,
        congrArg Prod.fst (filterRan after extended), Template.fill_append _ _ _, ?_⟩
      have filterPlain : filter.Plain :=
        fun written member => plain written (List.mem_append_right front member)
      rw [Statement.tokensIn_fill filterPlain fun value hole =>
          words value (List.mem_append_right _ (inFilter ▸ hole)),
        given, inFilter, List.map_append, List.foldl_append]
      exact (prefix_foldl_appear _ _).map _

/-- An update whose filter has a group that says nothing, a group in which a
value is meant twice and a JSON path, and which assigns a value of the filter. -/
theorem placeholders_are_parameters_of_update :
    let status : Column := .name "status"
    let query : Query :=
      { table := "events as e", distinct := false, columns := [], joins := [],
        conditions := [⟨.and, .nested [⟨.or, .nested []⟩]⟩,
          ⟨.or, .inList status [.bound (.int 200), .raw "now()", .bound (.int 404)] false⟩,
          ⟨.and, .nested [⟨.and, .between status (.bound (.int 404)) (.bound (.int 500)) true⟩,
            ⟨.or, .basic (.name "data->user->name") "LIKE" (.bound (.string "a%"))⟩]⟩],
        groups := [], orderings := [], limit := none, offset := none }
    let update := Command.update query ⟨[("label", .string "old"), ("status", .int 404)]⟩
    (∀ text ∈ update.texts, Plain text) ∧
      ∃ statement, (update.compile.runOn Registry.empty).1 = .ok statement ∧
        statement.parameters.tokens = (List.range statement.parameters.size).map Token.nth ∧
        statement.referencedTokens.Perm (statement.parameters.tokens.map (·.text)) := by
  intro status query update
  have texts : ∀ text ∈ update.texts, Plain text := by decide
  have succeeds : (update.compile.runOn Registry.empty).1.isOk = true := by decide +kernel
  refine ⟨texts, ?_⟩
  cases compiled : (update.compile.runOn Registry.empty).1 with
  | error error =>
    rw [compiled] at succeeds
    cases succeeds
  | ok statement =>
    obtain ⟨numbered, read, -⟩ := placeholders_are_parameters update texts compiled
    exact ⟨statement, rfl, numbered, read⟩

end Command

end BoundSql
