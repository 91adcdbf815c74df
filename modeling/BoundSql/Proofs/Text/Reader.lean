/-!
# Readers

A reader takes what it recognises from the front of a text and leaves the rest.
It reads a text back if it yields the thing that the text was written for,
whatever follows in the places where the text may stand. Readers and the texts
they read back are put together in the same way, so a language is shown to be
readable clause by clause.

Which clause comes next is decided by its opening: fixed texts of which none
starts another. Words and numerals end where a character of another kind stands.
-/

namespace BoundSql.Text

/-- What takes a thing from the front of a text, if it is there, and leaves the rest of the
text. -/
abbrev Reader := StateT (List Char) Option

variable {α β κ : Type}

/-- A reader yields the thing that a text was written for, and leaves what
follows, in every place where the text may stand. -/
def Reads (reader : Reader α) (follow : List Char → Prop) (text : List Char) (thing : α) : Prop :=
  ∀ rest, follow rest → reader (text ++ rest) = some (thing, rest)

/-- Every place: whatever may follow, what is read there does not depend on it. -/
def Anywhere (_ : List Char) : Prop := True

/-! ## Where a text may stand -/

/-- A text that does not go on with a character of a kind. The end of the text stops too. -/
def Stops (kind : Char → Bool) (rest : List Char) : Prop :=
  ∀ c ∈ rest.head?, kind c = false

/-- A text that starts with a character of another kind. Unlike a text that stops, it is not
empty. -/
def StartsOutside (kind : Char → Bool) (text : List Char) : Prop :=
  text.head?.any (fun c => !kind c) = true

instance (kind : Char → Bool) (text : List Char) : Decidable (StartsOutside kind text) :=
  inferInstanceAs (Decidable (_ = true))

/-- The first character of a text stays the first, whatever is behind the text. -/
theorem any_head?_append {kind : Char → Bool} {text : List Char}
    (starts : text.head?.any kind = true) (rest : List Char) :
    (text ++ rest).head?.any kind = true := by
  cases text with
  | nil => cases starts
  | cons c others => exact starts

/-- A text that starts with a character of another kind stops, whatever is behind
its first character. -/
theorem StartsOutside.stops {kind : Char → Bool} {opening : List Char}
    (outside : StartsOutside kind opening) (rest : List Char) : Stops kind (opening ++ rest) := by
  unfold StartsOutside at outside
  cases opening with
  | nil => cases outside
  | cons first more =>
    rintro c ⟨⟩
    simpa using outside

/-- Two texts of which neither starts the other, so that at most one of them can stand in front
of any text. -/
def Apart (first second : List Char) : Prop :=
  ¬ first <+: second ∧ ¬ second <+: first

instance (first second : List Char) : Decidable (Apart first second) :=
  inferInstanceAs (Decidable (_ ∧ _))

/-- A text does not start what goes on behind a text apart from it. -/
theorem Apart.not_starting {opening other : List Char} (apart : Apart opening other)
    (rest : List Char) : ¬ opening <+: other ++ rest := by
  intro starts
  rcases List.prefix_or_prefix_of_prefix starts (List.prefix_append other rest) with within | around
  · exact apart.1 within
  · exact apart.2 around

/-- The end, or a text that starts with one of some openings. It says where a clause may end: in
front of the clauses that can follow it. -/
def OpensWith (openings : List (List Char)) (rest : List Char) : Prop :=
  rest = [] ∨ ∃ opening ∈ openings, opening <+: rest

variable {openings more : List (List Char)} {rest : List Char}

/-- A text starts with its own opening. -/
theorem opensWith_append {opening : List Char} (member : opening ∈ openings) (rest : List Char) :
    OpensWith openings (opening ++ rest) :=
  Or.inr ⟨opening, member, List.prefix_append opening rest⟩

/-- What is allowed to open a text stays allowed among more openings. -/
theorem OpensWith.of_subset (opens : OpensWith openings rest) (among : openings ⊆ more) :
    OpensWith more rest := by
  rcases opens with rfl | ⟨opening, member, starts⟩
  · exact Or.inl rfl
  · exact Or.inr ⟨opening, among member, starts⟩

/-- A text that starts with one of some openings stops if all of them do. -/
theorem OpensWith.stops {kind : Char → Bool} (opens : OpensWith openings rest)
    (outside : ∀ opening ∈ openings, StartsOutside kind opening) : Stops kind rest := by
  rcases opens with rfl | ⟨opening, member, behind, rfl⟩
  · rintro c ⟨⟩
  · exact (outside opening member).stops behind

/-- A text that starts with one of some openings does not start with one that is
apart from all of them. -/
theorem OpensWith.not_starting {other : List Char} (opens : OpensWith openings rest)
    (shown : other ≠ []) (apart : ∀ opening ∈ openings, Apart other opening) :
    ¬ other <+: rest := by
  rcases opens with rfl | ⟨opening, member, behind, rfl⟩
  · exact fun starts => shown (List.prefix_nil.mp starts)
  · exact (apart opening member).not_starting behind

/-! ## One reader behind the other -/

namespace Reads

variable {reader : Reader α} {follow behind : List Char → Prop} {text later : List Char}
  {thing : α} {result : β}

/-- A text is read back in fewer places, if it is read back in all of them. -/
theorem weaken (reads : Reads reader follow text thing) (fewer : ∀ rest, behind rest → follow rest) :
    Reads reader behind text thing :=
  fun rest allowed => reads rest (fewer rest allowed)

/-- Nothing is read from no text, and the thing is known beforehand. -/
theorem of_pure : Reads (pure thing : Reader α) follow [] thing :=
  fun _ _ => rfl

/-- A reader behind another reads the text behind the other's. Where the later text may stand,
both together must be a place for the first. -/
theorem bind {next : α → Reader β} (reads : Reads reader follow text thing)
    (goes : Reads (next thing) behind later result)
    (fits : ∀ rest, behind rest → follow (later ++ rest)) :
    Reads (reader >>= next) behind (text ++ later) result := by
  intro rest allowed
  change (reader (text ++ later ++ rest)).bind (fun read => next read.1 read.2) = _
  rw [List.append_assoc, reads _ (fits rest allowed), Option.bind_some]
  exact goes rest allowed

/-- What is made of a thing is read from its text. -/
theorem map (reads : Reads reader follow text thing) (f : α → β) :
    Reads (reader >>= fun thing => pure (f thing)) follow text (f thing) := by
  have goes : Reads (pure (f thing) : Reader β) follow [] (f thing) := of_pure
  rw [← List.append_nil text]
  exact reads.bind goes fun rest allowed => allowed

end Reads

/-- What is known, if it is known. It takes no text, and fails where nothing is known. -/
def given (option : Option α) : Reader α := fun text => option.map fun thing => (thing, text)

/-- What is known is read from no text. -/
theorem reads_given {option : Option α} {thing : α} {follow : List Char → Prop}
    (known : option = some thing) : Reads (given option) follow [] thing := by
  intro rest _
  rw [given, known]
  rfl

/-! ## Openings -/

/-- The first of some options whose opening stands in front; the opening is taken with it. -/
def oneOf (opening : κ → List Char) (options : List κ) : Reader κ := fun text =>
  (options.find? fun option => (opening option).isPrefixOf text).map
    fun option => (option, text.drop (opening option).length)

/-- A fixed text, which is taken if it stands in front. -/
def expect (opening : List Char) : Reader Unit :=
  oneOf (fun _ => opening) [()]

/-- Options of which none opens as another does. Their order then does not matter to which one
is found. -/
def OpenApart (opening : κ → List Char) (options : List κ) : Prop :=
  options.Pairwise fun first second => Apart (opening first) (opening second)

instance (opening : κ → List Char) (options : List κ) : Decidable (OpenApart opening options) :=
  inferInstanceAs (Decidable (List.Pairwise _ _))

/-- A text that no option opens. -/
def Unopened (opening : κ → List Char) (options : List κ) (rest : List Char) : Prop :=
  ∀ option ∈ options, ¬ opening option <+: rest

/-- What no option opens is not read. -/
theorem oneOf_of_unopened {opening : κ → List Char} {options : List κ} {rest : List Char}
    (unopened : Unopened opening options rest) : oneOf opening options rest = none := by
  have none : options.find? (fun option => (opening option).isPrefixOf rest) = none := by
    rw [List.find?_eq_none]
    intro option member starts
    exact unopened option member (List.isPrefixOf_iff_prefix.mp starts)
  rw [oneOf, none]
  rfl

/-- An option is read from its opening if no other opens as it does, whatever stands behind the
opening. -/
theorem reads_oneOf {opening : κ → List Char} {options : List κ} (apart : OpenApart opening options)
    {option : κ} (member : option ∈ options) :
    Reads (oneOf opening options) Anywhere (opening option) option := by
  intro rest _
  have found : options.find? (fun option' => (opening option').isPrefixOf (opening option ++ rest)) =
      some option := by
    induction options with
    | nil => cases member
    | cons first others inductionHypothesis =>
      obtain ⟨here, later⟩ := List.pairwise_cons.mp apart
      rcases List.mem_cons.mp member with rfl | behind
      · exact List.find?_cons_of_pos
          (List.isPrefixOf_iff_prefix.mpr (List.prefix_append (opening option) rest))
      · rw [List.find?_cons_of_neg]
        · exact inductionHypothesis later behind
        · rw [List.isPrefixOf_iff_prefix]
          exact (here option behind).not_starting rest
  rw [oneOf, found, Option.map_some, List.drop_left]

/-- A fixed text is read as itself. -/
theorem reads_expect (opening : List Char) : Reads (expect opening) Anywhere opening () :=
  reads_oneOf (List.pairwise_singleton _ ()) List.mem_cons_self

/-! ## Words -/

/-- The characters of a kind that stand in front, as many as there are. There may be none, and
so it never fails. -/
def span (kind : Char → Bool) : Reader (List Char) := fun text =>
  some (text.takeWhile kind, text.dropWhile kind)

/-- Characters of a kind are read up to the first of another kind. -/
theorem reads_span {kind : Char → Bool} {word : List Char} (inside : ∀ c ∈ word, kind c = true) :
    Reads (span kind) (Stops kind) word word := by
  intro rest stops
  have ends : rest.takeWhile kind = [] ∧ rest.dropWhile kind = rest := by
    cases rest with
    | nil => exact ⟨rfl, rfl⟩
    | cons c others =>
      have outside : kind c = false := stops c rfl
      exact ⟨List.takeWhile_cons_of_neg (by simp [outside]),
        List.dropWhile_cons_of_neg (by simp [outside])⟩
  rw [span, List.takeWhile_append_of_pos inside, List.dropWhile_append_of_pos inside, ends.1,
    ends.2, List.append_nil]

/-- A text has one word in front: where the characters of the kind stop is a matter of the text
alone. -/
theorem eq_of_words {kind : Char → Bool} {first second rest other : List Char}
    (inside : ∀ c ∈ first, kind c = true) (within : ∀ c ∈ second, kind c = true)
    (stops : Stops kind rest) (halts : Stops kind other) (same : first ++ rest = second ++ other) :
    first = second := by
  have read := reads_span inside rest stops
  rw [same, reads_span within other halts] at read
  exact (congrArg Prod.fst (Option.some.inj read)).symm

/-! ## Choices -/

/-- One of two readers, chosen by the character in front. At the end of the text it is the one
for other characters. -/
def branch (kind : Char → Bool) (inside outside : Reader α) : Reader α := fun text =>
  if text.head?.any kind then inside text else outside text

/-- A clause if its opening stands in front, or else something without it. -/
def optionally (opening : List Char) (content otherwise : Reader α) : Reader α := fun text =>
  if opening.isPrefixOf text then content (text.drop opening.length) else otherwise text

variable {reader other : Reader α} {follow : List Char → Prop} {text : List Char} {thing : α}

/-- A text that starts with a character of the kind. -/
theorem Reads.branch_inside {kind : Char → Bool} (reads : Reads reader follow text thing)
    (inside : text.head?.any kind = true) : Reads (branch kind reader other) follow text thing := by
  intro rest allowed
  rw [branch, if_pos (any_head?_append inside rest)]
  exact reads rest allowed

/-- A text that starts with a character of another kind. -/
theorem Reads.branch_outside {kind : Char → Bool} (reads : Reads other follow text thing)
    (outside : StartsOutside kind text) : Reads (branch kind reader other) follow text thing := by
  intro rest allowed
  have head : (text ++ rest).head?.any kind = false := by
    cases text with
    | nil => cases outside
    | cons c others => simpa [StartsOutside] using outside
  rw [branch, if_neg (Bool.eq_false_iff.mp head)]
  exact reads rest allowed

/-- A clause that is there is read. -/
theorem Reads.present (reads : Reads reader follow text thing) (opening : List Char)
    (otherwise : Reader α) :
    Reads (optionally opening reader otherwise) follow (opening ++ text) thing := by
  intro rest allowed
  have starts : opening.isPrefixOf (opening ++ text ++ rest) = true := by
    rw [List.append_assoc, List.isPrefixOf_iff_prefix]
    exact List.prefix_append opening _
  rw [optionally, if_pos starts, List.append_assoc, List.drop_left]
  exact reads rest allowed

/-- A clause that is not there is known from what stands in its place: neither that text nor
what follows it starts with the opening. -/
theorem Reads.absent (reads : Reads other follow text thing) {opening : List Char}
    (unopened : ∀ rest, follow rest → ¬ opening <+: text ++ rest) :
    Reads (optionally opening reader other) follow text thing := by
  intro rest allowed
  have unread : ¬ opening.isPrefixOf (text ++ rest) = true := by
    rw [List.isPrefixOf_iff_prefix]
    exact unopened rest allowed
  rw [optionally, if_neg unread]
  exact reads rest allowed

/-! ## Repetition -/

/-- As many things as there are openings in front, but no more than a count. -/
def repeatedUpTo (opening : κ → List Char) (options : List κ) (item : κ → Reader α) :
    Nat → Reader (List α)
  | 0 => pure []
  | count + 1 => fun text =>
    match oneOf opening options text with
    | none => some ([], text)
    | some (option, rest) => (item option >>= fun thing =>
        repeatedUpTo opening options item count >>= fun things => pure (thing :: things)) rest

/-- As many things as there are openings in front. Each opening has a character,
so there are no more of them than characters. -/
def repeated (opening : κ → List Char) (options : List κ) (item : κ → Reader α) :
    Reader (List α) := fun text =>
  repeatedUpTo opening options item text.length text

/-- Things with commas between them. There is at least one, since no text stands for none. -/
def separated (item : Reader α) : Reader (List α) :=
  item >>= fun first => repeated (fun _ => ", ".toList) [()] (fun _ => item) >>= fun others =>
    pure (first :: others)

section

variable {opening : κ → List Char} {options : List κ} {item : κ → Reader α}
  {inner : List Char → Prop} {option : α → κ} {body : α → List Char} {things : List α}

/-- Things are read one after the other, each from its opening and its text, if
their number is allowed.

Induct over the things. Behind the text of one stands the opening of the next or
what follows all of them. -/
theorem reads_repeatedUpTo (apart : OpenApart opening options)
    (among : ∀ thing ∈ things, option thing ∈ options)
    (each : ∀ thing ∈ things, Reads (item (option thing)) inner (body thing) thing)
    (continues : ∀ option ∈ options, ∀ rest, inner (opening option ++ rest))
    (ends : ∀ rest, follow rest → inner rest ∧ Unopened opening options rest)
    {count : Nat} (enough : things.length ≤ count) :
    Reads (repeatedUpTo opening options item count) follow
      (things.flatMap fun thing => opening (option thing) ++ body thing) things := by
  induction things generalizing count with
  | nil =>
    intro rest allowed
    cases count with
    | zero => rfl
    | succ count =>
      rw [repeatedUpTo, List.flatMap_nil, List.nil_append]
      dsimp only
      rw [oneOf_of_unopened (ends rest allowed).2]
  | cons thing others inductionHypothesis =>
    obtain ⟨here, later⟩ := List.forall_mem_cons.mp among
    obtain ⟨first, remaining⟩ := List.forall_mem_cons.mp each
    cases count with
    | zero => cases enough
    | succ count =>
      intro rest allowed
      have goes := (inductionHypothesis later remaining (Nat.le_of_succ_le_succ enough)).map
        (thing :: ·)
      have fits : ∀ rest, follow rest → inner
          ((others.flatMap fun thing => opening (option thing) ++ body thing) ++ rest) := by
        intro rest allowed
        cases others with
        | nil => exact (ends rest allowed).1
        | cons second further =>
          rw [List.flatMap_cons, List.append_assoc, List.append_assoc]
          exact continues _ (later second List.mem_cons_self) _
      have opened := reads_oneOf apart here
      rw [repeatedUpTo, List.flatMap_cons, List.append_assoc, List.append_assoc]
      dsimp only
      rw [opened _ trivial, ← List.append_assoc]
      exact (first.bind goes fits) rest allowed

/-- Things are read one after the other, each from its opening and its text. Every opening has a
character, so that the length of the text allows for all of them. -/
theorem reads_repeated (apart : OpenApart opening options)
    (shown : ∀ option ∈ options, opening option ≠ [])
    (among : ∀ thing ∈ things, option thing ∈ options)
    (each : ∀ thing ∈ things, Reads (item (option thing)) inner (body thing) thing)
    (continues : ∀ option ∈ options, ∀ rest, inner (opening option ++ rest))
    (ends : ∀ rest, follow rest → inner rest ∧ Unopened opening options rest) :
    Reads (repeated opening options item) follow
      (things.flatMap fun thing => opening (option thing) ++ body thing) things := by
  intro rest allowed
  have enough : things.length ≤
      ((things.flatMap fun thing => opening (option thing) ++ body thing) ++ rest).length := by
    clear each
    induction things with
    | nil => exact Nat.zero_le _
    | cons thing others inductionHypothesis =>
      obtain ⟨here, later⟩ := List.forall_mem_cons.mp among
      have long := List.length_pos_iff.mpr (shown _ here)
      have fewer := inductionHypothesis later
      simp only [List.length_append, List.flatMap_cons, List.length_cons] at fewer ⊢
      omega
  exact reads_repeatedUpTo apart among each continues ends enough rest allowed

end

/-- Things with commas between them are read one after the other, if there is
one. -/
theorem reads_separated {item : Reader α} {inner : List Char → Prop} {body : α → List Char}
    {first : α} {others : List α}
    (each : ∀ thing ∈ first :: others, Reads item inner (body thing) thing)
    (continues : ∀ rest, inner (", ".toList ++ rest))
    (ends : ∀ rest, follow rest → inner rest ∧ ¬ ", ".toList <+: rest) :
    Reads (separated item) follow
      (body first ++ others.flatMap fun thing => ", ".toList ++ body thing) (first :: others) := by
  obtain ⟨here, later⟩ := List.forall_mem_cons.mp each
  have further : Reads (repeated (fun _ => ", ".toList) [()] fun _ => item) follow
      (others.flatMap fun thing => ", ".toList ++ body thing) others :=
    reads_repeated (List.pairwise_singleton _ ()) (fun _ _ => by decide)
      (fun _ _ => List.mem_cons_self) later (fun _ _ => continues)
      fun rest allowed => ⟨(ends rest allowed).1, fun _ _ => (ends rest allowed).2⟩
  refine here.bind (further.map (first :: ·)) ?_
  intro rest allowed
  cases others with
  | nil => exact (ends rest allowed).1
  | cons second remaining =>
    rw [List.flatMap_cons, List.append_assoc, List.append_assoc]
    exact continues _

end BoundSql.Text
