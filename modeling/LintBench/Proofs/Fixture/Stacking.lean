import LintBench.Proofs.Fixture.Placement

/-!
# Which stacked comments reach the code

Comments above a line of code are meant to stack up and to state what is expected
of that line. A comment that states nothing ends the stack above it: what was
gathered there stays under that comment, unless the next line is code with a
trailing comment. The comments that reach a line are told apart here, and a line
shows what they state and nothing else.
-/

namespace LintBench

open Text

section Stacks

variable (markers lines : List (List Char))

/-- Whether all lines from one line on up to another state something alone. -/
def StacksOn (above line : Nat) : Prop :=
  above < line ∧ ∀ between, above ≤ between → between < line →
    (remarkAt markers lines between).isAlone = true

/-- Whether what a line states is to be found under another line. It is the line's own trailing
comment, or it is in the stack right above it, or the line has a trailing comment and the stack is
above a single comment that states nothing. -/
def Reaches (above line : Nat) : Prop :=
  above = line ∧ (remarkAt markers lines line).isTrailing = true ∨
  StacksOn markers lines above line ∨
  (remarkAt markers lines line).isTrailing = true ∧
    remarkAt markers lines (line - 1) = .silent ∧
    isCommentLine markers (lineAt lines (line - 1)) = true ∧
    StacksOn markers lines above (line - 1)

/-- Whether one of the lines that reach a line states something. -/
def ReachedBy (line : Nat) (code : String) (part : Option Detail) : Prop :=
  ∃ above expectation, Reaches markers lines above line ∧
    (remarkAt markers lines above).stated = some expectation ∧ expectation.States code part

variable {markers lines}

/-- A stack that rests on the next line is one that rests on this line, or begins with it. -/
theorem stacksOn_succ_iff {above line : Nat} :
    StacksOn markers lines above (line + 1) ↔
      (remarkAt markers lines line).isAlone = true ∧
        (above = line ∨ StacksOn markers lines above line) := by
  constructor
  · rintro ⟨before, all⟩
    refine ⟨all line (by omega) (Nat.lt_succ_self line), ?_⟩
    rcases Nat.lt_succ_iff_lt_or_eq.1 before with inside | same
    · exact .inr ⟨inside, fun between from_ upTo => all between from_ (by omega)⟩
    · exact .inl same
  · rintro ⟨alone, rfl | ⟨before, all⟩⟩
    · refine ⟨Nat.lt_succ_self above, fun between from_ upTo => ?_⟩
      rw [show between = above by omega]
      exact alone
    · refine ⟨by omega, fun between from_ upTo => ?_⟩
      rcases Nat.lt_succ_iff_lt_or_eq.1 upTo with inside | rfl
      · exact all between from_ inside
      · exact alone

/-- The pile above a line is what the lines of the stack right above it state. -/
theorem mem_pileAbove_iff {line : Nat} {expectation : Expectation} :
    expectation ∈ pileAbove markers lines line ↔
      ∃ above, StacksOn markers lines above line ∧
        remarkAt markers lines above = .alone expectation := by
  induction line with
  | zero => simp [pileAbove, StacksOn]
  | succ line ih =>
    unfold pileAbove
    simp only [stacksOn_succ_iff]
    cases states : remarkAt markers lines line with
    | alone own =>
      rw [List.mem_cons, ih]
      constructor
      · rintro (rfl | ⟨above, stack, same⟩)
        · exact ⟨line, ⟨rfl, .inl rfl⟩, states⟩
        · exact ⟨above, ⟨rfl, .inr stack⟩, same⟩
      · rintro ⟨above, ⟨-, rfl | stack⟩, same⟩
        · rw [states, Remark.alone.injEq] at same
          exact .inl same.symm
        · exact .inr ⟨above, stack, same⟩
    | silent => simp [Remark.isAlone]
    | trailing own => simp [Remark.isAlone]

/-- What is gathered above a line states what the stack right above it states. -/
theorem states_gathered_iff {line : Nat} {code : String} {part : Option Detail} :
    (∃ whole, gathered markers lines line = some whole ∧ whole.States code part) ↔
      ∃ above expectation, StacksOn markers lines above line ∧
        (remarkAt markers lines above).stated = some expectation ∧
        expectation.States code part := by
  have members : (∃ member ∈ pileAbove markers lines line, member.States code part) ↔
      ∃ above expectation, StacksOn markers lines above line ∧
        (remarkAt markers lines above).stated = some expectation ∧
        expectation.States code part := by
    constructor
    · rintro ⟨member, listed, states⟩
      obtain ⟨above, stacked, same⟩ := mem_pileAbove_iff.1 listed
      exact ⟨above, member, stacked, by rw [same]; rfl, states⟩
    · rintro ⟨above, expectation, stacked, same, states⟩
      refine ⟨expectation, mem_pileAbove_iff.2 ⟨above, stacked, ?_⟩, states⟩
      have alone := stacked.2 above (Nat.le_refl above) stacked.1
      cases kind : remarkAt markers lines above <;> simp_all [Remark.isAlone, Remark.stated]
  rw [← members]
  have distinct : ∀ member ∈ pileAbove markers lines line, member.Distinct :=
    fun _ listed => (fresh_of_mem_pileAbove markers lines listed).toDistinct
  unfold gathered
  cases pile : pileAbove markers lines line with
  | nil => simp
  | cons newest older =>
    rw [pile, List.forall_mem_cons] at distinct
    have merged : (older.foldl Expectation.merge newest).States code part ↔ _ :=
      Expectation.states_foldl_merge distinct.2 code part
    rw [← merged]
    simp [Expectation.States]

/-- What is gathered lists no code twice. -/
theorem distinct_of_gathered {line : Nat} {whole : Expectation}
    (found : gathered markers lines line = some whole) : whole.Distinct := by
  have distinct : ∀ member ∈ pileAbove markers lines line, member.Distinct :=
    fun _ listed => (fresh_of_mem_pileAbove markers lines listed).toDistinct
  unfold gathered at found
  cases pile : pileAbove markers lines line with
  | nil => simp [pile] at found
  | cons newest older =>
    rw [pile, List.forall_mem_cons] at distinct
    simp only [pile, Option.some.injEq] at found
    have merged := distinct.1.foldl_merge older
    rw [← found]
    exact ⟨merged.details, merged.raised⟩

/-- An expectation that takes in what was gathered above a line states its own and what the stack
right above the line states. -/
theorem states_takeIn_gathered_iff (expectation : Expectation) {line : Nat} {code : String}
    {part : Option Detail} :
    (expectation.takeIn (gathered markers lines line)).States code part ↔
      expectation.States code part ∨ ∃ above other, StacksOn markers lines above line ∧
        (remarkAt markers lines above).stated = some other ∧ other.States code part := by
  rw [← states_gathered_iff]
  cases found : gathered markers lines line with
  | none => simp [Expectation.takeIn]
  | some whole =>
    rw [Expectation.takeIn, Expectation.states_merge (distinct_of_gathered found)]
    simp

/-- No stack rests on a line right below one that does not state something alone. -/
theorem not_stacksOn {above line : Nat}
    (other : (remarkAt markers lines (line - 1)).isAlone = false) :
    ¬ StacksOn markers lines above line := fun ⟨before, all⟩ => by
  have := all (line - 1) (by omega) (by omega)
  simp [other] at this

/-- Under a line of code is stated what the lines that reach it state, and nothing else. -/
theorem states_placed_iff {line : Nat} {code : String} {part : Option Detail}
    (isCode : isCommentLine markers (lineAt lines line) = false) :
    (∃ whole, placed markers lines line = some whole ∧ whole.States code part) ↔
      ReachedBy markers lines line code part := by
  unfold ReachedBy Reaches placed
  cases own : remarkAt markers lines line with
  | alone expectation =>
    rw [isCommentLine_of_alone own] at isCode
    cases isCode
  | silent => simp [isCode, Remark.isTrailing, states_gathered_iff]
  | trailing expectation =>
    have stated : (remarkAt markers lines line).stated = some expectation := by rw [own]; rfl
    cases higher : remarkAt markers lines (line - 1) with
    | alone head =>
      have same : ∀ whole : Expectation,
          ({ whole with folded := true } : Expectation).States code part ↔
            whole.States code part := fun _ => Iff.rfl
      simp [Remark.isTrailing, same, states_takeIn_gathered_iff, or_and_right, exists_or,
        stated]
    | trailing other =>
      have unstacked : ∀ above, ¬ StacksOn markers lines above line := fun above =>
        not_stacksOn (by rw [higher]; rfl)
      simp [Remark.isTrailing, unstacked, stated]
    | silent =>
      have unstacked : ∀ above, ¬ StacksOn markers lines above line := fun above =>
        not_stacksOn (by rw [higher]; rfl)
      by_cases comment : isCommentLine markers (lineAt lines (line - 1)) = true
      · simp [Remark.isTrailing, unstacked, comment, states_takeIn_gathered_iff, or_and_right,
          exists_or, stated]
      · simp [Remark.isTrailing, unstacked, comment, stated]

/-- With a single marker, a comment that states something states it alone. -/
theorem isAlone_of_isCommentLine {marker line : List Char} {expectation : Expectation}
    (comment : isCommentLine [marker] line = true)
    (states : (remarkOf [marker] line).stated = some expectation) :
    (remarkOf [marker] line).isAlone = true := by
  have starts : marker.isPrefixOf (trim line) = true := by
    simp [isCommentLine] at comment
    simpa using comment.2
  rcases remarkOf_cases [marker] line with silent | ⟨own, _, _, found, _, _, same⟩
  · simp [silent, Remark.stated] at states
  · obtain rfl := List.mem_singleton.1 (mem_of_findComment found).1
    rw [same, if_pos starts]
    rfl

end Stacks

/-- Whether a line states something of a code. -/
def LineStates (markers lines : List (List Char)) (line : Nat) (code : String)
    (part : Option Detail) : Prop :=
  ∃ expectation, (remarkAt markers lines line).stated = some expectation ∧
    expectation.States code part

/-- Whether a file states something of a code under a line. -/
def FixtureFile.Shows (file : FixtureFile) (line : Nat) (code : String) (part : Option Detail) :
    Prop :=
  ∃ whole, file.expectations.get? line = some whole ∧ whole.States code part

/-- Whether no comment that states nothing cuts a line off from the code below its comments: each
comment from there on states something, but for the last one above a line with a trailing
comment. -/
def Unbroken (markers lines : List (List Char)) (line last : Nat) : Prop :=
  (∀ between, line ≤ between → between ≤ last →
    (remarkAt markers lines between).stated.isSome) ∨
  (remarkAt markers lines (last + 1)).stated.isSome ∧
    ∀ between, line ≤ between → between < last →
      (remarkAt markers lines between).stated.isSome

/-- A line that stands something alone or after code states something. -/
theorem isSome_stated_of_isAlone {remark : Remark} (alone : remark.isAlone = true) :
    remark.stated.isSome := by
  cases remark <;> simp_all [Remark.isAlone, Remark.stated]

/-- A line of code that states something has a trailing comment. -/
theorem isTrailing_of_isCode {markers lines : List (List Char)} {line : Nat}
    (isCode : isCommentLine markers (lineAt lines line) = false)
    (states : (remarkAt markers lines line).stated.isSome) :
    (remarkAt markers lines line).isTrailing = true := by
  cases own : remarkAt markers lines line with
  | alone head =>
    rw [isCommentLine_of_alone own] at isCode
    cases isCode
  | trailing other => rfl
  | silent => simp [own, Remark.stated] at states

/-- Of the comments above a line of code, those that state something reach the code if nothing cuts
them off from it, and only these. The one that states nothing may be the comment right above the
code. -/
theorem reaches_iff_unbroken {marker : List Char} {lines : List (List Char)} {first last line : Nat}
    (comments : ∀ between, first ≤ between → between ≤ last →
      isCommentLine [marker] (lineAt lines between) = true)
    (isCode : isCommentLine [marker] (lineAt lines (last + 1)) = false)
    (from_ : first ≤ line) (upTo : line ≤ last)
    (states : (remarkAt [marker] lines line).stated.isSome) :
    Reaches [marker] lines line (last + 1) ↔ Unbroken [marker] lines line last := by
  have alone : ∀ between, line ≤ between → between ≤ last →
      (remarkAt [marker] lines between).stated.isSome →
      (remarkAt [marker] lines between).isAlone = true := by
    intro between after before something
    obtain ⟨own, same⟩ := Option.isSome_iff_exists.1 something
    exact isAlone_of_isCommentLine (comments between (by omega) before) same
  constructor
  · rintro (⟨same, -⟩ | ⟨-, stack⟩ | ⟨trailing, -, -, -, stack⟩)
    · omega
    · exact .inl fun between after before =>
        isSome_stated_of_isAlone (stack between after (by omega))
    · refine .inr ⟨?_, fun between after before =>
        isSome_stated_of_isAlone (stack between after before)⟩
      cases own : remarkAt [marker] lines (last + 1) <;>
        simp_all [Remark.isTrailing, Remark.stated]
  · rintro (all | ⟨codeStates, most⟩)
    · exact .inr (.inl ⟨by omega, fun between after before =>
        alone between after (by omega) (all between after (by omega))⟩)
    · have stack : line = last ∨ StacksOn [marker] lines line last := by
        rcases Nat.lt_or_eq_of_le upTo with before | same
        · exact .inr ⟨before, fun between after inside =>
            alone between after (by omega) (most between after inside)⟩
        · exact .inl same
      cases final : (remarkAt [marker] lines last).stated with
      | some expectation =>
        have ends := alone last upTo (Nat.le_refl last) (by rw [final]; rfl)
        exact .inr (.inl (stacksOn_succ_iff.2 ⟨ends, stack⟩))
      | none =>
        have silent : remarkAt [marker] lines last = .silent := by
          cases own : remarkAt [marker] lines last <;> simp_all [Remark.stated]
        have apart : line ≠ last := by
          rintro rfl
          simp [final] at states
        exact .inr (.inr ⟨isTrailing_of_isCode isCode codeStates, silent,
          comments last (by omega) (Nat.le_refl last), stack.resolve_left apart⟩)

/-- Comments stack onto the code below them exactly when all they state is stated by lines that
reach the code. The comments themselves reach it as far as nothing cuts them off. -/
theorem stack_shown_iff {name content marker : String} {file : FixtureFile}
    (read : FixtureFile.ofSource name content [marker] = .ok file) {first last : Nat}
    (comments : ∀ line, first ≤ line → line ≤ last →
      isCommentLine [marker.toList] (lineAt (linesOf content) line) = true)
    (isCode : isCommentLine [marker.toList] (lineAt (linesOf content) (last + 1)) = false) :
    ((∀ line code part, first ≤ line → line ≤ last →
        LineStates [marker.toList] (linesOf content) line code part →
        file.Shows (last + 1) code part) ↔
      ∀ line code part, first ≤ line → line ≤ last →
        LineStates [marker.toList] (linesOf content) line code part →
        ReachedBy [marker.toList] (linesOf content) (last + 1) code part) ∧
    ∀ line, first ≤ line → line ≤ last →
      (remarkAt [marker.toList] (linesOf content) line).stated.isSome →
      (Reaches [marker.toList] (linesOf content) line (last + 1) ↔
        Unbroken [marker.toList] (linesOf content) line last) := by
  have shown : ∀ code part, file.Shows (last + 1) code part ↔
      ReachedBy [marker.toList] (linesOf content) (last + 1) code part := fun code part => by
    rw [← states_placed_iff isCode, FixtureFile.Shows, get?_expectations_of_ofSource read]
    rfl
  exact ⟨by simp only [shown],
    fun line from_ upTo => reaches_iff_unbroken comments isCode from_ upTo⟩

/-- Three comments above a line with a trailing comment, the lowest of which states nothing. -/
def stackAboveTrailing : String := "# [A-1]: 3\n# [A-2]\n# so\nf() # [A-3]"

/-- Above a trailing comment the first line is shown, though a comment that states nothing is in
between. -/
theorem stack_shown_above_trailing :
    ∃ file, FixtureFile.ofSource "a.py" stackAboveTrailing ["#"] = .ok file ∧
      (∀ line, 1 ≤ line → line ≤ 3 →
        isCommentLine ["#".toList] (lineAt (linesOf stackAboveTrailing) line) = true) ∧
      isCommentLine ["#".toList] (lineAt (linesOf stackAboveTrailing) 4) = false ∧
      Reaches ["#".toList] (linesOf stackAboveTrailing) 1 4 ∧
      ((∀ line code part, 1 ≤ line → line ≤ 3 →
          LineStates ["#".toList] (linesOf stackAboveTrailing) line code part →
          file.Shows 4 code part) ↔
        ∀ line code part, 1 ≤ line → line ≤ 3 →
          LineStates ["#".toList] (linesOf stackAboveTrailing) line code part →
          ReachedBy ["#".toList] (linesOf stackAboveTrailing) 4 code part) := by
  have comments : ∀ line, line < 4 → 1 ≤ line →
      isCommentLine ["#".toList] (lineAt (linesOf stackAboveTrailing) line) = true := by
    decide +kernel
  have isCode :
      isCommentLine ["#".toList] (lineAt (linesOf stackAboveTrailing) (3 + 1)) = false := by
    decide +kernel
  have stated : (remarkAt ["#".toList] (linesOf stackAboveTrailing) (3 + 1)).stated.isSome ∧
      ∀ between, between < 3 → 1 ≤ between →
        (remarkAt ["#".toList] (linesOf stackAboveTrailing) between).stated.isSome := by
    decide +kernel
  obtain ⟨file, read⟩ :=
    exists_ofSource "a.py" stackAboveTrailing ["#"] (by decide +kernel)
  have shown := stack_shown_iff read
    (fun line after before => comments line (by omega) after) isCode
  refine ⟨file, read, fun line after before => comments line (by omega) after, isCode, ?_, shown.1⟩
  exact (shown.2 1 (by omega) (by omega) (stated.2 1 (by omega) (by omega))).2
    (.inr ⟨stated.1, fun between after before => stated.2 between before after⟩)

/-- A comment that states nothing between one that does and a line of code. -/
def stackCutOff : String := "# [A-1]\n# so\nf()"

/-- A comment that states nothing cuts the stack above it off from code without a comment. -/
theorem stack_cut_off :
    ∃ file, FixtureFile.ofSource "a.py" stackCutOff ["#"] = .ok file ∧
      (∀ line, line < 3 → 1 ≤ line →
        isCommentLine ["#".toList] (lineAt (linesOf stackCutOff) line) = true) ∧
      isCommentLine ["#".toList] (lineAt (linesOf stackCutOff) 3) = false ∧
      trim (lineAt (linesOf stackCutOff) 3) ≠ [] ∧
      LineStates ["#".toList] (linesOf stackCutOff) 1 "A-1" none ∧
      ¬ file.Shows 3 "A-1" none := by
  have stated : (remarkAt ["#".toList] (linesOf stackCutOff) 1).stated =
      some { details := [("A-1", [])], raised := [("A-1", false)] } := by decide +kernel
  have unplaced : placed ["#".toList] (linesOf stackCutOff) 3 = none := by decide +kernel
  obtain ⟨file, read⟩ := exists_ofSource "a.py" stackCutOff ["#"] (by decide +kernel)
  refine ⟨file, read, by decide +kernel, by decide +kernel, by decide +kernel,
    ⟨_, stated, [], rfl, by simp⟩, ?_⟩
  rintro ⟨whole, found, -⟩
  rw [get?_expectations_of_ofSource read] at found
  exact absurd (unplaced.symm.trans found) (by simp)

end LintBench
