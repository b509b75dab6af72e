import LintBench.Proofs.Expectation.IssueCode
import LintBench.Proofs.Expectation.Reading
import LintBench.Proofs.Expectation.Splitting
import Mathlib.Data.List.Induction

/-!
# What was written is read back

The text of expected issues is read as those issues, whatever free text stands
before and after it: a written code goes into one segment, the first bracket of a
segment opens its code, and each item of a detail list ends where it was written
to end.
-/

namespace LintBench

open Text

/-! ## Columns -/

/-- The digits that numbers are written with have their usual values. -/
theorem digitValue?_of_isDigit {c : Char} (digit : c.isDigit = true) :
    digitValue? c = some (c.toNat - '0'.toNat) := by
  have bounds : 48 ≤ c.toNat ∧ c.toNat ≤ 57 := by
    simpa [Char.isDigit, UInt32.le_iff_toNat_le] using digit
  unfold digitValue?
  rw [zeroDigits, List.find?_cons_of_pos]
  · rfl
  · simp only [Bool.and_eq_true, decide_eq_true_eq]
    omega

/-- A column is written with the usual digits. -/
theorem isDigit_of_mem_column {column : Nat} {c : Char}
    (member : c ∈ (toString column).toList) : c.isDigit = true := by
  rw [Nat.toString_eq_ofList_toDigits, String.toList_ofList] at member
  exact Nat.isDigit_of_mem_toDigits (by decide) (by decide) member

/-- The digits of a column are decimal digits. -/
theorem isDecimalDigit_of_mem_column {column : Nat} {c : Char}
    (member : c ∈ (toString column).toList) : isDecimalDigit c = true := by
  unfold isDecimalDigit
  rw [digitValue?_of_isDigit (isDigit_of_mem_column member)]
  rfl

/-- A written column is read back if its numeral is not too long. -/
theorem readDigits_column {column : Nat} (short : (toString column).length ≤ digitLimit) :
    readDigits (toString column).toList = some column := by
  have values : ∀ digits : List Char, (∀ c ∈ digits, c.isDigit = true) →
      digits.filterMap digitValue? = digits.map fun c => c.toNat - '0'.toNat := by
    intro digits all
    induction digits with
    | nil => rfl
    | cons c rest ih =>
      simp only [List.forall_mem_cons] at all
      rw [List.filterMap_cons_some (digitValue?_of_isDigit all.1), ih all.2, List.map_cons]
  have whole := Nat.ofDigitChars_ten_toDigits (n := column)
  rw [Nat.ofDigitChars_eq_foldl] at whole
  have digits : (toString column).toList = Nat.toDigits 10 column := by
    rw [Nat.toString_eq_ofList_toDigits, String.toList_ofList]
  rw [readDigits, String.length_toList, if_pos short,
    values _ fun c member => isDigit_of_mem_column member, numberOfDigits, List.foldl_map, digits]
  simpa only [Nat.mul_comm] using congrArg some whole

/-- There is a digit in a written column. -/
theorem column_ne_nil (column : Nat) : (toString column).toList ≠ [] := by
  rw [Nat.toString_eq_ofList_toDigits, String.toList_ofList]
  exact Nat.toDigits_ne_nil

/-! ## Items of a detail list -/

/-- A text that cannot go on with an item: past its blanks it starts with no digit, and with no
quote. -/
def EndsItem (text : List Char) : Prop :=
  ∀ c ∈ (skipBlanks text).head?, isDecimalDigit c = false ∧ c ≠ '"'

/-- Blanks that were skipped are gone. -/
theorem skipBlanks_skipBlanks (text : List Char) :
    skipBlanks (skipBlanks text) = skipBlanks text := by
  rcases skipBlanks_eq_nil_or_cons text with nothing | ⟨c, rest, some, notBlank⟩
  · rw [nothing]
    rfl
  · rw [some]
    simp [skipBlanks, notBlank]

/-- Blanks before a character that is none are skipped up to it. -/
theorem skipBlanks_cons_of_not {c : Char} (notBlank : isBlank c = false) (rest : List Char) :
    skipBlanks (c :: rest) = c :: rest := by
  simp [skipBlanks, notBlank]

/-- A decimal digit is no blank. -/
theorem not_isBlank_of_isDecimalDigit {c : Char} (digit : isDecimalDigit c = true) :
    isBlank c = false := by
  have apart : ∀ start ∈ zeroDigits, 32 < start ∧
      (start + 9 < 0x85 ∨ 0xA0 < start) ∧ (start + 9 < 0x1680 ∨ 0x1680 < start) ∧
      (start + 9 < 0x2000 ∨ 0x3000 < start) := by decide
  obtain ⟨start, listed, bounds⟩ := exists_zero_of_isDecimalDigit digit
  have := apart start listed
  simp only [isBlank, Bool.or_eq_false_iff, Bool.and_eq_false_iff, decide_eq_false_iff_not,
    beq_eq_false_iff_ne]
  omega

/-- A text that cannot go on with an item does not start with a digit. -/
theorem EndsItem.head {text : List Char} (ends : EndsItem text) :
    ∀ c ∈ text.head?, isDecimalDigit c = false := by
  intro c first
  cases text with
  | nil => cases first
  | cons own rest =>
    obtain rfl : own = c := Option.some.inj first
    by_contra digit
    rw [Bool.not_eq_false] at digit
    have stays := skipBlanks_cons_of_not (not_isBlank_of_isDecimalDigit digit) rest
    have last := (ends own (by rw [stays]; rfl)).1
    exact Bool.false_ne_true (last.symm.trans digit)

/-- No digit is taken off a text that cannot go on with an item. -/
theorem EndsItem.takeDigits {text : List Char} (ends : EndsItem text) :
    takeDigits (skipBlanks text) = ([], skipBlanks text) := by
  have none : ∀ c ∈ ([] : List Char), isDecimalDigit c = true := by simp
  exact takeDigits_of_digits none fun c first => (ends c first).1

/-- No quoted text is taken off a text that cannot go on with an item. -/
theorem EndsItem.takeQuoted {text : List Char} (ends : EndsItem text) :
    takeQuoted (skipBlanks text) = none := by
  unfold LintBench.takeQuoted
  split
  · rename_i rest quoted
    exact absurd rfl (ends '"' (by rw [quoted]; rfl)).2
  · rfl

/-- Digits at the front of a text stay there as blanks are skipped. -/
theorem skipBlanks_digits {digits : List Char} (nonempty : digits ≠ [])
    (all : ∀ c ∈ digits, isDecimalDigit c = true) (rest : List Char) :
    skipBlanks (digits ++ rest) = digits ++ rest := by
  obtain ⟨digit, others, rfl⟩ := List.exists_cons_of_ne_nil nonempty
  exact skipBlanks_cons_of_not (not_isBlank_of_isDecimalDigit (all digit List.mem_cons_self)) _

/-- A quoted text at the front of a text stays there as blanks are skipped. -/
theorem skipBlanks_quoteMessage (message : String) (rest : List Char) :
    skipBlanks (quoteMessage message ++ rest) = quoteMessage message ++ rest :=
  skipBlanks_cons_of_not (by decide) _

/-- The blanks before an item do not matter. -/
theorem takeItem_skipBlanks (text : List Char) : takeItem (skipBlanks text) = takeItem text := by
  unfold takeItem
  rw [skipBlanks_skipBlanks]

section Items

variable {digits : List Char} (nonempty : digits ≠ []) (all : ∀ c ∈ digits, isDecimalDigit c = true)
  (message : String) {rest : List Char}

include nonempty all in
/-- A column alone is an item. -/
theorem takeItem_column (ends : EndsItem rest) :
    takeItem (digits ++ rest) = some ({ column := digits }, skipBlanks rest) := by
  unfold takeItem
  rw [skipBlanks_digits nonempty all]
  simp only
  rw [takeDigits_of_digits all ends.head]
  simp [nonempty, ends.takeQuoted]

include nonempty all in
/-- A column and a message are an item. -/
theorem takeItem_column_message :
    takeItem (digits ++ ' ' :: quoteMessage message ++ rest) =
      some ({ column := digits, message := some (escapeMessage message.toList) },
        skipBlanks rest) := by
  have ends : ∀ c ∈ (' ' :: (quoteMessage message ++ rest)).head?, isDecimalDigit c = false := by
    rintro _ ⟨⟩
    decide
  have blank : skipBlanks (' ' :: (quoteMessage message ++ rest)) = quoteMessage message ++ rest :=
    skipBlanks_quoteMessage message rest
  rw [List.append_assoc, List.cons_append]
  unfold takeItem
  rw [skipBlanks_digits nonempty all]
  simp only
  rw [takeDigits_of_digits all ends]
  simp [nonempty, blank, takeQuoted_quoteMessage]

/-- A message alone is an item. -/
theorem takeItem_message (ends : EndsItem rest) :
    takeItem (quoteMessage message ++ rest) =
      some ({ message := some (escapeMessage message.toList) }, skipBlanks rest) := by
  have noDigits : takeDigits (quoteMessage message ++ rest) = ([], quoteMessage message ++ rest) := by
    have none : ∀ c ∈ ([] : List Char), isDecimalDigit c = true := by simp
    refine takeDigits_of_digits none ?_
    rintro _ ⟨⟩
    decide
  unfold takeItem
  rw [skipBlanks_quoteMessage]
  simp only
  rw [noDigits]
  simp [takeQuoted_quoteMessage, ends.takeDigits]

end Items

/-- The item that a detail is written as. -/
def itemOf (column : Nat) (message : String) : DetailItem :=
  { column := if message ≠ "" ∧ column = 0 then [] else (toString column).toList
    message := if message = "" then none else some (escapeMessage message.toList) }

/-- A written detail is taken off the front of a text, with the blanks after it. -/
theorem takeItem_renderDetail (column : Nat) (message : String) {rest : List Char}
    (ends : EndsItem rest) :
    takeItem (renderDetail column message ++ rest) =
      some (itemOf column message, skipBlanks rest) := by
  have digits := column_ne_nil column
  have all : ∀ c ∈ (toString column).toList, isDecimalDigit c = true :=
    fun c => isDecimalDigit_of_mem_column
  unfold renderDetail itemOf
  by_cases silent : message = ""
  · simp only [silent, if_true, ne_eq, not_true_eq_false, false_and, if_false]
    exact takeItem_column digits all ends
  · by_cases anywhere : column = 0
    · simp only [silent, anywhere, if_true, if_false, ne_eq, not_false_eq_true, and_self]
      exact takeItem_message message ends
    · simp only [silent, anywhere, if_false, and_false]
      exact takeItem_column_message digits all message

/-- The item that a detail is written as states the detail, if its column is not too long. -/
theorem detail_itemOf {column : Nat} (message : String)
    (short : (toString column).length ≤ digitLimit) :
    (itemOf column message).detail = .ok { column, message } := by
  have read := readDigits_column short
  unfold itemOf DetailItem.detail
  by_cases silent : message = ""
  · simp only [silent, ne_eq, not_true_eq_false, false_and, if_false, read]
    rfl
  · by_cases anywhere : column = 0
    · have nothing : readDigits [] = some 0 := rfl
      simp [silent, anywhere, nothing, unescape_escapeMessage]
    · simp only [anywhere, and_false, if_false, read, silent, Option.getD_some,
        unescape_escapeMessage, String.ofList_toList]

/-! ## Detail lists -/

/-- A text that ends a detail list: past its blanks it starts with no digit, no quote and no
comma. -/
def EndsDetails (text : List Char) : Prop :=
  EndsItem text ∧ ∀ c ∈ (skipBlanks text).head?, c ≠ ','

/-- The text of a detail list. -/
def renderDetails (details : List (Nat × String)) : List Char :=
  List.intercalate [',', ' '] (details.map fun (column, message) => renderDetail column message)

/-- An item with a comma after it is followed by the items after the comma. -/
theorem detailItems_comma {text rest : List Char} {item : DetailItem}
    (taken : takeItem text = some (item, ',' :: rest)) :
    detailItems text = item :: detailItems rest := by
  rw [detailItems]
  split <;> grind

/-- An item without a comma after it is the last one. -/
theorem detailItems_last {text rest : List Char} {item : DetailItem}
    (taken : takeItem text = some (item, rest)) (ends : ∀ c ∈ rest.head?, c ≠ ',') :
    detailItems text = [item] := by
  rw [detailItems]
  split <;> grind

/-- A detail list is read item by item, and no further. -/
theorem detailItems_renderDetails {details : List (Nat × String)} (nonempty : details ≠ [])
    {rest : List Char} (ends : EndsDetails rest) :
    detailItems (' ' :: (renderDetails details ++ rest)) =
      details.map fun (column, message) => itemOf column message := by
  have blank : ∀ text : List Char, takeItem (' ' :: text) = takeItem text := fun text => by
    rw [← takeItem_skipBlanks, ← takeItem_skipBlanks text]
    rfl
  induction details with
  | nil => exact absurd rfl nonempty
  | cons detail others ih =>
    obtain ⟨column, message⟩ := detail
    cases others with
    | nil =>
      have item := takeItem_renderDetail column message ends.1
      rw [← blank] at item
      simpa [renderDetails] using detailItems_last item ends.2
    | cons next others =>
      have endsItem : EndsItem (',' :: ' ' :: (renderDetails (next :: others) ++ rest)) := by
        rintro _ ⟨⟩
        decide
      have item := takeItem_renderDetail column message endsItem
      have comma : skipBlanks (',' :: ' ' :: (renderDetails (next :: others) ++ rest)) =
          ',' :: ' ' :: (renderDetails (next :: others) ++ rest) := rfl
      rw [← blank, comma] at item
      have list : renderDetails ((column, message) :: next :: others) ++ rest =
          renderDetail column message ++
            (',' :: ' ' :: (renderDetails (next :: others) ++ rest)) := by
        simp [renderDetails, List.intercalate_cons_cons]
      rw [list, detailItems_comma item, List.map_cons, ih (by simp)]

/-- The details that columns and messages state, none of them met. -/
def statedDetails (details : List (Nat × String)) : List Detail :=
  details.map fun (column, message) => { column := column, message }

/-- A written detail list states its details. -/
theorem readDetails_renderDetails {details : List (Nat × String)}
    (short : ∀ detail ∈ details, (toString detail.1).length ≤ digitLimit) {rest : List Char}
    (nonempty : details ≠ []) (ends : EndsDetails rest) :
    readDetails (' ' :: (renderDetails details ++ rest)) = .ok (statedDetails details) := by
  have each : ∀ list : List (Nat × String),
      (∀ detail ∈ list, (toString detail.1).length ≤ digitLimit) →
      (list.map fun (column, message) => itemOf column message).mapM DetailItem.detail =
        .ok (statedDetails list) := by
    intro list
    induction list with
    | nil => exact fun _ => rfl
    | cons detail others ih =>
      intro short
      simp only [List.forall_mem_cons] at short
      rw [List.map_cons, List.mapM_cons, detail_itemOf detail.2 short.1, ih short.2]
      rfl
  rw [readDetails, detailItems_renderDetails nonempty ends, each details short]

/-- No text states no details. -/
theorem readDetails_nil : readDetails [] = .ok [] := by
  have nothing : takeItem [] = none := rfl
  have noItems : detailItems [] = [] := by
    rw [detailItems]
    split <;> grind
  rw [readDetails, noItems]
  rfl

/-! ## Segments -/

/-- The first bracket of a segment opens its code. -/
theorem findCode_of_isCode {lead code : List Char} (noBracket : '[' ∉ lead) (isCode : IsCode code)
    (rest : List Char) : findCode (lead ++ '[' :: code ++ ']' :: rest) = some (code, rest) := by
  have ends : ∀ c ∈ (']' :: rest).head?, isDecimalDigit c = false := by
    rintro _ ⟨⟩
    decide
  induction lead with
  | nil =>
    rw [List.nil_append, List.cons_append, findCode]
    simp only [takeIssueCode_of_isCode isCode ends]
  | cons c lead ih =>
    simp only [List.mem_cons, not_or] at noBracket
    rw [List.cons_append, List.cons_append, findCode]
    · exact ih noBracket.2
    · exact fun same => noBracket.1 same.symm

/-- A text after which a code has no details: past its blanks it starts with no colon. -/
def EndsCode (text : List Char) : Prop := ∀ c ∈ (skipBlanks text).head?, c ≠ ':'

/-- Without a colon there are no details. -/
theorem EndsCode.detailText {text : List Char} (ends : EndsCode text) : detailText text = [] := by
  unfold LintBench.detailText
  split
  · rename_i colon
    exact absurd rfl (ends ':' (by rw [colon]; rfl))
  · rfl

/-- A segment with a written code adds the code with its details. -/
theorem addSegment_renderCode {lead : List Char} (noBracket : '[' ∉ lead) {code : String}
    (isCode : isIssueCode code = true) {details : List (Nat × String)}
    (short : ∀ detail ∈ details, (toString detail.1).length ≤ digitLimit) {rest : List Char}
    (endsDetails : EndsDetails rest) (endsCode : EndsCode rest) (expectation : Expectation) :
    expectation.addSegment (lead ++ renderCode code details ++ rest) =
      .ok (expectation.add code (statedDetails details)) := by
  have text : lead ++ renderCode code details ++ rest = lead ++ '[' :: code.toList ++ ']' ::
      ((if details.isEmpty then [] else ':' :: ' ' :: renderDetails details) ++ rest) := by
    simp [renderCode, renderDetails]
  have read : readDetails (detailText
      ((if details.isEmpty then [] else ':' :: ' ' :: renderDetails details) ++ rest)) =
      .ok (statedDetails details) := by
    cases details with
    | nil =>
      rw [List.isEmpty_nil, if_pos rfl, List.nil_append, endsCode.detailText, readDetails_nil]
      rfl
    | cons detail others => exact readDetails_renderDetails short (by simp) endsDetails
  unfold Expectation.addSegment
  rw [text, findCode_of_isCode noBracket ((isIssueCode_iff_isCode code).1 isCode)]
  simp only
  rw [read, String.ofList_toList]
  rfl

/-! ## Comments -/

/-- A written detail goes into one segment. -/
theorem unsplit_renderDetail (column : Nat) (message : String) :
    Unsplit (renderDetail column message) := by
  have digits : Unsplit (toString column).toList :=
    unsplit_of_plain (fun member => absurd (isDecimalDigit_of_mem_column member) (by decide))
      (fun member => absurd (isDecimalDigit_of_mem_column member) (by decide))
  have blank : Unsplit [' '] := unsplit_of_plain (by decide) (by decide)
  unfold renderDetail
  split
  · exact digits
  · split
    · exact unsplit_quoteMessage message
    · exact digits.append (blank.append (unsplit_quoteMessage message))

/-- A written code goes into one segment. -/
theorem unsplit_renderCode {code : String} (isCode : isIssueCode code = true)
    (details : List (Nat × String)) : Unsplit (renderCode code details) := by
  have isCode := (isIssueCode_iff_isCode code).1 isCode
  have name : Unsplit code.toList :=
    unsplit_of_plain (isCode.absent (by decide) (by decide) (by decide) (by decide))
      (isCode.absent (by decide) (by decide) (by decide) (by decide))
  have plain : ∀ text : List Char, ';' ∉ text → '"' ∉ text → Unsplit text :=
    fun _ => unsplit_of_plain
  have list : Unsplit (renderDetails details) :=
    unsplit_intercalate (plain [',', ' '] (by decide) (by decide)) fun text member => by
      obtain ⟨detail, -, rfl⟩ := List.mem_map.1 member
      exact unsplit_renderDetail detail.1 detail.2
  have bracketed : Unsplit (['['] ++ code.toList ++ [']']) :=
    ((plain ['['] (by decide) (by decide)).append name).append
      (plain [']'] (by decide) (by decide))
  have text : renderCode code details = (['['] ++ code.toList ++ [']']) ++
      (if details.isEmpty then [] else [':', ' '] ++ renderDetails details) := by
    simp [renderCode, renderDetails]
  rw [text]
  refine bracketed.append ?_
  split
  · exact unsplit_nil
  · exact (plain [':', ' '] (by decide) (by decide)).append list

/-- A segment without a bracket adds nothing. -/
theorem addSegment_of_no_bracket {segment : List Char} (noBracket : '[' ∉ segment)
    (expectation : Expectation) : expectation.addSegment segment = .ok expectation := by
  have none : ∀ text : List Char, '[' ∉ text → findCode text = .none := by
    intro text
    induction text with
    | nil => exact fun _ => rfl
    | cons c rest ih =>
      intro absent
      simp only [List.mem_cons, not_or] at absent
      rw [findCode]
      · exact ih absent.2
      · exact fun same => absent.1 same.symm
  rw [Expectation.addSegment, none segment noBracket]

/-- Free text before the first bracket adds nothing, and leaves a segment without a bracket. -/
theorem exists_read_after_lead {lead : List Char} (noBracket : '[' ∉ lead) (noQuote : '"' ∉ lead)
    {current : List Char} (noBracketYet : '[' ∉ current) (rest : List Char) :
    ∃ begun, '[' ∉ begun ∧ ∀ expectation : Expectation,
      (splitSegments (lead ++ rest) current).foldlM Expectation.addSegment expectation =
        (splitSegments rest begun).foldlM Expectation.addSegment expectation := by
  induction lead generalizing current with
  | nil => exact ⟨current, noBracketYet, fun _ => rfl⟩
  | cons c lead ih =>
    simp only [List.mem_cons, not_or] at noBracket noQuote
    by_cases semicolon : c = ';'
    · subst semicolon
      obtain ⟨begun, absent, same⟩ := ih noBracket.2 noQuote.2 (by simp : '[' ∉ ([] : List Char))
      refine ⟨begun, absent, fun expectation => ?_⟩
      rw [List.cons_append, splitSegments_semicolon, ← same]
      split
      · rfl
      · rw [List.foldlM_cons, addSegment_of_no_bracket (by simpa using noBracketYet)]
        rfl
    · have noBracketThen : '[' ∉ c :: current := by simp [noBracket.1, noBracketYet]
      obtain ⟨begun, absent, same⟩ := ih noBracket.2 noQuote.2 noBracketThen
      refine ⟨begun, absent, fun expectation => ?_⟩
      rw [List.cons_append, splitSegments_plain semicolon (Ne.symm noQuote.1), same]

section Whole

variable {issues : List (String × List (Nat × String))} {trail : List Char}

/-- Written codes are added one after another, whatever free text stands before and after them. -/
theorem foldlM_addSegment_renderIssues (nonempty : issues ≠ [])
    (codes : ∀ issue ∈ issues, isIssueCode issue.1 = true)
    (short : ∀ issue ∈ issues, ∀ detail ∈ issue.2, (toString detail.1).length ≤ digitLimit)
    (plain : Unsplit trail) (endsDetails : EndsDetails trail) (endsCode : EndsCode trail)
    {lead : List Char} (noBracket : '[' ∉ lead) (noQuote : '"' ∉ lead) {current : List Char}
    (noBracketYet : '[' ∉ current) (expectation : Expectation) :
    (splitSegments (lead ++ (renderIssues issues ++ trail)) current).foldlM
        Expectation.addSegment expectation =
      .ok (issues.foldl (fun state issue => state.add issue.1 (statedDetails issue.2))
        expectation) := by
  induction issues generalizing lead current expectation with
  | nil => exact absurd rfl nonempty
  | cons issue others ih =>
    obtain ⟨code, details⟩ := issue
    simp only [List.forall_mem_cons] at codes short
    obtain ⟨begun, noBracketBegun, same⟩ := exists_read_after_lead noBracket noQuote noBracketYet
      (renderIssues ((code, details) :: others) ++ trail)
    rw [same, List.foldl_cons]
    have unsplit := unsplit_renderCode codes.1 details
    have begunText : '[' ∉ begun.reverse := by simpa using noBracketBegun
    cases others with
    | nil =>
      have segment : splitSegments (renderCode code details ++ trail) begun =
          [begun.reverse ++ renderCode code details ++ trail] := by
        have ended := plain [] ((renderCode code details).reverse ++ begun)
        rw [List.append_nil] at ended
        rw [unsplit, ended, splitSegments_nil, if_neg (by simp [renderCode])]
        simp
      have text : renderIssues [(code, details)] = renderCode code details := by
        simp [renderIssues]
      rw [text, segment, List.foldlM_cons,
        addSegment_renderCode begunText codes.1 short.1 endsDetails endsCode]
      rfl
    | cons next others =>
      have text : renderIssues ((code, details) :: next :: others) ++ trail =
          renderCode code details ++
            (';' :: ([' '] ++ (renderIssues (next :: others) ++ trail))) := by
        simp [renderIssues, List.intercalate_cons_cons]
      have nothing : EndsDetails [] ∧ EndsCode [] := by
        simp [EndsDetails, EndsItem, EndsCode, skipBlanks]
      have added := addSegment_renderCode begunText codes.1 short.1 nothing.1 nothing.2 expectation
      rw [List.append_nil] at added
      have segment : (renderCode code details).reverse ++ begun ≠ [] := by simp [renderCode]
      rw [text, unsplit, splitSegments_semicolon, if_neg (by simpa using segment),
        List.reverse_append, List.reverse_reverse, List.foldlM_cons, added]
      exact ih (by simp) codes.2 short.2 (by decide) (by decide) (by decide) _

end Whole

/-- The expectation of issues as they are written: each code with its details, and nothing raised
or met. -/
def Expectation.stated (issues : List (String × List (Nat × String))) : Expectation :=
  { details := issues.map fun (code, details) => (code, statedDetails details)
    raised := issues.map fun (code, _) => (code, false) }

/-- Adding distinct codes one after another states them in that order. -/
theorem foldl_add_eq_stated {issues : List (String × List (Nat × String))}
    (distinct : (issues.map Prod.fst).Nodup) :
    issues.foldl (fun state issue => state.add issue.1 (statedDetails issue.2)) Expectation.empty =
      Expectation.stated issues := by
  induction issues using List.reverseRecOn with
  | nil => rfl
  | append_singleton issues issue ih =>
    obtain ⟨code, details⟩ := issue
    rw [List.map_append, List.nodup_append] at distinct
    have absent : code ∉ issues.map Prod.fst := fun member =>
      distinct.2.2 code member code (by simp) rfl
    have noDetails : code ∉ Keyed.keys (Expectation.stated issues).details := by
      simpa [Expectation.stated, Keyed.keys, Function.comp_def] using absent
    have noMark : code ∉ Keyed.keys (Expectation.stated issues).raised := by
      simpa [Expectation.stated, Keyed.keys, Function.comp_def] using absent
    rw [List.foldl_append, ih distinct.1, List.foldl_cons, List.foldl_nil, Expectation.add,
      Keyed.setDefault, Keyed.update_of_absent noDetails, Keyed.update_of_absent noMark]
    simp [Expectation.stated]

/-- Distinct issue codes with any details, written out with free text before and after them, are
read as exactly these codes and details, in this order. The text before must hold no bracket and
no quote, and the one after no semicolon and no quote; the latter must not go on with the last
code or detail. -/
theorem read?_renderIssues (issues : List (String × List (Nat × String))) (lead trail : String)
    (nonempty : issues ≠ []) (distinct : (issues.map Prod.fst).Nodup)
    (codes : ∀ issue ∈ issues, isIssueCode issue.1 = true)
    (short : ∀ issue ∈ issues, ∀ detail ∈ issue.2, (toString detail.1).length ≤ digitLimit)
    (leadPlain : '[' ∉ lead.toList ∧ '"' ∉ lead.toList)
    (trailPlain : ';' ∉ trail.toList ∧ '"' ∉ trail.toList)
    (trailEnds : ∀ c ∈ (skipBlanks trail.toList).head?,
      isDecimalDigit c = false ∧ c ≠ ',' ∧ c ≠ ':') :
    Expectation.read? (lead ++ String.ofList (renderIssues issues) ++ trail) =
      .ok (some (.stated issues)) := by
  have noQuoteNext : ∀ c ∈ (skipBlanks trail.toList).head?, c ≠ '"' := by
    rintro _ first rfl
    exact trailPlain.2 ((List.dropWhile_sublist _).subset (List.mem_of_mem_head? first))
  have endsDetails : EndsDetails trail.toList :=
    ⟨fun c first => ⟨(trailEnds c first).1, noQuoteNext c first⟩,
      fun c first => (trailEnds c first).2.1⟩
  have endsCode : EndsCode trail.toList := fun c first => (trailEnds c first).2.2
  have comment : (lead ++ String.ofList (renderIssues issues) ++ trail).toList =
      lead.toList ++ (renderIssues issues ++ trail.toList) := by simp
  have read : Expectation.read (lead.toList ++ (renderIssues issues ++ trail.toList)) =
      .ok (.stated issues) := by
    rw [Expectation.read, segments, foldlM_addSegment_renderIssues nonempty codes short
      (unsplit_of_plain trailPlain.1 trailPlain.2) endsDetails endsCode leadPlain.1 leadPlain.2
      (by simp), foldl_add_eq_stated distinct]
  have listed : (Expectation.stated issues).details.isEmpty = false := by
    simpa [Expectation.stated] using nonempty
  rw [Expectation.read?, comment, read]
  simp [Except.map, listed]

/-- Semicolons, brackets, quotes and a backslash inside a message do not end it, and a code in the
text after the last one is not read. -/
theorem read?_renderIssues_hard_messages :
    Expectation.read?
        "see; [GO-W1]: 10 \"a; [B-1] \\\" \\\\\", 0, \"x,\n7\"; [A-1] --> [C-2]: 5" =
      .ok (some {
        details := [("GO-W1", [{ column := 10, message := "a; [B-1] \" \\" }, {},
          { message := "x,\n7" }]), ("A-1", [])]
        raised := [("GO-W1", false), ("A-1", false)] }) := by
  have ends : ∀ c ∈ (skipBlanks " --> [C-2]: 5".toList).head?,
      isDecimalDigit c = false ∧ c ≠ ',' ∧ c ≠ ':' := by
    intro c first
    cases (first : some '-' = some c)
    decide
  exact read?_renderIssues
    [("GO-W1", [(10, "a; [B-1] \" \\"), (0, ""), (0, "x,\n7")]), ("A-1", [])]
    "see; " " --> [C-2]: 5" (by simp) (by decide) (by decide +kernel) (by decide +kernel)
    (by decide) (by decide) ends

end LintBench
