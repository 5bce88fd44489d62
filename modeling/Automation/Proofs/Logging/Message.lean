import Automation.Logging.Message
import Automation.Proofs.Fallible

/-!
Messages and their arguments.

A message takes exactly as many arguments as its placeholders ask for, one each and one more for
every width and precision that is left to an argument. What is no placeholder stays as it is, so a
text with its percent signs doubled is a message that says the text.
-/

namespace Automation.Logging

/-- The number of arguments that a width or a precision takes. -/
def Extent.demand : Extent → Nat
  | .argument => 1
  | .unset | .fixed _ => 0

/-- The number of arguments that a piece takes. -/
def Piece.demand : Piece → Nat
  | .plain _ => 0
  | .placeholder asked => asked.width.demand + asked.precision.demand + 1

/-- The number of arguments that pieces take. -/
def demand : List Piece → Nat
  | [] => 0
  | piece :: rest => piece.demand + demand rest

/-- What is left of arguments in turn after some were taken. -/
def Supply.IsAfter (taken : Nat) (values : List Value) (left : Supply) : Prop :=
  taken ≤ values.length ∧ left = .inTurn (values.drop taken)

namespace Supply

variable {values : List Value} {left : Supply}

theorem isAfter_take {value : Value} (taken : (inTurn values).take = .ok (value, left)) :
    left.IsAfter 1 values := by
  cases values with
  | nil => cases taken
  | cons first rest =>
      cases taken
      exact ⟨Nat.le_add_left 1 _, rfl⟩

theorem IsAfter.trans {first second : Nat} {between last : Supply}
    (isBetween : between.IsAfter first values)
    (isLast : ∀ others, between = .inTurn others → last.IsAfter second others) :
    last.IsAfter (first + second) values := by
  obtain ⟨enough, isRest⟩ := isBetween
  obtain ⟨enoughToo, isLast⟩ := isLast _ isRest
  rw [List.length_drop] at enoughToo
  rw [List.drop_drop] at isLast
  exact ⟨by omega, isLast⟩

theorem isAfter_takeInteger {number : Int}
    (taken : (inTurn values).takeInteger = .ok (number, left)) : left.IsAfter 1 values := by
  obtain ⟨⟨value, rest⟩, isNext, chosen⟩ := bind_eq_ok_iff.mp taken
  have after := isAfter_take isNext
  split at chosen
  · next same =>
      cases same
      cases chosen
      exact after
  · next same =>
      cases same
      cases chosen
      exact after
  · cases chosen

theorem isAfter_widthOf {extent : Extent} {width : Option Int}
    (found : widthOf extent (.inTurn values) = .ok (width, left)) :
    left.IsAfter extent.demand values := by
  cases extent with
  | unset =>
      cases found
      exact ⟨Nat.zero_le _, rfl⟩
  | fixed number =>
      simp only [widthOf] at found
      split at found
      · cases found
        exact ⟨Nat.zero_le _, rfl⟩
      · cases found
  | argument =>
      obtain ⟨⟨number, rest⟩, taken, chosen⟩ := bind_eq_ok_iff.mp found
      have after := isAfter_takeInteger taken
      dsimp only at chosen
      split at chosen
      · cases chosen
        exact after
      · split at chosen
        · cases chosen
          exact after
        · cases chosen

theorem isAfter_precisionOf {extent : Extent} {precision : Option Nat}
    (found : precisionOf extent (.inTurn values) = .ok (precision, left)) :
    left.IsAfter extent.demand values := by
  cases extent with
  | unset =>
      cases found
      exact ⟨Nat.zero_le _, rfl⟩
  | fixed number =>
      simp only [precisionOf] at found
      split at found
      · cases found
        exact ⟨Nat.zero_le _, rfl⟩
      · cases found
  | argument =>
      obtain ⟨⟨number, rest⟩, taken, chosen⟩ := bind_eq_ok_iff.mp found
      have after := isAfter_takeInteger taken
      dsimp only at chosen
      split at chosen
      · cases chosen
        exact after
      · cases chosen

end Supply

variable {values : List Value} {text : List Char} {left : Supply}

theorem select_inTurn {selector : Selector} {selected : Supply}
    (found : (Supply.inTurn values).select selector = .ok selected) :
    selected = .inTurn values := by
  cases selector <;> cases found
  rfl

theorem Placeholder.isAfter_fill {placeholder : Placeholder}
    (filled : placeholder.fill (.inTurn values) = .ok (text, left)) :
    left.IsAfter (Piece.placeholder placeholder).demand values := by
  obtain ⟨selected, isSelected, further⟩ := bind_eq_ok_iff.mp filled
  obtain rfl := select_inTurn isSelected
  obtain ⟨⟨width, afterWidth⟩, isWidth, further⟩ := bind_eq_ok_iff.mp further
  obtain ⟨⟨precision, afterPrecision⟩, isPrecision, further⟩ := bind_eq_ok_iff.mp further
  have afterBoth : afterPrecision.IsAfter
      (placeholder.width.demand + placeholder.precision.demand) values :=
    (Supply.isAfter_widthOf isWidth).trans fun others same => by
      subst same
      exact Supply.isAfter_precisionOf isPrecision
  dsimp only at further
  split at further
  · cases further
  · obtain ⟨⟨argument, rest⟩, isNext, further⟩ := bind_eq_ok_iff.mp further
    obtain ⟨shown, -, further⟩ := bind_eq_ok_iff.mp further
    dsimp only at further
    split at further
    · cases further
    · cases further
      apply afterBoth.trans
      intro others same
      subst same
      exact Supply.isAfter_take isNext

/-- Pieces take as many arguments in turn as they ask for. -/
theorem isAfter_fill {pieces : List Piece}
    (filled : fill pieces (.inTurn values) = .ok (text, left)) :
    left.IsAfter (demand pieces) values := by
  induction pieces generalizing values text left with
  | nil =>
      cases filled
      exact ⟨Nat.zero_le _, rfl⟩
  | cons piece rest inductionHypothesis =>
      have split : demand (piece :: rest) = piece.demand + demand rest := rfl
      rw [split]
      cases piece with
      | plain c =>
          obtain ⟨⟨others, last⟩, isRest, same⟩ := bind_eq_ok_iff.mp filled
          cases same
          rw [Piece.demand, Nat.zero_add]
          exact inductionHypothesis isRest
      | placeholder placeholder =>
          obtain ⟨⟨shown, between⟩, isFirst, further⟩ := bind_eq_ok_iff.mp filled
          obtain ⟨⟨others, last⟩, isRest, same⟩ := bind_eq_ok_iff.mp further
          cases same
          refine (Placeholder.isAfter_fill isFirst).trans fun remaining same => ?_
          subst same
          exact inductionHypothesis isRest

/-- A message with arguments in turn takes all of them, and no more than there are. -/
theorem length_of_fillMessage {message : List Char} (given : values ≠ [])
    (filled : fillMessage message (.ordered values) = .ok text) :
    values.length = demand (pieces message) := by
  cases values with
  | nil => exact absurd rfl given
  | cons first rest =>
      obtain ⟨⟨shown, last⟩, isFilled, chosen⟩ := bind_eq_ok_iff.mp filled
      obtain ⟨enough, isLast⟩ := isAfter_fill isFilled
      subst isLast
      split at chosen
      · cases chosen
      · next others same =>
          cases same
          have none : (first :: rest).drop (demand (pieces message)) = [] := by
            cases remaining : (first :: rest).drop (demand (pieces message)) with
            | nil => rfl
            | cons value more => exact (others value more (congrArg Supply.inTurn remaining)).elim
          rw [List.drop_eq_nil_iff] at none
          omega

/-- A text as a message that says it: with its percent signs doubled. -/
def escaped (text : List Char) : List Char :=
  text.flatMap fun c => if c = '%' then ['%', '%'] else [c]

theorem piecesOf_escaped_append (total : Nat) (text rest : List Char) :
    piecesOf total (escaped text ++ rest) = text.map Piece.plain ++ piecesOf total rest := by
  induction text with
  | nil => rfl
  | cons c others inductionHypothesis =>
      rw [escaped, List.flatMap_cons, ← escaped, List.map_cons, List.cons_append,
        ← inductionHypothesis]
      by_cases percent : c = '%'
      · rw [if_pos percent, percent]
        exact piecesOf.eq_2 total _
      · rw [if_neg percent]
        exact piecesOf.eq_4 total c _ (fun _ same _ => percent same) fun same => percent same

theorem fill_plain_append (text : List Char) (rest : List Piece) (supply : Supply) :
    fill (text.map Piece.plain ++ rest) supply =
      (fun filled => (text ++ filled.1, filled.2)) <$> fill rest supply := by
  induction text with
  | nil => simp
  | cons c others inductionHypothesis =>
      rw [List.map_cons, List.cons_append, fill, inductionHypothesis]
      cases fill rest supply <;> rfl

theorem piecesOf_escaped (total : Nat) (text : List Char) :
    piecesOf total (escaped text) = text.map Piece.plain := by
  have all := piecesOf_escaped_append total text []
  rwa [List.append_nil, piecesOf, List.append_nil] at all

theorem fill_plain (text : List Char) (supply : Supply) :
    fill (text.map Piece.plain) supply = .ok (text, supply) := by
  have all := fill_plain_append text [] supply
  rwa [List.append_nil, fill, map_ok, List.append_nil] at all

/-- A text with its percent signs doubled is a message that says the text and takes no arguments. -/
theorem fill_pieces_escaped (text : List Char) (supply : Supply) :
    fill (pieces (escaped text)) supply = .ok (text, supply) := by
  rw [pieces, piecesOf_escaped, fill_plain]

/-- The placeholder for the text of the next argument. -/
def textPlaceholder (position : Nat) : Placeholder :=
  ⟨.next, ⟨false, false, false, false, false⟩, .unset, .unset, some 's', position⟩

theorem piecesOf_textPlaceholder (total : Nat) (rest : List Char) :
    piecesOf total ('%' :: 's' :: rest) =
      .placeholder (textPlaceholder (total - (rest.length + 1))) :: piecesOf total rest := by
  have isRead : Placeholder.read total ('s' :: rest) =
      (textPlaceholder (total - (rest.length + 1)), rest) := by
    simp [Placeholder.read, takeSelector, takeExtent, takePrecision, dropSize, isFlag,
      textPlaceholder, Flags.ofChars]
  rw [piecesOf.eq_3 total _ (fun _ same => by cases same), isRead]

theorem fill_textPlaceholder (position : Nat) (value : Value) (others : List Value) :
    (textPlaceholder position).fill (.inTurn (value :: others)) =
      (fun shown => (shown.toList, .inTurn others)) <$> value.print := by
  simp only [Placeholder.fill, textPlaceholder, Supply.select, widthOf, precisionOf, Supply.take,
    ok_bind, convert, if_pos]
  cases value.print with
  | error failure => rfl
  | ok shown =>
      simp only [ok_bind, map_ok]
      rw [if_neg (by decide)]
      simp [Shown.padded, Shown.text]

/-- An argument stands as its text where its placeholder stands. -/
theorem fillMessage_textPlaceholder (before after : List Char) (value : Value) :
    fillMessage (escaped before ++ '%' :: 's' :: escaped after) (.ordered [value]) =
      (fun shown => before ++ shown.toList ++ after) <$> value.print := by
  have all : fill (pieces (escaped before ++ '%' :: 's' :: escaped after)) (.inTurn [value]) =
      (fun shown => (before ++ shown.toList ++ after, .inTurn [])) <$> value.print := by
    rw [pieces, piecesOf_escaped_append, piecesOf_textPlaceholder, piecesOf_escaped,
      fill_plain_append, fill, fill_textPlaceholder]
    cases value.print with
    | error failure => rfl
    | ok shown => simp [fill_plain]
  rw [fillMessage, all]
  · cases value.print <;> rfl
  · exact List.cons_ne_nil value []

/-- A placeholder is no narrower than its width, and it cuts nothing off. -/
theorem width_le_length_padded (flags : Flags) (width : Nat) (leftAligned : Bool) (shown : Shown) :
    width ≤ (shown.padded flags width leftAligned).length ∧
      (shown.sign ++ shown.mark ++ shown.body).Sublist (shown.padded flags width leftAligned) := by
  unfold Shown.padded
  dsimp only
  split
  · refine ⟨?_, List.sublist_append_left _ _⟩
    simp only [List.length_append, List.length_replicate]
    omega
  · split
    · constructor
      · simp only [List.length_append, List.length_replicate]
        omega
      · exact (List.sublist_append_left _ _).append (List.Sublist.refl _)
    · refine ⟨?_, List.sublist_append_right _ _⟩
      simp only [List.length_append, List.length_replicate]
      omega

end Automation.Logging
