import Automation.Proofs.Json.Readable
import Automation.Proofs.Literal.Passing

/-!
JSON text is one line of printable ASCII.

Every character beyond it is written as an escape, in names as well as in values, and what stands
around them is punctuation. So a value with line ends in it still has a text without any.
-/

namespace Automation.Json

open Condition (isNumeric)

/-- Characters of ASCII that are printed. -/
def isVisible (c : Char) : Bool := decide (' ' ≤ c) && decide (c ≤ '~')

theorem isVisible_of_between {low high c : Char} (first : ' ' ≤ low) (atLeast : low ≤ c)
    (atMost : c ≤ high) (last : high ≤ '~') : isVisible c = true :=
  Bool.and_eq_true_iff.mpr ⟨decide_eq_true (Char.le_trans first atLeast),
    decide_eq_true (Char.le_trans atMost last)⟩

theorem isVisible_of_isNumeric {c : Char} (numeric : isNumeric c = true) : isVisible c = true := by
  have classes : isNumeric c =
      (c.isUpper || c.isLower || c.isDigit || c == '.' || c == '-' || c == '+') := rfl
  simp only [classes, Bool.or_eq_true, beq_iff_eq] at numeric
  rcases numeric with ((((upper | lower) | digit) | rfl) | rfl) | rfl
  · obtain ⟨atLeast, atMost⟩ := of_decide_eq_true upper
    exact isVisible_of_between (by decide) atLeast atMost (by decide)
  · obtain ⟨atLeast, atMost⟩ := Bool.and_eq_true_iff.mp lower
    exact isVisible_of_between (by decide) (of_decide_eq_true atLeast) (of_decide_eq_true atMost)
      (by decide)
  · obtain ⟨atLeast, atMost⟩ := Bool.and_eq_true_iff.mp digit
    exact isVisible_of_between (by decide) (of_decide_eq_true atLeast) (of_decide_eq_true atMost)
      (by decide)
  all_goals decide

theorem isVisible_of_mem_hex {width number : Nat} {c : Char} (member : c ∈ Text.hex width number) :
    isVisible c = true := by
  induction width generalizing number with
  | zero => cases member
  | succ width inductionHypothesis =>
      rw [Text.hex, List.mem_append, List.mem_singleton] at member
      rcases member with before | rfl
      · exact inductionHypothesis before
      · have all : ∀ digit : Fin 16, isVisible (Text.hexDigit digit) = true := by decide
        exact all ⟨number % 16, Nat.mod_lt number (by decide)⟩

theorem isVisible_of_mem_unitEscape {unit : Nat} {c : Char} (member : c ∈ unitEscape unit) :
    isVisible c = true := by
  rcases List.mem_cons.mp member with rfl | further
  · rfl
  · rcases List.mem_cons.mp further with rfl | inDigits
    · rfl
    · exact isVisible_of_mem_hex inDigits

theorem isVisible_of_mem_escape {c d : Char} (member : d ∈ escape c) : isVisible d = true := by
  have short (letter : Char) (visible : isVisible letter = true)
      (member : d ∈ ['\\', letter]) : isVisible d = true := by
    rcases List.mem_cons.mp member with rfl | isLetter
    · rfl
    · rwa [List.mem_singleton.mp isLetter]
  unfold escape at member
  split at member
  · exact short '"' rfl member
  · split at member
    · exact short '\\' rfl member
    · split at member
      · exact short 'n' rfl member
      · split at member
        · exact short 'r' rfl member
        · split at member
          · exact short 't' rfl member
          · split at member
            · exact short 'b' rfl member
            · split at member
              · exact short 'f' rfl member
              · split at member
                · next printed =>
                    rw [List.mem_singleton.mp member]
                    simp [isVisible, printed]
                · split at member
                  · exact isVisible_of_mem_unitEscape member
                  · rcases List.mem_append.mp member with high | low
                    · exact isVisible_of_mem_unitEscape high
                    · exact isVisible_of_mem_unitEscape low

/-- A text of printable ASCII. -/
def IsVisible (text : List Char) : Prop := ∀ c ∈ text, isVisible c = true

theorem IsVisible.append {first second : List Char} (visible : IsVisible first)
    (visibleToo : IsVisible second) : IsVisible (first ++ second) :=
  List.forall_mem_append.mpr ⟨visible, visibleToo⟩

theorem IsVisible.cons {c : Char} {rest : List Char} (visible : isVisible c = true)
    (others : IsVisible rest) : IsVisible (c :: rest) := List.forall_mem_cons.mpr ⟨visible, others⟩

theorem IsVisible.nil : IsVisible [] := nofun

theorem isVisible_writeText (text : List Char) : IsVisible (writeText text) := by
  refine .cons rfl (.append ?_ (.cons rfl .nil))
  intro c member
  obtain ⟨d, -, inEscape⟩ := List.mem_flatMap.mp member
  exact isVisible_of_mem_escape inEscape

theorem isVisible_writeName (name : Value) : IsVisible (writeName name) := by
  rw [writeName_eq]
  exact isVisible_writeText _

mutual

/-- The JSON text of a value is printable ASCII. -/
theorem isVisible_write : (value : Value) → IsVisible (write value)
  | .null | .bool true | .bool false => List.all_eq_true.mp (by decide)
  | .int _ => fun _ member => isVisible_of_isNumeric (Condition.isNumeric_of_mem_integer member)
  | .float _ => fun c member =>
      isVisible_of_isNumeric (Condition.isNumeric_of_mem_writeDouble c member)
  | .text characters => isVisible_writeText characters.toList
  | .foreign _ label => isVisible_writeText label.toList
  | .list items => by
      rw [write]
      exact .cons rfl (.append (isVisible_writeItems items) (.cons rfl .nil))
  | .object fields => by
      rw [write]
      exact .cons rfl (.append (isVisible_writeFields fields) (.cons rfl .nil))
  | .mapping bindings => by
      rw [write]
      exact .cons rfl (.append (isVisible_writeBindings bindings) (.cons rfl .nil))

theorem isVisible_writeItems : (items : List Value) → IsVisible (writeItems items)
  | [] => .nil
  | item :: rest => by
      rw [writeItems_cons]
      refine .append (isVisible_write item) ?_
      cases rest with
      | nil => exact .nil
      | cons next others => exact .cons rfl (.cons rfl (isVisible_writeItems (next :: others)))

theorem isVisible_writeFields : (fields : List (String × Value)) → IsVisible (writeFields fields)
  | [] => .nil
  | (name, value) :: rest => by
      rw [writeFields_cons]
      refine .append (.append (isVisible_writeText _)
        (.cons rfl (.cons rfl (isVisible_write value)))) ?_
      cases rest with
      | nil => exact .nil
      | cons next others => exact .cons rfl (.cons rfl (isVisible_writeFields (next :: others)))

theorem isVisible_writeBindings : (bindings : List (Value × Value)) →
    IsVisible (writeBindings bindings)
  | [] => .nil
  | (name, value) :: rest => by
      rw [writeBindings_cons]
      refine .append (.append (isVisible_writeName _)
        (.cons rfl (.cons rfl (isVisible_write value)))) ?_
      cases rest with
      | nil => exact .nil
      | cons next others => exact .cons rfl (.cons rfl (isVisible_writeBindings (next :: others)))

end

/-- The JSON text of a value is one line. -/
theorem lineEnd_not_mem_write (value : Value) : '\n' ∉ write value := by
  intro member
  have visible := isVisible_write value '\n' member
  exact absurd visible (by decide)

end Automation.Json
