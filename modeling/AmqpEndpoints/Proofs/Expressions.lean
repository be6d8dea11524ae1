import AmqpEndpoints.Message

/-!
# Fixed texts

A text without a reference to metadata means the same for every message: itself.
-/

set_option autoImplicit false

namespace AmqpEndpoints

namespace Text.Template

theorem parse_of_cutAt? {marker text : List Char} (whole : cutAt? marker text = none) :
    parse marker text = .plain text := by
  rw [parse]
  split
  · rfl
  · rename_i found
    rw [whole] at found
    cases found

theorem eq_plain_of_isOpen {marker text : List Char} (closed : (parse marker text).isOpen = false) :
    parse marker text = .plain text := by
  cases cut : cutAt? marker text with
  | none => exact parse_of_cutAt? cut
  | some parts =>
      rw [parse] at closed
      split at closed
      · rename_i whole
        rw [cut] at whole
        cases whole
      · split at closed <;> cases closed

end Text.Template

theorem isExpression_of_cutAt? {text : String}
    (whole : Text.cutAt? Message.marker.toList text.toList = none) : isExpression text = false := by
  rw [isExpression, Text.Template.parse_of_cutAt? whole]
  rfl

theorem Message.resolve_of_fixed {text : String} (fixed : isExpression text = false)
    (message : Message) : message.resolve text = .ok text := by
  have plain : Text.fillHoles marker message.metadata.get? text = .ok text := by
    unfold Text.fillHoles
    rw [Text.Template.eq_plain_of_isOpen fixed]
    exact congrArg Except.ok String.ofList_toList
  unfold resolve
  rw [plain]

end AmqpEndpoints
