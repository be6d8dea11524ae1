/-!
# Searching texts

What follows a given start of a text, and what stands around the first occurrence of a marker.
-/

set_option autoImplicit false

namespace AmqpEndpoints.Text

/-- What follows a start, if the text has it. -/
def afterStart? : (start text : List Char) → Option (List Char)
  | [], text => some text
  | _ :: _, [] => none
  | c :: start, d :: text => if c = d then afterStart? start text else none

theorem afterStart?_eq_some_iff {start text rest : List Char} :
    afterStart? start text = some rest ↔ text = start ++ rest := by
  induction start generalizing text with
  | nil => simp [afterStart?]
  | cons c start ih =>
      cases text with
      | nil => simp [afterStart?]
      | cons d text =>
          by_cases same : c = d
          · simp [afterStart?, same, ih]
          · simp [afterStart?, same, Ne.symm same]

/-- The text before the first occurrence of a marker and the text after it. -/
def cutAt? (marker : List Char) : List Char → Option (List Char × List Char)
  | [] => none
  | c :: rest =>
    match afterStart? marker (c :: rest) with
    | some after => some ([], after)
    | none => (cutAt? marker rest).map fun parts => (c :: parts.1, parts.2)

/-- A text is what stands before the marker, the marker, and what stands after it. -/
theorem eq_of_cutAt? {marker text before after : List Char}
    (cut : cutAt? marker text = some (before, after)) : text = before ++ marker ++ after := by
  induction text generalizing before after with
  | nil => simp [cutAt?] at cut
  | cons c rest ih =>
      rw [cutAt?] at cut
      split at cut
      · rename_i found
        cases cut
        exact afterStart?_eq_some_iff.mp found
      · obtain ⟨⟨first, second⟩, found, same⟩ := Option.map_eq_some_iff.mp cut
        cases same
        exact congrArg (c :: ·) (ih found)

theorem length_of_cutAt? {marker text before after : List Char}
    (cut : cutAt? marker text = some (before, after)) : after.length ≤ text.length := by
  rw [eq_of_cutAt? cut, List.length_append]
  exact Nat.le_add_left _ _

end AmqpEndpoints.Text
