import Mathlib.Data.List.TakeWhile
import AmqpEndpoints.Environment
import AmqpEndpoints.Proofs.Expressions

/-!
# References

A text with references is a chain of literals and keys, and there is only one way to see it so: a
literal ends where the marker first occurs, and a key ends at the first closing brace. Resolving a
text puts the values of the keys into this chain, whether they come from the metadata of a message
or from the environment.
-/

set_option autoImplicit false

namespace AmqpEndpoints

namespace Text

/-!
## Occurrences of a marker
-/

theorem afterStart?_eq_none_iff {start text : List Char} :
    afterStart? start text = none ↔ ¬ start <+: text := by
  rw [Option.eq_none_iff_forall_ne_some]
  constructor
  · intro absent starts
    obtain ⟨rest, whole⟩ := starts
    exact absent rest (afterStart?_eq_some_iff.mpr whole.symm)
  · intro absent rest found
    exact absent ⟨rest, (afterStart?_eq_some_iff.mp found).symm⟩

/-- A text is not cut exactly when the marker does not occur in it. -/
theorem cutAt?_eq_none_iff {marker text : List Char} (visible : marker ≠ []) :
    cutAt? marker text = none ↔ ¬ marker <:+: text := by
  induction text with
  | nil => simp [cutAt?, visible]
  | cons c rest ih =>
      rw [cutAt?, List.infix_cons_iff, not_or, ← afterStart?_eq_none_iff]
      cases afterStart? marker (c :: rest) with
      | none => simp [ih]
      | some after => simp

/-- The marker does not occur in what stands before its first occurrence. -/
theorem not_infix_of_cutAt? {marker text before after : List Char} (visible : marker ≠ [])
    (cut : cutAt? marker text = some (before, after)) : ¬ marker <:+: before := by
  induction text generalizing before after with
  | nil => cases cut
  | cons c rest ih =>
      rw [cutAt?] at cut
      split at cut
      · cases cut
        exact fun occurs => visible (List.infix_nil.mp occurs)
      · rename_i absent
        obtain ⟨⟨first, second⟩, found, same⟩ := Option.map_eq_some_iff.mp cut
        cases same
        rw [List.infix_cons_iff]
        rintro (starts | occurs)
        · have longer : c :: first <+: c :: rest := by
            rw [eq_of_cutAt? found, List.append_assoc]
            exact List.prefix_append _ _
          exact afterStart?_eq_none_iff.mp absent (starts.trans longer)
        · exact ih found occurs

/-- A marker that holds its first character only once does not overlap itself, so that a text is cut
where the marker stands behind a text without it. -/
theorem cutAt?_append {c : Char} {marker before : List Char} (after : List Char)
    (once : c ∉ marker) (free : ¬ c :: marker <:+: before) :
    cutAt? (c :: marker) (before ++ c :: marker ++ after) = some (before, after) := by
  induction before with
  | nil =>
      have found : afterStart? (c :: marker) (c :: marker ++ after) = some after :=
        afterStart?_eq_some_iff.mpr rfl
      rw [List.cons_append] at found
      rw [List.nil_append, List.cons_append, cutAt?, found]
  | cons d before ih =>
      have absent : afterStart? (c :: marker) (d :: before ++ c :: marker ++ after) = none := by
        rw [afterStart?_eq_none_iff]
        rintro ⟨rest, whole⟩
        rw [List.append_assoc] at whole
        -- Either the marker ends within the free text, or it reaches into the one behind it and so
        -- holds `c` once more.
        rcases List.append_eq_append_iff.mp whole with
          ⟨more, longer, _⟩ | ⟨more, shorter, others⟩
        · exact free ⟨[], more, longer.symm⟩
        · cases more with
          | nil =>
              rw [List.append_nil] at shorter
              exact free (shorter ▸ List.infix_refl _)
          | cons e more =>
              obtain ⟨rfl, _⟩ := List.cons.inj (others : c :: (marker ++ after) = e :: (more ++ rest))
              obtain ⟨_, within⟩ := List.cons.inj (shorter : c :: marker = d :: (before ++ c :: more))
              exact once (within ▸ List.mem_append_right _ List.mem_cons_self)
      have later : ¬ c :: marker <:+: before := fun occurs =>
        free (List.infix_cons_iff.mpr (.inr occurs))
      rw [List.cons_append, List.cons_append] at absent ⊢
      rw [cutAt?, absent, ih later]
      rfl

namespace Template

/-!
## The grammar of templates
-/

/-- The ways in which a text is literals without the marker, with keys between them: each key stands
between the marker and a closing brace, which it does not hold itself. A last marker may be without
closing brace. -/
inductive Decomposes (marker : List Char) : List Char → Template → Prop where
  | plain {text : List Char} : ¬ marker <:+: text → Decomposes marker text (.plain text)
  | unterminated {text tail : List Char} : ¬ marker <:+: text → close ∉ tail →
      Decomposes marker (text ++ marker ++ tail) (.unterminated text tail)
  | hole {text key after : List Char} {rest : Template} : ¬ marker <:+: text → close ∉ key →
      Decomposes marker after rest →
      Decomposes marker (text ++ marker ++ (key ++ close :: after)) (.hole text key rest)

theorem parse_of_tail {marker text before tail : List Char}
    (cut : cutAt? marker text = some (before, tail)) (unclosed : close ∉ tail) :
    parse marker text = .unterminated before tail := by
  have ended : tail.dropWhile (· != close) = [] := by
    rw [List.dropWhile_eq_nil_iff]
    intro c member
    exact bne_iff_ne.mpr fun same => unclosed (same ▸ member)
  rw [parse]
  split
  · rename_i whole
    rw [cut] at whole
    cases whole
  · rename_i found
    rw [cut] at found
    cases found
    split
    · rfl
    · rename_i closed
      rw [ended] at closed
      cases closed

theorem parse_of_key {marker text before key after : List Char}
    (cut : cutAt? marker text = some (before, key ++ close :: after)) (unclosed : close ∉ key) :
    parse marker text = .hole before key (parse marker after) := by
  have inside : ∀ c ∈ key, (c != close) = true := by
    intro c member
    exact bne_iff_ne.mpr fun same => unclosed (same ▸ member)
  have front : (key ++ close :: after).takeWhile (· != close) = key := by
    simp [List.takeWhile_append_of_pos inside]
  have back : (key ++ close :: after).dropWhile (· != close) = close :: after := by
    simp [List.dropWhile_append_of_pos inside]
  rw [parse]
  split
  · rename_i whole
    rw [cut] at whole
    cases whole
  · rename_i found
    rw [cut] at found
    cases found
    split
    · rename_i ended
      rw [back] at ended
      cases ended
    · rename_i ended
      rw [back] at ended
      cases ended
      rw [front]

theorem parse_decomposes {marker : List Char} (visible : marker ≠ []) (text : List Char) :
    Decomposes marker text (parse marker text) := by
  induction text using parse.induct marker with
  | case1 text whole =>
      rw [parse_of_cutAt? whole]
      exact .plain ((cutAt?_eq_none_iff visible).mp whole)
  | case2 text before after cut ended =>
      have unclosed : close ∉ after := by
        intro member
        exact absurd rfl (bne_iff_ne.mp (List.dropWhile_eq_nil_iff.mp ended _ member))
      rw [parse_of_tail cut unclosed, eq_of_cutAt? cut]
      exact .unterminated (not_infix_of_cutAt? visible cut) unclosed
  | case3 text before after cut brace rest ended ih =>
      obtain rfl : brace = close := by
        have stops := List.head?_dropWhile_not (· != close) after
        rw [ended] at stops
        simpa using stops
      have whole : after.takeWhile (· != close) ++ close :: rest = after := by
        rw [← ended]
        exact List.takeWhile_append_dropWhile
      have unclosed : close ∉ after.takeWhile (· != close) := by
        intro member
        have other := List.mem_takeWhile_imp (p := (· != close)) member
        exact absurd rfl (bne_iff_ne.mp other)
      rw [← whole] at cut
      rw [parse_of_key cut unclosed, eq_of_cutAt? cut]
      exact .hole (not_infix_of_cutAt? visible cut) unclosed ih

/-- There is no other way to see a text than the parsed template. -/
theorem Decomposes.eq_parse {c : Char} {marker text : List Char} {template : Template}
    (once : c ∉ marker) (decomposes : Decomposes (c :: marker) text template) :
    template = parse (c :: marker) text := by
  -- The literal of each case is free, so the text is cut at its end and nowhere before.
  induction decomposes with
  | plain free => exact (parse_of_cutAt? ((cutAt?_eq_none_iff (List.cons_ne_nil _ _)).mpr free)).symm
  | unterminated free unclosed =>
      exact (parse_of_tail (cutAt?_append _ once free) unclosed).symm
  | hole free unclosed _ ih =>
      rw [ih]
      exact (parse_of_key (cutAt?_append _ once free) unclosed).symm

theorem decomposes_iff {c : Char} {marker text : List Char} {template : Template}
    (once : c ∉ marker) :
    Decomposes (c :: marker) text template ↔ template = parse (c :: marker) text := by
  constructor
  · exact Decomposes.eq_parse once
  · rintro rfl
    exact parse_decomposes (List.cons_ne_nil _ _) text

theorem parse_eq_plain_of_free {marker text : List Char} (visible : marker ≠ [])
    (free : ¬ marker <:+: text) : parse marker text = .plain text :=
  parse_of_cutAt? ((cutAt?_eq_none_iff visible).mpr free)

theorem isOpen_parse_iff {marker text : List Char} (visible : marker ≠ []) :
    (parse marker text).isOpen = true ↔ marker <:+: text := by
  constructor
  · intro opened
    by_contra free
    rw [parse_eq_plain_of_free visible free] at opened
    cases opened
  · intro occurs
    cases closed : (parse marker text).isOpen with
    | true => rfl
    | false =>
        have whole := parse_decomposes visible text
        rw [eq_plain_of_isOpen closed] at whole
        cases whole with
        | plain free => exact absurd occurs free

/-!
## Filled texts
-/

/-- The keys of the holes, from left to right. -/
def keys : Template → List String
  | plain _ => []
  | unterminated _ _ => []
  | hole _ key rest => String.ofList key :: rest.keys

/-- Whether every marker has its closing brace. -/
def isTerminated : Template → Bool
  | plain _ => true
  | unterminated _ _ => false
  | hole _ _ rest => rest.isTerminated

/-- The literals of a template with a value in the place of each hole. -/
def textWith (value : String → String) : Template → List Char
  | plain text => text
  | unterminated text _ => text
  | hole text key rest => text ++ (value (String.ofList key)).toList ++ rest.textWith value

/-- Filling looks for the leftmost key without value first, and for a missing brace after that. -/
theorem fill_eq (value? : String → Option String) (template : Template) :
    template.fill value? =
      match template.keys.find? fun key => (value? key).isNone with
      | some key => .error (.unknown key)
      | none =>
        if template.isTerminated then .ok (template.textWith fun key => (value? key).getD "")
        else .error .unterminated := by
  induction template with
  | plain text => rfl
  | unterminated text tail => rfl
  | hole text key rest ih =>
      rw [fill, keys, List.find?_cons]
      cases found : value? (String.ofList key) with
      | none => rfl
      | some value =>
          dsimp only [Option.isNone_some]
          rw [ih]
          cases rest.keys.find? fun key => (value? key).isNone with
          | some missing => rfl
          | none =>
              rw [isTerminated, textWith, found]
              cases rest.isTerminated <;> rfl

theorem fill_congr {value? other? : String → Option String} {template : Template}
    (same : ∀ key ∈ template.keys, other? key = value? key) :
    template.fill other? = template.fill value? := by
  induction template with
  | plain text => rfl
  | unterminated text tail => rfl
  | hole text key rest ih =>
      obtain ⟨first, others⟩ := List.forall_mem_cons.mp same
      rw [fill, fill, first, ih others]

end Template

end Text

/-!
## Resolved texts
-/

/-- Where the values of references come from: the metadata of a message, or an environment. -/
inductive Lookup where
  | message (message : Message)
  | environment (environment : Environment)

namespace Lookup

def marker : Lookup → String
  | message _ => Message.marker
  | environment _ => Environment.marker

def value? : Lookup → String → Option String
  | message source => source.metadata.get?
  | environment source => source.value?

def resolve : Lookup → String → Except Failure String
  | message source => source.resolve
  | environment source => source.resolve

/-- What is told about a text with a key that has no value. -/
def unknown (text key : String) : Lookup → Failure
  | message _ => .configuration
      ("metadata `" ++ key ++ "` not found while resolving `" ++ text ++ "`")
  | environment _ => .configuration ("environment variable `" ++ key ++ "` is not set")

/-- What is told about a text with a marker that no closing brace follows. -/
def unterminated (text : String) : Lookup → Failure
  | message _ => .configuration ("unterminated expression in `" ++ text ++ "`")
  | environment _ => .configuration ("unterminated %env in `" ++ text ++ "`")

/-- The first character of a marker does not occur in it again. -/
theorem marker_toList (lookup : Lookup) :
    ∃ c rest, lookup.marker.toList = c :: rest ∧ c ∉ rest := by
  have ofMessage : Message.marker.toList = '%' :: "message\x7b".toList := by decide
  have ofEnvironment : Environment.marker.toList = '%' :: "env\x7b".toList := by decide
  cases lookup with
  | message => exact ⟨'%', _, ofMessage, by decide⟩
  | environment => exact ⟨'%', _, ofEnvironment, by decide⟩

def template (lookup : Lookup) (text : String) : Text.Template :=
  Text.Template.parse lookup.marker.toList text.toList

/-- Whether every key of a text has a value. -/
def Defines (lookup : Lookup) (text : String) : Prop :=
  ∀ key ∈ (lookup.template text).keys, (lookup.value? key).isSome

/-- A text with the values of its keys. -/
def filled (lookup : Lookup) (text : String) : String :=
  String.ofList ((lookup.template text).textWith fun key => (lookup.value? key).getD "")

theorem resolve_eq_fill (lookup : Lookup) (text : String) :
    lookup.resolve text =
      match (lookup.template text).fill lookup.value? with
      | .ok filled => .ok (String.ofList filled)
      | .error (.unknown key) => .error (lookup.unknown text key)
      | .error .unterminated => .error (lookup.unterminated text) := by
  cases lookup with
  | message source =>
      change source.resolve text = _
      unfold Message.resolve Text.fillHoles
      dsimp only [template, marker, value?]
      cases (Text.Template.parse Message.marker.toList text.toList).fill source.metadata.get? with
      | ok filled => rfl
      | error gap => cases gap <;> rfl
  | environment source =>
      change source.resolve text = _
      unfold Environment.resolve Text.fillHoles
      dsimp only [template, marker, value?]
      cases (Text.Template.parse Environment.marker.toList text.toList).fill source.value? with
      | ok filled => rfl
      | error gap => cases gap <;> rfl

theorem find?_keys_eq_none_iff {lookup : Lookup} {text : String} :
    ((lookup.template text).keys.find? fun key => (lookup.value? key).isNone) = none ↔
      lookup.Defines text := by
  simp [Defines, Option.isSome_iff_ne_none]

/-- A text has a meaning exactly when all its keys have values and all its markers are ended. -/
theorem resolve_eq_ok_iff {lookup : Lookup} {text resolved : String} :
    lookup.resolve text = .ok resolved ↔
      (lookup.template text).isTerminated = true ∧ lookup.Defines text ∧
        resolved = lookup.filled text := by
  rw [resolve_eq_fill, Text.Template.fill_eq, ← find?_keys_eq_none_iff, filled]
  cases (lookup.template text).keys.find? fun key => (lookup.value? key).isNone with
  | some key => simp
  | none =>
      cases (lookup.template text).isTerminated with
      | true => simp [eq_comm]
      | false => simp

theorem resolve_of_unknown {lookup : Lookup} {text key : String} {before after : List String}
    (keys : (lookup.template text).keys = before ++ key :: after)
    (defined : ∀ known ∈ before, (lookup.value? known).isSome) (missing : lookup.value? key = none) :
    lookup.resolve text = .error (lookup.unknown text key) := by
  have first : ((lookup.template text).keys.find? fun key => (lookup.value? key).isNone) =
      some key := by
    rw [List.find?_eq_some_iff_append]
    refine ⟨by rw [missing]; rfl, before, after, keys, fun known member => ?_⟩
    simpa [Option.isSome_iff_ne_none] using defined known member
  rw [resolve_eq_fill, Text.Template.fill_eq, first]

theorem resolve_of_unterminated {lookup : Lookup} {text : String} (defined : lookup.Defines text)
    (endless : (lookup.template text).isTerminated = false) :
    lookup.resolve text = .error (lookup.unterminated text) := by
  rw [resolve_eq_fill, Text.Template.fill_eq, find?_keys_eq_none_iff.mpr defined, endless]
  rfl

/-- Only the values that a text refers to matter. -/
theorem resolve_congr {lookup other : Lookup} {text : String} (kind : other.marker = lookup.marker)
    (same : ∀ key ∈ (lookup.template text).keys, other.value? key = lookup.value? key) :
    other.resolve text = lookup.resolve text := by
  have different : Message.marker ≠ Environment.marker := by decide
  have messages : ∀ key, other.unknown text key = lookup.unknown text key ∧
      other.unterminated text = lookup.unterminated text := by
    intro key
    cases other <;> cases lookup
    · exact ⟨rfl, rfl⟩
    · exact absurd kind different
    · exact absurd kind different.symm
    · exact ⟨rfl, rfl⟩
  have templates : other.template text = lookup.template text := by
    rw [template, kind]
    rfl
  rw [resolve_eq_fill, resolve_eq_fill, templates, Text.Template.fill_congr same]
  cases (lookup.template text).fill lookup.value? with
  | ok filled => rfl
  | error gap =>
      cases gap with
      | unknown key => exact congrArg Except.error (messages key).1
      | unterminated => exact congrArg Except.error (messages "").2

theorem resolve_of_free {lookup : Lookup} {text : String}
    (free : ¬ lookup.marker.toList <:+: text.toList) : lookup.resolve text = .ok text := by
  obtain ⟨c, rest, marker, _⟩ := lookup.marker_toList
  have plain : lookup.template text = .plain text.toList :=
    Text.Template.parse_eq_plain_of_free (by rw [marker]; exact List.cons_ne_nil c rest) free
  rw [resolve_eq_fill, plain]
  exact congrArg Except.ok String.ofList_toList

end Lookup

/-- Resolving follows the grammar of references: every text is a template in exactly one way, and
its resolved text has the values of the keys between the literals, as they are. It fails with the
leftmost key that has no value, or else with a marker that is not ended. What no key of the text
names does not matter, and a text without the marker stays as it is; an expression is a text with
the marker. -/
theorem resolve_follows_grammar (lookup : Lookup) (text : String) :
    ∃ template : Text.Template,
      (∀ other, Text.Template.Decomposes lookup.marker.toList text.toList other ↔
        other = template) ∧
      (∀ resolved, lookup.resolve text = .ok resolved ↔
        template.isTerminated = true ∧ (∀ key ∈ template.keys, (lookup.value? key).isSome) ∧
          resolved = String.ofList
            (template.textWith fun key => (lookup.value? key).getD "")) ∧
      (∀ before key after, template.keys = before ++ key :: after →
        (∀ known ∈ before, (lookup.value? known).isSome) → lookup.value? key = none →
          lookup.resolve text = .error (lookup.unknown text key)) ∧
      ((∀ key ∈ template.keys, (lookup.value? key).isSome) → template.isTerminated = false →
        lookup.resolve text = .error (lookup.unterminated text)) ∧
      (∀ other : Lookup, other.marker = lookup.marker →
        (∀ key ∈ template.keys, other.value? key = lookup.value? key) →
          other.resolve text = lookup.resolve text) ∧
      (¬ lookup.marker.toList <:+: text.toList → lookup.resolve text = .ok text) ∧
      (isExpression text = true ↔ Message.marker.toList <:+: text.toList) := by
  obtain ⟨c, rest, marker, once⟩ := lookup.marker_toList
  refine ⟨lookup.template text, fun other => ?_, fun resolved => Lookup.resolve_eq_ok_iff,
    fun _ _ _ => Lookup.resolve_of_unknown, Lookup.resolve_of_unterminated,
    fun _ => Lookup.resolve_congr, Lookup.resolve_of_free, ?_⟩
  · rw [Lookup.template, marker]
    exact Text.Template.decomposes_iff once
  · exact Text.Template.isOpen_parse_iff nofun

end AmqpEndpoints
